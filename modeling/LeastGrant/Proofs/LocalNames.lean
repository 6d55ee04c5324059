import LeastGrant.Typing.Infer
import Mathlib.Data.List.Nodup

/-! Names that a file declares for itself, in a code base whose other files may declare them too. The
binding of a name is looked up in its file. The function that is called and the class of `this` are
then sought by name among all declarations, in the order of the files, and the first one counts. -/
namespace LeastGrant

section Declarations

/-- All nodes of a code base, in the order of its files. -/
def codeNodes (files : List SourceFile) : List Node := files.flatMap fun file => file.root.preorder

/-- What a node declares under a name. -/
def Node.declared? (node : Node) (name : String) : Option DeclarationKind :=
  if node.childText .name = name ∧ name ≠ "" then DeclarationKind.ofKind? node.kind else none

theorem Node.declared?_eq_some {node : Node} {name : String} {kind : DeclarationKind} :
    node.declared? name = some kind ↔
      node.childText .name = name ∧ name ≠ "" ∧ DeclarationKind.ofKind? node.kind = some kind := by
  rw [declared?, Option.ite_none_right_eq_some, and_assoc]

/-- The first of some nodes that satisfies `p`. -/
def IsFirst (p : Node → Prop) (nodes : List Node) (first : Node) : Prop :=
  p first ∧ ∃ before after, nodes = before ++ first :: after ∧ ∀ other ∈ before, ¬p other

theorem findSome?_of_isFirst {β : Type} {f : Node → Option β} {nodes : List Node} {first : Node}
    (h : IsFirst (fun node => (f node).isSome) nodes first) : nodes.findSome? f = f first := by
  obtain ⟨here, before, after, rfl, earlier⟩ := h
  obtain ⟨found, same⟩ := Option.isSome_iff_exists.mp here
  rw [same]
  refine List.findSome?_eq_some_iff.mpr ⟨before, first, after, rfl, same, ?_⟩
  intro other member
  simpa using earlier other member

theorem exists_isFirst {β : Type} {f : Node → Option β} {nodes : List Node} {node : Node}
    (member : node ∈ nodes) (h : (f node).isSome = true) :
    ∃ first, IsFirst (fun node => (f node).isSome) nodes first := by
  have found : (nodes.findSome? f).isSome = true := List.findSome?_isSome_iff.mpr ⟨node, member, h⟩
  obtain ⟨value, found⟩ := Option.isSome_iff_exists.mp found
  obtain ⟨before, first, after, split, here, none⟩ := List.findSome?_eq_some_iff.mp found
  refine ⟨first, by simp [here], before, after, split, ?_⟩
  intro other earlier
  simp [none other earlier]

variable {β : Type} (g : DeclarationKind → Node → Option β) (name : String)

/-- A node that declares something under a name is a declaration of this name in its file. -/
theorem Declaration.ofNode?_of_declared? {node : Node} {kind : DeclarationKind}
    (h : node.declared? name = some kind) (file : SourceFile) :
    Declaration.ofNode? file node = some ⟨kind, name, node, file.location node⟩ := by
  obtain ⟨own, nonempty, kind⟩ := Node.declared?_eq_some.mp h
  simp [Declaration.ofNode?, kind, own, nonempty]

theorem Declaration.name_of_ofNode? {node : Node} {file : SourceFile} {declaration : Declaration}
    (h : Declaration.ofNode? file node = some declaration) :
    node.declared? declaration.name = some declaration.kind := by
  unfold Declaration.ofNode? at h
  split at h
  · rename_i kind known
    dsimp only at h
    split at h
    · cases h
    · rename_i nonempty
      cases h
      simp [Node.declared?, known, nonempty]
  · cases h

theorem findSome?_declarations_ofFile (file : SourceFile) (nodes : List Node) :
    ((nodes.filterMap (Declaration.ofNode? file)).filter fun d => d.name == name).findSome?
        (fun d => g d.kind d.node) =
      nodes.findSome? fun node => (node.declared? name).bind (g · node) := by
  induction nodes with
  | nil => rfl
  | cons node rest ih =>
    rw [List.findSome?_cons, ← ih, List.filterMap_cons]
    cases here : node.declared? name with
    | some kind =>
      rw [Declaration.ofNode?_of_declared? name here file]
      simp [List.findSome?_cons]
    | none =>
      cases found : Declaration.ofNode? file node with
      | none => rfl
      | some declaration =>
        have other : declaration.name ≠ name := by
          rintro rfl
          rw [Declaration.name_of_ofNode? found] at here
          cases here
        simp [other]

theorem findSome?_declarationsOf (files : List SourceFile) :
    ((CodeIndex.ofFiles files).declarationsOf name).findSome? (fun d => g d.kind d.node) =
      (codeNodes files).findSome? fun node => (node.declared? name).bind (g · node) := by
  rw [CodeIndex.declarationsOf, CodeIndex.ofFiles, codeNodes]
  induction files with
  | nil => rfl
  | cons file rest ih =>
    rw [List.flatMap_cons, List.filter_append, List.findSome?_append, List.flatMap_cons,
      List.findSome?_append, ih, Declaration.ofFile, findSome?_declarations_ofFile]

end Declarations

section Functions

/-- The node of a function of a name. -/
def Node.functionNamed? (name : String) (node : Node) : Option Node :=
  if node.declared? name = some .function then some node else none

/-- The function that a call of a name is taken for is the first one in the code base. -/
theorem CodeIndex.functionType_ofFiles (files : List SourceFile) (name : String) :
    (CodeIndex.ofFiles files).functionType name =
      ((codeNodes files).findSome? (Node.functionNamed? name)).bind
        (declaredType · .returnType) := by
  have found (declarations : List Declaration) :
      (declarations.find? fun declaration => declaration.kind == .function).map Declaration.node =
        declarations.findSome? fun declaration =>
          if declaration.kind = .function then some declaration.node else none := by
    rw [List.find?_eq_findSome?_guard, List.map_findSome?]
    congr 1
    funext declaration
    by_cases isFunction : declaration.kind = .function <;> simp [Option.guard, isFunction]
  have nodes : (fun node : Node => (node.declared? name).bind fun kind =>
      if kind = .function then some node else none) = Node.functionNamed? name := by
    funext node
    rw [Node.functionNamed?]
    cases node.declared? name <;> simp
  rw [functionType, ← nodes, ← findSome?_declarationsOf
    (fun kind node => if kind = .function then some node else none), ← found]
  cases ((ofFiles files).declarationsOf name).find? fun d => d.kind == .function <;> rfl

end Functions

section Bindings

namespace Binding

theorem of_mem_inNearestScope {place : Place} {name : String} {meaning : Meaning}
    {binding : Binding} (h : binding ∈ inNearestScope place name meaning) :
    binding.name = name ∧ binding.meaning = meaning := by
  unfold inNearestScope at h
  split at h
  · rw [List.mem_singleton.mp h]
    exact ⟨rfl, rfl⟩
  · cases h

/-- Whether a name is bound to a function declaration. -/
def isFunction (binding : Binding) : Bool :=
  match binding.meaning with
  | .function _ => true
  | _ => false

theorem not_isFunction_of_mem_ofVariable {place : Place} {binding : Binding}
    (h : binding ∈ ofVariable place) : binding.isFunction = false := by
  unfold ofVariable at h
  split at h
  · split at h
    · split at h
      · rw [isFunction, (of_mem_inNearestScope h).2]
      · rw [isFunction, (of_mem_inNearestScope h).2]
      · cases h
    · cases h
  · cases h

theorem not_isFunction_of_mem_ofParameter {place : Place} {binding : Binding}
    (h : binding ∈ ofParameter place) : binding.isFunction = false := by
  unfold ofParameter at h
  split at h
  · split at h
    · split at h
      · rw [List.mem_singleton.mp h]
        rfl
      · split at h
        · rw [List.mem_singleton.mp h]
          rfl
        · cases h
    · cases h
  · cases h

theorem not_isFunction_of_mem_ofArrow {place : Place} {binding : Binding}
    (h : binding ∈ ofArrow place) : binding.isFunction = false := by
  unfold ofArrow at h
  split at h
  · split at h
    · rw [List.mem_singleton.mp h]
      rfl
    · cases h
  · cases h

theorem not_isFunction_of_mem_ofLoop {place : Place} {binding : Binding}
    (h : binding ∈ ofLoop place) : binding.isFunction = false := by
  unfold ofLoop at h
  split at h
  · split at h
    · rw [List.mem_singleton.mp h]
      rfl
    · cases h
  · cases h

theorem not_isFunction_of_mem_ofImport {root statement : Node} {binding : Binding}
    (h : binding ∈ ofImport root statement) : binding.isFunction = false := by
  unfold ofImport at h
  split at h
  · obtain ⟨part, -, here⟩ := List.mem_flatMap.mp h
    unfold ofImportPart at here
    split at here
    · rw [List.mem_singleton.mp here]
      rfl
    · obtain ⟨name, -, rfl⟩ := List.mem_map.mp here
      rfl
    · cases here
  · cases h

/-- Only a function declaration binds its name to a function, which is itself. -/
theorem function_of_mem_ofPlace {root : Node} {place declaration : Place} {binding : Binding}
    (h : binding ∈ ofPlace root place) (bound : binding.meaning = .function declaration) :
    declaration = place ∧ place.node.declared? binding.name = some .function := by
  have isFunction : binding.isFunction = true := by rw [isFunction, bound]
  unfold ofPlace at h
  split at h
  · simp [not_isFunction_of_mem_ofVariable h] at isFunction
  · simp [not_isFunction_of_mem_ofParameter h] at isFunction
  · simp [not_isFunction_of_mem_ofParameter h] at isFunction
  · simp [not_isFunction_of_mem_ofArrow h] at isFunction
  · simp [not_isFunction_of_mem_ofLoop h] at isFunction
  · simp [not_isFunction_of_mem_ofImport h] at isFunction
  · unfold ofDeclaration at h
    dsimp only at h
    split at h
    · split at h
      · cases h
      · rw [(of_mem_inNearestScope h).2] at bound
        cases bound
    · rename_i kind
      split at h
      · cases h
      · rename_i nonempty
        obtain ⟨name, meaning⟩ := of_mem_inNearestScope h
        rw [meaning] at bound
        cases bound
        refine ⟨rfl, ?_⟩
        rw [name, Node.declared?, if_pos ⟨rfl, nonempty⟩]
        exact kind
    · cases h

end Binding

theorem lookup_of_mem {β : Type} {entries : List (String × β)}
    (distinct : (entries.map Prod.fst).Nodup) {entry : String × β} (member : entry ∈ entries) :
    entries.lookup entry.1 = some entry.2 := by
  induction entries with
  | nil => cases member
  | cons first rest ih =>
    rw [List.map_cons, List.nodup_cons] at distinct
    rcases List.mem_cons.mp member with rfl | later
    · exact List.lookup_cons_self
    · have other : entry.1 ≠ first.1 := fun same =>
        distinct.1 (same ▸ List.mem_map_of_mem later)
      rw [List.lookup_cons, beq_eq_false_iff_ne.mpr other]
      exact ih distinct.2 later

namespace CodeIndex

/-- In a code base without two files of one path, the bindings of a file are its own. -/
theorem bindingsOf_ofFiles {files : List SourceFile}
    (distinct : (files.map fun file => file.path.text).Nodup) {file : SourceFile}
    (member : file ∈ files) : (ofFiles files).bindingsOf file.path = Binding.ofFile file := by
  have keys : (((files.map fun file => (file.path.text, Binding.ofFile file)).reverse).map
      Prod.fst).Nodup := by
    rw [List.map_reverse, List.nodup_reverse, List.map_map]
    exact distinct
  have entry : (file.path.text, Binding.ofFile file) ∈
      (files.map fun file => (file.path.text, Binding.ofFile file)).reverse := by
    rw [List.mem_reverse]
    exact List.mem_map_of_mem member
  rw [bindingsOf, ofFiles, lookup_of_mem keys entry]
  rfl

/-- A name that is bound to a function is the name of a function of the file. -/
theorem declared?_of_lookup {files : List SourceFile}
    (distinct : (files.map fun file => file.path.text).Nodup) {file : SourceFile}
    (member : file ∈ files) {name : String} {offset : Nat} {declaration : Place}
    (bound : ((ofFiles files).lookup file.path name offset).map Binding.meaning =
      some (.function declaration)) :
    declaration ∈ Place.all file.root ∧ declaration.node.declared? name = some .function := by
  obtain ⟨binding, found, meaning⟩ := Option.map_eq_some_iff.mp bound
  rw [lookup, bindingsOf_ofFiles distinct member] at found
  obtain ⟨known, covers⟩ := List.mem_filter.mp (Binding.smallest?_mem _ _ found)
  obtain ⟨place, here, binds⟩ := List.mem_flatMap.mp known
  obtain ⟨rfl, declared⟩ := Binding.function_of_mem_ofPlace binds meaning
  have named : binding.name = name := by
    rw [Bool.and_eq_true, beq_iff_eq] at covers
    exact covers.1
  exact ⟨here, named ▸ declared⟩

end CodeIndex

end Bindings

section Members

/-- The declared type of a member, if it is a field. -/
def Member.fieldType? : Member → Option StaticType
  | field node => declaredType node .type
  | method _ => none

/-- The members of a name in the body of a declaration. -/
def Member.allInDeclaration (declaration : Node) (name : String) : List Member :=
  match declaration.child? .body with
  | some body => body.namedChildren.filterMap (ofNode? name)
  | none => []

theorem Member.inDeclaration?_eq (declaration : Node) (name : String) :
    Member.inDeclaration? declaration name = (allInDeclaration declaration name).head? := by
  unfold inDeclaration? allInDeclaration
  cases declaration.child? .body with
  | none => rfl
  | some body => exact List.head?_filterMap.symm

namespace CodeIndex

variable (index : CodeIndex)

/-- The member of a name that a declaration has, its own or else an inherited one. -/
def memberFrom? (steps : Nat) (name : String) (declaration : Node) : Option Member :=
  (Member.inDeclaration? declaration name).orElse fun _ =>
    (Heritage.ofDeclaration declaration).findSome? fun entry =>
      match entry.baseName? with
      | some base => index.member? steps base name
      | none => none

theorem member?_succ (steps : Nat) (type name : String) :
    index.member? (steps + 1) type name =
      (index.declarationsOf type).findSome? fun declaration =>
        if declaration.hasMembers then index.memberFrom? steps name declaration.node else none := by
  rw [member?, memberM?, List.idRun_findSomeM?]
  congr 1
  funext declaration
  split
  · rw [memberFrom?]
    cases Member.inDeclaration? declaration.node name with
    | some own => rfl
    | none => exact List.idRun_findSomeM? _ _
  · rfl

/-- The member at a node, if a class or an interface of a name is declared there and has one. -/
def memberAt? (steps : Nat) (type name : String) (node : Node) : Option Member :=
  (node.declared? type).bind fun kind =>
    if kind == .classType || kind == .interfaceType then index.memberFrom? steps name node else none

/-- A member is sought in all classes and interfaces of a name, and the first that has it counts. -/
theorem member?_ofFiles (files : List SourceFile) (steps : Nat) (type name : String) :
    (ofFiles files).member? (steps + 1) type name =
      (codeNodes files).findSome? ((ofFiles files).memberAt? steps type name) := by
  rw [member?_succ]
  exact findSome?_declarationsOf (fun kind node =>
    if kind == .classType || kind == .interfaceType then (ofFiles files).memberFrom? steps name node
    else none) type files

theorem fieldType_eq (steps : Nat) {owner : Option StaticType} {type : String}
    (h : owner.bind StaticType.symbol = some type) (name : String) :
    index.fieldType steps owner name = (index.member? steps type name).bind Member.fieldType? := by
  rw [fieldType, fieldTypeM, h]
  simp only [Id.run_bind, run_memberM?]
  rcases index.member? steps type name with _ | _ | _ <;> rfl

theorem symbol_thisType {place : Place} {owner : Node}
    (h : place.enclosing? Kind.isClass = some owner) (named : owner.childText .name ≠ "") :
    (thisType place).bind StaticType.symbol = some (owner.childText .name) := by
  unfold thisType
  rw [h]
  dsimp only
  rw [if_neg named]
  split
  · split <;> rfl
  · rfl

end CodeIndex

end Members

section Places

mutual
/-- What stands above a place of a tree belongs to the tree, or stands above the tree. -/
theorem Place.ancestors_of_mem_walk (frames : List Frame) (node : Node) (place : Place)
    (h : place ∈ walk (fun _ => false) frames node) :
    ∀ above ∈ place.ancestors, above ∈ frames.map Frame.parent ∨ above ∈ node.preorder := by
  cases node with
  | mk label children =>
    rw [walk, List.mem_cons] at h
    rcases h with rfl | h
    · exact fun above member => .inl member
    · rw [if_neg Bool.false_ne_true] at h
      intro above member
      rcases ancestors_of_mem_walkAll _ _ _ children place h above member with outside | inside
      · rcases List.mem_cons.mp outside with rfl | further
        · exact .inr (by simp [Node.preorder])
        · exact .inl further
      · exact .inr (by simp [Node.preorder, inside])

theorem Place.ancestors_of_mem_walkAll (parent : Node) (frames : List Frame)
    (before nodes : List Node) (place : Place)
    (h : place ∈ walkAll (fun _ => false) parent frames before nodes) :
    ∀ above ∈ place.ancestors,
      above ∈ parent :: frames.map Frame.parent ∨ above ∈ Node.preorderAll nodes := by
  cases nodes with
  | nil => simp [walkAll] at h
  | cons node rest =>
    rw [walkAll, List.mem_append] at h
    intro above member
    rw [Node.preorderAll, List.mem_append]
    rcases h with h | h
    · rcases ancestors_of_mem_walk _ node place h above member with outside | inside
      · exact .inl outside
      · exact .inr (.inl inside)
    · rcases ancestors_of_mem_walkAll _ _ _ rest place h above member with outside | inside
      · exact .inl outside
      · exact .inr (.inr inside)
end

theorem Place.mem_preorder_of_enclosing? {root : Node} {place : Place} {wanted : Kind → Bool}
    {node : Node} (h : place ∈ Place.all root) (found : place.enclosing? wanted = some node) :
    node ∈ root.preorder := by
  rw [all_eq_walk] at h
  have above := ancestors_of_mem_walk [] root place h node (List.mem_of_find?_eq_some found)
  simpa using above

theorem Place.frames_of_mem_childrenFrom {parent : Node} {frames : List Frame}
    {before nodes : List Node} {place : Place} (h : place ∈ childrenFrom parent frames before nodes) :
    place.ancestors = parent :: frames.map Frame.parent := by
  induction nodes generalizing before with
  | nil => cases h
  | cons node rest ih =>
    rcases List.mem_cons.mp h with rfl | later
    · rfl
    · exact ih later

theorem Place.ancestors_of_child? {place child : Place} {role : Role}
    (h : place.child? role = some child) : child.ancestors = place.node :: place.ancestors :=
  frames_of_mem_childrenFrom (List.mem_of_find?_eq_some h)

end Places

section LocalNames

/-- A call of a plain name in a file, whose innermost binding there is a function declaration. -/
structure LocalCall (files : List SourceFile) (file : SourceFile)
    (call callee declaration : Place) : Prop where
  inFile : call ∈ Place.all file.root
  kind : call.kind = .callExpression
  calls : call.child? .function = some callee
  plain : callee.kind = .identifier
  bound : ((CodeIndex.ofFiles files).lookup file.path callee.text callee.node.start).map
    Binding.meaning = some (.function declaration)

/-- An access to a field of `this` in a class of a file, whose body declares the field once. -/
structure OwnAccess (file : SourceFile) (access : Place) (owner field : Node) : Prop where
  inFile : access ∈ Place.all file.root
  kind : access.kind = .memberExpression
  onThis : ∃ object, access.child? .object = some object ∧ object.kind = .thisWord
  inClass : access.enclosing? Kind.isClass = some owner
  declared : owner.declared? (owner.childText .name) = some .classType
  once : Member.allInDeclaration owner (access.node.childText .property) = [.field field]

theorem LocalCall.typeOf_eq {files : List SourceFile} {file : SourceFile}
    {call callee declaration : Place} (h : LocalCall files file call callee declaration) :
    (CodeIndex.ofFiles files).typeOf file.path call =
      (CodeIndex.ofFiles files).functionType callee.text := by
  have source : TypeSource.ofPlace (.ofFiles files) file.path call =
      .given ((CodeIndex.ofFiles files).namedCallType file.path callee.node) := by
    rw [TypeSource.ofPlace_of_call h.kind, TypeSource.ofCall, h.calls]
    simp only [h.plain]
  have bound := h.bound
  rw [Place.text] at bound
  rw [CodeIndex.typeOf, maxSteps, CodeIndex.typeWithin_succ, source]
  show (CodeIndex.ofFiles files).namedCallType file.path callee.node = _
  rw [CodeIndex.namedCallType, bound]
  rfl

theorem OwnAccess.typeOf_eq {file : SourceFile} {access : Place} {owner field : Node}
    (h : OwnAccess file access owner field) (index : CodeIndex) (path : Path) :
    index.typeOf path access =
      (index.member? (maxSteps - 1) (owner.childText .name) (access.node.childText .property)).bind
        Member.fieldType? := by
  obtain ⟨object, stands, isThis⟩ := h.onThis
  have inClass : object.enclosing? Kind.isClass = some owner := by
    rw [Place.enclosing?, Place.ancestors_of_child? stands, List.find?_cons]
    have outer : Kind.isClass access.node.kind = false := by
      have kind := h.kind
      rw [Place.kind] at kind
      rw [kind]
      rfl
    rw [outer]
    exact h.inClass
  have named : owner.childText .name ≠ "" := (Node.declared?_eq_some.mp h.declared).2.1
  have this : index.typeWithin path 8 object = thisType object := by
    have source : TypeSource.ofPlace index path object = .given (thisType object) := by
      rw [TypeSource.ofPlace, TypeSource.ofPlaceM, isThis]
      rfl
    rw [CodeIndex.typeWithin_succ, source]
    rfl
  have source : TypeSource.ofPlace index path access =
      .field object (access.node.childText .property) := by
    rw [TypeSource.ofPlace, TypeSource.ofPlaceM, h.kind]
    dsimp only
    rw [stands]
    rfl
  rw [CodeIndex.typeOf, maxSteps, CodeIndex.typeWithin_succ, source, TypeSource.next?,
    Option.bind_some, this]
  exact index.fieldType_eq 8 (CodeIndex.symbol_thisType inClass named) _

/-- A function that no function of its name comes before. -/
def FirstFunction (files : List SourceFile) (name : String) (node : Node) : Prop :=
  IsFirst (fun node => node.declared? name = some .function) (codeNodes files) node

/-- A class or an interface with a member, that none of its name with such a member comes before. -/
def FirstHolder (files : List SourceFile) (type name : String) (node : Node) : Prop :=
  IsFirst (fun node => ((CodeIndex.ofFiles files).memberAt? (maxSteps - 2) type name node).isSome)
    (codeNodes files) node

theorem firstFunction_eq (files : List SourceFile) (name : String) :
    FirstFunction files name =
      IsFirst (fun node => (Node.functionNamed? name node).isSome) (codeNodes files) := by
  have same : (fun node : Node => (Node.functionNamed? name node).isSome = true) =
      fun node => node.declared? name = some .function := by
    funext node
    simp [Node.functionNamed?]
  rw [same]
  rfl

theorem functionType_of_firstFunction {files : List SourceFile} {name : String} {first : Node}
    (h : FirstFunction files name first) :
    (CodeIndex.ofFiles files).functionType name = declaredType first .returnType := by
  have declared : first.declared? name = some .function := h.1
  rw [firstFunction_eq] at h
  rw [CodeIndex.functionType_ofFiles, findSome?_of_isFirst h, Node.functionNamed?, if_pos declared]
  rfl

theorem member?_of_firstHolder {files : List SourceFile} {type name : String} {first : Node}
    (h : FirstHolder files type name first) :
    (CodeIndex.ofFiles files).member? (maxSteps - 1) type name =
      (CodeIndex.ofFiles files).memberAt? (maxSteps - 2) type name first := by
  rw [← findSome?_of_isFirst h]
  exact CodeIndex.member?_ofFiles files (maxSteps - 2) type name

theorem OwnAccess.memberAt?_owner {file : SourceFile} {access : Place} {owner field : Node}
    (h : OwnAccess file access owner field) (index : CodeIndex) (steps : Nat) :
    index.memberAt? steps (owner.childText .name) (access.node.childText .property) owner =
      some (.field field) := by
  have own : Member.inDeclaration? owner (access.node.childText .property) =
      some (.field field) := by
    rw [Member.inDeclaration?_eq, h.once]
    rfl
  rw [CodeIndex.memberAt?, h.declared, Option.bind_some, CodeIndex.memberFrom?, own]
  rfl

/-- What a file calls and what a class of it reads from `this` is sought in the whole code base. A
call has the type of the first function of the name, and a field of `this` that of the first class or
interface of the name that has such a member. The file's own declaration gives the type if it is this
first one. -/
theorem local_names_by_file_order {files : List SourceFile}
    (distinct : (files.map fun file => file.path.text).Nodup) {file : SourceFile}
    (member : file ∈ files) :
    (∀ call callee declaration, LocalCall files file call callee declaration →
      declaration ∈ Place.all file.root ∧
      (∃ first, FirstFunction files callee.text first ∧
        (CodeIndex.ofFiles files).typeOf file.path call = declaredType first .returnType) ∧
      (FirstFunction files callee.text declaration.node →
        (CodeIndex.ofFiles files).typeOf file.path call =
          declaredType declaration.node .returnType)) ∧
    ∀ access owner field, OwnAccess file access owner field →
      (∃ first found,
        FirstHolder files (owner.childText .name) (access.node.childText .property) first ∧
        (CodeIndex.ofFiles files).memberAt? (maxSteps - 2) (owner.childText .name)
          (access.node.childText .property) first = some found ∧
        (CodeIndex.ofFiles files).typeOf file.path access = found.fieldType?) ∧
      (FirstHolder files (owner.childText .name) (access.node.childText .property) owner →
        (CodeIndex.ofFiles files).typeOf file.path access = declaredType field .type) := by
  refine ⟨fun call callee declaration localCall => ?_, fun access owner field ownAccess => ?_⟩
  · obtain ⟨here, declared⟩ := CodeIndex.declared?_of_lookup distinct member localCall.bound
    have known : declaration.node ∈ codeNodes files := by
      refine List.mem_flatMap.mpr ⟨file, member, ?_⟩
      rw [← Place.all_map_node]
      exact List.mem_map_of_mem here
    have isFunction : (Node.functionNamed? callee.text declaration.node).isSome = true := by
      simp [Node.functionNamed?, declared]
    obtain ⟨first, isFirst⟩ := exists_isFirst known isFunction
    rw [← firstFunction_eq] at isFirst
    rw [localCall.typeOf_eq]
    exact ⟨here, ⟨first, isFirst, functionType_of_firstFunction isFirst⟩,
      functionType_of_firstFunction⟩
  · have own := ownAccess.memberAt?_owner (.ofFiles files) (maxSteps - 2)
    have known : owner ∈ codeNodes files := List.mem_flatMap.mpr
      ⟨file, member, Place.mem_preorder_of_enclosing? ownAccess.inFile ownAccess.inClass⟩
    have holder : ((CodeIndex.ofFiles files).memberAt? (maxSteps - 2) (owner.childText .name)
        (access.node.childText .property) owner).isSome = true := by
      rw [own]
      rfl
    obtain ⟨first, isFirst⟩ : ∃ first,
        FirstHolder files (owner.childText .name) (access.node.childText .property) first :=
      exists_isFirst known holder
    obtain ⟨found, holds⟩ := Option.isSome_iff_exists.mp isFirst.1
    rw [ownAccess.typeOf_eq]
    refine ⟨⟨first, found, isFirst, holds, ?_⟩, fun ownFirst => ?_⟩
    · rw [member?_of_firstHolder isFirst, holds]
      rfl
    · rw [member?_of_firstHolder ownFirst, own]
      rfl

/-! Two files that declare the same function and the same class, with different types. -/
namespace Colliding

open Node (word)

def annotation (role : Role) (start : Nat) (type : String) : Node :=
  .mk ⟨.annotatedType, true, some role, start, start + 3, 1, start + 1, ": " ++ type⟩
    [word .typeIdentifier none (start + 2) type]

def functionF (type : String) : Node :=
  .mk ⟨.functionDeclaration, true, none, 0, 18, 1, 1, "function f(): " ++ type ++ " \x7b\x7d"⟩
    [word .identifier (some .name) 9 "f", annotation .returnType 12 type,
      word .statementBlock (some .body) 16 "\x7b\x7d"]

def fieldM (type : String) : Node :=
  .mk ⟨.publicFieldDefinition, true, none, 29, 33, 1, 30, "m: " ++ type⟩
    [word .propertyIdentifier (some .name) 29 "m", annotation .type 30 type]

def readM : Node :=
  .mk ⟨.memberExpression, true, none, 41, 47, 1, 42, "this.m"⟩
    [word .thisWord (some .object) 41 "this", word .propertyIdentifier (some .property) 46 "m"]

def callF : Node :=
  .mk ⟨.callExpression, true, none, 49, 52, 1, 50, "f()"⟩
    [word .identifier (some .function) 49 "f", word .arguments (some .arguments) 50 "()"]

def block : Node :=
  .mk ⟨.statementBlock, true, some .body, 39, 55, 1, 40, "\x7b this.m; f(); \x7d"⟩ [readM, callF]

def methodG : Node :=
  .mk ⟨.methodDefinition, true, none, 35, 55, 1, 36, "g() " ++ block.text⟩
    [word .propertyIdentifier (some .name) 35 "g", block]

def body (type : String) : Node :=
  .mk ⟨.classBody, true, some .body, 27, 57, 1, 28,
      "\x7b m: " ++ type ++ "; " ++ methodG.text ++ " \x7d"⟩
    [fieldM type, methodG]

def classC (type : String) : Node :=
  .mk ⟨.classDeclaration, true, none, 19, 57, 1, 20, "class C " ++ (body type).text⟩
    [word .typeIdentifier (some .name) 25 "C", body type]

def program (type : String) : Node :=
  .mk ⟨.program, true, none, 0, 57, 1, 1, (functionF type).text ++ " " ++ (classC type).text⟩
    [functionF type, classC type]

def second : SourceFile := .ofTree ⟨0, ["b.ts"]⟩ none (program "B")

def files : List SourceFile := [.ofTree ⟨0, ["a.ts"]⟩ none (program "A"), second]

def methodFrames : List Frame :=
  [⟨methodG, [word .propertyIdentifier (some .name) 35 "g"]⟩, ⟨body "B", [fieldM "B"]⟩,
    ⟨classC "B", [word .typeIdentifier (some .name) 25 "C"]⟩, ⟨program "B", [functionF "B"]⟩]

def access : Place := ⟨readM, ⟨block, []⟩ :: methodFrames⟩

def call : Place := ⟨callF, ⟨block, [readM]⟩ :: methodFrames⟩

def callee : Place := ⟨word .identifier (some .function) 49 "f", ⟨callF, []⟩ :: call.frames⟩

def declaration : Place := ⟨functionF "B", [⟨program "B", []⟩]⟩

theorem distinct_paths : (files.map fun file => file.path.text).Nodup := by
  decide +kernel

theorem mem_files : second ∈ files := by
  simp [files]

theorem localCall : LocalCall files second call callee declaration where
  inFile := by
    rw [Place.all_eq_walk]
    exact List.mem_of_getElem? (i := 19) rfl
  kind := rfl
  calls := rfl
  plain := rfl
  bound := by
    rw [CodeIndex.lookup, CodeIndex.bindingsOf_ofFiles distinct_paths mem_files, Binding.ofFile,
      Place.all_eq_walk]
    rfl

theorem ownAccess : OwnAccess second access (classC "B") (fieldM "B") where
  inFile := by
    rw [Place.all_eq_walk]
    exact List.mem_of_getElem? (i := 16) rfl
  kind := rfl
  onThis := ⟨_, rfl, rfl⟩
  inClass := rfl
  declared := rfl
  once := rfl

/-- The names of the second file are taken for those of the first. -/
theorem typeOf_call_access :
    (CodeIndex.ofFiles files).typeOf second.path call = some (.named "A") ∧
      (CodeIndex.ofFiles files).typeOf second.path access = some (.named "A") := by
  constructor
  · rw [localCall.typeOf_eq]
    rfl
  · rw [ownAccess.typeOf_eq]
    rfl

end Colliding

theorem local_names_by_file_order_colliding :
    (Colliding.files.map fun file => file.path.text).Nodup ∧ Colliding.second ∈ Colliding.files ∧
      LocalCall Colliding.files Colliding.second Colliding.call Colliding.callee
        Colliding.declaration ∧
      OwnAccess Colliding.second Colliding.access (Colliding.classC "B") (Colliding.fieldM "B") ∧
      (∃ first, FirstFunction Colliding.files "f" first ∧
        (CodeIndex.ofFiles Colliding.files).typeOf Colliding.second.path Colliding.call =
          declaredType first .returnType) ∧
      ∃ first, FirstHolder Colliding.files "C" "m" first := by
  obtain ⟨calls, fields⟩ := local_names_by_file_order Colliding.distinct_paths Colliding.mem_files
  obtain ⟨-, byFirst, -⟩ := calls _ _ _ Colliding.localCall
  obtain ⟨⟨first, found, isFirst, -⟩, -⟩ := fields _ _ _ Colliding.ownAccess
  exact ⟨Colliding.distinct_paths, Colliding.mem_files, Colliding.localCall, Colliding.ownAccess,
    byFirst, first, isFirst⟩

/-- Neither calls nor fields keep to their file. -/
theorem local_names_captured :
    (¬∀ (files : List SourceFile) (file : SourceFile) (call callee declaration : Place),
      (files.map fun file => file.path.text).Nodup → file ∈ files →
        LocalCall files file call callee declaration →
        (CodeIndex.ofFiles files).typeOf file.path call =
          declaredType declaration.node .returnType) ∧
    ¬∀ (files : List SourceFile) (file : SourceFile) (access : Place) (owner field : Node),
      (files.map fun file => file.path.text).Nodup → file ∈ files →
        OwnAccess file access owner field →
        (∃ method, access.enclosing? (· == .methodDefinition) = some method) →
        (CodeIndex.ofFiles files).typeOf file.path access = declaredType field .type := by
  obtain ⟨callType, accessType⟩ := Colliding.typeOf_call_access
  constructor
  · intro stays
    have own := stays _ _ _ _ _ Colliding.distinct_paths Colliding.mem_files Colliding.localCall
    rw [callType] at own
    exact absurd (congrArg (Option.map StaticType.text) own) (by decide)
  · intro stays
    have own := stays _ _ _ _ _ Colliding.distinct_paths Colliding.mem_files Colliding.ownAccess
      ⟨Colliding.methodG, rfl⟩
    rw [accessType] at own
    exact absurd (congrArg (Option.map StaticType.text) own) (by decide)

end LocalNames

end LeastGrant
