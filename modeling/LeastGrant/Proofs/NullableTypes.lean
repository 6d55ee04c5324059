import LeastGrant.Typing.StaticType

/-! Types that may be absent. Parentheses around a type node and unions of it with null and undefined do
not change the type that is read from it, however they are nested. A union with two members of other sorts
has no symbol. -/
namespace LeastGrant.StaticType

/-! ## The parts of a type node -/

theorem firstType_eq (children : List Node) :
    firstType children = (children.filter Node.isOperand).head?.bind ofNode := by
  induction children with
  | nil => rfl
  | cons child rest ih =>
    rw [firstType, List.filter_cons]
    split
    · rfl
    · exact ih

theorem memberTypes_cons (node : Node) (rest : List Node) :
    memberTypes (node :: rest) =
      (if node.isOperand then
        if node.kind = .unionType then memberTypes node.children
        else if isNullish node.text then [] else [ofNode node]
      else []) ++ memberTypes rest := by
  obtain ⟨label, children⟩ := node
  rfl

theorem memberTypes_append (a b : List Node) :
    memberTypes (a ++ b) = memberTypes a ++ memberTypes b := by
  induction a with
  | nil => rfl
  | cons node rest ih => rw [List.cons_append, memberTypes_cons, memberTypes_cons, ih, List.append_assoc]

theorem memberTypes_operands (node : Node) : memberTypes node.operands = memberTypes node.children := by
  rw [Node.operands]
  induction node.children with
  | nil => rfl
  | cons child rest ih =>
    rw [List.filter_cons, memberTypes_cons child rest]
    split
    · rename_i operand
      rw [memberTypes_cons, ih, if_pos operand]
    · rw [ih, List.nil_append]

theorem ofNode_parenthesized {node : Node} (kind : node.kind = .parenthesizedType) :
    ofNode node = node.operands.head?.bind ofNode := by
  obtain ⟨label, children⟩ := node
  replace kind : label.kind = .parenthesizedType := kind
  rw [ofNode, kind]
  exact firstType_eq children

theorem ofNode_union_single {node : Node} (kind : node.kind = .unionType) {type : Option StaticType}
    (members : memberTypes node.children = [type]) : ofNode node = type := by
  obtain ⟨label, children⟩ := node
  replace kind : label.kind = .unionType := kind
  replace members : memberTypes children = [type] := members
  rw [ofNode, kind]
  dsimp only
  rw [members]

theorem ofNode_union_other {node : Node} (kind : node.kind = .unionType)
    (members : (memberTypes node.children).length ≠ 1) : ofNode node = some (anonymous node.text) := by
  obtain ⟨label, children⟩ := node
  replace kind : label.kind = .unionType := kind
  replace members : (memberTypes children).length ≠ 1 := members
  rw [ofNode, kind]
  dsimp only
  split
  · rename_i single
    rw [single] at members
    exact absurd rfl members
  · rfl

/-! ## Flattened members -/

mutual
/-- What a node adds to the members of a union: itself, or the members of a nested union. -/
def membersOf : Node → List Node
  | .mk label children =>
    if Node.isOperand (.mk label children) then
      if label.kind = .unionType then unionMembers children else [.mk label children]
    else []

/-- The members of a union, those of nested unions in their places. -/
def unionMembers : List Node → List Node
  | [] => []
  | node :: rest => membersOf node ++ unionMembers rest
end

mutual
theorem memberTypes_membersOf : ∀ node : Node, memberTypes [node] =
    ((membersOf node).filter fun member => !isNullish member.text).map ofNode
  | .mk label children => by
    rw [memberTypes_cons, membersOf, memberTypes, List.append_nil]
    by_cases operand : Node.isOperand (.mk label children) = true
    · rw [if_pos operand, if_pos operand]
      by_cases union : label.kind = .unionType
      · rw [if_pos union]
        exact (if_pos union).trans (memberTypes_eq children)
      · rw [if_neg union, List.filter_cons, List.filter_nil]
        refine (if_neg union).trans ?_
        cases isNullish (Node.text (.mk label children)) <;> rfl
    · rw [if_neg operand, if_neg operand]
      rfl

theorem memberTypes_eq : ∀ children : List Node, memberTypes children =
    ((unionMembers children).filter fun member => !isNullish member.text).map ofNode
  | [] => rfl
  | node :: rest => by
    rw [← List.singleton_append, memberTypes_append, memberTypes_membersOf node, memberTypes_eq rest,
      List.singleton_append, unionMembers, List.filter_append, List.map_append]
end

/-! ## Types that may be absent -/

/-- A member of a union that adds nothing but null and undefined to it. -/
inductive OnlyNullish : Node → Prop
  | word {node : Node} (other : node.kind ≠ .unionType) (text : isNullish node.text = true) :
      OnlyNullish node
  | union {node : Node} (kind : node.kind = .unionType)
      (members : ∀ member ∈ node.operands, OnlyNullish member) : OnlyNullish node

/-- A type node with parentheses around it, and in unions with null and undefined, in any nesting. Comments
may stand anywhere among the children of a node. -/
inductive Nullable (type : Node) : Node → Prop
  | itself : Nullable type type
  | parenthesized {node inner : Node} (kind : node.kind = .parenthesizedType)
      (opens : node.text.toList.head? = some '(') (holds : node.operands.head? = some inner)
      (wraps : Nullable type inner) : Nullable type node
  | union {node inner : Node} {before after : List Node} (kind : node.kind = .unionType)
      (members : node.operands = before ++ inner :: after)
      (absent : ∀ member ∈ before ++ after, OnlyNullish member) (wraps : Nullable type inner) :
      Nullable type node

theorem memberTypes_eq_nil {members : List Node} (each : ∀ member ∈ members, memberTypes [member] = []) :
    memberTypes members = [] := by
  induction members with
  | nil => rfl
  | cons member rest ih =>
    obtain ⟨first, others⟩ := List.forall_mem_cons.mp each
    rw [← List.singleton_append, memberTypes_append, first, ih others, List.nil_append]

theorem memberTypes_of_onlyNullish {node : Node} (absent : OnlyNullish node) :
    memberTypes [node] = [] := by
  induction absent with
  | word other text =>
    rw [memberTypes_cons, if_neg other, if_pos text, ite_self]
    rfl
  | union kind members ih =>
    rw [memberTypes_cons, if_pos kind, ← memberTypes_operands, memberTypes_eq_nil ih, ite_self]
    rfl

theorem isNullish_of_opens {text : String} (opens : text.toList.head? = some '(') :
    isNullish text = false := by
  rw [isNullish, Bool.or_eq_false_iff, beq_eq_false_iff_ne, beq_eq_false_iff_ne]
  constructor
  · intro same
    subst same
    cases opens
  · intro same
    subst same
    cases opens

theorem memberTypes_single {node : Node} (operand : node.isOperand = true)
    (other : node.kind ≠ .unionType) (text : isNullish node.text = false) :
    memberTypes [node] = [ofNode node] := by
  rw [memberTypes_cons, if_pos operand, if_neg other, text]
  rfl

/-- A type that may be absent is the type itself, and among the members of a union it counts as that one
type. The reading of a union asks for the second, that of parentheses for the first. -/
theorem ofNode_of_nullable {type : Node} (other : type.kind ≠ .unionType)
    (text : isNullish type.text = false) {node : Node} (wraps : Nullable type node) :
    ofNode node = ofNode type ∧ (node.isOperand = true → memberTypes [node] = [ofNode type]) := by
  induction wraps with
  | itself => exact ⟨rfl, fun operand => memberTypes_single operand other text⟩
  | @parenthesized node inner kind opens holds wraps ih =>
    have same : ofNode node = ofNode type := by
      rw [ofNode_parenthesized kind, holds]
      exact ih.1
    have alone : node.kind ≠ .unionType := by
      rw [kind]
      decide
    refine ⟨same, fun operand => ?_⟩
    rw [memberTypes_single operand alone (isNullish_of_opens opens), same]
  | @union node inner before after kind members absent wraps ih =>
    have operand : inner.isOperand = true := by
      have member : inner ∈ node.operands := by simp [members]
      exact (List.mem_filter.mp member).2
    obtain ⟨front, back⟩ := List.forall_mem_append.mp absent
    have single : memberTypes node.children = [ofNode type] := by
      rw [← memberTypes_operands, members, memberTypes_append, ← List.singleton_append,
        memberTypes_append, ih.2 operand,
        memberTypes_eq_nil fun member listed => memberTypes_of_onlyNullish (front member listed),
        memberTypes_eq_nil fun member listed => memberTypes_of_onlyNullish (back member listed)]
      rfl
    refine ⟨ofNode_union_single kind single, fun operand => ?_⟩
    rw [memberTypes_cons, if_pos operand, if_pos kind]
    exact (List.append_nil _).trans single

/-- Neither parentheses nor null and undefined change the type of a node that is no union and is neither
null nor undefined. A union has no symbol if, with nested unions taken apart, two of its members are others
than null and undefined. -/
theorem nullable_keeps_type (node : Node) :
    (∀ type : Node, type.kind ≠ .unionType → isNullish type.text = false → Nullable type node →
      ofNode node = ofNode type) ∧
    (node.kind = .unionType →
      2 ≤ ((unionMembers node.children).filter fun member => !isNullish member.text).length →
        ∃ type, ofNode node = some type ∧ type.symbol = none) := by
  refine ⟨fun type other text wraps => (ofNode_of_nullable other text wraps).1,
    fun kind several => ?_⟩
  have members : (memberTypes node.children).length ≠ 1 := by
    rw [memberTypes_eq, List.length_map]
    omega
  exact ⟨anonymous node.text, ofNode_union_other kind members, rfl⟩

/-! ## A model that may be absent -/

namespace Absent

def source : ByteArray := "(null | (User /* c */ | undefined)) | (null)".toUTF8

def user : Node := .ofEntries source [⟨"type_identifier", true, "", 9, 13, 0⟩]

def innerEntries : List TreeEntry :=
  [⟨"union_type", true, "", 9, 33, 4⟩, ⟨"type_identifier", true, "", 9, 13, 0⟩,
    ⟨"comment", true, "", 14, 21, 0⟩, ⟨"|", false, "", 22, 23, 0⟩,
    ⟨"literal_type", true, "", 24, 33, 1⟩, ⟨"undefined", true, "", 24, 33, 0⟩]

def groupEntries : List TreeEntry :=
  [⟨"parenthesized_type", true, "", 8, 34, 3⟩, ⟨"(", false, "", 8, 9, 0⟩] ++ innerEntries ++
    [⟨")", false, "", 33, 34, 0⟩]

def outerEntries : List TreeEntry :=
  [⟨"union_type", true, "", 1, 34, 3⟩, ⟨"literal_type", true, "", 1, 5, 1⟩,
    ⟨"null", true, "", 1, 5, 0⟩, ⟨"|", false, "", 6, 7, 0⟩] ++ groupEntries

def wholeEntries : List TreeEntry :=
  [⟨"parenthesized_type", true, "", 0, 35, 3⟩, ⟨"(", false, "", 0, 1, 0⟩] ++ outerEntries ++
    [⟨")", false, "", 34, 35, 0⟩]

/-- A union with a null in parentheses, which counts as a member of its own. -/
def mixedEntries : List TreeEntry :=
  [⟨"union_type", true, "", 0, 44, 3⟩] ++ wholeEntries ++ [⟨"|", false, "", 36, 37, 0⟩,
    ⟨"parenthesized_type", true, "", 38, 44, 3⟩, ⟨"(", false, "", 38, 39, 0⟩,
    ⟨"literal_type", true, "", 39, 43, 1⟩, ⟨"null", true, "", 39, 43, 0⟩, ⟨")", false, "", 43, 44, 0⟩]

def nullWord : Node :=
  .ofEntries source [⟨"literal_type", true, "", 1, 5, 1⟩, ⟨"null", true, "", 1, 5, 0⟩]

def undefinedWord : Node :=
  .ofEntries source [⟨"literal_type", true, "", 24, 33, 1⟩, ⟨"undefined", true, "", 24, 33, 0⟩]

theorem texts : isNullish user.text = false ∧ isNullish nullWord.text = true ∧
    isNullish undefinedWord.text = true ∧
    (Node.ofEntries source groupEntries).text.toList.head? = some '(' ∧
    (Node.ofEntries source wholeEntries).text.toList.head? = some '(' := by
  decide +kernel

theorem nullable_group : Nullable user (.ofEntries source groupEntries) := by
  have holds : (Node.ofEntries source groupEntries).operands.head? =
      some (.ofEntries source innerEntries) := rfl
  refine .parenthesized rfl texts.2.2.2.1 holds ?_
  have operands : (Node.ofEntries source innerEntries).operands = [] ++ user :: [undefinedWord] := rfl
  refine .union rfl operands ?_ .itself
  simp only [List.nil_append, List.forall_mem_singleton]
  exact .word (by decide) texts.2.2.1

theorem nullable_whole : Nullable user (.ofEntries source wholeEntries) := by
  have holds : (Node.ofEntries source wholeEntries).operands.head? =
      some (.ofEntries source outerEntries) := rfl
  refine .parenthesized rfl texts.2.2.2.2 holds ?_
  have operands : (Node.ofEntries source outerEntries).operands =
      [nullWord] ++ .ofEntries source groupEntries :: [] := rfl
  refine .union rfl operands ?_ nullable_group
  simp only [List.append_nil, List.forall_mem_singleton]
  exact .word (by decide) texts.2.1

/-- A model in parentheses and unions is the model; beside a null in parentheses it has no symbol. -/
theorem nullable_keeps_type_user :
    Nullable user (.ofEntries source wholeEntries) ∧
    ofNode (.ofEntries source wholeEntries) = ofNode user ∧
    2 ≤ ((unionMembers (Node.ofEntries source mixedEntries).children).filter
      fun member => !isNullish member.text).length ∧
    ∃ type, ofNode (.ofEntries source mixedEntries) = some type ∧ type.symbol = none := by
  have several : 2 ≤ ((unionMembers (Node.ofEntries source mixedEntries).children).filter
      fun member => !isNullish member.text).length := by
    decide +kernel
  exact ⟨nullable_whole, (nullable_keeps_type _).1 user (by decide) texts.1 nullable_whole, several,
    (nullable_keeps_type _).2 rfl several⟩

end Absent

end LeastGrant.StaticType
