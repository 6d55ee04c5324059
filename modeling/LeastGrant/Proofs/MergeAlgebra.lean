import LeastGrant.Proofs.MergedVisits
import LeastGrant.Proofs.SavedGrants

/-! The algebra of merging stores. A model has its place and its table from the first store that
knows it, and its flags from all stores together. So merging is associative, a store merged into
itself stays as it is, and the order in which stores are merged decides on nothing but places and
tables. -/
namespace LeastGrant

theorem foldl_extend_of_nodup {names : List String} (distinct : names.Nodup) (known : List String) :
    names.foldl (fun names name => if name ∈ names then names else names ++ [name]) known =
      known ++ names.filter fun name => name ∉ known := by
  induction names generalizing known with
  | nil => simp
  | cons name rest ih =>
    rw [List.nodup_cons] at distinct
    rw [List.foldl_cons, ih distinct.2]
    by_cases old : name ∈ known
    · simp [old]
    · have others : (rest.filter fun other => other ∉ known ++ [name]) =
          rest.filter fun other => other ∉ known := by
        apply List.filter_congr
        intro other member
        have differs : other ≠ name := fun same => distinct.1 (same ▸ member)
        simp [differs]
      rw [if_neg old, others, List.filter_cons, if_pos (by simpa using old), List.append_assoc,
        List.singleton_append]

namespace UsageStore

theorem merge_foldl_add (uses : List Use) (store other : UsageStore) :
    store.merge (uses.foldl add other) = uses.foldl add (store.merge other) := by
  induction uses generalizing other with
  | nil => rfl
  | cons use rest ih => rw [List.foldl_cons, ih, merge_add, List.foldl_cons]

theorem merge_assoc (a b c : UsageStore) : (a.merge b).merge c = a.merge (b.merge c) :=
  (merge_foldl_add (c.records.map UsageRecord.use) a b).symm

/-- The models of a merged store: those of the first one, then the new ones of the second. -/
theorem names_merge_eq (store other : UsageStore) :
    (store.merge other).names = store.names ++ other.names.filter fun name => name ∉ store.names :=
  (names_merge store other).trans (foldl_extend_of_nodup other.distinct store.names)

theorem merge_self (store : UsageStore) : store.merge store = store := by
  apply eq_of_names_of_get?
  · rw [names_merge_eq, List.filter_eq_nil_iff.mpr (by simp), List.append_nil]
  · intro name
    rw [get?_merge]
    cases store.get? name with
    | none => rfl
    | some record => simp [UsageRecord.mark]

theorem table_merge (store other : UsageStore) (name : String) :
    ((store.merge other).get? name).map UsageRecord.table =
      ((store.get? name).or (other.get? name)).map UsageRecord.table := by
  rw [get?_merge]
  cases store.get? name with
  | none => cases other.get? name <;> rfl
  | some record => rfl

theorem does_merge (store other : UsageStore) (name : String) (operation : Operation) :
    (store.merge other).does name operation =
      (store.does name operation || other.does name operation) := by
  rw [does, does, does, get?_merge]
  cases store.get? name with
  | none => cases other.get? name <;> simp
  | some record => cases other.get? name <;> simp [UsageRecord.mark]

section Stores

variable (stores : List UsageStore)

theorem table_foldl_merge (name : String) :
    ((stores.foldl merge empty).get? name).map UsageRecord.table =
      (firstRecord? stores name).map UsageRecord.table := by
  rw [get?_foldl_merge, Option.map_map]
  rfl

theorem does_foldl_merge (name : String) (operation : Operation) :
    (stores.foldl merge empty).does name operation = stores.any fun store =>
      store.does name operation := by
  -- The store to start from is free, for the induction on the stores.
  have run (start : UsageStore) : (stores.foldl merge start).does name operation =
      (start.does name operation || stores.any fun store => store.does name operation) := by
    induction stores generalizing start with
    | nil => simp
    | cons store rest ih => rw [List.foldl_cons, ih, does_merge, List.any_cons, Bool.or_assoc]
  exact run empty

theorem mem_names_foldl_merge {name : String} :
    name ∈ (stores.foldl merge empty).names ↔ ∃ store ∈ stores, name ∈ store.names := by
  have run (start : UsageStore) : name ∈ (stores.foldl merge start).names ↔
      name ∈ start.names ∨ ∃ store ∈ stores, name ∈ store.names := by
    induction stores generalizing start with
    | nil => simp
    | cons store rest ih =>
      rw [List.foldl_cons, ih, mem_names_merge, List.exists_mem_cons_iff, or_assoc]
  exact (run empty).trans (by simp)

variable {stores} {others : List UsageStore}

theorem names_foldl_merge_perm (same : stores.Perm others) :
    (stores.foldl merge empty).names.Perm (others.foldl merge empty).names := by
  refine (List.perm_ext_iff_of_nodup (stores.foldl merge empty).distinct
    (others.foldl merge empty).distinct).mpr fun name => ?_
  refine (mem_names_foldl_merge stores).trans (Iff.trans ?_ (mem_names_foldl_merge others).symm)
  simp only [same.mem_iff]

theorem isSome_firstRecord?_perm (same : stores.Perm others) (name : String) :
    (firstRecord? stores name).isSome = (firstRecord? others name).isSome := by
  rw [firstRecord?, firstRecord?, List.isSome_findSome?, List.isSome_findSome?]
  exact same.any_eq

/-- The flags of a merged record are those of all records of its model, in whatever order. -/
theorem flags_foldl_merge_perm (same : stores.Perm others) (name : String) :
    ((stores.foldl merge empty).get? name).map (fun record => (record.select, record.writes)) =
      ((others.foldl merge empty).get? name).map fun record => (record.select, record.writes) := by
  have uses := same.flatMap_right fun store => store.records.map UsageRecord.use
  have known := isSome_firstRecord?_perm same name
  rw [get?_foldl_merge, get?_foldl_merge, writesTo_congr fun use => uses.mem_iff, Option.map_map,
    Option.map_map]
  cases first : firstRecord? stores name <;> cases other : firstRecord? others name <;>
    simp_all

/-- Where no model has two tables, the order of merging does not show in any record. -/
theorem get?_foldl_merge_perm (same : stores.Perm others)
    (textual : ∀ store ∈ stores, store.Textual) (agree : AgreeOnTables stores) (name : String) :
    (stores.foldl merge empty).get? name = (others.foldl merge empty).get? name := by
  have uses := same.flatMap_right fun store => store.records.map UsageRecord.use
  have known := isSome_firstRecord?_perm same name
  rw [get?_foldl_merge, get?_foldl_merge, writesTo_congr fun use => uses.mem_iff]
  cases first : firstRecord? stores name with
  | none => simp_all
  | some record =>
    obtain ⟨also, other⟩ := Option.isSome_iff_exists.mp (by rw [← known, first]; rfl)
    obtain ⟨store, member, holds, rfl⟩ := mem_of_firstRecord? first
    obtain ⟨further, there, contains, named⟩ := mem_of_firstRecord? other
    have listed := same.mem_iff.mpr there
    -- The stores agree on how tables are shown, and a table that is a text is what it shows.
    have tables := agree store member record holds further listed also contains named.symm
    obtain ⟨-, table, written⟩ := textual store member record holds
    obtain ⟨-, again, rewritten⟩ := textual further listed also contains
    rw [written, rewritten, Json.plain_str, Json.plain_str] at tables
    rw [other, Option.map_some, Option.map_some, written, rewritten, tables]

end Stores

end UsageStore

theorem Json.sameFields_iff {fields others : Json.Fields} :
    Json.sameFields fields others = true ↔
      ∀ field ∈ fields,
        ∃ value, others.lookup field.1 = some value ∧ field.2.same value = true := by
  induction fields with
  | nil => simp [Json.sameFields]
  | cons field rest ih =>
    rw [Json.sameFields, Bool.and_eq_true, ih, List.forall_mem_cons]
    cases others.lookup field.1 <;> simp

namespace UsageRecord

theorem lookup_map_toField (records : List UsageRecord) (name : String) :
    (records.map toField).lookup name =
      (records.find? fun record => record.entity == name).map toJson := by
  induction records with
  | nil => rfl
  | cons record rest ih =>
    rw [List.map_cons, toField, List.lookup_cons, List.find?_cons, ih,
      beq_eq_beq.mpr ⟨Eq.symm, Eq.symm⟩]
    cases record.entity == name <;> rfl

theorem Textual.same_toJson {record : UsageRecord} (textual : record.Textual) :
    record.toJson.same record.toJson = true := by
  obtain ⟨entity, table, select, writes⟩ := record
  obtain ⟨-, text, rfl⟩ := textual
  simp [toJson, Json.same, Json.sameFields, Json.sameScalar, Json.asInt?, List.lookup_cons]

end UsageRecord

namespace UsageStore

/-- Stores that say the same on every model are equal, whatever the order of their records. -/
theorem same_of_get? {store other : UsageStore} (textual : store.Textual)
    (equal : ∀ name, store.get? name = other.get? name) : store.same other = true := by
  have fields (store : UsageStore) :
      store.toJson = .obj (store.records.map UsageRecord.toField) := rfl
  rw [same, fields, fields, Json.same, Bool.and_eq_true, Json.sameFields_iff]
  refine ⟨?_, ?_⟩
  · simpa using (perm_of_get? equal).length_eq
  · intro field member
    obtain ⟨record, known, rfl⟩ := List.mem_map.mp member
    refine ⟨record.toJson, ?_, (textual record known).same_toJson⟩
    have found : other.get? record.entity = some record :=
      (equal record.entity).symm.trans (mem_records.mp known)
    rw [get?] at found
    rw [UsageRecord.toField, UsageRecord.lookup_map_toField, found]
    rfl

section Files

variable {folder : Folder} {paths : List Path}

/-- The stores in some files, without those that cannot be read. -/
def loaded (folder : Folder) (paths : List Path) : List UsageStore :=
  paths.filterMap fun path => (load folder path).toOption

theorem mapM_load_eq_ok {stores : List UsageStore} :
    paths.mapM (load folder) = .ok stores ↔
      (∀ path ∈ paths, ∃ store, load folder path = .ok store) ∧ stores = loaded folder paths := by
  induction paths generalizing stores with
  | nil => simp [loaded, pure, Except.pure, eq_comm]
  | cons path rest ih =>
    constructor
    · intro reads
      rw [List.mapM_cons] at reads
      obtain ⟨store, first, reads⟩ := ok_of_bind reads
      obtain ⟨others, later, reads⟩ := ok_of_bind reads
      cases reads
      obtain ⟨each, rfl⟩ := ih.mp later
      exact ⟨List.forall_mem_cons.mpr ⟨⟨store, first⟩, each⟩,
        by simp [loaded, first, Except.toOption]⟩
    · rintro ⟨each, rfl⟩
      obtain ⟨⟨store, first⟩, others⟩ := List.forall_mem_cons.mp each
      rw [List.mapM_cons, first, ih.mpr ⟨others, rfl⟩]
      simp only [loaded, List.filterMap_cons, first, Except.toOption]
      rfl

theorem loadAll_eq_ok {merged : UsageStore} :
    loadAll folder paths = .ok merged ↔
      (∀ path ∈ paths, ∃ store, load folder path = .ok store) ∧
        merged = (loaded folder paths).foldl merge empty := by
  constructor
  · intro reads
    obtain ⟨stores, given, rfl⟩ := ok_of_map reads
    obtain ⟨each, rfl⟩ := mapM_load_eq_ok.mp given
    exact ⟨each, rfl⟩
  · rintro ⟨each, rfl⟩
    rw [loadAll, mapM_load_eq_ok.mpr ⟨each, rfl⟩]
    rfl

theorem textual_loaded {store : UsageStore} (member : store ∈ loaded folder paths) :
    store.Textual := by
  obtain ⟨path, -, reads⟩ := List.mem_filterMap.mp member
  cases given : load folder path with
  | error fault => simp [given, Except.toOption] at reads
  | ok found =>
    rw [given] at reads
    cases reads
    exact textual_load given

theorem load_of_records {path : Path} {store : UsageStore}
    (reads : (load folder path).toOption.map records = some store.records) :
    load folder path = .ok store := by
  cases given : load folder path with
  | error fault => simp [given, Except.toOption] at reads
  | ok found =>
    rw [given] at reads
    rw [eq_of_records (Option.some.inj reads)]

theorem loaded_pair {a b : Path} {first second : UsageStore} (readsA : load folder a = .ok first)
    (readsB : load folder b = .ok second) : loaded folder [a, b] = [first, second] := by
  simp [loaded, readsA, readsB, Except.toOption]

theorem loadAll_pair {a b : Path} {first second : UsageStore} (readsA : load folder a = .ok first)
    (readsB : load folder b = .ok second) :
    loadAll folder [a, b] = .ok ([first, second].foldl merge empty) := by
  refine loadAll_eq_ok.mpr ⟨?_, ?_⟩
  · simp [readsA, readsB]
  · rw [loaded_pair readsA readsB]

/-- Files that are merged in another order are read as well, and give the same models with the same
flags. -/
theorem loadAll_perm {others : List Path} (same : paths.Perm others) {merged : UsageStore}
    (reads : loadAll folder paths = .ok merged) :
    ∃ again, loadAll folder others = .ok again ∧ again.names.Perm merged.names ∧
      (∀ name, (again.get? name).map (fun record => (record.select, record.writes)) =
        (merged.get? name).map fun record => (record.select, record.writes)) ∧
      (AgreeOnTables (loaded folder paths) → again.same merged = true) := by
  obtain ⟨each, rfl⟩ := loadAll_eq_ok.mp reads
  have stores : (loaded folder paths).Perm (loaded folder others) := same.filterMap _
  have again : loadAll folder others = .ok ((loaded folder others).foldl merge empty) :=
    loadAll_eq_ok.mpr ⟨fun path member => each path (same.mem_iff.mpr member), rfl⟩
  refine ⟨_, again, names_foldl_merge_perm stores.symm, flags_foldl_merge_perm stores.symm,
    fun agree => ?_⟩
  exact same_of_get? (textual_loadAll again) fun name =>
    (get?_foldl_merge_perm stores (fun _ => textual_loaded) agree name).symm

end Files

/-- The laws of merging. It is associative and idempotent, the models of the first store come first,
and a model has the table of the first store that knows it and the flags of all of them. So the
order in which files are merged shows neither in the models nor in their flags, and not at all if
the stores agree on tables. -/
theorem merge_laws (a b c : UsageStore) :
    (a.merge b).merge c = a.merge (b.merge c) ∧ a.merge a = a ∧
    (a.merge b).names = a.names ++ (b.names.filter fun name => name ∉ a.names) ∧
    (∀ name, ((a.merge b).get? name).map UsageRecord.table =
        ((a.get? name).or (b.get? name)).map UsageRecord.table ∧
      ∀ operation,
        (a.merge b).does name operation = (a.does name operation || b.does name operation)) ∧
    (∀ (stores : List UsageStore) (name : String),
      ((stores.foldl merge empty).get? name).map UsageRecord.table =
          (firstRecord? stores name).map UsageRecord.table ∧
        ∀ operation, (stores.foldl merge empty).does name operation =
          stores.any fun store => store.does name operation) ∧
    ∀ (folder : Folder) (paths others : List Path), paths.Perm others →
      ∀ merged, loadAll folder paths = .ok merged →
        ∃ again, loadAll folder others = .ok again ∧ again.names.Perm merged.names ∧
          (∀ name, (again.get? name).map (fun record => (record.select, record.writes)) =
            (merged.get? name).map fun record => (record.select, record.writes)) ∧
          (AgreeOnTables (loaded folder paths) → again.same merged = true) :=
  ⟨merge_assoc a b c, merge_self a, names_merge_eq a b,
    fun name => ⟨table_merge a b name, does_merge a b name⟩,
    fun stores name => ⟨table_foldl_merge stores name, does_foldl_merge stores name⟩,
    fun _ _ _ same _ reads => loadAll_perm same reads⟩

/-! Two services that share the model `User`. -/
namespace Services

def folder : Folder where
  files := [
    (["a.json"], .ofText
      "\x7b\"Role\":\x7b\"table\":\"r\"\x7d,\"User\":\x7b\"table\":\"u\"\x7d\x7d"),
    (["b.json"], .ofText "\x7b\"User\":\x7b\"table\":\"u\",\"isInsert\":true\x7d\x7d")]
  directories := []
  current := []

def paths : List Path := [⟨0, ["a.json"]⟩, ⟨0, ["b.json"]⟩]

def readers : UsageStore := .ofUses [⟨"Role", .str "r", .none⟩, ⟨"User", .str "u", .none⟩]

def writers : UsageStore := .ofUses [⟨"User", .str "u", .inserting⟩]

theorem contents :
    (load folder ⟨0, ["a.json"]⟩).toOption.map records = some readers.records ∧
    (load folder ⟨0, ["b.json"]⟩).toOption.map records = some writers.records := by
  decide +kernel

theorem load_a : load folder ⟨0, ["a.json"]⟩ = .ok readers := load_of_records contents.1

theorem load_b : load folder ⟨0, ["b.json"]⟩ = .ok writers := load_of_records contents.2

theorem loaded_paths : loaded folder paths = [readers, writers] := loaded_pair load_a load_b

theorem loadAll_paths : loadAll folder paths = .ok (readers.merge writers) := loadAll_pair load_a load_b

end Services

theorem merge_laws_services :
    Services.paths.Perm Services.paths.reverse ∧
      loadAll Services.folder Services.paths = .ok (Services.readers.merge Services.writers) ∧
      (Services.readers.merge Services.writers).names = ["Role", "User"] ∧
      AgreeOnTables (loaded Services.folder Services.paths) ∧
      ∃ again, loadAll Services.folder Services.paths.reverse = .ok again ∧
        again.same (Services.readers.merge Services.writers) = true := by
  have turned : Services.paths.Perm Services.paths.reverse := (List.reverse_perm _).symm
  have agree : AgreeOnTables (loaded Services.folder Services.paths) := by
    rw [Services.loaded_paths]
    simp [AgreeOnTables, Services.readers, Services.writers, ofUses, add, addUse, empty,
      UsageRecord.ofUse]
  obtain ⟨-, -, -, -, -, files⟩ := merge_laws empty empty empty
  obtain ⟨again, reads, -, -, same⟩ := files _ _ _ turned _ Services.loadAll_paths
  exact ⟨turned, Services.loadAll_paths, rfl, agree, again, reads, same agree⟩

end UsageStore

end LeastGrant
