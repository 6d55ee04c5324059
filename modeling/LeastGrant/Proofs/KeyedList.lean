import LeastGrant.Usage.Store

/-! Lists whose items are told apart by a key. An item is put in the place of the one with its key,
or at the end. The fields of an object, the models of a registry and the associations of a model are
kept in this way. What is looked up in a list is always that of the first item that has it. -/
namespace LeastGrant

variable {α : Type} (key : α → String)

/-- What is found first belongs to the first item that has anything to find. -/
theorem findSome?_eq_find?_bind {β : Type} (f : α → Option β) (items : List α) :
    items.findSome? f = (items.find? fun item => (f item).isSome).bind f := by
  induction items with
  | nil => rfl
  | cons item rest ih =>
    rw [List.findSome?_cons, List.find?_cons]
    cases found : f item with
    | none => simpa using ih
    | some value => simp [found]

theorem findSome?_flatMap {β γ : Type} (f : β → Option γ) (g : α → List β) (items : List α) :
    (items.flatMap g).findSome? f = items.findSome? fun item => (g item).findSome? f := by
  induction items with
  | nil => rfl
  | cons item rest ih =>
    rw [List.flatMap_cons, List.findSome?_append, ih, List.findSome?_cons]
    cases (g item).findSome? f <;> rfl

/-- Among items with distinct keys, the key of an item leads back to it. -/
theorem find?_key_of_mem {items : List α} {item : α} (distinct : (items.map key).Nodup)
    (h : item ∈ items) : (items.find? fun other => key other == key item) = some item := by
  induction items with
  | nil => cases h
  | cons first rest ih =>
    rw [List.map_cons, List.nodup_cons] at distinct
    rcases List.mem_cons.mp h with rfl | member
    · simp
    · have other : key first ≠ key item := fun same =>
        distinct.1 (same ▸ List.mem_map_of_mem member)
      simp [other, ih distinct.2 member]

def putByKey : List α → α → List α
  | [], new => [new]
  | old :: rest, new => if key old == key new then new :: rest else old :: putByKey rest new

theorem map_putByKey (items : List α) (new : α) :
    (putByKey key items new).map key =
      if key new ∈ items.map key then items.map key else items.map key ++ [key new] := by
  induction items with
  | nil => simp [putByKey]
  | cons old rest ih =>
    by_cases same : key old = key new
    · simp [putByKey, same]
    · simp only [putByKey, beq_eq_false_iff_ne.mpr same, Bool.false_eq_true, if_false,
        List.map_cons, ih, List.mem_cons, Ne.symm same, false_or]
      split <;> rfl

theorem nodup_putByKey {items : List α} (new : α) (distinct : (items.map key).Nodup) :
    ((putByKey key items new).map key).Nodup := by
  rw [map_putByKey]
  exact nodup_extend (key new) distinct

theorem mem_of_mem_putByKey {items : List α} {new item : α} (h : item ∈ putByKey key items new) :
    item = new ∨ item ∈ items := by
  induction items with
  | nil => exact .inl (List.mem_singleton.mp h)
  | cons old rest ih =>
    rw [putByKey] at h
    split at h
    · exact (List.mem_cons.mp h).imp_right (List.mem_cons_of_mem _)
    · rcases List.mem_cons.mp h with rfl | h
      · exact .inr List.mem_cons_self
      · exact (ih h).imp_right (List.mem_cons_of_mem _)

theorem nodup_foldl_putByKey (news : List α) {items : List α} (distinct : (items.map key).Nodup) :
    ((news.foldl (putByKey key) items).map key).Nodup := by
  induction news generalizing items with
  | nil => exact distinct
  | cons new rest ih => exact ih (nodup_putByKey key new distinct)

theorem mem_of_mem_foldl_putByKey {news items : List α} {item : α}
    (h : item ∈ news.foldl (putByKey key) items) : item ∈ news ∨ item ∈ items := by
  induction news generalizing items with
  | nil => exact .inr h
  | cons new rest ih =>
    rcases ih h with later | now
    · exact .inl (List.mem_cons_of_mem _ later)
    · rcases mem_of_mem_putByKey key now with rfl | old
      · exact .inl List.mem_cons_self
      · exact .inr old

theorem putByKey_of_fresh {items : List α} {new : α} (fresh : key new ∉ items.map key) :
    putByKey key items new = items ++ [new] := by
  induction items with
  | nil => rfl
  | cons old rest ih =>
    rw [List.map_cons, List.mem_cons, not_or] at fresh
    have differ : ¬(key old == key new) = true := fun same => fresh.1 (beq_iff_eq.mp same).symm
    rw [putByKey, if_neg differ, ih fresh.2, List.cons_append]

theorem foldl_putByKey_of_nodup {news items : List α}
    (distinct : ((items ++ news).map key).Nodup) : news.foldl (putByKey key) items = items ++ news := by
  induction news generalizing items with
  | nil => exact (List.append_nil items).symm
  | cons new rest ih =>
    have fresh : key new ∉ items.map key := by
      rw [List.map_append, List.map_cons, List.nodup_append] at distinct
      exact fun known => distinct.2.2 _ known _ List.mem_cons_self rfl
    rw [List.foldl_cons, putByKey_of_fresh key fresh, ih (by simpa using distinct),
      List.append_assoc, List.singleton_append]

theorem find?_putByKey (items : List α) (new : α) (name : String) :
    ((putByKey key items new).find? fun item => key item == name) =
      if key new = name then some new else items.find? fun item => key item == name := by
  induction items with
  | nil => by_cases here : key new = name <;> simp [putByKey, here]
  | cons old rest ih =>
    by_cases same : key old = key new
    · by_cases here : key new = name <;> simp [putByKey, same, here]
    · by_cases here : key new = name
      · subst here
        simp [putByKey, same, ih]
      · simp only [putByKey, beq_eq_false_iff_ne.mpr same, Bool.false_eq_true, if_false,
          List.find?_cons, ih, here]

/-- Of several items with one key that are put into a list, the last one stays. -/
theorem find?_foldl_putByKey (news items : List α) (name : String) :
    ((news.foldl (putByKey key) items).find? fun item => key item == name) =
      (news.reverse.find? fun item => key item == name).or
        (items.find? fun item => key item == name) := by
  induction news generalizing items with
  | nil => rfl
  | cons new rest ih =>
    rw [List.foldl_cons, ih, List.reverse_cons, List.find?_append, find?_putByKey, Option.or_assoc]
    by_cases here : key new = name <;> simp [here]

theorem Json.Fields.put_eq (fields : Json.Fields) (name : String) (value : Json) :
    fields.put name value = putByKey Prod.fst fields (name, value) := by
  induction fields with
  | nil => rfl
  | cons field rest ih =>
    obtain ⟨other, old⟩ := field
    rw [Json.Fields.put, putByKey, ih]
    by_cases same : other = name <;> simp [same]

theorem Registry.putEntity_eq : Registry.putEntity = putByKey Entity.name := by
  funext entities new
  induction entities with
  | nil => rfl
  | cons old rest ih => rw [Registry.putEntity, putByKey, ih]

theorem Entity.putAssociation_eq : Entity.putAssociation = putByKey Association.name := by
  funext associations new
  induction associations with
  | nil => rfl
  | cons old rest ih => rw [Entity.putAssociation, putByKey, ih]

end LeastGrant
