import LeastGrant.Proofs.MergedVisits

/-! What a module filter takes away from a visit. The filter decides on imports alone, and an import
only reads. So it can cost a store whole records that nothing but imports speak of, and no write. -/
namespace LeastGrant

/-- An import that the filter does not let pass. -/
def LeftOut (only : Option String) (place : Place) : Prop :=
  place.kind = .importStatement ∧ ¬PassesFilter only place.node

theorem passesFilter_none (statement : Node) : PassesFilter none statement := by
  simp [PassesFilter]

section Places

variable {index : CodeIndex} {registry : Registry} {only : Option String} {file : SourceFile}
  {place : Place}

theorem findingAt_of_leftOut (out : LeftOut only place) :
    findingAt index registry only file place = .nothing := by
  have closed : importCounts only place.node = false := by
    rw [Bool.eq_false_iff, ne_eq, importCounts_iff]
    exact out.2
  simp [findingAt_of_import _ _ _ _ out.1, importFinding, closed]

theorem findingAt_of_not_leftOut (stays : ¬LeftOut only place) :
    findingAt index registry only file place = findingAt index registry none file place := by
  by_cases statement : place.kind = .importStatement
  · have passes : PassesFilter only place.node := by
      by_contra blocked
      exact stays ⟨statement, blocked⟩
    simp [findingAt_of_import _ _ _ _ statement, importFinding, importCounts_iff.mpr passes,
      importCounts_iff.mpr (passesFilter_none place.node)]
  · unfold findingAt findingAtM
    split
    · contradiction
    · rfl
    · rfl

theorem notes_of_leftOut (out : LeftOut only place) :
    (findingAt index registry none file place).notes = [] := by
  simp [findingAt_of_import _ _ _ _ out.1, importFinding,
    importCounts_iff.mpr (passesFilter_none place.node)]

theorem writes_of_leftOut (out : LeftOut only place) {use : Use}
    (member : use ∈ (findingAt index registry none file place).uses) : use.writes = .none := by
  rw [findingAt_of_import _ _ _ _ out.1] at member
  simp only [importFinding, importCounts_iff.mpr (passesFilter_none place.node), if_true,
    List.mem_map] at member
  obtain ⟨entity, -, rfl⟩ := member
  rfl

theorem notes_findingAt :
    (findingAt index registry only file place).notes =
      (findingAt index registry none file place).notes := by
  by_cases out : LeftOut only place
  · rw [findingAt_of_leftOut out, notes_of_leftOut out]
    rfl
  · rw [findingAt_of_not_leftOut out]

end Places

section Filtered

variable (index : CodeIndex) (registry : Registry)

theorem mem_visitUses {only : Option String} {files : List SourceFile} {use : Use} :
    use ∈ visitUses index registry only files ↔
      ∃ visit ∈ visited files, ¬LeftOut only visit.2 ∧
        use ∈ (findingAt index registry none visit.1 visit.2).uses := by
  rw [visitUses, List.mem_flatMap]
  refine exists_congr fun visit => and_congr_right fun _ => ?_
  by_cases out : LeftOut only visit.2
  · simp [findingAt_of_leftOut out, out, Finding.nothing]
  · simp [findingAt_of_not_leftOut out, out]

/-- A use that the filter takes away writes nothing. -/
theorem writesTo_visitUses (only : Option String) (files : List SourceFile) (name : String) :
    writesTo (visitUses index registry only files) name =
      writesTo (visitUses index registry none files) name := by
  apply Writes.ext_does
  intro operation
  rw [Bool.eq_iff_iff, does_writesTo, does_writesTo]
  constructor
  · rintro ⟨use, member, does⟩
    obtain ⟨visit, known, -, found⟩ := (mem_visitUses index registry).mp member
    exact ⟨use, List.mem_flatMap.mpr ⟨visit, known, found⟩, does⟩
  · rintro ⟨use, member, named, does⟩
    obtain ⟨visit, known, found⟩ := List.mem_flatMap.mp member
    have stays : ¬LeftOut only visit.2 := by
      intro out
      rw [writes_of_leftOut out found, Writes.does_none] at does
      contradiction
    exact ⟨use, (mem_visitUses index registry).mpr ⟨visit, known, stays, found⟩, named, does⟩

/-- A model has no record after a filtered visit exactly if all that speaks of it is left out. -/
theorem not_has_traverse (only : Option String) (files : List SourceFile) (name : String) :
    (traverse index registry only files).store.has name = false ↔
      ∀ visit ∈ visited files, ∀ use ∈ (findingAt index registry none visit.1 visit.2).uses,
        use.entity = name → LeftOut only visit.2 := by
  rw [traverse_store_eq, Bool.eq_false_iff, ne_eq, UsageStore.has_ofUses]
  constructor
  · intro absent visit known use found named
    by_contra stays
    exact absent ⟨use, (mem_visitUses index registry).mpr ⟨visit, known, stays, found⟩, named⟩
  · rintro all ⟨use, member, named⟩
    obtain ⟨visit, known, stays, found⟩ := (mem_visitUses index registry).mp member
    exact stays (all visit known use found named)

theorem get?_traverse_of_has {only : Option String} {files : List SourceFile} {name : String}
    (known : (traverse index registry only files).store.has name = true) :
    (traverse index registry only files).store.get? name =
      (traverse index registry none files).store.get? name := by
  rw [traverse_store_eq, UsageStore.has_ofUses] at known
  obtain ⟨use, member, named⟩ := known
  obtain ⟨visit, visits, -, found⟩ := (mem_visitUses index registry).mp member
  have whole : use ∈ visitUses index registry none files :=
    List.mem_flatMap.mpr ⟨visit, visits, found⟩
  rw [get?_traverse, get?_traverse, writesTo_visitUses index registry only,
    if_pos (List.mem_map.mpr ⟨use, member, named⟩), if_pos (List.mem_map.mpr ⟨use, whole, named⟩)]

/-- A filtered visit has some of the records of the whole visit, as they are. The records that it
lacks only read: they are those that imports from other modules alone speak of. Both visits report
the same. -/
theorem module_filter_drops_reads (wanted : String) (files : List SourceFile) :
    (∀ record ∈ (traverse index registry (some wanted) files).store.records,
      record ∈ (traverse index registry none files).store.records) ∧
    (∀ record ∈ (traverse index registry none files).store.records,
      ((traverse index registry (some wanted) files).store.has record.entity = false →
        record.select = true ∧ record.writes = .none) ∧
      ((traverse index registry (some wanted) files).store.has record.entity = false ↔
        ∀ visit ∈ visited files, ∀ use ∈ (findingAt index registry none visit.1 visit.2).uses,
          use.entity = record.entity → LeftOut (some wanted) visit.2)) ∧
    (traverse index registry (some wanted) files).diagnostics =
      (traverse index registry none files).diagnostics := by
  refine ⟨fun record member => ?_, fun record member => ⟨fun missing => ?_, ?_⟩, ?_⟩
  · have known := UsageStore.has_iff_record.mpr ⟨record, member, rfl⟩
    rw [UsageStore.mem_records, ← get?_traverse_of_has index registry known]
    exact UsageStore.mem_records.mp member
  · rw [traverse_store_eq] at member
    obtain ⟨select, writes, -⟩ := UsageStore.record_of_mem_ofUses member
    refine ⟨select, writes.trans ?_⟩
    rw [traverse_store_eq, Bool.eq_false_iff, ne_eq, UsageStore.has_ofUses] at missing
    -- Both visits write the same to a model, and the filtered one has no use of this one.
    rw [← writesTo_visitUses index registry (some wanted)]
    apply Writes.ext_does
    intro operation
    rw [Writes.does_none, Bool.eq_false_iff, ne_eq, does_writesTo]
    rintro ⟨use, used, named, -⟩
    exact missing ⟨use, used, named⟩
  · exact not_has_traverse index registry _ files record.entity
  · simp only [Analysis.diagnostics, traverse_eq, findings_eq, List.flatMap_map, notes_findingAt]

end Filtered

/-- A visit that counts imports from one other module only, and so not the import of `Deep`. -/
def friendsOnly : Analysis :=
  traverse (.ofFiles []) nestedRegistry (some "@app/db") [importingFile, addingFile]

theorem module_filter_drops_reads_deep :
    ⟨"Deep", .str "Deep", true, .none⟩ ∈ deepFirst.store.records ∧
      ⟨"Friend", .str "Friend", true, .inserting⟩ ∈ friendsOnly.store.records ∧
      ⟨"Friend", .str "Friend", true, .inserting⟩ ∈ deepFirst.store.records ∧
      friendsOnly.store.has "Deep" = false ∧
      ∀ visit ∈ visited [importingFile, addingFile],
        ∀ use ∈ (findingAt (.ofFiles []) nestedRegistry none visit.1 visit.2).uses,
          use.entity = "Deep" → LeftOut (some "@app/db") visit.2 := by
  have deep : ⟨"Deep", .str "Deep", true, .none⟩ ∈ deepFirst.store.records := by
    rw [deepFirst, traverse_store]
    exact UsageStore.mem_records.mpr rfl
  have friend : ⟨"Friend", .str "Friend", true, .inserting⟩ ∈ friendsOnly.store.records := by
    rw [friendsOnly, traverse_store]
    exact UsageStore.mem_records.mpr rfl
  have missing : friendsOnly.store.has "Deep" = false := by
    rw [friendsOnly, traverse_store]
    rfl
  obtain ⟨kept, lost, -⟩ := module_filter_drops_reads (.ofFiles []) nestedRegistry "@app/db"
    [importingFile, addingFile]
  exact ⟨deep, friend, kept _ friend, missing, (lost _ deep).2.mp missing⟩

end LeastGrant
