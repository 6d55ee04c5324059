import LeastGrant.Proofs.CircularExtends
import Mathlib.Tactic.Tauto

/-! Reading a configuration comes to an end. The rules of reading are given here without any bound,
together with the files that are read and with the number of readings that stand inside each other.
The files that have been read are not read again, so that a reading inside another one has fewer
files left. Hence the rules lead to one result from every file on, and the bound on the depth is
never reached. -/
namespace LeastGrant

namespace ProjectConfig

variable {folder : Folder}

section Rules

/-- What is to be read: a file, or the rest of what a configuration extends. -/
inductive Task where
  | file (place : List String) (seen : Seen)
  | rest (config : ProjectConfig) (seen : Seen) (references : List Json)

/-- How a reading goes: its result, the files that it reads in their order, and how many readings of
files stand inside each other at most. -/
structure Course where
  result : Except ConfigError (ProjectConfig × Seen)
  read : List (List String)
  depth : Nat

/-- The rules of reading. -/
inductive Reading (folder : Folder) : Task → Course → Prop
  | known {place : List String} {seen : Seen} (old : place ∈ seen) :
      Reading folder (.file place seen)
        ⟨.error (.malformed (Path.absolute place).text .circular), [], 1⟩
  | unreadable {place : List String} {seen : Seen} {error : ConfigError} (new : place ∉ seen)
      (fails : ownSettings folder place = .error error) :
      Reading folder (.file place seen) ⟨.error error, [place], 1⟩
  | readable {place : List String} {seen : Seen} {own : ProjectConfig} {references : List Json}
      {inner : Course} (new : place ∉ seen)
      (given : ownSettings folder place = .ok (own, references))
      (onward : Reading folder (.rest own (place :: seen) references) inner) :
      Reading folder (.file place seen) ⟨inner.result, place :: inner.read, inner.depth + 1⟩
  | done {config : ProjectConfig} {seen : Seen} :
      Reading folder (.rest config seen []) ⟨.ok (config, seen), [], 0⟩
  | unresolved {config : ProjectConfig} {seen : Seen} {reference : Json} {rest : List Json}
      {error : ConfigError} (fails : resolveExtends folder config.root reference = .error error) :
      Reading folder (.rest config seen (reference :: rest)) ⟨.error error, [], 0⟩
  | failing {config : ProjectConfig} {seen : Seen} {reference : Json} {rest : List Json}
      {path : Path} {error : ConfigError} {read : List (List String)} {depth : Nat}
      (means : resolveExtends folder config.root reference = .ok path)
      (first : Reading folder (.file (folder.resolve path) seen) ⟨.error error, read, depth⟩) :
      Reading folder (.rest config seen (reference :: rest)) ⟨.error error, read, depth⟩
  | unfit {config : ProjectConfig} {seen : Seen} {reference : Json} {rest : List Json}
      {path : Path} {parent : ProjectConfig} {between : Seen} {read : List (List String)}
      {depth : Nat} {fault : ValueFault}
      (means : resolveExtends folder config.root reference = .ok path)
      (first : Reading folder (.file (folder.resolve path) seen)
        ⟨.ok (parent, between), read, depth⟩)
      (fails : config.inherit parent = .error fault) :
      Reading folder (.rest config seen (reference :: rest))
        ⟨.error (.unusable fault), read, depth⟩
  | next {config : ProjectConfig} {seen : Seen} {reference : Json} {rest : List Json}
      {path : Path} {parent child : ProjectConfig} {between : Seen} {read : List (List String)}
      {depth : Nat} {later : Course}
      (means : resolveExtends folder config.root reference = .ok path)
      (first : Reading folder (.file (folder.resolve path) seen)
        ⟨.ok (parent, between), read, depth⟩)
      (fills : config.inherit parent = .ok child)
      (onward : Reading folder (.rest child between rest) later) :
      Reading folder (.rest config seen (reference :: rest))
        ⟨later.result, read ++ later.read, max depth later.depth⟩

/-- The reading of one file begins the reading of another one: all that it extends before has been
taken over. -/
inductive Begins (folder : Folder) : List String × Seen → List String × Seen → Prop
  | intro {place : List String} {seen between : Seen} {own config : ProjectConfig}
      {before rest : List Json} {reference : Json} {path : Path} {read : List (List String)}
      {depth : Nat} (new : place ∉ seen)
      (given : ownSettings folder place = .ok (own, before ++ reference :: rest))
      (earlier : Reading folder (.rest own (place :: seen) before)
        ⟨.ok (config, between), read, depth⟩)
      (means : resolveExtends folder config.root reference = .ok path) :
      Begins folder (place, seen) (folder.resolve path, between)

/-- The files that have been read before. -/
def Task.seen : Task → Seen
  | .file _ seen => seen
  | .rest _ seen _ => seen

/-- What is read for a task, up to a depth. -/
def Task.answer (folder : Folder) (depth : Nat) : Task → Except ConfigError (ProjectConfig × Seen)
  | .file place seen => loadFrom folder depth place seen
  | .rest config seen references => inheritAll folder (loadFrom folder depth) config seen references

end Rules

section Answers

/-- A depth that is not less than that of a reading gives its result. -/
theorem Reading.answer_eq {task : Task} {course : Course} (reading : Reading folder task course)
    {depth : Nat} (enough : course.depth ≤ depth) : task.answer folder depth = course.result := by
  induction reading generalizing depth with
  | known old =>
    obtain ⟨less, rfl⟩ : ∃ less, depth = less + 1 := Nat.exists_eq_add_of_le' enough
    exact loadFrom_of_old old
  | unreadable new fails =>
    obtain ⟨less, rfl⟩ : ∃ less, depth = less + 1 := Nat.exists_eq_add_of_le' enough
    rw [Task.answer, loadFrom_of_new new, fails]
    rfl
  | @readable _ _ _ _ inner new given _ ih =>
    obtain ⟨less, rfl⟩ : ∃ less, depth = less + 1 :=
      Nat.exists_eq_add_of_le' (le_trans (Nat.le_add_left 1 inner.depth) enough)
    rw [Task.answer, loadFrom_of_new new, given]
    exact ih (Nat.le_of_succ_le_succ enough)
  | done => rfl
  | unresolved fails =>
    rw [Task.answer, inheritAll, fails]
    rfl
  | failing means _ ih =>
    have loaded : loadFrom folder depth _ _ = _ := ih enough
    rw [Task.answer, inheritAll_of_resolve means, loaded]
    rfl
  | unfit means _ fails ih =>
    have loaded : loadFrom folder depth _ _ = _ := ih enough
    rw [Task.answer, inheritAll_of_resolve means]
    refine (bind_of_ok loaded).trans ?_
    rw [fails]
    rfl
  | next means _ fills _ ihFirst ihLater =>
    have loaded : loadFrom folder depth _ _ = _ := ihFirst (le_trans (le_max_left _ _) enough)
    rw [Task.answer, inheritAll_of_resolve means]
    refine (bind_of_ok loaded).trans ?_
    rw [fills]
    exact ihLater (le_trans (le_max_right _ _) enough)

end Answers

section Courses

/-- What holds of every reading: no file is read twice, none that was read before it, and a reading
that succeeds adds the files that it reads. -/
structure Course.Keeps (course : Course) (seen : Seen) : Prop where
  once : course.read.Nodup
  fresh : ∀ place ∈ course.read, place ∉ seen
  adds : ∀ config after, course.result = .ok (config, after) →
    ∀ place, place ∈ after ↔ place ∈ course.read ∨ place ∈ seen

theorem Course.Keeps.of_error {error : ConfigError} {read : List (List String)} {depth : Nat}
    {seen : Seen} (once : read.Nodup) (fresh : ∀ place ∈ read, place ∉ seen) :
    Course.Keeps ⟨.error error, read, depth⟩ seen where
  once := once
  fresh := fresh
  adds config after succeeds := by cases succeeds

theorem Course.Keeps.next {parent : ProjectConfig} {seen between : Seen}
    {read : List (List String)} {depth : Nat} {later : Course}
    (first : Course.Keeps ⟨.ok (parent, between), read, depth⟩ seen) (rest : later.Keeps between) :
    Course.Keeps ⟨later.result, read ++ later.read, max depth later.depth⟩ seen where
  once := by
    refine List.nodup_append.mpr ⟨first.once, rest.once, ?_⟩
    intro place inRead other inLater same
    exact rest.fresh other inLater ((first.adds _ _ rfl other).mpr (.inl (same ▸ inRead)))
  fresh place member := by
    rcases List.mem_append.mp member with inRead | inLater
    · exact first.fresh place inRead
    · exact fun old => rest.fresh place inLater ((first.adds _ _ rfl place).mpr (.inr old))
  adds config after succeeds place := by
    rw [rest.adds config after succeeds place, first.adds _ _ rfl place, List.mem_append]
    tauto

theorem Course.Keeps.own {place : List String} {seen : Seen} {inner : Course} (new : place ∉ seen)
    (keeps : inner.Keeps (place :: seen)) :
    Course.Keeps ⟨inner.result, place :: inner.read, inner.depth + 1⟩ seen where
  once := List.nodup_cons.mpr
    ⟨fun member => keeps.fresh place member List.mem_cons_self, keeps.once⟩
  fresh := by
    refine List.forall_mem_cons.mpr ⟨new, fun other member old => ?_⟩
    exact keeps.fresh other member (List.mem_cons_of_mem _ old)
  adds config after succeeds other := by
    rw [keeps.adds config after succeeds other, List.mem_cons, List.mem_cons]
    tauto

theorem Reading.keeps {task : Task} {course : Course} (reading : Reading folder task course) :
    course.Keeps task.seen := by
  induction reading with
  | known old => exact .of_error List.nodup_nil (by simp)
  | unreadable new fails =>
    exact .of_error (by simp) (by simpa [Task.seen] using new)
  | readable new given _ ih => exact .own new ih
  | done => exact ⟨List.nodup_nil, by simp, fun config after succeeds place => by
      cases succeeds
      simp [Task.seen]⟩
  | unresolved fails => exact .of_error List.nodup_nil (by simp)
  | failing means _ ih => exact .of_error ih.once ih.fresh
  | unfit means _ fails ih => exact .of_error ih.once ih.fresh
  | next means _ fills _ ihFirst ihLater => exact ihFirst.next ihLater

/-- A reading that succeeds forgets no file. -/
theorem Reading.subset_after {task : Task} {config : ProjectConfig} {after : Seen}
    {read : List (List String)} {depth : Nat}
    (reading : Reading folder task ⟨.ok (config, after), read, depth⟩) : task.seen ⊆ after :=
  fun place old => (reading.keeps.adds config after rfl place).mpr (.inr old)

/-- The rules leave no choice. -/
theorem Reading.unique {task : Task} {course other : Course} (reading : Reading folder task course)
    (otherwise : Reading folder task other) : course = other := by
  induction reading generalizing other with
  | known old =>
    cases otherwise with
    | known => rfl
    | unreadable new => exact absurd old new
    | readable new => exact absurd old new
  | unreadable new fails =>
    cases otherwise with
    | known old => exact absurd old new
    | unreadable _ failsToo =>
      cases fails.symm.trans failsToo
      rfl
    | readable _ given => cases fails.symm.trans given
  | readable new given _ ih =>
    cases otherwise with
    | known old => exact absurd old new
    | unreadable _ fails => cases given.symm.trans fails
    | readable _ givenToo onward =>
      cases given.symm.trans givenToo
      cases ih onward
      rfl
  | done =>
    cases otherwise with
    | done => rfl
  | unresolved fails =>
    cases otherwise with
    | unresolved failsToo =>
      cases fails.symm.trans failsToo
      rfl
    | failing means => cases fails.symm.trans means
    | unfit means => cases fails.symm.trans means
    | next means => cases fails.symm.trans means
  | failing means _ ih =>
    cases otherwise with
    | unresolved fails => cases means.symm.trans fails
    | failing meansToo first =>
      cases means.symm.trans meansToo
      exact ih first
    | unfit meansToo first =>
      cases means.symm.trans meansToo
      cases ih first
    | next meansToo first =>
      cases means.symm.trans meansToo
      cases ih first
  | unfit means _ fails ih =>
    cases otherwise with
    | unresolved fails => cases means.symm.trans fails
    | failing meansToo first =>
      cases means.symm.trans meansToo
      cases ih first
    | unfit meansToo first failsToo =>
      cases means.symm.trans meansToo
      cases ih first
      cases fails.symm.trans failsToo
      rfl
    | next meansToo first fills =>
      cases means.symm.trans meansToo
      cases ih first
      cases fails.symm.trans fills
  | next means _ fills _ ihFirst ihLater =>
    cases otherwise with
    | unresolved fails => cases means.symm.trans fails
    | failing meansToo first =>
      cases means.symm.trans meansToo
      cases ihFirst first
    | unfit meansToo first fails =>
      cases means.symm.trans meansToo
      cases ihFirst first
      cases fills.symm.trans fails
    | next meansToo first fillsToo onward =>
      cases means.symm.trans meansToo
      cases ihFirst first
      cases fills.symm.trans fillsToo
      cases ihLater onward
      rfl

end Courses

section Unread

/-- The number of files that have not been read. -/
def unread (folder : Folder) (seen : Seen) : Nat :=
  folder.files.countP fun file => !seen.contains file.1

theorem unread_nil : unread folder [] = folder.files.length := by
  simp [unread]

theorem countP_unread_le (files : List (List String × File)) {seen after : Seen}
    (subset : seen ⊆ after) :
    (files.countP fun file => !after.contains file.1) ≤
      files.countP fun file => !seen.contains file.1 := by
  refine List.countP_mono_left fun file _ new => ?_
  simp only [Bool.not_eq_true', ← Bool.not_eq_true, List.contains_iff_mem] at new ⊢
  exact fun old => new (subset old)

theorem unread_le_of_subset (folder : Folder) {seen after : Seen} (subset : seen ⊆ after) :
    unread folder after ≤ unread folder seen :=
  countP_unread_le folder.files subset

/-- A file that is read is one less to read. -/
theorem unread_cons_lt {place : List String} {seen : Seen} (new : place ∉ seen)
    (there : (folder.file? place).isSome = true) :
    unread folder (place :: seen) < unread folder seen := by
  obtain ⟨file, found⟩ := Option.isSome_iff_exists.mp there
  obtain ⟨before, behind, split⟩ := List.append_of_mem (Folder.mem_of_file? found)
  -- Elsewhere no more files are left than before, and here there is one less.
  have fewerBefore := countP_unread_le before (List.subset_cons_self place seen)
  have fewerBehind := countP_unread_le behind (List.subset_cons_self place seen)
  have here : (!seen.contains place) = true := by simpa using new
  have gone : (!(place :: seen).contains place) = false := by simp
  simp only [unread, split, List.countP_append, List.countP_cons, here, gone, if_true,
    Bool.false_eq_true, if_false]
  omega

theorem Reading.depth_le {task : Task} {course : Course} (reading : Reading folder task course) :
    course.depth ≤ unread folder task.seen + 1 := by
  induction reading with
  | known old => exact Nat.le_add_left 1 _
  | unreadable new fails => exact Nat.le_add_left 1 _
  | readable new given _ ih =>
    have less := unread_cons_lt new (isSome_file_of_ownSettings given)
    simp only [Task.seen] at ih ⊢
    omega
  | done => exact Nat.zero_le _
  | unresolved fails => exact Nat.zero_le _
  | failing means _ ih => exact ih
  | unfit means _ fails ih => exact ih
  | next means first fills _ ihFirst ihLater =>
    have less := unread_le_of_subset folder first.subset_after
    simp only [Task.seen] at ihFirst ihLater less ⊢
    omega

theorem exists_reading_rest {most : Nat}
    (each : ∀ place seen, unread folder seen ≤ most →
      ∃ course, Reading folder (.file place seen) course)
    (config : ProjectConfig) (seen : Seen) (references : List Json)
    (few : unread folder seen ≤ most) :
    ∃ course, Reading folder (.rest config seen references) course := by
  induction references generalizing config seen with
  | nil => exact ⟨_, .done⟩
  | cons reference rest ih =>
    cases means : resolveExtends folder config.root reference with
    | error error => exact ⟨_, .unresolved means⟩
    | ok path =>
      obtain ⟨⟨result, read, depth⟩, first⟩ := each (folder.resolve path) seen few
      cases result with
      | error error => exact ⟨_, .failing means first⟩
      | ok loaded =>
        obtain ⟨parent, between⟩ := loaded
        cases fills : config.inherit parent with
        | error fault => exact ⟨_, .unfit means first fills⟩
        | ok child =>
          have fewer := unread_le_of_subset folder first.subset_after
          obtain ⟨later, onward⟩ := ih child between (le_trans fewer few)
          exact ⟨_, .next means first fills onward⟩

theorem exists_reading_file (place : List String) (seen : Seen) :
    ∃ course, Reading folder (.file place seen) course := by
  -- The induction is on the number of files that are left.
  induction left : unread folder seen using Nat.strong_induction_on generalizing place seen with
  | _ left ih =>
    by_cases old : place ∈ seen
    · exact ⟨_, .known old⟩
    · cases given : ownSettings folder place with
      | error error => exact ⟨_, .unreadable old given⟩
      | ok own =>
        have less := unread_cons_lt old (isSome_file_of_ownSettings given)
        obtain ⟨inner, onward⟩ := exists_reading_rest
          (fun next between few => ih _ (by omega) next between rfl) own.1 (place :: seen) own.2
          le_rfl
        exact ⟨_, .readable old given onward⟩

theorem exists_reading (folder : Folder) (task : Task) : ∃ course, Reading folder task course := by
  cases task with
  | file place seen => exact exists_reading_file place seen
  | rest config seen references =>
    exact exists_reading_rest (fun place seen _ => exists_reading_file place seen) config seen
      references le_rfl

/-- Readings inside each other have ever fewer files left. -/
theorem unread_lt_of_begins {outer inner : List String × Seen}
    (begins : Begins folder outer inner) :
    unread folder inner.2 < unread folder outer.2 := by
  cases begins with
  | intro new given earlier means =>
    exact lt_of_le_of_lt (unread_le_of_subset folder earlier.subset_after)
      (unread_cons_lt new (isSome_file_of_ownSettings given))

theorem wellFounded_begins (folder : Folder) :
    WellFounded fun inner outer => Begins folder outer inner :=
  Subrelation.wf unread_lt_of_begins
    (measure fun reading : List String × Seen => unread folder reading.2).wf

end Unread

/-- Reading a configuration comes to an end, whatever the files refer to. No reading of a file
begins readings without end, and the rules lead to just one course. In it no file is read twice, the
readings inside each other are at most one more than the files, and its result is that of loading.
-/
theorem load_ends (folder : Folder) (base name : String) :
    (WellFounded fun inner outer => Begins folder outer inner) ∧
    (∀ task, ∃! course, Reading folder task course) ∧
    ∀ path, find? folder base name = .ok (some path) →
      ∃ course, Reading folder (.file (folder.resolve path) []) course ∧ course.read.Nodup ∧
        course.depth ≤ folder.files.length + 1 ∧
        load folder base name = course.result.map Prod.fst := by
  refine ⟨wellFounded_begins folder, fun task => ?_, fun path finds => ?_⟩
  · obtain ⟨course, reading⟩ := exists_reading folder task
    exact ⟨course, reading, fun other otherwise => otherwise.unique reading⟩
  · obtain ⟨course, reading⟩ := exists_reading folder (.file (folder.resolve path) [])
    have depth_le : course.depth ≤ folder.files.length + 1 := by
      rw [← unread_nil]
      exact reading.depth_le
    have loaded := reading.answer_eq depth_le
    refine ⟨course, reading, reading.keeps.once, depth_le, ?_⟩
    rw [Task.answer] at loaded
    rw [load_of_find finds, loaded]
    cases course.result with
    | error error => rfl
    | ok result => rfl

end ProjectConfig

namespace Ring

open ProjectConfig

/-- A configuration that extends a package, which extends the configuration. -/
def folder : Folder where
  files := [(["app", "tsconfig.json"], .ofText "\x7b\"extends\": \"base\"\x7d"),
    (["node_modules", "base.json"], .ofText "\x7b\"extends\": [\"../app/tsconfig.json\"]\x7d")]
  directories := []
  current := []

theorem find_app :
    find? folder "app" "tsconfig.json" = .ok (some (.absolute ["app", "tsconfig.json"])) := by
  decide

theorem load_ends_app : ∃ course, Reading folder (.file ["app", "tsconfig.json"] []) course ∧
    course.read.Nodup ∧ course.depth ≤ 3 ∧
    load folder "app" "tsconfig.json" = course.result.map Prod.fst :=
  (load_ends folder "app" "tsconfig.json").2.2 _ find_app

end Ring

end LeastGrant
