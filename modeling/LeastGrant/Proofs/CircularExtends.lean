import LeastGrant.Proofs.InheritedSettings
import Mathlib.Logic.Relation

/-! When reading a configuration ends with a circle. The files that have been read are kept for the
whole reading, not for the way from the first file on. So a circle is reported exactly if two different
ways along references lead to one file. A circle of references is such a case, and a file that is
extended by two others is one too. -/
namespace LeastGrant

namespace ProjectConfig

variable {folder : Folder} {place : List String}

section Ways

/-- Where a way leads that is given by the numbers of the references to take. -/
inductive Leads (folder : Folder) : (place : List String) → (way : List Nat) → (goal : List String) → Prop
  | here {place : List String} : Leads folder place [] place
  | step {place next goal : List String} {listed : List Json} {reference : Json} {n : Nat}
      {way : List Nat} (refers : FileReferences folder place listed) (named : listed[n]? = some reference)
      (means : Means folder place.dropLast reference next) (onward : Leads folder next way goal) :
      Leads folder place (n :: way) goal

/-- Where a way leads that begins with one of some references. -/
inductive LeadsFrom (folder : Folder) (directory : List String) (listed : List Json) :
    (way : List Nat) → (goal : List String) → Prop
  | step {next goal : List String} {reference : Json} {n : Nat} {way : List Nat}
      (named : listed[n]? = some reference) (means : Means folder directory reference next)
      (onward : Leads folder next way goal) : LeadsFrom folder directory listed (n :: way) goal

/-- Two different ways lead to one file. -/
def MeetsTwice (ways : List Nat → List String → Prop) : Prop :=
  ∃ a b goal, a ≠ b ∧ ways a goal ∧ ways b goal

variable {directory target goal : List String} {listed : List Json} {reference : Json}

theorem Leads.append {a b : List Nat} (first : Leads folder place a goal)
    (second : Leads folder goal b target) : Leads folder place (a ++ b) target := by
  induction first with
  | here => exact second
  | step refers named means _ ih => exact .step refers named means (ih second)

theorem exists_leads_of_extends (extended : Extends folder place target) :
    ∃ n, Leads folder place [n] target := by
  obtain ⟨listed, refers, reference, member, means⟩ := extended
  obtain ⟨n, named⟩ := List.mem_iff_getElem?.mp member
  exact ⟨n, .step refers named means .here⟩

theorem exists_leads_of_reaches (reaches : Relation.ReflTransGen (Extends folder) place goal) :
    ∃ way, Leads folder place way goal := by
  induction reaches with
  | refl => exact ⟨[], .here⟩
  | tail _ last ih =>
    obtain ⟨way, before⟩ := ih
    obtain ⟨n, further⟩ := exists_leads_of_extends last
    exact ⟨way ++ [n], before.append further⟩

/-- Around a circle, a way leads to where another one has come. -/
theorem meetsTwice_of_circle (reaches : Relation.ReflTransGen (Extends folder) place goal)
    (circle : Relation.TransGen (Extends folder) goal goal) : MeetsTwice (Leads folder place) := by
  obtain ⟨way, leads⟩ := exists_leads_of_reaches reaches
  obtain ⟨next, first, back⟩ := Relation.TransGen.head'_iff.mp circle
  obtain ⟨n, further⟩ := exists_leads_of_extends first
  obtain ⟨rest, returns⟩ := exists_leads_of_reaches back
  exact ⟨way, way ++ ([n] ++ rest), goal, by simp, leads, leads.append (further.append returns)⟩

theorem LeadsFrom.leads {way : List Nat} (refers : FileReferences folder place listed)
    (leads : LeadsFrom folder place.dropLast listed way goal) : Leads folder place way goal := by
  cases leads with
  | step named means onward => exact .step refers named means onward

theorem Leads.leadsFrom {n : Nat} {way : List Nat} (refers : FileReferences folder place listed)
    (leads : Leads folder place (n :: way) goal) :
    LeadsFrom folder place.dropLast listed (n :: way) goal := by
  cases leads with
  | step refersToo named means onward =>
    cases refers.unique refersToo
    exact .step named means onward

/-- A way from a list of references begins with the first of them or with a later one. -/
theorem leadsFrom_cons {way : List Nat} (means : Means folder directory reference target) :
    LeadsFrom folder directory (reference :: listed) way goal ↔
      (∃ rest, way = 0 :: rest ∧ Leads folder target rest goal) ∨
        ∃ n rest, way = (n + 1) :: rest ∧ LeadsFrom folder directory listed (n :: rest) goal := by
  constructor
  · intro leads
    cases leads with
    | @step next _ other n rest named meansToo onward =>
      cases n with
      | zero =>
        cases named
        cases means.unique meansToo
        exact .inl ⟨rest, rfl, onward⟩
      | succ n => exact .inr ⟨n, rest, rfl, .step named meansToo onward⟩
  · rintro (⟨rest, rfl, onward⟩ | ⟨n, rest, rfl, later⟩)
    · exact .step rfl means onward
    · cases later with
      | step named meansToo onward => exact .step named meansToo onward

theorem LeadsFrom.later {n : Nat} {way : List Nat}
    (leads : LeadsFrom folder directory listed (n :: way) goal) :
    LeadsFrom folder directory (reference :: listed) ((n + 1) :: way) goal := by
  cases leads with
  | step named means onward => exact .step named means onward

theorem MeetsTwice.first (means : Means folder directory reference target)
    (twice : MeetsTwice (Leads folder target)) :
    MeetsTwice (LeadsFrom folder directory (reference :: listed)) := by
  obtain ⟨a, b, goal, differ, one, other⟩ := twice
  exact ⟨0 :: a, 0 :: b, goal, by simpa using differ, .step rfl means one, .step rfl means other⟩

theorem MeetsTwice.later (twice : MeetsTwice (LeadsFrom folder directory listed)) :
    MeetsTwice (LeadsFrom folder directory (reference :: listed)) := by
  obtain ⟨_, _, goal, differ, @⟨_, _, _, n, a, named, means, onward⟩,
    @⟨_, _, _, m, b, namedToo, meansToo, onwardToo⟩⟩ := twice
  exact ⟨(n + 1) :: a, (m + 1) :: b, goal, by simpa using differ, .step named means onward,
    .step namedToo meansToo onwardToo⟩

theorem MeetsTwice.of_references (refers : FileReferences folder place listed)
    (twice : MeetsTwice (LeadsFrom folder place.dropLast listed)) : MeetsTwice (Leads folder place) := by
  obtain ⟨a, b, goal, differ, one, other⟩ := twice
  exact ⟨a, b, goal, differ, one.leads refers, other.leads refers⟩

end Ways

section Readings

variable {directory target : List String} {listed : List Json} {reference : Json}

/-- A reading that succeeds comes to each file along one way. -/
structure Explores (ways : List Nat → List String → Prop) (new : Seen) : Prop where
  reached : ∀ goal ∈ new, ∃ way, ways way goal
  covered : ∀ way goal, ways way goal → goal ∈ new
  unique : ∀ a b goal, ways a goal → ways b goal → a = b

theorem not_leadsFrom_nil {way : List Nat} {goal : List String} :
    ¬LeadsFrom folder directory [] way goal := by
  intro leads
  cases leads with
  | step named _ _ => cases named

theorem Explores.nil : Explores (LeadsFrom folder directory []) [] where
  reached := by simp
  covered way goal leads := (not_leadsFrom_nil leads).elim
  unique a b goal leads _ := (not_leadsFrom_nil leads).elim

theorem Explores.cons {new later : Seen} (means : Means folder directory reference target)
    (first : Explores (Leads folder target) new) (rest : Explores (LeadsFrom folder directory listed) later)
    (apart : ∀ goal ∈ later, goal ∉ new) :
    Explores (LeadsFrom folder directory (reference :: listed)) (later ++ new) where
  reached goal member := by
    rcases List.mem_append.mp member with inLater | inNew
    · obtain ⟨way, leads⟩ := rest.reached goal inLater
      cases leads with
      | step named meansToo onward => exact ⟨_, .later (.step named meansToo onward)⟩
    · obtain ⟨way, leads⟩ := first.reached goal inNew
      exact ⟨0 :: way, .step rfl means leads⟩
  covered way goal leads := by
    rcases (leadsFrom_cons means).mp leads with ⟨more, -, here⟩ | ⟨n, more, -, there⟩
    · exact List.mem_append_right _ (first.covered _ _ here)
    · exact List.mem_append_left _ (rest.covered _ _ there)
  unique a b goal one other := by
    rcases (leadsFrom_cons means).mp one with ⟨a, rfl, here⟩ | ⟨n, a, rfl, there⟩
    · rcases (leadsFrom_cons means).mp other with ⟨b, rfl, hereToo⟩ | ⟨m, b, rfl, thereToo⟩
      · rw [first.unique _ _ _ here hereToo]
      · exact absurd (first.covered _ _ here) (apart _ (rest.covered _ _ thereToo))
    · rcases (leadsFrom_cons means).mp other with ⟨b, rfl, hereToo⟩ | ⟨m, b, rfl, thereToo⟩
      · exact absurd (first.covered _ _ hereToo) (apart _ (rest.covered _ _ there))
      · obtain ⟨rfl, rfl⟩ := List.cons.inj (rest.unique _ _ _ there thereToo)
        rfl

theorem Explores.own {new : Seen} (refers : FileReferences folder place listed)
    (rest : Explores (LeadsFrom folder place.dropLast listed) new) (apart : place ∉ new) :
    Explores (Leads folder place) (new ++ [place]) where
  reached goal member := by
    rcases List.mem_append.mp member with inNew | here
    · obtain ⟨way, leads⟩ := rest.reached goal inNew
      exact ⟨way, leads.leads refers⟩
    · cases List.mem_singleton.mp here
      exact ⟨[], .here⟩
  covered way goal leads := by
    cases way with
    | nil =>
      cases leads
      simp
    | cons n way => exact List.mem_append_left _ (rest.covered _ goal (leads.leadsFrom refers))
  unique a b goal one other := by
    cases a with
    | nil =>
      cases one
      cases b with
      | nil => rfl
      | cons m b => exact absurd (rest.covered _ _ (other.leadsFrom refers)) apart
    | cons n a =>
      cases b with
      | nil =>
        cases other
        exact absurd (rest.covered _ _ (one.leadsFrom refers)) apart
      | cons m b => exact rest.unique _ _ goal (one.leadsFrom refers) (other.leadsFrom refers)

/-- The settings of a configuration file itself. -/
def Own (folder : Folder) (place : List String) (config : ProjectConfig) : Prop :=
  ∃ value, document folder place = .ok value ∧ ofJson place value = .ok config

theorem own_iff {config : ProjectConfig} :
    Own folder place config ↔
      ((document folder place).toOption.bind fun value => (ofJson place value).toOption) =
        some config := by
  rw [Own]
  cases document folder place with
  | error error => simp [Except.toOption]
  | ok value => cases made : ofJson place value <;> simp [Except.toOption, made]

instance (folder : Folder) (place : List String) (config : ProjectConfig) :
    Decidable (Own folder place config) :=
  decidable_of_iff _ own_iff.symm

theorem Own.unique {config other : ProjectConfig} (first : Own folder place config)
    (second : Own folder place other) : config = other :=
  Option.some.inj ((own_iff.mp first).symm.trans (own_iff.mp second))

theorem Own.place_eq {config : ProjectConfig} (own : Own folder place config) :
    config.place = place := by
  obtain ⟨value, -, made⟩ := own
  exact place_ofJson made

theorem Own.root_eq {config : ProjectConfig} (own : Own folder place config) :
    config.root = place.dropLast := by
  rw [root, own.place_eq]

/-- What a reading of one file has done that succeeds. -/
theorem inheritAll_of_loadFrom {depth : Nat} {seen after : Seen} {config : ProjectConfig}
    (h : loadFrom folder (depth + 1) place seen = .ok (config, after)) :
    place ∉ seen ∧ ∃ own listed, Own folder place own ∧ FileReferences folder place listed ∧
      inheritAll folder (loadFrom folder depth) own (place :: seen) listed = .ok (config, after) := by
  obtain ⟨new, own, listed, given, h⟩ := exists_of_loadFrom h
  obtain ⟨value, document_eq, made, named⟩ := ownSettings_eq_ok.mp given
  exact ⟨new, own, listed, ⟨value, document_eq, made⟩,
    ⟨value, document_eq, extendsReferences_eq_ok.mp named⟩, h⟩

/-- What a reading of extended files has done that succeeds. -/
theorem cons_of_inheritAll {load : List String → Seen → Except ConfigError (ProjectConfig × Seen)}
    {config result : ProjectConfig} {seen after : Seen} {rest : List Json}
    (h : inheritAll folder load config seen (reference :: rest) = .ok (result, after)) :
    ∃ target parent between child, Means folder config.root reference target ∧
      load target seen = .ok (parent, between) ∧ config.inherit parent = .ok child ∧
      inheritAll folder load child between rest = .ok (result, after) := by
  obtain ⟨path, parent, between, child, means, loaded, inherited, h⟩ := exists_of_inheritAll h
  exact ⟨_, parent, between, child, ⟨path, means, rfl⟩, loaded, inherited, h⟩

theorem explores_of_inheritAll {depth : Nat}
    (each : ∀ place seen config after, loadFrom folder depth place seen = .ok (config, after) →
      ∃ new, after = new ++ seen ∧ Explores (Leads folder place) new)
    {config result : ProjectConfig} {seen after : Seen}
    (h : inheritAll folder (loadFrom folder depth) config seen listed = .ok (result, after)) :
    ∃ new, after = new ++ seen ∧ (∀ goal ∈ new, goal ∉ seen) ∧
      Explores (LeadsFrom folder config.root listed) new := by
  induction listed generalizing config seen with
  | nil =>
    cases h
    exact ⟨[], rfl, by simp, .nil⟩
  | cons reference rest ih =>
    obtain ⟨target, parent, between, child, means, loaded, inherited, h⟩ := cons_of_inheritAll h
    obtain ⟨new, rfl, explored⟩ := each _ _ _ _ loaded
    obtain ⟨later, rfl, fresh, exploredLater⟩ := ih h
    have same : child.root = config.root := by rw [root, root, place_inherit inherited]
    obtain ⟨added, whole, reads⟩ := reads_of_loadFrom loaded
    obtain rfl := List.append_cancel_right whole
    rw [same] at exploredLater
    refine ⟨later ++ new, by simp, ?_, explored.cons means exploredLater ?_⟩
    · intro goal member
      rcases List.mem_append.mp member with inLater | inNew
      · exact fun old => fresh goal inLater (List.mem_append_right _ old)
      · exact reads.adds.fresh goal inNew
    · exact fun goal member inNew => fresh goal member (List.mem_append_left _ inNew)

/-- No two ways lead to one file if a reading succeeds. -/
theorem explores_of_loadFrom {depth : Nat} {seen after : Seen} {config : ProjectConfig}
    (h : loadFrom folder depth place seen = .ok (config, after)) :
    ∃ new, after = new ++ seen ∧ Explores (Leads folder place) new := by
  induction depth generalizing place seen config after with
  | zero => cases h
  | succ depth ih =>
    obtain ⟨-, own, listed, mine, refers, h⟩ := inheritAll_of_loadFrom h
    obtain ⟨new, rfl, fresh, explored⟩ := explores_of_inheritAll (fun _ _ _ _ => ih) h
    rw [mine.root_eq] at explored
    exact ⟨new ++ [place], by simp,
      explored.own refers fun member => fresh place member List.mem_cons_self⟩

end Readings

section Circles

variable {directory target : List String} {listed : List Json} {reference : Json}

/-- A configuration file that can be read and whose references all mean files. -/
def Readable (folder : Folder) (place : List String) : Prop :=
  ∃ listed, FileReferences folder place listed ∧
    ∀ reference ∈ listed, ∃ target, Means folder place.dropLast reference target

/-- A result that reports a circle. -/
def IsCircular {α : Type} (result : Except ConfigError α) : Prop :=
  ∃ path, result = .error (.malformed path .circular)

/-- The files read so far, none of them twice, leave enough depth for all others. -/
structure Bounded (folder : Folder) (depth : Nat) (seen : Seen) : Prop where
  once : seen.Nodup
  there : ∀ place ∈ seen, (folder.file? place).isSome = true
  enough : folder.files.length < depth + seen.length

theorem Bounded.not_zero {seen : Seen} (bounded : Bounded folder 0 seen) : False := by
  have adds : Adds folder seen [] := ⟨bounded.once, by simp, bounded.there, by simp⟩
  have most := adds.length_le
  have enough := bounded.enough
  omega

theorem Bounded.append {depth : Nat} {new seen : Seen} (bounded : Bounded folder depth seen)
    (adds : Adds folder new seen) : Bounded folder depth (new ++ seen) where
  once := List.nodup_append.mpr ⟨adds.once, bounded.once, fun place inNew other inSeen same =>
    adds.fresh place inNew (same ▸ inSeen)⟩
  there place member := by
    rcases List.mem_append.mp member with inNew | inSeen
    · exact adds.there place inNew
    · exact bounded.there place inSeen
  enough := by
    have enough := bounded.enough
    rw [List.length_append]
    omega

theorem Bounded.cons {depth : Nat} {seen : Seen} (bounded : Bounded folder (depth + 1) seen)
    (fresh : place ∉ seen) (there : (folder.file? place).isSome = true) :
    Bounded folder depth (place :: seen) where
  once := List.nodup_cons.mpr ⟨fresh, bounded.once⟩
  there := List.forall_mem_cons.mpr ⟨there, bounded.there⟩
  enough := by
    have enough := bounded.enough
    rw [List.length_cons]
    omega

/-- A way leads to a file that has been read before, or two ways lead to one file. -/
def Collides (ways : List Nat → List String → Prop) (seen : Seen) : Prop :=
  (∃ way goal, ways way goal ∧ goal ∈ seen) ∨ MeetsTwice ways

theorem not_isCircular_ok {α : Type} {value : α} : ¬IsCircular (.ok value) := by
  intro h
  obtain ⟨path, same⟩ := h
  cases same

theorem not_isCircular_usable {α : Type} {fault : ValueFault} :
    ¬IsCircular (.error (.unusable fault) : Except ConfigError α) := by
  intro h
  obtain ⟨path, same⟩ := h
  cases same

theorem Collides.first {seen : Seen} (means : Means folder directory reference target)
    (collides : Collides (Leads folder target) seen) :
    Collides (LeadsFrom folder directory (reference :: listed)) seen := by
  rcases collides with ⟨way, goal, leads, old⟩ | twice
  · exact .inl ⟨0 :: way, goal, .step rfl means leads, old⟩
  · exact .inr (twice.first means)

theorem Collides.later {new seen : Seen} (means : Means folder directory reference target)
    (explored : Explores (Leads folder target) new)
    (collides : Collides (LeadsFrom folder directory listed) (new ++ seen)) :
    Collides (LeadsFrom folder directory (reference :: listed)) seen := by
  rcases collides with ⟨_, goal, @⟨_, _, _, n, way, named, further, onward⟩, known⟩ | twice
  · have leads : LeadsFrom folder directory (reference :: listed) ((n + 1) :: way) goal :=
      .step named further onward
    rcases List.mem_append.mp known with inNew | old
    · obtain ⟨other, before⟩ := explored.reached goal inNew
      exact .inr ⟨0 :: other, (n + 1) :: way, goal, by simp, .step rfl means before, leads⟩
    · exact .inl ⟨(n + 1) :: way, goal, leads, old⟩
  · exact .inr twice.later

theorem Collides.own {seen : Seen} (refers : FileReferences folder place listed)
    (collides : Collides (LeadsFrom folder place.dropLast listed) (place :: seen)) :
    Collides (Leads folder place) seen := by
  rcases collides with ⟨way, goal, leads, known⟩ | twice
  · rcases List.mem_cons.mp known with rfl | old
    · refine .inr ⟨way, [], goal, ?_, leads.leads refers, .here⟩
      rintro rfl
      cases leads
    · exact .inl ⟨way, goal, leads.leads refers, old⟩
  · exact .inr (twice.of_references refers)

theorem inheritAll_cons {load : List String → Seen → Except ConfigError (ProjectConfig × Seen)}
    {config : ProjectConfig} {seen : Seen} (rest : List Json)
    (means : Means folder config.root reference target) :
    inheritAll folder load config seen (reference :: rest) =
      load target seen >>= fun result => usable (config.inherit result.1) >>= fun child =>
        inheritAll folder load child result.2 rest := by
  obtain ⟨path, found, rfl⟩ := means
  exact inheritAll_of_resolve found

theorem loadFrom_fresh (depth : Nat) {seen : Seen} (fresh : place ∉ seen)
    (refers : FileReferences folder place listed) :
    ∃ value, document folder place = .ok value ∧
      loadFrom folder (depth + 1) place seen = usable (ofJson place value) >>= fun own =>
        inheritAll folder (loadFrom folder depth) own (place :: seen) listed := by
  obtain ⟨value, given, lists⟩ := refers
  refine ⟨value, given, ?_⟩
  rw [loadFrom_of_new fresh, ownSettings, bind_of_ok given, extendsReferences_eq_ok.mpr lists]
  cases ofJson place value with
  | error fault => rfl
  | ok own => rfl

/-- A file from which every file that can be reached can be read. -/
def Ready (folder : Folder) (place : List String) : Prop :=
  ∀ next, Relation.ReflTransGen (Extends folder) place next → Readable folder next

theorem Ready.onward (ready : Ready folder place) (extended : Extends folder place target) :
    Ready folder target :=
  fun next reaches => ready next (.head extended reaches)

/-- The references of a file that is ready, with the files that they mean. -/
theorem Ready.references (ready : Ready folder place) : ∃ listed, FileReferences folder place listed ∧
    ∀ reference ∈ listed, ∃ target,
      Means folder place.dropLast reference target ∧ Extends folder place target := by
  obtain ⟨listed, refers, each⟩ := ready place .refl
  refine ⟨listed, refers, fun reference member => ?_⟩
  obtain ⟨target, means⟩ := each reference member
  exact ⟨target, means, listed, refers, reference, member, means⟩

theorem collides_of_inheritAll {depth : Nat} {P : List String → Prop}
    (each : ∀ target seen, P target → Bounded folder depth seen →
      IsCircular (loadFrom folder depth target seen) → Collides (Leads folder target) seen)
    {config : ProjectConfig} {seen : Seen}
    (resolves : ∀ reference ∈ listed, ∃ target, Means folder config.root reference target ∧ P target)
    (bounded : Bounded folder depth seen)
    (h : IsCircular (inheritAll folder (loadFrom folder depth) config seen listed)) :
    Collides (LeadsFrom folder config.root listed) seen := by
  induction listed generalizing config seen with
  | nil => exact absurd h not_isCircular_ok
  | cons reference rest ih =>
    obtain ⟨⟨target, means, holds⟩, others⟩ := List.forall_mem_cons.mp resolves
    rw [inheritAll_cons rest means] at h
    cases loaded : loadFrom folder depth target seen with
    | error error =>
      rw [loaded] at h
      exact .first means (each target seen holds bounded (loaded ▸ h))
    | ok result =>
      obtain ⟨parent, between⟩ := result
      rw [loaded] at h
      obtain ⟨new, rfl, reads⟩ := reads_of_loadFrom loaded
      obtain ⟨added, whole, explored⟩ := explores_of_loadFrom loaded
      obtain rfl := List.append_cancel_right whole
      replace h : IsCircular (usable (config.inherit parent) >>= fun child =>
        inheritAll folder (loadFrom folder depth) child (new ++ seen) rest) := h
      cases inherited : config.inherit parent with
      | error fault =>
        rw [inherited] at h
        exact absurd h not_isCircular_usable
      | ok child =>
        rw [inherited] at h
        have same : child.root = config.root := by rw [root, root, place_inherit inherited]
        rw [← same] at others means ⊢
        exact .later means explored (ih others (bounded.append reads.adds) h)

/-- A circle is reported only where ways meet. -/
theorem collides_of_loadFrom {depth : Nat} {seen : Seen} (ready : Ready folder place)
    (bounded : Bounded folder depth seen) (h : IsCircular (loadFrom folder depth place seen)) :
    Collides (Leads folder place) seen := by
  induction depth generalizing place seen with
  | zero => exact bounded.not_zero.elim
  | succ depth ih =>
    by_cases old : place ∈ seen
    · exact .inl ⟨[], place, .here, old⟩
    · obtain ⟨listed, refers, each⟩ := ready.references
      obtain ⟨value, given, reads⟩ := loadFrom_fresh depth old refers
      rw [reads] at h
      cases made : ofJson place value with
      | error fault =>
        rw [made] at h
        exact absurd h not_isCircular_usable
      | ok own =>
        rw [made] at h
        have mine : Own folder place own := ⟨value, given, made⟩
        rw [← mine.root_eq] at each
        have collides := collides_of_inheritAll (fun _ _ extended => ih (ready.onward extended)) each
          (bounded.cons old (exists_file_of_document given)) h
        rw [mine.root_eq] at collides
        exact collides.own refers

/-- The settings of a file itself, with lists of texts. -/
def Typed (folder : Folder) (place : List String) : Prop :=
  ∃ own, Own folder place own ∧ own.TextLists

theorem inheritAll_ok_or_circular {depth : Nat} {P : List String → Prop}
    (each : ∀ target seen, P target →
      (∃ config after, loadFrom folder depth target seen = .ok (config, after) ∧ config.TextLists) ∨
        IsCircular (loadFrom folder depth target seen))
    {config : ProjectConfig} {seen : Seen} (typed : config.TextLists)
    (resolves : ∀ reference ∈ listed, ∃ target, Means folder config.root reference target ∧ P target) :
    (∃ result after, inheritAll folder (loadFrom folder depth) config seen listed =
        .ok (result, after) ∧ result.TextLists) ∨
      IsCircular (inheritAll folder (loadFrom folder depth) config seen listed) := by
  induction listed generalizing config seen with
  | nil => exact .inl ⟨config, seen, rfl, typed⟩
  | cons reference rest ih =>
    obtain ⟨⟨target, means, holds⟩, others⟩ := List.forall_mem_cons.mp resolves
    rw [inheritAll_cons rest means]
    rcases each target seen holds with ⟨parent, between, loaded, typedParent⟩ | ⟨path, failed⟩
    · have inherited := inherit_eq typed typedParent
      have typedChild := textLists_inherit typed typedParent inherited
      rw [loaded]
      show (∃ result after, (usable (config.inherit parent) >>= fun child =>
          inheritAll folder (loadFrom folder depth) child between rest) = .ok (result, after) ∧
            result.TextLists) ∨
        IsCircular (usable (config.inherit parent) >>= fun child =>
          inheritAll folder (loadFrom folder depth) child between rest)
      rw [inherited]
      exact ih typedChild others
    · right
      rw [failed]
      exact ⟨path, rfl⟩

/-- A reading of files with lists of texts succeeds or reports a circle. -/
theorem loadFrom_ok_or_circular {depth : Nat} {seen : Seen} (ready : Ready folder place)
    (typed : ∀ next, Relation.ReflTransGen (Extends folder) place next → Typed folder next) :
    (∃ config after, loadFrom folder depth place seen = .ok (config, after) ∧ config.TextLists) ∨
      IsCircular (loadFrom folder depth place seen) := by
  induction depth generalizing place seen with
  | zero => exact .inr ⟨_, rfl⟩
  | succ depth ih =>
    by_cases old : place ∈ seen
    · right
      rw [loadFrom_of_old old]
      exact ⟨_, rfl⟩
    · obtain ⟨own, mine, lists⟩ := typed place .refl
      obtain ⟨listed, refers, each⟩ := ready.references
      obtain ⟨value, given, reads⟩ := loadFrom_fresh depth old refers
      have made : ofJson place value = .ok own := by
        obtain ⟨other, givenToo, made⟩ := mine
        cases given.symm.trans givenToo
        exact made
      rw [← mine.root_eq] at each
      rw [reads, made]
      refine inheritAll_ok_or_circular (fun target after extended => ?_) lists each
      refine ih (ready.onward extended) fun next reaches => ?_
      exact typed next (.head extended reaches)

theorem load_of_find {base name : String} {path : Path}
    (finds : find? folder base name = .ok (some path)) :
    load folder base name =
      loadFrom folder (folder.files.length + 1) (folder.resolve path) [] >>= fun result =>
        .ok result.1 := by
  unfold load
  exact bind_of_ok finds

theorem isCircular_load {base name : String} {path : Path}
    (finds : find? folder base name = .ok (some path)) :
    IsCircular (load folder base name) ↔
      IsCircular (loadFrom folder (folder.files.length + 1) (folder.resolve path) []) := by
  rw [load_of_find finds]
  cases loadFrom folder (folder.files.length + 1) (folder.resolve path) [] with
  | ok result => exact iff_of_false not_isCircular_ok not_isCircular_ok
  | error error =>
    show IsCircular (.error error : Except ConfigError ProjectConfig) ↔ _
    simp [IsCircular]

/-- Reading a configuration reports a circle only if two different ways along references lead to one
file, and fails if they do. If the files have lists of texts, it fails by reporting a circle. A circle
of references is a case of two ways. -/
theorem load_circular_iff {base name : String} {path : Path}
    (finds : find? folder base name = .ok (some path))
    (readable : ∀ place, Relation.ReflTransGen (Extends folder) (folder.resolve path) place →
      Readable folder place) :
    (IsCircular (load folder base name) → MeetsTwice (Leads folder (folder.resolve path))) ∧
    (MeetsTwice (Leads folder (folder.resolve path)) →
      ∃ error, load folder base name = .error error) ∧
    ((∀ place, Relation.ReflTransGen (Extends folder) (folder.resolve path) place →
        Typed folder place) →
      (IsCircular (load folder base name) ↔ MeetsTwice (Leads folder (folder.resolve path)))) ∧
    ((∃ place, Relation.ReflTransGen (Extends folder) (folder.resolve path) place ∧
        Relation.TransGen (Extends folder) place place) →
      MeetsTwice (Leads folder (folder.resolve path))) := by
  have report (circular : IsCircular (load folder base name)) :
      MeetsTwice (Leads folder (folder.resolve path)) := by
    have bounded : Bounded folder (folder.files.length + 1) [] := ⟨.nil, by simp, by simp⟩
    have collides := collides_of_loadFrom readable bounded ((isCircular_load finds).mp circular)
    rcases collides with ⟨way, goal, -, none⟩ | twice
    · cases none
    · exact twice
  have fails (twice : MeetsTwice (Leads folder (folder.resolve path))) :
      ¬∃ config after, loadFrom folder (folder.files.length + 1) (folder.resolve path) [] =
        .ok (config, after) := by
    intro h
    obtain ⟨config, after, loaded⟩ := h
    obtain ⟨new, -, explored⟩ := explores_of_loadFrom loaded
    obtain ⟨a, b, goal, differ, one, other⟩ := twice
    exact differ (explored.unique a b goal one other)
  refine ⟨report, fun twice => ?_, fun typed => ⟨report, fun twice => ?_⟩, fun h => ?_⟩
  · rw [load_of_find finds]
    cases loaded : loadFrom folder (folder.files.length + 1) (folder.resolve path) [] with
    | ok result => exact absurd ⟨result.1, result.2, loaded⟩ (fails twice)
    | error error => exact ⟨error, rfl⟩
  · rw [isCircular_load finds]
    rcases loadFrom_ok_or_circular readable typed with ⟨config, after, loaded, -⟩ | circular
    · exact absurd ⟨config, after, loaded⟩ (fails twice)
    · exact circular
  · obtain ⟨place, reaches, circle⟩ := h
    exact meetsTwice_of_circle reaches circle

end Circles

end ProjectConfig

namespace Diamond

open ProjectConfig

/-- A configuration that extends two others, which extend a common one. -/
def folder : Folder where
  files := [(["a.json"], .ofText "\x7b\"extends\": \"./base.json\"\x7d"),
    (["b.json"], .ofText "\x7b\"extends\": \"./base.json\"\x7d"),
    (["base.json"], .ofText "\x7b\x7d"),
    (["tsconfig.json"], .ofText "\x7b\"extends\": [\"./a.json\", \"./b.json\"]\x7d")]
  directories := []
  current := []

def places : List (List String) := [["tsconfig.json"], ["a.json"], ["b.json"], ["base.json"]]

def listed (place : List String) : List Json :=
  if place = ["tsconfig.json"] then [.str "./a.json", .str "./b.json"]
  else if place = ["base.json"] then [] else [.str "./base.json"]

def extended (place : List String) : List (List String) :=
  if place = ["tsconfig.json"] then [["a.json"], ["b.json"]]
  else if place = ["base.json"] then [] else [["base.json"]]

/-- How far a file stands above the common one. -/
def rank (place : List String) : Nat :=
  if place = ["tsconfig.json"] then 2 else if place = ["base.json"] then 0 else 1

theorem find_top : find? folder "" "tsconfig.json" = .ok (some (.absolute ["tsconfig.json"])) := by
  decide

theorem resolved : ∀ place ∈ places, ∀ reference ∈ listed place, ∃ target ∈ extended place,
    Means folder place.dropLast reference target := by
  decide +kernel

theorem extended_lower : ∀ place ∈ places, ∀ target ∈ extended place,
    target ∈ places ∧ rank target < rank place := by
  decide

theorem refers : ∀ place ∈ places, FileReferences folder place (listed place) := by
  decide +kernel

theorem readable : ∀ place ∈ places, Readable folder place := by
  intro place member
  refine ⟨listed place, refers place member, fun reference known => ?_⟩
  obtain ⟨target, -, means⟩ := resolved place member reference known
  exact ⟨target, means⟩

theorem typed : ∀ place ∈ places, Typed folder place := by
  have own : ∀ place ∈ places, Own folder place (unset place) := by decide +kernel
  intro place member
  refine ⟨unset place, own place member, fun kind => ?_⟩
  cases kind <;> rfl

theorem lower_of_extends {place target : List String} (member : place ∈ places)
    (extends' : Extends folder place target) : target ∈ places ∧ rank target < rank place := by
  obtain ⟨names, refersToo, reference, known, means⟩ := extends'
  obtain rfl := (refers place member).unique refersToo
  obtain ⟨other, inside, meansToo⟩ := resolved place member reference known
  cases means.unique meansToo
  exact extended_lower place member target inside

theorem mem_of_reaches {place : List String}
    (reaches : Relation.ReflTransGen (Extends folder) ["tsconfig.json"] place) : place ∈ places := by
  induction reaches with
  | refl => decide
  | tail _ last ih => exact (lower_of_extends ih last).1

theorem lower_of_transGen {place goal : List String} (member : place ∈ places)
    (way : Relation.TransGen (Extends folder) place goal) :
    goal ∈ places ∧ rank goal < rank place := by
  induction way with
  | single extends' => exact lower_of_extends member extends'
  | tail _ last ih =>
    obtain ⟨next, lower⟩ := lower_of_extends ih.1 last
    exact ⟨next, lower.trans ih.2⟩

theorem load_circular_iff_diamond : IsCircular (load folder "" "tsconfig.json") := by
  have exact' := load_circular_iff find_top fun place reaches => readable place (mem_of_reaches reaches)
  refine (exact'.2.2.1 fun place reaches => typed place (mem_of_reaches reaches)).mpr ?_
  have base : Means folder [] (.str "./base.json") ["base.json"] := by decide +kernel
  have leads (name : String) (n : Nat) (known : [name] ∈ places ∧ listed [name] = [.str "./base.json"])
      (named : (listed ["tsconfig.json"])[n]? = some (.str ("./" ++ name)))
      (means : Means folder [] (.str ("./" ++ name)) [name]) :
      Leads folder ["tsconfig.json"] [n, 0] ["base.json"] := by
    have further := refers [name] known.1
    rw [known.2] at further
    exact .step (refers _ (by decide)) named means (.step further rfl base .here)
  exact ⟨[0, 0], [1, 0], ["base.json"], by decide,
    leads "a.json" 0 (by decide) rfl (by decide +kernel),
    leads "b.json" 1 (by decide) rfl (by decide +kernel)⟩

/-- A circle is reported although no reference leads back. -/
theorem circular_without_circle :
    (∀ place, Relation.ReflTransGen (Extends folder) ["tsconfig.json"] place →
      Readable folder place) ∧
    IsCircular (load folder "" "tsconfig.json") ∧
    ¬∃ place, Relation.ReflTransGen (Extends folder) ["tsconfig.json"] place ∧
      Relation.TransGen (Extends folder) place place := by
  refine ⟨fun place reaches => readable place (mem_of_reaches reaches), ⟨"/base.json", ?_⟩, ?_⟩
  · decide +kernel
  · intro h
    obtain ⟨place, reaches, circle⟩ := h
    exact Nat.lt_irrefl _ (lower_of_transGen (mem_of_reaches reaches) circle).2

end Diamond

end LeastGrant
