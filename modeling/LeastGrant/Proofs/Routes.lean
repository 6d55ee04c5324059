import LeastGrant.Path.Basic
import Mathlib.Data.List.Basic

/-! Routes between places. A route goes up to the common start of two places and then down. Followed
from where it starts it ends at its goal, and a start of it ends above the place where it starts, or
on the way down to the goal. -/
namespace LeastGrant

section Texts

open Text

variable {separator : Char}

theorem join_append {a b : List (List Char)} (front : a ≠ []) (back : b ≠ []) :
    join separator (a ++ b) = join separator a ++ separator :: join separator b := by
  induction a with
  | nil => exact absurd rfl front
  | cons piece rest ih =>
    cases rest with
    | nil =>
      obtain ⟨next, others, rfl⟩ := List.exists_cons_of_ne_nil back
      rfl
    | cons next others =>
      have inner := ih (List.cons_ne_nil next others)
      simp only [List.cons_append, join, List.append_assoc] at inner ⊢
      rw [inner]

theorem split_append_separator (a b : List Char) :
    split separator (a ++ separator :: b) = split separator a ++ split separator b := by
  induction a with
  | nil => simp [split]
  | cons c rest ih =>
    rw [List.cons_append, split, split, ih]
    by_cases cut : c = separator
    · simp [cut]
    · rw [if_neg cut, if_neg cut]
      cases pieces : split separator rest with
      | nil => exact absurd pieces (split_ne_nil separator rest)
      | cons piece others => rfl

theorem split_of_notMem {piece : List Char} (plain : separator ∉ piece) :
    split separator piece = [piece] := by
  induction piece with
  | nil => rfl
  | cons c rest ih =>
    obtain ⟨other, later⟩ := List.ne_and_not_mem_of_not_mem_cons plain
    rw [split, if_neg (Ne.symm other), ih later]

theorem split_join {pieces : List (List Char)} (some : pieces ≠ [])
    (plain : ∀ piece ∈ pieces, separator ∉ piece) :
    split separator (join separator pieces) = pieces := by
  induction pieces with
  | nil => exact absurd rfl some
  | cons piece rest ih =>
    have own := split_of_notMem (plain piece List.mem_cons_self)
    cases rest with
    | nil => exact own
    | cons next others =>
      have later := ih (List.cons_ne_nil next others)
        fun other member => plain other (List.mem_cons_of_mem _ member)
      rw [join, split_append_separator, own, later]
      · rfl
      · exact List.cons_ne_nil next others

theorem notMem_of_mem_split {text piece : List Char} (member : piece ∈ split separator text) :
    separator ∉ piece := by
  induction text generalizing piece with
  | nil => simp_all [split]
  | cons c rest ih =>
    rw [split] at member
    by_cases cut : c = separator
    · rw [if_pos cut, List.mem_cons] at member
      rcases member with rfl | later
      · exact List.not_mem_nil
      · exact ih later
    · rw [if_neg cut] at member
      cases pieces : split separator rest with
      | nil => exact absurd pieces (split_ne_nil separator rest)
      | cons first others =>
        rw [pieces] at member ih
        rcases List.mem_cons.mp member with rfl | later
        · have clean := ih List.mem_cons_self
          exact List.not_mem_cons_of_ne_of_not_mem (Ne.symm cut) clean
        · exact ih (List.mem_cons_of_mem _ later)

theorem join_eq_intercalate (pieces : List (List Char)) :
    join separator pieces = [separator].intercalate pieces := by
  induction pieces with
  | nil => rfl
  | cons piece rest ih =>
    cases rest with
    | nil => simp [join]
    | cons next others => simp_all [join, List.intercalate]

/-- Pieces with slashes between them, as characters. -/
def slashed (parts : List String) : List Char := join '/' (parts.map String.toList)

theorem slashed_append {a b : List String} (front : a ≠ []) (back : b ≠ []) :
    slashed (a ++ b) = slashed a ++ '/' :: slashed b := by
  rw [slashed, List.map_append]
  exact join_append (by simpa using front) (by simpa using back)

theorem slashed_cons (first : String) (rest : List String) :
    ∃ later, slashed (first :: rest) = first.toList ++ later ∧
      (later = [] ∨ ∃ more, later = '/' :: more) := by
  by_cases none : rest = []
  · exact ⟨[], by simp [none, slashed, join], .inl rfl⟩
  · refine ⟨'/' :: slashed rest, ?_, .inr ⟨_, rfl⟩⟩
    have whole := slashed_append (List.cons_ne_nil first []) none
    simpa [slashed, join] using whole

theorem slashed_splitText (text : String) : slashed (splitText '/' text) = text.toList := by
  have back : (split '/' text.toList).map (String.toList ∘ String.ofList) =
      split '/' text.toList := by
    simp [Function.comp_def]
  rw [slashed, splitText, List.map_map, back, join_split]

theorem splitText_ne_nil (text : String) : splitText '/' text ≠ [] := by
  simp [splitText, split_ne_nil]

theorem notMem_of_mem_splitText {text part : String} (member : part ∈ splitText '/' text) :
    '/' ∉ part.toList := by
  obtain ⟨piece, inside, rfl⟩ := List.mem_map.mp member
  rw [String.toList_ofList]
  exact notMem_of_mem_split inside

theorem split_slashed {parts : List String} (some : parts ≠ [])
    (plain : ∀ part ∈ parts, '/' ∉ part.toList) :
    split '/' (slashed parts) = parts.map String.toList := by
  apply split_join (by simpa using some)
  intro piece member
  obtain ⟨part, inside, rfl⟩ := List.mem_map.mp member
  exact plain part inside

theorem slashed_inj {a b : List String} (front : a ≠ []) (back : b ≠ [])
    (plainFront : ∀ part ∈ a, '/' ∉ part.toList) (plainBack : ∀ part ∈ b, '/' ∉ part.toList)
    (same : slashed a = slashed b) : a = b := by
  have pieces : a.map String.toList = b.map String.toList := by
    rw [← split_slashed front plainFront, same, split_slashed back plainBack]
  exact List.map_injective_iff.mpr (fun _ _ => String.toList_injective) pieces

end Texts

namespace Path

/-- A name that a file or a directory can have. -/
def IsName (name : String) : Prop :=
  name ≠ "" ∧ name ≠ "." ∧ name ≠ ".." ∧ '/' ∉ name.toList

instance (name : String) : Decidable (IsName name) :=
  inferInstanceAs (Decidable (_ ∧ _ ∧ _ ∧ _))

/-- A place all of whose parts are names. -/
def Plain (place : List String) : Prop := ∀ name ∈ place, IsName name

instance (place : List String) : Decidable (Plain place) :=
  inferInstanceAs (Decidable (∀ name ∈ place, _))

namespace Plain

theorem noUp {place : List String} (plain : Plain place) : ∀ name ∈ place, name ≠ ".." :=
  fun name member => (plain name member).2.2.1

theorem noSlash {place : List String} (plain : Plain place) :
    ∀ name ∈ place, '/' ∉ name.toList :=
  fun name member => (plain name member).2.2.2

theorem of_subset {a b : List String} (plain : Plain b) (inside : a ⊆ b) : Plain a :=
  fun name member => plain name (inside member)

theorem append {a b : List String} (front : Plain a) (back : Plain b) : Plain (a ++ b) :=
  List.forall_mem_append.mpr ⟨front, back⟩

theorem left {a b : List String} (plain : Plain (a ++ b)) : Plain a :=
  (List.forall_mem_append.mp plain).1

theorem right {a b : List String} (plain : Plain (a ++ b)) : Plain b :=
  (List.forall_mem_append.mp plain).2

end Plain

end Path

/-- Parts of a route: names, and steps up. -/
def IsStep (part : String) : Prop := part = ".." ∨ Path.IsName part

theorem IsStep.ne_empty {part : String} (step : IsStep part) : part ≠ "" := by
  rcases step with rfl | name
  · decide
  · exact name.1

theorem IsStep.ne_dot {part : String} (step : IsStep part) : part ≠ "." := by
  rcases step with rfl | name
  · decide
  · exact name.2.1

theorem IsStep.noSlash {part : String} (step : IsStep part) : '/' ∉ part.toList := by
  rcases step with rfl | name
  · decide
  · exact name.2.2.2

theorem IsStep.chars_ne_nil {part : String} (step : IsStep part) : part.toList ≠ [] :=
  fun none => step.ne_empty (String.toList_eq_nil_iff.mp none)

/-- No step is left out where a text is taken apart at its slashes. -/
theorem filter_of_isStep {parts : List String} (steps : ∀ part ∈ parts, IsStep part) :
    parts.filter (fun part => part != "" && part != ".") = parts := by
  rw [List.filter_eq_self]
  intro part member
  simp [(steps part member).ne_empty, (steps part member).ne_dot]

namespace Path

theorem routeText_toList {parts : List String} (some : parts ≠ []) :
    (routeText parts).toList = slashed parts := by
  have start : String.ofList (List.replicate 0 '/') = "" := rfl
  have filled : parts.isEmpty = false := by simpa using some
  simp [routeText, text, filled, slashed, join_eq_intercalate]

theorem normalParts_append (rooted : Bool) (gathered a b : List String) :
    normalParts rooted gathered (a ++ b) =
      normalParts rooted (normalParts rooted gathered a).reverse b := by
  induction a generalizing gathered with
  | nil => simp [normalParts]
  | cons part rest ih =>
    simp only [List.cons_append, normalParts]
    split
    · cases gathered with
      | nil => exact ih _
      | cons last before =>
        dsimp only
        split
        · exact ih _
        · exact ih _
    · exact ih _

theorem normalParts_up {gathered : List String} (plain : ∀ part ∈ gathered, part ≠ "..") (n : Nat) :
    normalParts true gathered (List.replicate n "..") = (gathered.drop n).reverse := by
  induction n generalizing gathered with
  | zero => rfl
  | succ n ih =>
    cases gathered with
    | nil =>
      have stays := ih plain
      simpa [List.replicate_succ, normalParts] using stays
    | cons last before =>
      obtain ⟨named, others⟩ := List.forall_mem_cons.mp plain
      simp [List.replicate_succ, normalParts, named, ih others]

/-- Up from a place and then down. -/
theorem normalParts_upDown {place down : List String} (plain : ∀ part ∈ place, part ≠ "..")
    (n : Nat) (names : ∀ part ∈ down, part ≠ "..") :
    normalParts true [] (place ++ (List.replicate n ".." ++ down)) =
      place.take (place.length - n) ++ down := by
  have reversed : ∀ part ∈ place.reverse, part ≠ ".." :=
    fun part member => plain part (List.mem_reverse.mp member)
  rw [normalParts_append, normalParts_plain _ _ _ plain, List.reverse_nil, List.nil_append,
    normalParts_append, normalParts_up reversed, List.reverse_reverse,
    normalParts_plain _ _ _ names, List.drop_reverse, List.reverse_reverse]

theorem exists_apart (start goal : List String) :
    ∃ common up down, start = common ++ up ∧ goal = common ++ down ∧
      ∀ name ∈ up.head?, name ∉ down.head? := by
  induction start generalizing goal with
  | nil => exact ⟨[], [], goal, rfl, rfl, by simp⟩
  | cons a rest ih =>
    cases goal with
    | nil => exact ⟨[], a :: rest, [], rfl, rfl, by simp⟩
    | cons b others =>
      by_cases same : a = b
      · subst same
        obtain ⟨common, up, down, rfl, rfl, apart⟩ := ih others
        exact ⟨a :: common, up, down, rfl, rfl, apart⟩
      · exact ⟨[], a :: rest, b :: others, rfl, rfl, by simpa [eq_comm] using same⟩

theorem route_append_append (common a b : List String) :
    route (common ++ a) (common ++ b) = route a b := by
  induction common with
  | nil => rfl
  | cons part rest ih => simpa [route, afterCommon] using ih

/-- From where two places part, a route goes all the way up and then all the way down. -/
theorem route_of_apart (common : List String) {up down : List String}
    (apart : ∀ name ∈ up.head?, name ∉ down.head?) :
    route (common ++ up) (common ++ down) = List.replicate up.length ".." ++ down := by
  rw [route_append_append]
  cases up with
  | nil => simp [route, afterCommon]
  | cons a rest =>
    cases down with
    | nil => simp [route, afterCommon]
    | cons b others =>
      have differ : a ≠ b := by simpa [eq_comm] using apart a rfl
      simp [route, afterCommon, differ]

/-- A route goes up to the common start of two places, and then down. -/
theorem exists_fork (start goal : List String) :
    ∃ common up down, start = common ++ up ∧ goal = common ++ down ∧
      route start goal = List.replicate up.length ".." ++ down := by
  obtain ⟨common, up, down, rfl, rfl, apart⟩ := exists_apart start goal
  exact ⟨common, up, down, rfl, rfl, route_of_apart common apart⟩

theorem route_up (place up : List String) :
    route (place ++ up) place = List.replicate up.length ".." := by
  have nothing : ∀ name ∈ up.head?, name ∉ ([] : List String).head? := by simp
  simpa using route_of_apart place nothing

variable {start goal : List String}

theorem normalParts_route (plainStart : Plain start) (plainGoal : Plain goal) :
    normalParts true [] (start ++ route start goal) = goal := by
  obtain ⟨common, up, down, rfl, rfl, along⟩ := exists_fork start goal
  rw [along, normalParts_upDown plainStart.noUp _ plainGoal.right.noUp]
  simp

theorem mem_route {part : String} (plainGoal : Plain goal) (member : part ∈ route start goal) :
    IsStep part := by
  obtain ⟨common, up, down, -, rfl, along⟩ := exists_fork start goal
  rw [along, List.mem_append] at member
  rcases member with above | below
  · exact .inl (List.eq_of_mem_replicate above)
  · exact .inr (plainGoal.right part below)

theorem noSlash_of_route (plainGoal : Plain goal) : ∀ part ∈ route start goal, '/' ∉ part.toList :=
  fun _ member => (mem_route plainGoal member).noSlash

/-- A start of a route leads above the place where the route starts, or to a place on the way down,
from which the rest of the route leads to the goal. -/
theorem normalParts_of_route_eq (plainStart : Plain start) (plainGoal : Plain goal)
    {front back : List String} (along : route start goal = front ++ back) :
    normalParts true [] (start ++ front) <+: start ∨
      normalParts true [] (start ++ front) ++ back = goal := by
  obtain ⟨common, up, down, rfl, rfl, forked⟩ := exists_fork start goal
  rw [forked, List.append_eq_append_iff] at along
  rcases along with ⟨first, rfl, rfl⟩ | ⟨rest, ups, rfl⟩
  · right
    rw [normalParts_upDown plainStart.noUp _ plainGoal.right.left.noUp]
    simp
  · left
    obtain ⟨-, above, -⟩ := List.append_eq_replicate_iff.mp ups.symm
    have noDown : ∀ part ∈ ([] : List String), part ≠ ".." := by simp
    have climbed := normalParts_upDown plainStart.noUp front.length noDown
    rw [List.append_nil, List.append_nil, ← above] at climbed
    rw [climbed]
    exact List.take_prefix _ _

theorem route_eq_nil (plainStart : Plain start) (plainGoal : Plain goal) :
    route start goal = [] ↔ goal = start := by
  constructor
  · intro none
    have back := normalParts_route plainStart plainGoal
    rw [none, List.append_nil, normalParts_plain _ _ _ plainStart.noUp] at back
    exact back.symm
  · intro same
    rw [same]
    simpa using route_below start []

variable {lead : List String}

/-- Behind the point where the ways part, a route goes on as its goal does. -/
theorem route_append (apart : ¬lead <+: start) (rest : List String) :
    route start (lead ++ rest) = route start lead ++ rest := by
  induction start generalizing lead with
  | nil => simp [route, afterCommon]
  | cons a others ih =>
    cases lead with
    | nil => exact absurd (List.nil_prefix) apart
    | cons b more =>
      by_cases same : a = b
      · have apartToo : ¬more <+: others := by
          intro inside
          exact apart (same ▸ List.cons_prefix_cons.mpr ⟨rfl, inside⟩)
        have later := ih apartToo
        simpa [route, afterCommon, same] using later
      · simp [route, afterCommon, same]

theorem exists_down (apart : ¬lead <+: start) :
    ∃ common up down, start = common ++ up ∧ lead = common ++ down ∧ down ≠ [] ∧
      route start lead = List.replicate up.length ".." ++ down := by
  obtain ⟨common, up, down, first, second, along⟩ := exists_fork start lead
  refine ⟨common, up, down, first, second, ?_, along⟩
  intro none
  rw [none, List.append_nil] at second
  exact apart (second ▸ first ▸ List.prefix_append _ _)

/-- After a name, a route does not go up again. -/
theorem noUp_of_route {front back down : List String} {name : String} {n : Nat}
    (names : ∀ part ∈ down, part ≠ "..") (named : name ≠ "..")
    (same : front ++ name :: back = List.replicate n ".." ++ down) : ∀ part ∈ back, part ≠ ".." := by
  induction n generalizing front with
  | zero =>
    intro part member
    apply names part
    rw [List.replicate_zero, List.nil_append] at same
    rw [← same]
    exact List.mem_append_right _ (List.mem_cons_of_mem _ member)
  | succ n ih =>
    cases front with
    | nil =>
      rw [List.replicate_succ] at same
      exact absurd (List.cons.inj same).1 named
    | cons first others =>
      rw [List.replicate_succ] at same
      exact ih (List.cons.inj same).2

/-- Where the goal of a route does not lie at or above its start, the routes that begin with it are
those to the places below its goal. -/
theorem route_eq_append (plainStart : Plain start) (plainGoal : Plain goal) (plainLead : Plain lead)
    (apart : ¬lead <+: start) {rest : List String} :
    route start goal = route start lead ++ rest ↔ goal = lead ++ rest := by
  constructor
  · intro along
    obtain ⟨common, up, down, -, second, some, forked⟩ := exists_down apart
    obtain ⟨commonToo, upToo, downToo, -, secondToo, forkedToo⟩ := exists_fork start goal
    have names : ∀ part ∈ rest, part ≠ ".." := by
      have last := List.dropLast_append_getLast some
      have whole : (List.replicate up.length ".." ++ down.dropLast) ++ down.getLast some :: rest =
          List.replicate upToo.length ".." ++ downToo := by
        rw [← forkedToo, along, forked]
        conv_rhs => rw [← last]
        simp
      have plainDown : Plain down := (second ▸ plainLead).right
      exact noUp_of_route (secondToo ▸ plainGoal).right.noUp
        (plainDown.noUp _ (List.getLast_mem some)) whole
    have back := normalParts_route plainStart plainGoal
    rw [along, ← List.append_assoc, normalParts_append,
      normalParts_route plainStart plainLead, normalParts_plain _ _ _ names,
      List.reverse_reverse] at back
    exact back.symm
  · intro same
    rw [same, route_append apart]

variable {place : List String}

/-- A start of a route that leads to a place is the route to the place. -/
theorem eq_route_of_front (plainStart : Plain start) (plainGoal : Plain goal)
    {front back : List String} (along : route start goal = front ++ back)
    (leads : normalParts true [] (start ++ front) = place) : front = route start place := by
  obtain ⟨common, up, down, rfl, rfl, apart⟩ := exists_apart start goal
  rw [route_of_apart common apart, List.append_eq_append_iff] at along
  rcases along with ⟨first, rfl, rfl⟩ | ⟨rest, ups, -⟩
  · -- the front goes up all the way, and down as far as the place
    rw [normalParts_upDown plainStart.noUp _ plainGoal.right.left.noUp] at leads
    have here : place = common ++ first := by simpa using leads.symm
    have apartToo : ∀ name ∈ up.head?, name ∉ first.head? := by
      intro name starts inFirst
      apply apart name starts
      cases first with
      | nil => cases inFirst
      | cons other later => exact inFirst
    rw [here, route_of_apart common apartToo]
  · -- the front only goes up, so the place lies above the start
    obtain ⟨-, above, -⟩ := List.append_eq_replicate_iff.mp ups.symm
    have short : front.length ≤ (common ++ up).length := by
      have total := congrArg List.length ups
      simp only [List.length_replicate, List.length_append] at total ⊢
      omega
    have noDown : ∀ part ∈ ([] : List String), part ≠ ".." := by simp
    have climbed := normalParts_upDown plainStart.noUp front.length noDown
    rw [List.append_nil, List.append_nil, ← above, leads] at climbed
    have split : common ++ up = place ++ (common ++ up).drop ((common ++ up).length - front.length) := by
      rw [climbed]
      exact (List.take_append_drop _ _).symm
    have rest_length : ((common ++ up).drop ((common ++ up).length - front.length)).length =
        front.length := by
      rw [List.length_drop]
      omega
    rw [split, route_up, rest_length]
    exact above

/-- Names do not stand in for steps up. -/
theorem le_of_replicate_append {n m : Nat} {down back : List String}
    (names : ∀ part ∈ down, part ≠ "..")
    (same : List.replicate n ".." ++ down = List.replicate m ".." ++ back) : m ≤ n := by
  have ups : (List.replicate n ".." ++ down).count ".." = n := by
    rw [List.count_append, List.count_replicate_self, List.count_eq_zero.mpr, Nat.add_zero]
    intro member
    exact names ".." member rfl
  rw [← ups, same, List.count_append, List.count_replicate_self]
  exact Nat.le_add_right _ _

/-- Between two places below one name, a route does not climb above the name. -/
theorem route_ne_climb {name : String} {rest more back : List String} (plainMore : Plain more) :
    route (place ++ name :: rest) (place ++ name :: more) ≠
      List.replicate (name :: rest).length ".." ++ back := by
  intro along
  have shorter : route (place ++ name :: rest) (place ++ name :: more) = route rest more := by
    rw [route_append_append]
    exact route_append_append [name] rest more
  obtain ⟨common, up, down, first, second, forked⟩ := exists_fork rest more
  rw [shorter, forked] at along
  have plainDown : Plain down := (second ▸ plainMore).right
  have steps := le_of_replicate_append plainDown.noUp along
  have total := congrArg List.length first
  rw [List.length_append] at total
  rw [List.length_cons] at steps
  omega

/-- The route to a place below a directory goes through the directory, unless it comes from the
directory itself or from below the same name in it. -/
theorem route_through_iff {below : List String} (plainBelow : Plain below) :
    (route start place ≠ [] ∧ ∃ back, route start (place ++ below) = route start place ++ back) ↔
      place ≠ start ∧ ¬∃ name, place ++ [name] <+: start ∧ place ++ [name] <+: place ++ below := by
  by_cases above : place <+: start
  · obtain ⟨up, rfl⟩ := above
    rw [route_up]
    cases up with
    | nil => simp
    | cons u us =>
      have climbs : List.replicate (u :: us).length ".." ≠ [] := by simp [List.replicate_succ]
      have differ : place ≠ place ++ u :: us := by simp
      rw [and_iff_right climbs, and_iff_right differ]
      constructor
      · intro through shared
        obtain ⟨back, along⟩ := through
        obtain ⟨name, toStart, toGoal⟩ := shared
        obtain ⟨more, rfl⟩ := (List.prefix_append_right_inj place).mp toGoal
        obtain ⟨rest, whole⟩ := (List.prefix_append_right_inj place).mp toStart
        rw [List.singleton_append] at whole
        obtain ⟨rfl, rfl⟩ := List.cons.inj whole
        exact route_ne_climb plainBelow.right along
      · intro unshared
        have apart : ∀ name ∈ (u :: us).head?, name ∉ below.head? := by
          intro name starts inBelow
          cases below with
          | nil => cases inBelow
          | cons b bs =>
            cases starts
            cases inBelow
            exact unshared ⟨u, by simp, by simp⟩
        exact ⟨below, route_of_apart place apart⟩
  · refine iff_of_true ⟨?_, below, route_append above below⟩ ⟨?_, ?_⟩
    · obtain ⟨common, up, down, -, -, some, along⟩ := exists_down above
      rw [along]
      simp [some]
    · intro same
      exact above (same ▸ List.prefix_rfl)
    · intro shared
      obtain ⟨name, toStart, -⟩ := shared
      exact above ((List.prefix_append place [name]).trans toStart)

end Path

end LeastGrant
