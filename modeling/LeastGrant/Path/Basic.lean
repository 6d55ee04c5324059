import LeastGrant.Text.Split

/-! Paths with slashes. Empty parts and single dots are dropped when a path is read, `..` is kept.
A path may begin with one slash or with exactly two, which are different roots; three or more count
as one. -/
namespace LeastGrant

open Text

structure Path where
  /-- How many slashes the path begins with: none, one or two. -/
  slashes : Nat
  parts : List String
  deriving DecidableEq, Repr, Inhabited

namespace Path

/-- The slashes at the start of a text that count. -/
def leadingSlashes (text : List Char) : Nat :=
  match (text.takeWhile (· == '/')).length with
  | 0 => 0
  | 2 => 2
  | _ => 1

def ofText (text : String) : Path where
  slashes := leadingSlashes text.toList
  parts := (splitText '/' text).filter fun part => part != "" && part != "."

/-- The path as text; the empty relative path is a dot. -/
def text (p : Path) : String :=
  let start := String.ofList (List.replicate p.slashes '/')
  if p.slashes == 0 && p.parts.isEmpty then "." else start ++ "/".intercalate p.parts

def isAbsolute (p : Path) : Bool := p.slashes != 0

def absolute (parts : List String) : Path := ⟨1, parts⟩

/-- The second path seen from the first; an absolute one stands for itself. -/
def append (p q : Path) : Path :=
  if q.isAbsolute then q else ⟨p.slashes, p.parts ++ q.parts⟩

instance : Append Path := ⟨append⟩

theorem append_of_absolute (p q : Path) (h : q.isAbsolute = true) : p ++ q = q := by
  show append p q = q
  simp [append, h]

theorem append_parts (p q : Path) (h : q.isAbsolute = false) :
    (p ++ q).parts = p.parts ++ q.parts := by
  show (append p q).parts = _
  simp [append, h]

/-- One part more. -/
def child (p : Path) (part : String) : Path := ⟨p.slashes, p.parts ++ [part]⟩

/-- The last part, empty if there is none. -/
def name (p : Path) : String := p.parts.getLast?.getD ""

def parent (p : Path) : Path := ⟨p.slashes, p.parts.dropLast⟩

theorem parent_child (p : Path) (part : String) : (p.child part).parent = p := by
  simp [parent, child]

/-- The path and all above it, nearest first. -/
def withParents (p : Path) : List Path :=
  (List.range (p.parts.length + 1)).map fun n => ⟨p.slashes, p.parts.take (p.parts.length - n)⟩

/-- The ending of a file name from its last dot on. A dot that begins or ends the name opens no
ending. -/
def extension (p : Path) : String :=
  let ending := p.name.toList.reverse.takeWhile (· != '.')
  let dot := p.name.length - ending.length
  if 1 < dot && 0 < ending.length then String.ofList ('.' :: ending.reverse) else ""

/-- Takes `..` back against the part before it. At the root it is dropped, and at the start of a
relative path it is kept. The parts gathered so far stand in reverse. -/
def normalParts (rooted : Bool) : (gathered : List String) → List String → List String
  | gathered, [] => gathered.reverse
  | gathered, part :: rest =>
    if part == ".." then
      match gathered with
      | [] => normalParts rooted (if rooted then [] else [".."]) rest
      | last :: before =>
        if last == ".." then normalParts rooted (".." :: gathered) rest
        else normalParts rooted before rest
    else normalParts rooted (part :: gathered) rest

/-- The path without avoidable `..`, judged by its text alone. -/
def normalize (p : Path) : Path := ⟨p.slashes, normalParts p.isAbsolute [] p.parts⟩

theorem normalParts_plain (rooted : Bool) (gathered parts : List String)
    (h : ∀ part ∈ parts, part ≠ "..") :
    normalParts rooted gathered parts = gathered.reverse ++ parts := by
  induction parts generalizing gathered with
  | nil => simp [normalParts]
  | cons part rest ih =>
    have hp : part ≠ ".." := h part (by simp)
    have hr : ∀ q ∈ rest, q ≠ ".." := fun q hq => h q (by simp [hq])
    simp [normalParts, hp, ih (part :: gathered) hr]

/-- What is left of two lists after their common start. -/
def afterCommon : List String → List String → List String × List String
  | a :: as, b :: bs => if a == b then afterCommon as bs else (a :: as, b :: bs)
  | as, bs => (as, bs)

/-- The relative path that leads from one place to another, both given by their normal parts. -/
def route (start goal : List String) : List String :=
  let (up, down) := afterCommon start goal
  List.replicate up.length ".." ++ down

theorem afterCommon_append (start rest : List String) :
    afterCommon start (start ++ rest) = ([], rest) := by
  induction start with
  | nil => simp [afterCommon]
  | cons part start ih => simp [afterCommon, ih]

theorem route_below (start rest : List String) : route start (start ++ rest) = rest := by
  simp [route, afterCommon_append]

/-- A relative path as text. -/
def routeText (parts : List String) : String := (⟨0, parts⟩ : Path).text

/-- Whether the first path is the second or lies above it. -/
def isAbove (p q : Path) : Bool := p.slashes == q.slashes && p.parts.isPrefixOf q.parts

/-- The order of paths: part by part, and parts by their characters. -/
def partsLe (a b : List String) : Bool := !List.lex b a fun x y => decide (x < y)

/-- Paths in order, each once. -/
def sortUnique (paths : List (List String)) : List (List String) :=
  (paths.mergeSort partsLe).eraseReps

end Path

end LeastGrant
