import LeastGrant.Text.Width

/-! Clusters: the characters that a terminal draws in one place. A joiner draws the character after it
into the place before it, and a picture sign turns the character before it into a picture, which is
wide. The width of a text, the part of it that fits, and its division into pieces follow from them. -/
namespace LeastGrant.Text

/-- The zero-width joiner. -/
def joiner : Char := '\u200d'

/-- The variation selector that asks for a picture. -/
def pictureSign : Char := '\ufe0f'

/-- How many columns a picture sign adds to the character shown before it. -/
def pictureGain (last : Option Char) : Nat :=
  if last.any pictureRanges.has then 1 else 0

/-- The last character that takes a column, after one more. -/
def lastShown (last : Option Char) (c : Char) : Option Char :=
  if columns c = 0 then last else some c

/-- The columns of a text. The character after a joiner counts for nothing. -/
def widthFrom : (skip : Bool) → (last : Option Char) → List Char → Nat
  | _, _, [] => 0
  | true, last, _ :: rest => widthFrom false last rest
  | false, last, c :: rest =>
    if c = joiner then widthFrom true last rest
    else if c = pictureSign then pictureGain last + widthFrom false none rest
    else columns c + widthFrom false (lastShown last c) rest

/-- The width of a text in columns. -/
def width (text : List Char) : Nat := widthFrom false none text

/-- Blanks take a column each. -/
theorem width_blanks (n : Nat) : width (List.replicate n ' ') = n := by
  have blank : columns ' ' = 1 := by decide
  have notJoiner : ' ' ≠ joiner := by decide
  have notSign : ' ' ≠ pictureSign := by decide
  suffices general : ∀ last, widthFrom false last (List.replicate n ' ') = n from general none
  induction n with
  | zero => intro last; rfl
  | succ n ih =>
    intro last
    rw [List.replicate_succ, widthFrom, if_neg notJoiner, if_neg notSign, blank, ih]
    omega

/-- Characters drawn in one place, and the columns they take. -/
structure Cluster where
  chars : List Char
  width : Nat
  deriving DecidableEq, Repr

/-- One character more in a cluster. -/
def Cluster.add (cluster : Cluster) (c : Char) (gain : Nat) : Cluster :=
  ⟨cluster.chars ++ [c], cluster.width + gain⟩

/-- The clusters of a text, given the one that is being gathered. -/
def clustersFrom : (skip : Bool) → (last : Option Char) → Cluster → List Char → List Cluster
  | _, _, current, [] => [current]
  | true, last, current, c :: rest => clustersFrom false last (current.add c 0) rest
  | false, last, current, c :: rest =>
    if c = joiner then clustersFrom true last (current.add c 0) rest
    else if c = pictureSign then clustersFrom false none (current.add c (pictureGain last)) rest
    else if columns c = 0 then clustersFrom false last (current.add c 0) rest
    else current :: clustersFrom false (some c) ⟨[c], columns c⟩ rest

/-- The clusters of a text. -/
def clusters : List Char → List Cluster
  | [] => []
  | c :: rest => clustersFrom false (lastShown none c) ⟨[c], columns c⟩ rest

theorem chars_clustersFrom (skip : Bool) (last : Option Char) (current : Cluster)
    (text : List Char) :
    (clustersFrom skip last current text).flatMap Cluster.chars = current.chars ++ text := by
  fun_induction clustersFrom skip last current text <;> simp_all [Cluster.add]

/-- The clusters hold the text and nothing else. -/
theorem chars_clusters (text : List Char) : (clusters text).flatMap Cluster.chars = text := by
  cases text with
  | nil => rfl
  | cons c rest => simp [clusters, chars_clustersFrom]

/-- The clusters that fit in a width. A wide one that does not fit whole leaves a blank. -/
def keepClusters : (size : Nat) → List Cluster → List Char
  | 0, _ => []
  | _, [] => []
  | size, cluster :: rest =>
    if cluster.width ≤ size then cluster.chars ++ keepClusters (size - cluster.width) rest else [' ']

/-- A text cut or filled with blanks to a width. -/
def fitted (size : Nat) (text : List Char) : List Char :=
  if size = 0 then []
  else if width text ≤ size then text ++ List.replicate (size - width text) ' '
  else keepClusters size (clusters text)

theorem fitted_of_width (text : List Char) (h : width text ≠ 0) :
    fitted (width text) text = text := by
  simp [fitted, h]

/-- Puts clusters on lines of a width; `used` is the width of the line gathered so far. A last line
without width is dropped. -/
def chopFrom (size : Nat) : (used : Nat) → (line : List Char) → List Cluster → List (List Char)
  | used, line, [] => if used = 0 then [] else [line]
  | used, line, cluster :: rest =>
    if size < used + cluster.width then line :: chopFrom size cluster.width cluster.chars rest
    else chopFrom size (used + cluster.width) (line ++ cluster.chars) rest

/-- The pieces of a text for lines of a width. -/
def chop (size : Nat) (text : List Char) : List (List Char) := chopFrom size 0 [] (clusters text)

end LeastGrant.Text
