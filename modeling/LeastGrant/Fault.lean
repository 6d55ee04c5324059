import LeastGrant.Text.Utf8

/-! Faults that end a step: a value of a document that cannot be used where it stands, and a file
that cannot be read or written. -/
namespace LeastGrant

/-- Why a value of a document cannot be used in its place. -/
inductive ValueFault where
  /-- It lacks what the place asks of it: a number is no text, a list has no fields. -/
  | lacking
  /-- It is of the wrong sort altogether. -/
  | wrongSort
  /-- It is of a right sort, but has the wrong shape. -/
  | wrongShape
  /-- There is no value under the name. -/
  | missing
  /-- It is a path that cannot be encoded. -/
  | unencodable
  /-- It is a path with a name that is too long for a file. -/
  | tooLong
  deriving DecidableEq, Repr

/-- Why a file cannot be read or written. -/
inductive FileFault where
  | notFound
  | isDirectory
  | notDirectory
  | alreadyExists
  /-- The path holds a character that no path can hold. -/
  | nulInPath
  /-- The path holds a character that cannot be encoded. -/
  | unencodablePath
  /-- The path holds a name that is too long for a file. -/
  | nameTooLong
  | undecodable (fault : Text.DecodeFault)
  deriving DecidableEq, Repr

end LeastGrant
