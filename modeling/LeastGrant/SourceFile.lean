import LeastGrant.Language
import LeastGrant.Tree.Place

/-! Source files of a code base. -/
namespace LeastGrant

/-- A source file with its tree. It is reported under its display name. -/
structure SourceFile where
  path : Path
  display : String
  language : Language
  root : Node

namespace SourceFile

/-- A file that is reported under its path. Without a language of its own it has the one that its
name tells, and otherwise that of most files. -/
def ofTree (path : Path) (language : Option Language) (root : Node) : SourceFile where
  path := path
  display := path.text
  language := (language.orElse fun _ => Language.ofPath? path).getD .typescript
  root := root

/-- Where a node begins, as file, line and column. -/
def location (file : SourceFile) (node : Node) : String :=
  s!"{file.display}:{node.label.line}:{node.label.column}"

def isDeclarationFile (file : SourceFile) : Bool := file.path.isDeclarationFile

end SourceFile

end LeastGrant
