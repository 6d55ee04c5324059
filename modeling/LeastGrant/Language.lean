import LeastGrant.Path.Basic

/-! The languages of source files, told from file names. -/
namespace LeastGrant

open Text

inductive Language where
  | typescript
  | tsx
  | javascript
  deriving DecidableEq, Repr

namespace Language

def name : Language → String
  | typescript => "typescript"
  | tsx => "tsx"
  | javascript => "javascript"

def ofName? : String → Option Language
  | "typescript" => some typescript
  | "tsx" => some tsx
  | "javascript" => some javascript
  | _ => none

theorem ofName?_name (language : Language) : ofName? language.name = some language := by
  cases language <;> rfl

/-- The language of a file ending. No letter beyond ASCII has a lower case among these endings. -/
def ofExtension? (ending : String) : Option Language :=
  match lowerAscii ending with
  | ".ts" | ".mts" | ".cts" => some typescript
  | ".tsx" => some tsx
  | ".js" | ".mjs" | ".cjs" | ".jsx" => some javascript
  | _ => none

def ofPath? (path : Path) : Option Language := ofExtension? path.extension

end Language

/-- Whether a file only declares types and never runs. -/
def Path.isDeclarationFile (path : Path) : Bool :=
  [".d.ts", ".d.mts", ".d.cts"].any fun ending => endsIn ending path.name

end LeastGrant
