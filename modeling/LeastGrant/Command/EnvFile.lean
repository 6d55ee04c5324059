import LeastGrant.Text.Blank
import LeastGrant.Text.Unwritable

/-! Files that set variables. An entry is a name, an equals sign and a value, perhaps in quotes, which
may hold line feeds. A name alone unsets the variable. `export` may stand in front, and a comment at
the end. A line that cannot be read is left out. In values, a name in braces after a dollar sign
stands for its variable, or for what follows `:-` if there is none. -/
namespace LeastGrant

open Text

/-- Variables by name. -/
abbrev Variables := List (String × String)

namespace EnvFile

/-- What a file says about a variable; without a value it is unset. -/
structure Entry where
  name : String
  value : Option (List Char)
  deriving DecidableEq, Repr

/-- Whether a character is a blank within a line. -/
def isGap (c : Char) : Bool := isBlank c && c != '\n' && c != '\r'

/-- The text from the next line on. -/
def nextLine (text : List Char) : List Char := (text.dropWhile (· != '\n')).drop 1

/-- The text from the next line on, if there is nothing but a comment before it. -/
def endOfLine? (text : List Char) : Option (List Char) :=
  match text.dropWhile isGap with
  | [] => some []
  | '\n' :: rest => some rest
  | '#' :: rest => some (nextLine rest)
  | _ => none

/-- The text after the word `export` and blanks, if it begins so. -/
def withoutExport (text : List Char) : List Char :=
  let rest := text.drop 6
  if "export".toList.isPrefixOf text && rest.head?.any isGap then rest.dropWhile isGap else text

/-- The name at the start of a text, perhaps in quotes, and the text after it. A comment has none. -/
def nameAt? (text : List Char) : Option (Option (List Char) × List Char) :=
  match text with
  | '#' :: _ => some (none, text)
  | '\'' :: rest =>
    let name := rest.takeWhile (· != '\'')
    match name, rest.drop name.length with
    | _ :: _, _ :: after => some (some name, after)
    | _, _ => none
  | text =>
    match text.takeWhile fun c => c != '=' && c != '#' && !isBlank c with
    | [] => none
    | name => some (some name, text.drop name.length)

/-- The character that a letter stands for after a backslash in double quotes. -/
def escapedChar? : Char → Option Char
  | 'a' => some (Char.ofNat 7)
  | 'b' => some (Char.ofNat 8)
  | 'f' => some (Char.ofNat 12)
  | 'n' => some '\n'
  | 'r' => some '\r'
  | 't' => some '\t'
  | 'v' => some (Char.ofNat 11)
  | '\\' => some '\\'
  | '\'' => some '\''
  | '"' => some '"'
  | _ => none

/-- The characters that a backslash protects in single quotes. -/
def protectedChar? (c : Char) : Option Char := if c = '\\' ∨ c = '\'' then some c else none

/-- Replaces what is escaped in a quoted value. -/
def unescape (escapes : Char → Option Char) : List Char → List Char
  | [] => []
  | '\\' :: c :: rest =>
    match escapes c with
    | some escaped => escaped :: unescape escapes rest
    | none => '\\' :: unescape escapes (c :: rest)
  | c :: rest => c :: unescape escapes rest

/-- The characters up to a closing quote, and those after it. A quote after a backslash closes
nothing, unless there is no other that could. -/
def quotedPart (quote : Char) : List Char → Option (List Char × List Char)
  | [] => none
  | [c] => if c = quote then some ([], []) else none
  | c :: d :: rest =>
    if c = '\\' ∧ d = quote then
      match quotedPart quote rest with
      | some (inside, after) => some (c :: d :: inside, after)
      | none => some ([c], rest)
    else if c = quote then some ([], d :: rest)
    else (quotedPart quote (d :: rest)).map fun (inside, after) => (c :: inside, after)

/-- A value without quotes ends before blanks with a comment after them. -/
def bareValue : (afterBlank : Bool) → List Char → List Char
  | _, [] => []
  | afterBlank, c :: rest =>
    if afterBlank && c == '#' then [] else c :: bareValue (isBlank c) rest

/-- The value after an equals sign, and the text after it. -/
def valueAt? (text : List Char) : Option (List Char × List Char) :=
  match text.dropWhile isGap with
  | '\'' :: rest =>
    (quotedPart '\'' rest).map fun (inside, after) => (unescape protectedChar? inside, after)
  | '"' :: rest =>
    (quotedPart '"' rest).map fun (inside, after) => (unescape escapedChar? inside, after)
  | bare =>
    let line := bare.takeWhile (· != '\n')
    some (trimEnd (bareValue (text.head?.any isGap) line), bare.drop line.length)

/-- The entry at the start of a text, if it can be read, and the text from the next line on. -/
def entryAt (text : List Char) : Option Entry × List Char :=
  let finish := fun (name : Option (List Char)) (value : Option (List Char)) (rest : List Char) =>
    match endOfLine? rest with
    | some next => (name.map fun name => ⟨String.ofList name, value⟩, next)
    | none => (none, nextLine rest)
  match nameAt? (withoutExport text) with
  | none => (none, nextLine text)
  | some (name, rest) =>
    match rest.dropWhile isGap with
    | '=' :: after =>
      match valueAt? after with
      | some (value, rest) => finish name (some value) rest
      | none => (none, nextLine after)
    | rest => finish name none rest

/-- The entries of a text. Each takes a character at least, so the length of the text is enough of
`fuel`. -/
def entriesFrom : (fuel : Nat) → List Char → List Entry
  | 0, _ => []
  | fuel + 1, text =>
    match text.dropWhile isBlank with
    | [] => []
    | text =>
      let (entry, rest) := entryAt text
      entry.toList ++ entriesFrom fuel rest

def entries (text : List Char) : List Entry := entriesFrom text.length text

/-- A reference to a variable behind its opening brace: the name, what stands for it if there is none,
and how many characters it takes. -/
def referenceAt? (text : List Char) : Option (List Char × List Char × Nat) :=
  let name := text.takeWhile fun c => c != '\x7d' && c != ':'
  match text.drop name.length with
  | '\x7d' :: _ => some (name, [], name.length + 1)
  | ':' :: '-' :: rest =>
    let fallback := rest.takeWhile (· != '\x7d')
    if fallback.length < rest.length then some (name, fallback, name.length + fallback.length + 3)
    else none
  | _ => none

/-- Replaces references, after `skip` characters that have been read already. -/
def expandFrom (find : String → Option (List Char)) : (skip : Nat) → List Char → List Char
  | _, [] => []
  | skip + 1, _ :: rest => expandFrom find skip rest
  | 0, c :: rest =>
    match c, rest with
    | '$', '\x7b' :: body =>
      match referenceAt? body with
      | some (name, fallback, length) =>
        (find (String.ofList name)).getD fallback ++ expandFrom find (length + 1) rest
      | none => c :: expandFrom find 0 rest
    | _, _ => c :: expandFrom find 0 rest

/-- What an environment and the entries before say about a name. An unset variable is empty. -/
def find? (environment : Variables) (known : List Entry) (name : String) : Option (List Char) :=
  match environment.lookup name with
  | some value => some value.toList
  | none => (known.find? fun entry => entry.name == name).map fun entry => entry.value.getD []

/-- Entries with their references replaced. Those before them stand in reverse. -/
def resolve (environment : Variables) : (known : List Entry) → List Entry → List Entry
  | known, [] => known
  | known, entry :: rest =>
    let value := entry.value.map (expandFrom (find? environment known) 0)
    resolve environment (⟨entry.name, value⟩ :: known.filter (·.name != entry.name)) rest

/-- Whether no variable can have this name and value. -/
def isUnusable (name value : String) : Bool :=
  name.toList.contains '=' || hasNul name || hasNul value

/-- The variables that a file adds to an environment, or none at all if one of them is unusable. -/
def added? (environment : Variables) (text : List Char) : Option Variables :=
  let found := (resolve environment [] (entries text)).filterMap fun entry =>
    entry.value.map fun value => (entry.name, String.ofList value)
  let added := found.filter fun (name, _) => (environment.lookup name).isNone
  if added.any fun (name, value) => isUnusable name value then none else some added

/-- A file never sets a variable of the environment. -/
theorem lookup_of_added? (environment added : Variables) (text : List Char) (name value : String)
    (h : added? environment text = some added) (found : (name, value) ∈ added) :
    environment.lookup name = none := by
  simp only [added?] at h
  split at h
  · cases h
  · cases h
    have := (List.mem_filter.mp found).2
    simpa using this

end EnvFile

end LeastGrant
