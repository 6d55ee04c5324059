import LeastGrant.Text.Identifier

/-! Literal values in the parameters of a tag: numbers, texts, bytes, the three constants and dots, and
tuples, sets and tables of them. Only whether a text is such a value matters here, so reading one
gives its sort and the text after it. -/
namespace LeastGrant.Report

/-- The sorts of values that the rules tell apart. -/
inductive LiteralSort where
  /-- A real number without a sign. -/
  | real
  /-- A real number with a sign. -/
  | signed
  /-- An imaginary number without a sign. -/
  | imaginary
  /-- A value that can be an element of a set or a name in a table. -/
  | fixed
  /-- A value that cannot: a set, a table, or a tuple that holds one. -/
  | growing
  deriving DecidableEq, Repr

/-- What the text of a literal is made of. -/
inductive LiteralToken where
  | number (sort : LiteralSort)
  | text
  | bytes
  | word (name : String)
  | dots
  | mark (c : Char)
  deriving DecidableEq, Repr

namespace LiteralToken

def isHexDigit (c : Char) : Bool := c.isDigit || ('a' ≤ c && c ≤ 'f') || ('A' ≤ c && c ≤ 'F')

/-- Digits with single underscores between them, and the text after them. -/
def digitRun (isDigit : Char → Bool) : List Char → List Char × List Char
  | '_' :: d :: rest =>
    if isDigit d then
      let (digits, after) := digitRun isDigit rest
      (d :: digits, after)
    else ([], '_' :: d :: rest)
  | d :: rest =>
    if isDigit d then
      let (digits, after) := digitRun isDigit rest
      (d :: digits, after)
    else ([], d :: rest)
  | [] => ([], [])

/-- Digits that do not begin with an underscore. -/
def digitsAt (isDigit : Char → Bool) (text : List Char) : List Char × List Char :=
  if text.head? = some '_' then ([], text) else digitRun isDigit text

/-- Whether a character could go on with a number or a word. -/
def goesOn (c : Char) : Bool := c.isAlphanum || c == '_' || 0x80 ≤ c.toNat

/-- An exponent after the digits of a number; without one nothing is read. -/
def exponentAt (text : List Char) : Bool × List Char :=
  match text with
  | e :: rest =>
    if e = 'e' ∨ e = 'E' then
      let unsigned := match rest with
        | '+' :: r | '-' :: r => r
        | r => r
      match digitsAt Char.isDigit unsigned with
      | ([], _) => (false, text)
      | (_, after) => (true, after)
    else (false, text)
  | [] => (false, [])

/-- A number in base ten. A whole number may begin with a zero only if it is zero. -/
def decimalAt? (text : List Char) : Option (LiteralSort × List Char) :=
  let (whole, afterWhole) := digitsAt Char.isDigit text
  let (hasPoint, places, afterPoint) := match afterWhole with
    | '.' :: rest =>
      let (places, after) := digitsAt Char.isDigit rest
      (true, places, after)
    | rest => (false, [], rest)
  let (hasExponent, after) := exponentAt afterPoint
  if whole.isEmpty && places.isEmpty then none
  else
    match after with
    | 'j' :: rest | 'J' :: rest => some (.imaginary, rest)
    | rest =>
      if !hasPoint && !hasExponent && whole.head? == some '0' && whole.any (· != '0') then none
      else some (.real, rest)

/-- A number; no letter may follow it directly. -/
def numberAt? (text : List Char) : Option (LiteralSort × List Char) :=
  let inBase := fun (isDigit : Char → Bool) (rest : List Char) =>
    match digitRun isDigit rest with
    | ([], _) => none
    | (_, after) => some (LiteralSort.real, after)
  let found := match text with
    | '0' :: 'x' :: rest | '0' :: 'X' :: rest => inBase isHexDigit rest
    | '0' :: 'o' :: rest | '0' :: 'O' :: rest => inBase (fun c => '0' ≤ c && c ≤ '7') rest
    | '0' :: 'b' :: rest | '0' :: 'B' :: rest => inBase (fun c => c == '0' || c == '1') rest
    | text => decimalAt? text
  found.filter fun (_, after) => !(after.head?.any goesOn)

/-- Whether the escapes of a text are complete. -/
def escapesHold (isBytes : Bool) : List Char → Bool
  | [] => true
  | '\\' :: c :: rest =>
    let digits := if c = 'x' then 2 else if isBytes then 0 else if c = 'u' then 4
      else if c = 'U' then 8 else 0
    (rest.take digits).length == digits && (rest.take digits).all isHexDigit &&
      escapesHold isBytes rest
  | _ :: rest => escapesHold isBytes rest

/-- What stands between quotes, and the text after them. The closing quotes are `quote` `count`
times, a backslash takes the next character with it, and only three quotes hold lines. -/
def quotedAt? (quote : Char) (count : Nat) : (skip : Bool) → List Char → Option (List Char × List Char)
  | _, [] => none
  | true, c :: rest =>
    (quotedAt? quote count false rest).map fun (inside, after) => (c :: inside, after)
  | false, c :: rest =>
    if c = quote ∧ (c :: rest).take count = List.replicate count quote then
      some ([], rest.drop (count - 1))
    else if c = '\n' ∧ count = 1 then none
    else (quotedAt? quote count (c == '\\') rest).map fun (inside, after) => (c :: inside, after)

/-- The letters that may stand in front of quotes, in lower case. -/
def quotationLetters : List String := ["", "r", "u", "b", "br", "rb"]

/-- A text or bytes after the letters in front of the quotes. -/
def quotationAt? (letters : List Char) (text : List Char) : Option (LiteralToken × List Char) :=
  let letters := letters.map Char.toLower
  let isBytes := letters.contains 'b'
  let isRaw := letters.contains 'r'
  if !quotationLetters.contains (String.ofList letters) then none
  else
    match text with
    | quote :: rest =>
      if quote != '\'' && quote != '"' then none
      else
        let count := if rest.take 2 = [quote, quote] then 3 else 1
        match quotedAt? quote count false (rest.drop (count - 1)) with
        | none => none
        | some (inside, after) =>
          if !isRaw && !escapesHold isBytes inside then none
          else if isBytes && inside.any fun c => 0x80 ≤ c.toNat then none
          else some (if isBytes then .bytes else .text, after)
    | [] => none

/-- The token at the start of a text that begins with no blank. -/
def at? (text : List Char) : Option (LiteralToken × List Char) :=
  let letters := text.takeWhile goesOn
  let after := text.drop letters.length
  match text with
  | '.' :: '.' :: '.' :: rest => some (.dots, rest)
  | c :: rest =>
    if c.isDigit || c == '.' then (numberAt? text).map fun (sort, after) => (.number sort, after)
    else if after.head?.any fun q => q == '\'' || q == '"' then quotationAt? letters after
    else if !letters.isEmpty then some (.word (String.ofList letters), after)
    else if "()\x7b\x7d,:+-".toList.contains c then some (.mark c, rest)
    else none
  | [] => none

/-- How deep a mark leads into brackets. -/
def depthAfter (depth : Nat) : LiteralToken → Nat
  | .mark '(' | .mark '\x7b' => depth + 1
  | .mark ')' | .mark '\x7d' => depth - 1
  | _ => depth

/-- The tokens of a text. The end of a line counts only outside brackets, and `#` begins a comment.
Every step takes a character at least, so the length of the text is enough of `fuel`. -/
def all? : (fuel depth : Nat) → List Char → Option (List LiteralToken)
  | _, _, [] => some []
  | 0, _, _ => none
  | fuel + 1, depth, c :: rest =>
    if c = ' ' ∨ c = '\t' ∨ c.toNat = 12 ∨ (c = '\n' ∧ 0 < depth) then all? fuel depth rest
    else if c = '\\' ∧ rest.head? = some '\n' then all? fuel depth rest.tail
    else if c = '#' then all? fuel depth (rest.dropWhile (· != '\n'))
    else if c = '\n' then (all? fuel depth rest).map (.mark c :: ·)
    else
      match at? (c :: rest) with
      | none => none
      | some (token, after) => (all? fuel (token.depthAfter depth) after).map (token :: ·)

end LiteralToken

namespace LiteralSort

open LiteralToken

/-- Whether a value of this sort can be an element of a set. -/
def isFixed (sort : LiteralSort) : Bool := sort != .growing

/-- The sort of a tuple. -/
def ofTuple (elements : List LiteralSort) : LiteralSort :=
  if elements.all isFixed then .fixed else .growing

/-- What reading a value gives: its sort, and the tokens after it. -/
abbrev Result := Option (LiteralSort × List LiteralToken)

/-- A sign in front of a number. -/
def signedNumber : Result → Result
  | some (.real, rest) => some (.signed, rest)
  | some (.imaginary, rest) => some (.fixed, rest)
  | _ => none

mutual
/-- A value without a sign. -/
def atom : (fuel : Nat) → List LiteralToken → Result
  | 0, _ => none
  | fuel + 1, tokens =>
    match tokens with
    | .number sort :: rest => some (sort, rest)
    | .text :: rest => some (.fixed, rest.dropWhile (· == .text))
    | .bytes :: rest => some (.fixed, rest.dropWhile (· == .bytes))
    | .dots :: rest | .word "None" :: rest | .word "True" :: rest | .word "False" :: rest =>
      some (.fixed, rest)
    | .word "set" :: .mark '(' :: .mark ')' :: rest => some (.growing, rest)
    | .mark '(' :: .mark ')' :: rest => some (.fixed, rest)
    | .mark '(' :: rest =>
      match elements fuel rest with
      | some ([sort], false, .mark ')' :: rest) => some (sort, rest)
      | some (sorts, _, .mark ')' :: rest) => some (ofTuple sorts, rest)
      | _ => none
    | .mark '\x7b' :: .mark '\x7d' :: rest => some (.growing, rest)
    | .mark '\x7b' :: rest =>
      match elements fuel rest with
      | some (sorts, _, .mark '\x7d' :: rest) =>
        if sorts.all isFixed then some (.growing, rest) else none
      | _ => entries fuel rest
    | _ => none

/-- A value: a number with a sign, or the sum of a real and an imaginary number, or another. -/
def value : (fuel : Nat) → List LiteralToken → Result
  | 0, _ => none
  | fuel + 1, tokens =>
    let first := match tokens with
      | .mark '+' :: rest | .mark '-' :: rest => signedNumber (atom fuel rest)
      | tokens => atom fuel tokens
    match first with
    | some (.real, .mark '+' :: rest) | some (.real, .mark '-' :: rest)
    | some (.signed, .mark '+' :: rest) | some (.signed, .mark '-' :: rest) =>
      match atom fuel rest with
      | some (.imaginary, rest) => some (.fixed, rest)
      | _ => none
    | found => found

/-- Values with commas between them, and whether there was a comma. -/
def elements : (fuel : Nat) → List LiteralToken →
    Option (List LiteralSort × Bool × List LiteralToken)
  | 0, _ => none
  | fuel + 1, tokens =>
    match value fuel tokens with
    | none => none
    | some (sort, .mark ',' :: rest) =>
      match elements fuel rest with
      | some (sorts, _, rest) => some (sort :: sorts, true, rest)
      | none => some ([sort], true, rest)
    | some (sort, rest) => some ([sort], false, rest)

/-- The entries of a table up to its closing brace. -/
def entries : (fuel : Nat) → List LiteralToken → Result
  | 0, _ => none
  | fuel + 1, tokens =>
    match value fuel tokens with
    | some (name, .mark ':' :: rest) =>
      match name.isFixed, value fuel rest with
      | true, some (_, .mark '\x7d' :: rest) | true, some (_, .mark ',' :: .mark '\x7d' :: rest) =>
        some (.growing, rest)
      | true, some (_, .mark ',' :: rest) => entries fuel rest
      | _, _ => none
    | _ => none
end

end LiteralSort

/-- Whether a text is a literal value. Values with commas between them are a tuple. Only lines without
a value may stand before and after the one that has it. -/
def isLiteral (text : List Char) : Bool :=
  match LiteralToken.all? text.length 0 text with
  | none => false
  | some tokens =>
    match LiteralSort.elements (4 * tokens.length + 4) (tokens.dropWhile (· == .mark '\n')) with
    | some (_, _, rest) => rest.all (· == .mark '\n')
    | none => false

/-- The parameters of an action: what stands in brackets after its name, or everything. A name alone
has none. -/
def actionParameters (text : List Char) : List Char :=
  let name := text.takeWhile fun c => c == '.' || Text.isIdentifierTail c
  match text.drop name.length with
  | [] => ['(', ')']
  | rest =>
    if rest.head? == some '(' && rest.getLast? == some ')' && !rest.contains '\n' then rest else text

end LeastGrant.Report
