/-! UTF-8. A text is read byte by byte; a byte that cannot continue the character begun before it
ends that character as a fault and is then read afresh. Reading a file stops at the first fault;
showing a piece of source puts U+FFFD in the place of each. -/
namespace LeastGrant.Text

/-- Why bytes are not a character. -/
inductive DecodeReason where
  | invalidStart
  | invalidContinuation
  | truncated
  deriving DecidableEq, Repr

/-- A run of bytes that is no character: where it begins, its first byte and its length. -/
structure DecodeFault where
  position : Nat
  byte : UInt8
  size : Nat
  reason : DecodeReason
  deriving DecidableEq, Repr

/-- A character that has begun: its first byte, the bytes read, the bytes still owed, the bounds
of the next byte and the bits so far. -/
structure PendingChar where
  byte : UInt8
  size : Nat
  owed : Nat
  low : Nat
  high : Nat
  code : Nat
  deriving DecidableEq, Repr

inductive DecodedPiece where
  | char (c : Char)
  | fault (f : DecodeFault)
  deriving DecidableEq, Repr

/-- What a first byte says: a character of one byte, the start of a longer one, or a fault. -/
def leadByte (position : Nat) (byte : UInt8) : List DecodedPiece × Option PendingChar :=
  let b := byte.toNat
  if b < 0x80 then ([.char (Char.ofNat b)], none)
  else if b < 0xC2 then ([.fault ⟨position, byte, 1, .invalidStart⟩], none)
  else if b < 0xE0 then ([], some ⟨byte, 1, 1, 0x80, 0xBF, b - 0xC0⟩)
  else if b == 0xE0 then ([], some ⟨byte, 1, 2, 0xA0, 0xBF, 0⟩)
  else if b == 0xED then ([], some ⟨byte, 1, 2, 0x80, 0x9F, 0xD⟩)
  else if b < 0xF0 then ([], some ⟨byte, 1, 2, 0x80, 0xBF, b - 0xE0⟩)
  else if b == 0xF0 then ([], some ⟨byte, 1, 3, 0x90, 0xBF, 0⟩)
  else if b < 0xF4 then ([], some ⟨byte, 1, 3, 0x80, 0xBF, b - 0xF0⟩)
  else if b == 0xF4 then ([], some ⟨byte, 1, 3, 0x80, 0x8F, 4⟩)
  else ([.fault ⟨position, byte, 1, .invalidStart⟩], none)

/-- One byte: the pieces it completes and the character it leaves open. -/
def decodeByte (position : Nat) (pending : Option PendingChar) (byte : UInt8) :
    List DecodedPiece × Option PendingChar :=
  match pending with
  | none => leadByte position byte
  | some p =>
    if p.low ≤ byte.toNat && byte.toNat ≤ p.high then
      let code := p.code * 64 + (byte.toNat - 0x80)
      if p.owed ≤ 1 then ([.char (Char.ofNat code)], none)
      else ([], some ⟨p.byte, p.size + 1, p.owed - 1, 0x80, 0xBF, code⟩)
    else
      let broken := .fault ⟨position - p.size, p.byte, p.size, .invalidContinuation⟩
      let (pieces, next) := leadByte position byte
      (broken :: pieces, next)

/-- The characters and faults of a byte sequence, in order. -/
def decodePieces (position : Nat) (pending : Option PendingChar) : List UInt8 → List DecodedPiece
  | [] =>
    match pending with
    | none => []
    | some p => [.fault ⟨position - p.size, p.byte, p.size, .truncated⟩]
  | byte :: rest =>
    let (pieces, next) := decodeByte position pending byte
    pieces ++ decodePieces (position + 1) next rest

/-- The text, with U+FFFD for each run of bytes that is no character. -/
def decodeLossy (bytes : List UInt8) : List Char :=
  (decodePieces 0 none bytes).map fun
    | .char c => c
    | .fault _ => '�'

/-- The characters up to the first fault, which is the result if there is one. -/
def collectPieces : List DecodedPiece → Except DecodeFault (List Char)
  | [] => .ok []
  | .fault f :: _ => .error f
  | .char c :: rest => (collectPieces rest).map (c :: ·)

/-- The text, or the first run of bytes that is no character. -/
def decode (bytes : List UInt8) : Except DecodeFault (List Char) :=
  collectPieces (decodePieces 0 none bytes)

theorem decodeByte_ascii (position : Nat) (byte : UInt8) (h : byte.toNat < 0x80) :
    decodeByte position none byte = ([.char (Char.ofNat byte.toNat)], none) := by
  simp [decodeByte, leadByte, h]

/-- Two lower-case hexadecimal digits. -/
def hexByte (n : Nat) : String :=
  String.ofList [Nat.digitChar (n / 16 % 16), Nat.digitChar (n % 16)]

def DecodeReason.text : DecodeReason → String
  | .invalidStart => "invalid start byte"
  | .invalidContinuation => "invalid continuation byte"
  | .truncated => "unexpected end of data"

/-- The wording of a fault: one byte is named, several are given by their positions. -/
def DecodeFault.message (f : DecodeFault) : String :=
  if f.size ≤ 1 then
    s!"'utf-8' codec can't decode byte 0x{hexByte f.byte.toNat} in position {f.position}: {f.reason.text}"
  else
    s!"'utf-8' codec can't decode bytes in position {f.position}-{f.position + f.size - 1}: {f.reason.text}"

end LeastGrant.Text
