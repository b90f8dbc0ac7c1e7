/-
Reading one JSON value from bytes.

The grammar is that of RFC 8259, and nesting is bounded: the value that would open bracket
number `depthLimit` is refused.  The last member of a name counts.  An integer that fits 64
bits, signed or unsigned, stays an integer, except `-0`; any other number is a floating
point number, made from the first digits that fit 64 bits and a power of ten.  The functions
take what makes it as `scale`; `readBytes` makes it by rounded steps (`Binary64.ofScaled?`).

A text is refused with a cause and the place where reading stopped.  Each function below
takes the bytes that are left, so a place is first the number of bytes left behind it
(`Stop`); `readBytes` turns it into a line and a column.
-/
import Strongbox.Json.Basic
import Strongbox.Text.Numeral
import Strongbox.Text.Utf8
namespace Strongbox.Json

/-- Why a text is no JSON value. -/
inductive ReadCause where
  | endInList
  | endInObject
  | endInString
  | endInValue
  | expectedColon
  | expectedListCommaOrEnd
  | expectedObjectCommaOrEnd
  | expectedWord
  | expectedValue
  | invalidEscape
  | invalidNumber
  | numberOutOfRange
  | invalidCodePoint
  | controlCharacter
  | nameNotString
  | loneSurrogate
  | trailingComma
  | trailingCharacters
  | endOfHexEscape
  | tooDeep
  deriving DecidableEq

def ReadCause.message : ReadCause → String
  | .endInList => "EOF while parsing a list"
  | .endInObject => "EOF while parsing an object"
  | .endInString => "EOF while parsing a string"
  | .endInValue => "EOF while parsing a value"
  | .expectedColon => "expected `:`"
  | .expectedListCommaOrEnd => "expected `,` or `]`"
  | .expectedObjectCommaOrEnd => "expected `,` or `\x7d`"
  | .expectedWord => "expected ident"
  | .expectedValue => "expected value"
  | .invalidEscape => "invalid escape"
  | .invalidNumber => "invalid number"
  | .numberOutOfRange => "number out of range"
  | .invalidCodePoint => "invalid unicode code point"
  | .controlCharacter => "control character (\\u0000-\\u001F) found while parsing a string"
  | .nameNotString => "key must be a string"
  | .loneSurrogate => "lone leading surrogate in hex escape"
  | .trailingComma => "trailing comma"
  | .trailingCharacters => "trailing characters"
  | .endOfHexEscape => "unexpected end of hex escape"
  | .tooDeep => "recursion limit exceeded"

/-- A cause and a place in the text. -/
structure ReadFault where
  cause : ReadCause
  line : Nat
  column : Nat

def ReadFault.message (f : ReadFault) : String :=
  f.cause.message ++ " at line " ++ Numeral.decimal f.line ++ " column " ++ Numeral.decimal f.column

namespace Reader

/-- A cause and the number of bytes left behind the place. -/
structure Stop where
  cause : ReadCause
  left : Nat

/-- The bytes that are left. -/
abbrev Bytes := List UInt8

/-- Stop before the first byte that is left. -/
def stop {α : Type} (cause : ReadCause) (rest : Bytes) : Except Stop α :=
  .error ⟨cause, rest.length⟩

/-- Stop behind the first byte that is left, or at the end. -/
def stopBehind {α : Type} (cause : ReadCause) (rest : Bytes) : Except Stop α :=
  .error ⟨cause, rest.length - 1⟩

/-- The byte of an ASCII character. -/
def byte (c : Char) : UInt8 := c.toNat.toUInt8

def isBlankByte (b : UInt8) : Bool := b == 0x20 || b == 0x0A || b == 0x09 || b == 0x0D

/-- The bytes from the next token on. -/
def skipBlanks (bs : Bytes) : Bytes := bs.dropWhile isBlankByte

/-- The value of a byte that is a decimal digit. -/
def digit? (b : UInt8) : Option Nat :=
  if 0x30 ≤ b && b ≤ 0x39 then some (b.toNat - 0x30) else none

/-- The rest of a word whose first letter has been read. -/
def word : Bytes → Bytes → Except Stop (Unit × Bytes)
  | [], rest => .ok ((), rest)
  | _ :: _, [] => stop .endInValue []
  | w :: ws, b :: rest => if b = w then word ws rest else stop .expectedWord rest

/-! ### Numbers -/

section

variable (scale : Nat → Int → Option Binary64)

/-- The greatest integer that digits are gathered in. -/
def gatherLimit : Nat := UInt64.size

/-- A number from the gathered digits and a power of ten. -/
def float (negative : Bool) (digits : Nat) (exponent : Int) (rest : Bytes) :
    Except Stop (Json × Bytes) :=
  match scale digits exponent with
  | some x => .ok (.float { x with negative := negative }, rest)
  | none => stop .numberOutOfRange rest

/-- The bytes behind a run of digits. -/
def skipDigits (bs : Bytes) : Bytes := bs.dropWhile fun b => (digit? b).isSome

/-- The greatest exponent that is gathered. -/
def exponentLimit : Nat := 2147483648

/-- The digits of an exponent behind its first one, and the number they make; `none` for the
number if it reaches the limit, and then the bytes from behind the digit that took it there.
-/
def exponentDigits (e : Nat) : Bytes → Option Nat × Bytes
  | [] => (some e, [])
  | b :: rest =>
    match digit? b with
    | none => (some e, b :: rest)
    | some d =>
      if e * 10 + d < exponentLimit then exponentDigits (e * 10 + d) rest else (none, rest)

/-- An exponent of 32 bits with a sign: beyond its range the nearest end of it. -/
def clampExponent (e : Int) : Int := max (-2147483648) (min 2147483647 e)

/-- The part of a number behind `e` or `E`. -/
def exponent (negative : Bool) (digits : Nat) (start : Int) (bs : Bytes) :
    Except Stop (Json × Bytes) :=
  let (down, bs) :=
    match bs with
    | b :: rest =>
      if b = byte '-' then (true, rest) else if b = byte '+' then (false, rest) else (false, bs)
    | [] => (false, bs)
  match bs with
  | [] => stop .endInValue []
  | b :: rest =>
    match digit? b with
    | none => stop .invalidNumber rest
    | some d =>
      match exponentDigits d rest with
      | (some e, rest) =>
        float scale negative digits (clampExponent (if down then start - e else start + e)) rest
      | (none, rest) =>
        if digits ≠ 0 ∧ !down then stop .numberOutOfRange rest
        else .ok (.float (.zero negative), skipDigits rest)

/-- The end of a number whose digits have all been read. -/
def afterDigits (negative : Bool) (digits : Nat) (e : Int) (bs : Bytes) :
    Except Stop (Json × Bytes) :=
  match bs with
  | b :: rest =>
    if b = byte 'e' ∨ b = byte 'E' then exponent scale negative digits e rest
    else float scale negative digits e bs
  | [] => float scale negative digits e bs

/-- The digits behind the point, of which `read` have been taken. -/
def fraction (negative : Bool) (start : Int) :
    (digits read : Nat) → Bytes → Except Stop (Json × Bytes)
  | digits, read, [] =>
    if read = 0 then stopBehind .endInValue [] else float scale negative digits (start - read) []
  | digits, read, b :: rest =>
    match digit? b with
    | some d =>
      if digits * 10 + d < gatherLimit then
        fraction negative start (digits * 10 + d) (read + 1) rest
      else afterDigits scale negative digits (start - read) (skipDigits rest)
    | none =>
      if read = 0 then stopBehind .invalidNumber (b :: rest)
      else afterDigits scale negative digits (start - read) (b :: rest)

/-- The digits of an integer that do not fit any more; each is a power of ten. -/
def longInteger (negative : Bool) (digits : Nat) :
    (dropped : Nat) → Bytes → Except Stop (Json × Bytes)
  | dropped, [] => float scale negative digits dropped []
  | dropped, b :: rest =>
    if (digit? b).isSome then longInteger negative digits (dropped + 1) rest
    else if b = byte '.' then fraction scale negative dropped digits 0 rest
    else afterDigits scale negative digits dropped (b :: rest)

/-- A number without point and exponent. -/
def plain (negative : Bool) (digits : Nat) (rest : Bytes) : Except Stop (Json × Bytes) :=
  if negative then
    if digits = 0 ∨ 9223372036854775808 < digits then float scale true digits 0 rest
    else .ok (.integer (-digits), rest)
  else .ok (.integer digits, rest)

/-- What follows the digits of an integer. -/
def afterInteger (negative : Bool) (digits : Nat) (bs : Bytes) : Except Stop (Json × Bytes) :=
  match bs with
  | b :: rest =>
    if b = byte '.' then fraction scale negative 0 digits 0 rest
    else if b = byte 'e' ∨ b = byte 'E' then exponent scale negative digits 0 rest
    else plain scale negative digits bs
  | [] => plain scale negative digits bs

/-- The digits of an integer behind its first one, which is not zero. -/
def integer (negative : Bool) : (digits : Nat) → Bytes → Except Stop (Json × Bytes)
  | digits, [] => afterInteger scale negative digits []
  | digits, b :: rest =>
    match digit? b with
    | some d =>
      if digits * 10 + d < gatherLimit then integer negative (digits * 10 + d) rest
      else longInteger scale negative digits 1 rest
    | none => afterInteger scale negative digits (b :: rest)

/-- A number behind its sign. -/
def number (negative : Bool) : Bytes → Except Stop (Json × Bytes)
  | [] => stop .endInValue []
  | b :: rest =>
    match digit? b with
    | none => stop .invalidNumber rest
    | some 0 =>
      match rest with
      | c :: _ =>
        if (digit? c).isSome then stopBehind .invalidNumber rest
        else afterInteger scale negative 0 rest
      | [] => afterInteger scale negative 0 []
    | some d => integer scale negative d rest

end

/-! ### Strings -/

/-- The number written by four hexadecimal digits. -/
def hexFour : Bytes → Except Stop (Nat × Bytes)
  | a :: b :: c :: d :: rest =>
    match Numeral.read? 16 ([a, b, c, d].map fun x => Char.ofNat x.toNat) with
    | some n => .ok (n, rest)
    | none => stop .invalidEscape rest
  | _ => stop .endInString []

/-- Is the number a leading surrogate? -/
def isLeading (n : Nat) : Bool := 0xD800 ≤ n && n ≤ 0xDBFF

/-- Is the number a trailing surrogate? -/
def isTrailing (n : Nat) : Bool := 0xDC00 ≤ n && n ≤ 0xDFFF

/-- One given byte behind a leading surrogate. -/
def expectByte (c : UInt8) : Bytes → Except Stop (Unit × Bytes)
  | [] => stop .endInString []
  | b :: rest => if b = c then .ok ((), rest) else stop .endOfHexEscape rest

/-- The code point of an escape behind `\u`. -/
def codePoint (bs : Bytes) : Except Stop (Nat × Bytes) := do
  let (n, bs) ← hexFour bs
  if isTrailing n then stop .loneSurrogate bs
  else if isLeading n then
    let ((), bs) ← expectByte (byte '\\') bs
    let ((), bs) ← expectByte (byte 'u') bs
    let (m, bs) ← hexFour bs
    if isTrailing m then .ok ((n - 0xD800) * 0x400 + (m - 0xDC00) + 0x10000, bs)
    else stop .loneSurrogate bs
  else .ok (n, bs)

/-- The bytes that an escape behind its backslash stands for. -/
def escape : Bytes → Except Stop (Bytes × Bytes)
  | [] => stop .endInString []
  | b :: rest =>
    if b = byte '"' ∨ b = byte '\\' ∨ b = byte '/' then .ok ([b], rest)
    else if b = byte 'b' then .ok ([0x08], rest)
    else if b = byte 'f' then .ok ([0x0C], rest)
    else if b = byte 'n' then .ok ([0x0A], rest)
    else if b = byte 'r' then .ok ([0x0D], rest)
    else if b = byte 't' then .ok ([0x09], rest)
    else if b = byte 'u' then do
      let (n, rest) ← codePoint rest
      .ok (String.utf8EncodeChar (Char.ofNat n), rest)
    else stop .invalidEscape rest

/-- The bytes of a string up to its closing quote, behind those already read, which are
given last one first. -/
def stringBytes : Nat → Bytes → Bytes → Except Stop (Bytes × Bytes)
  | 0, _, rest => stop .endInString rest
  | _, _, [] => stop .endInString []
  | fuel + 1, acc, b :: rest =>
    if b = byte '"' then .ok (acc.reverse, rest)
    else if b = byte '\\' then do
      let (bs, rest) ← escape rest
      stringBytes fuel (bs.reverse ++ acc) rest
    else if b < 0x20 then stop .controlCharacter rest
    else stringBytes fuel (b :: acc) rest

/-- A string behind its opening quote. -/
def string (bs : Bytes) : Except Stop (String × Bytes) := do
  let (s, rest) ← stringBytes (bs.length + 1) [] bs
  match Utf8.read? s with
  | some cs => .ok (String.ofList cs, rest)
  | none => stop .invalidCodePoint rest

/-! ### Values -/

/-- What may stand after an item of a list: its end, or a comma and a further item. -/
def listNext (first : Bool) (bs : Bytes) : Except Stop (Bool × Bytes) :=
  match skipBlanks bs with
  | [] => stopBehind .endInList []
  | b :: rest =>
    if b = byte ']' then .ok (false, rest)
    else if first then .ok (true, b :: rest)
    else if b = byte ',' then
      match skipBlanks rest with
      | [] => stopBehind .endInValue []
      | c :: rest =>
        if c = byte ']' then stopBehind .trailingComma (c :: rest) else .ok (true, c :: rest)
    else stopBehind .expectedListCommaOrEnd (b :: rest)

/-- What may stand after a member of an object: its end, or a comma and a further name, of
which the opening quote is taken. -/
def objectNext (first : Bool) (bs : Bytes) : Except Stop (Bool × Bytes) :=
  match skipBlanks bs with
  | [] => stopBehind .endInObject []
  | b :: rest =>
    if b = byte '\x7d' then .ok (false, rest)
    else if first then
      if b = byte '"' then .ok (true, rest) else stopBehind .nameNotString (b :: rest)
    else if b = byte ',' then
      match skipBlanks rest with
      | [] => stopBehind .endInValue []
      | c :: rest =>
        if c = byte '"' then .ok (true, rest)
        else if c = byte '\x7d' then stopBehind .trailingComma (c :: rest)
        else stopBehind .nameNotString (c :: rest)
    else stopBehind .expectedObjectCommaOrEnd (b :: rest)

/-- The colon between a name and its value. -/
def colon (bs : Bytes) : Except Stop (Unit × Bytes) :=
  match skipBlanks bs with
  | [] => stopBehind .endInObject []
  | b :: rest => if b = byte ':' then .ok ((), rest) else stopBehind .expectedColon (b :: rest)

section

variable (scale : Nat → Int → Option Binary64)

mutual

/-- A value; `depth` brackets may still be open at once, the limit among them. -/
def value : (fuel depth : Nat) → Bytes → Except Stop (Json × Bytes)
  | 0, _, bs => stopBehind .endInValue bs
  | fuel + 1, depth, bs =>
    match skipBlanks bs with
    | [] => stopBehind .endInValue []
    | b :: rest =>
      if b = byte 'n' then (word (Utf8.ofString "ull") rest).map fun r => (.null, r.2)
      else if b = byte 't' then (word (Utf8.ofString "rue") rest).map fun r => (.bool true, r.2)
      else if b = byte 'f' then (word (Utf8.ofString "alse") rest).map fun r => (.bool false, r.2)
      else if b = byte '-' then number scale true rest
      else if (digit? b).isSome then number scale false (b :: rest)
      else if b = byte '"' then (string rest).map fun r => (.string r.1, r.2)
      else if b = byte '[' then
        if depth ≤ 1 then stopBehind .tooDeep (b :: rest)
        else (items fuel (depth - 1) true [] rest).map fun r => (.array r.1, r.2)
      else if b = byte '\x7b' then
        if depth ≤ 1 then stopBehind .tooDeep (b :: rest)
        else (members fuel (depth - 1) true [] rest).map fun r => (.object r.1, r.2)
      else stopBehind .expectedValue (b :: rest)

/-- The items of a list to its end, behind those already read, which are given last one
first. -/
def items : (fuel depth : Nat) → Bool → List Json → Bytes → Except Stop (List Json × Bytes)
  | 0, _, _, _, bs => stopBehind .endInList bs
  | fuel + 1, depth, first, acc, bs => do
    match ← listNext first bs with
    | (false, rest) => .ok (acc.reverse, rest)
    | (true, rest) =>
      let (v, rest) ← value fuel depth rest
      items fuel depth false (v :: acc) rest

/-- The members of an object to its end, with those already read. -/
def members : (fuel depth : Nat) → Bool → List (String × Json) → Bytes →
    Except Stop (List (String × Json) × Bytes)
  | 0, _, _, _, bs => stopBehind .endInObject bs
  | fuel + 1, depth, first, acc, bs => do
    match ← objectNext first bs with
    | (false, rest) => .ok (acc, rest)
    | (true, rest) =>
      let (name, rest) ← string rest
      let ((), rest) ← colon rest
      let (v, rest) ← value fuel depth rest
      members fuel depth false (Json.insert name v acc) rest

end

/-- A text that is one value, with blanks around it. -/
def whole (depth : Nat) (bs : Bytes) : Except Stop Json := do
  let (v, rest) ← value scale (2 * bs.length + 2) depth bs
  match skipBlanks rest with
  | [] => .ok v
  | b :: rest => stopBehind .trailingCharacters (b :: rest)

end

end Reader

/-- Opening the bracket of this number is refused. -/
def depthLimit : Nat := 128

/-- The line and the column of a place: lines count from one, and a column is the number of
bytes between the start of the line and the place. -/
def place (before : List UInt8) : Nat × Nat :=
  (before.count 0x0A + 1, (before.reverse.takeWhile (· != 0x0A)).length)

/-- The value that the bytes are the text of. -/
def readBytes (bs : List UInt8) : Except ReadFault Json :=
  match Reader.whole Binary64.ofScaled? depthLimit bs with
  | .ok v => .ok v
  | .error s =>
    let (line, column) := place (bs.take (bs.length - s.left))
    .error ⟨s.cause, line, column⟩

end Strongbox.Json
