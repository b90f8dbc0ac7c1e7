/-
Domain names of hosts, brought into their ASCII form (UTS 46, without transitional
processing).

Every character is mapped first (`mapChar`), which also turns every kind of full stop into a
point, and the whole name is composed (`compose`).  Then each label is looked at by itself.  A
label that starts with `xn--` is decoded and must come out as a label that mapping and
composing leave alone; any other label that is not ASCII is encoded.  No label may start with
a mark or hold a joiner out of place, and if the name has a letter written from right to left,
every label must keep the rule for mixed directions (RFC 5893).
-/
import Strongbox.Url.Domain.Mapping
import Strongbox.Url.Domain.Composition
import Strongbox.Url.Domain.Punycode
namespace Strongbox.Url.Domain

/-- May the character stand in a host?  Of the ASCII characters controls, the blank and
those that divide a URL may not. -/
def isHostChar (c : Char) : Bool :=
  0x7F < c.toNat || (0x20 < c.toNat && c.toNat < 0x7F && !"%#/:<>?@[\\]^|".toList.contains c)

/-- The name with every character mapped. -/
def mapAll? (name : List Char) : Option (List Char) :=
  (name.mapM mapChar).map List.flatten

/-- Is every character an ASCII one? -/
def isAscii (s : List Char) : Bool := s.all (·.toNat < 128)

/-- Looks from a joiner outwards for a character that joins on both sides or in the wanted
way. -/
def joins (wanted : Joining) : List Char → Bool
  | [] => false
  | c :: rest =>
    if joining c = .dual ∨ joining c = wanted then true
    else if joining c = .transparent then joins wanted rest
    else false

/-- Is the joiner `c` between `before`, read backwards, and `after` in place?  After a
virama both joiners are; elsewhere the one that keeps characters apart must stand between
two that would join. -/
def joinerInPlace (before : List Char) (c : Char) (after : List Char) : Bool :=
  match before with
  | [] => false
  | p :: _ =>
    isVirama p || (c.toNat == 0x200C && joins .left before && joins .right after)

/-- Are all joiners of a label in place, given what stands before it, read backwards? -/
def joinersInPlace : List Char → List Char → Bool
  | _, [] => true
  | before, c :: rest =>
    (if c.toNat = 0x200C ∨ c.toNat = 0x200D then joinerInPlace before c rest else true)
      && joinersInPlace (c :: before) rest

/-- Is the character a mark?  No ASCII character is one. -/
def isMark (c : Char) : Bool := 128 ≤ c.toNat && Text.inRanges marks c.toNat

/-- How many characters a label that is not ASCII may have. -/
def maxWide : Nat := 1000

/-- How many characters an encoded label may have after its mark. -/
def maxEncoded : Nat := 2000

/-- Is a label well formed in itself? -/
def isLabel (label : List Char) : Bool :=
  label.all isHostChar && !label.head?.any isMark && joinersInPlace [] label
    && (isAscii label || label.length ≤ maxWide)

/-- A label that stands between points: its characters, and its ASCII form. -/
structure Label where
  chars : List Char
  ascii : List Char

/-- Does mapping leave the character alone? -/
def isSettled (c : Char) : Bool := mapChar c == some [c]

/-- The characters that mark an encoded label. -/
def encodedMark : List Char := ['x', 'n', '-', '-']

/-- May the text stand after the mark of an encoded label? -/
def isCode (code : List Char) : Bool :=
  isAscii code && !code.isEmpty && code.getLast? != some '-' && code.length ≤ maxEncoded

/-- Do mapping and composing leave the text alone, and is it one label? -/
def isSettledLabel (s : List Char) : Bool :=
  s.all isSettled && compose s == s && !s.contains '.'

/-- A label of a mapped and composed name. -/
def Label.ofComposed? (s : List Char) : Option Label :=
  match Text.after? encodedMark s with
  | some code =>
    if isCode code then
      match Punycode.decode? code with
      | some chars => if isSettledLabel chars && isLabel chars then some ⟨chars, s⟩ else none
      | none => none
    else none
  | none =>
    if isLabel s then some ⟨s, if isAscii s then s else encodedMark ++ Punycode.encode s⟩ else none

/-- Does the character make its name one of mixed directions?  No ASCII character does. -/
def isRightToLeft (c : Char) : Bool :=
  128 ≤ c.toNat && (direction c == .rightToLeft || direction c == .arabicNumber)

/-- The direction of the last character that is no mark without a width. -/
def lastSpacing? (ds : List Direction) : Option Direction :=
  ds.reverse.find? (· != .nonspacing)

/-- The rule for a label that runs from left to right. -/
def keepsLeftToRight (ds : List Direction) : Bool :=
  ds.all (fun d => d == .leftToRight || d == .europeanNumber || d == .neutral || d == .nonspacing)
    && (lastSpacing? ds).all fun d => d == .leftToRight || d == .europeanNumber

/-- The rule for a label that runs from right to left. -/
def keepsRightToLeft (ds : List Direction) : Bool :=
  ds.all (fun d => d != .leftToRight && d != .embedding)
    && !(ds.contains .europeanNumber && ds.contains .arabicNumber)
    && (lastSpacing? ds).all fun d =>
      d == .rightToLeft || d == .europeanNumber || d == .arabicNumber

/-- Does a label keep the rule for mixed directions? -/
def keepsDirection (label : List Char) : Bool :=
  let ds := label.map direction
  match ds with
  | [] => true
  | .leftToRight :: _ => keepsLeftToRight ds
  | .rightToLeft :: _ => keepsRightToLeft ds
  | _ => false

/-- The ASCII form of a name. -/
def toAscii? (name : List Char) : Option (List Char) := do
  let mapped ← mapAll? name
  let labels ← (Text.pieces '.' (compose mapped)).mapM Label.ofComposed?
  if labels.any (·.chars.any isRightToLeft) && !labels.all (keepsDirection ·.chars) then none
  else some (Text.join '.' (labels.map Label.ascii))

end Strongbox.Url.Domain
