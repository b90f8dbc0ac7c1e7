/-
Names in composed form (NFC, in the Unicode Standard).

The same text can be written with composites or with letters and marks.  To compose it, every
composite is taken apart (`partsOf`), the marks after a letter are put into the order of their
combining classes (`orderMarks`), and letters take in what follows them as far as there are
composites (`composeFrom`).  A mark can be taken in if no other one of its class or a higher
one, and no letter, was left standing between it and the letter.
-/
import Strongbox.Url.Domain.Classes
import Strongbox.Url.Domain.Composites
namespace Strongbox.Url.Domain

/-- Puts a character before a text in order: a mark moves behind those of a lower class. -/
def placeMark (c : Char) : List Char → List Char
  | [] => [c]
  | d :: s =>
    if combiningClass d ≠ 0 ∧ combiningClass d < combiningClass c then d :: placeMark c s
    else c :: d :: s

/-- The text with the marks after each letter in the order of their classes.  Marks of one class
keep their order. -/
def orderMarks (s : List Char) : List Char := s.foldr placeMark []

/-- Can a letter be reached by the character `d`, past the marks that were left standing after
it, the last one first? -/
def reaches (left : List Char) (d : Char) : Bool :=
  left.head?.all fun m => combiningClass m < combiningClass d

/-- The letter `c`, the marks that were left standing after it, the last one first, and a text
that follows them, composed. -/
def composeFrom (c : Char) (left : List Char) : List Char → List Char
  | [] => c :: left.reverse
  | d :: s =>
    match if reaches left d then whole? c d else none with
    | some e => composeFrom e left s
    | none =>
      if combiningClass d = 0 then c :: left.reverse ++ composeFrom d [] s
      else composeFrom c (d :: left) s

/-- A text that is taken apart and in order, composed.  Marks before the first letter stay as
they are. -/
def composeOrdered : List Char → List Char
  | [] => []
  | c :: s => if combiningClass c = 0 then composeFrom c [] s else c :: composeOrdered s

/-- The composed form of a text. -/
def compose (s : List Char) : List Char := composeOrdered (orderMarks (s.flatMap partsOf))

/-- No ASCII character has a combining class. -/
theorem combiningClass_eq_zero {c : Char} (h : c.toNat < 128) : combiningClass c = 0 := by
  simp [combiningClass, Nat.lt_trans h (by decide : 128 < 0x300)]

end Strongbox.Url.Domain
