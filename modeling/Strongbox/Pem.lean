/-
Sections of a PEM text.

A section starts with a line `-----BEGIN …-----`, ends with the line `-----END …-----` of
the same label, and holds base64 between them; text outside sections does not count.  A
start with another number of hyphens at its end, a section without an end, and one of a
known label whose content is no base64 are faults of the whole text.
-/
import Strongbox.Base64
import Strongbox.Text.Pieces
namespace Strongbox.Pem

/-- A section: its label, and the bytes it holds if they are base64. -/
structure Section where
  label : List UInt8
  content : Option (List UInt8)

/-- The labels whose content has to be base64. -/
def knownLabels : List String :=
  ["CERTIFICATE", "PUBLIC KEY", "RSA PRIVATE KEY", "PRIVATE KEY", "EC PRIVATE KEY", "X509 CRL",
   "CERTIFICATE REQUEST", "ECHCONFIG"]

def certificateLabel : List UInt8 := Utf8.ofString "CERTIFICATE"

/-- The lines of a text, without their ends. -/
def lines : List UInt8 → List (List UInt8)
  | [] => [[]]
  | b :: rest =>
    if b = 0x0A then [] :: lines rest
    else
      match lines rest with
      | [] => [[b]]
      | l :: ls => (b :: l) :: ls

/-- Does the line start with the bytes?  If so, what follows them. -/
def after? : (p line : List UInt8) → Option (List UInt8)
  | [], line => some line
  | _ :: _, [] => none
  | a :: p, b :: line => if a = b then after? p line else none

/-- A blank at the end of a line. -/
def isBlank (b : UInt8) : Bool := b == 0x20 || b == 0x0D || b == 0x09

/-- The label of a line that starts a section, behind its mark; it ends in five hyphens. -/
def startLabel? (rest : List UInt8) : Option (List UInt8) :=
  let r := rest.reverse.dropWhile isBlank
  if (r.takeWhile (· == 0x2D)).length = 5 then some (r.drop 5).reverse else none

/-- What a line that starts a section has before its label. -/
def startMark : List UInt8 := Utf8.ofString "-----BEGIN "

/-- The line that ends a section. -/
def endMark (label : List UInt8) : List UInt8 :=
  Utf8.ofString "-----END " ++ label ++ Utf8.ofString "-----"

/-- A section of a label and the base64 gathered in it. -/
def close (label gathered : List UInt8) : Section :=
  ⟨label, (Base64.decodeBytes (gathered.filter fun b => !isBlank b)).toOption⟩

/-- Is the section in order?  Only known ones have to hold base64. -/
def isSound (s : Section) : Bool :=
  s.content.isSome || !knownLabels.any fun l => Utf8.ofString l == s.label

/-- The sections of the lines, given the label and the content of the one that is open. -/
def read? : (current : Option (List UInt8 × List UInt8)) → List (List UInt8) → Option (List Section)
  | none, [] => some []
  | some _, [] => none
  | current, line :: rest =>
    match after? startMark line with
    | some tail => do
      let label ← startLabel? tail
      read? (some (label, [])) rest
    | none =>
      match current with
      | none => read? none rest
      | some (label, gathered) =>
        if (after? (endMark label) line).isSome then do
          let s := close label gathered
          if isSound s then (s :: ·) <$> read? none rest else none
        else read? (some (label, gathered ++ line)) rest

def sections? (text : List UInt8) : Option (List Section) := read? none (lines text)

def certificates? (text : List UInt8) : Option (List Section) :=
  (sections? text).map fun ss => ss.filter (·.label == certificateLabel)

end Strongbox.Pem
