/-
Typed views of JSON values, and why a value has none.

A scalar view (`asText`, `asFlag`, `asNat32`, `asInt64`) accepts one kind of value.  A
record view is given by its fields (`Field`): from an object it takes the members it knows,
in the order of the object, and ignores the others; from an array it takes the items as its
fields, in the order of the fields.  A field that is not required keeps the value it has in
the blank record.

Faults name what was found, by `found`, and what was expected.
-/
import Strongbox.Json.Basic
import Strongbox.Number.Shortest
import Strongbox.Text.Quoted
namespace Strongbox.Json

/-- Why a value has no view of a type. -/
inductive DecodeFault where
  | wrongKind (found expected : String)
  | outOfRange (found expected : String)
  | missing (field : String)
  | wrongLength (length : Nat) (expected : String)
  deriving DecidableEq

def DecodeFault.message : DecodeFault → String
  | .wrongKind found expected => "invalid type: " ++ found ++ ", expected " ++ expected
  | .outOfRange found expected => "invalid value: " ++ found ++ ", expected " ++ expected
  | .missing field => "missing field `" ++ field ++ "`"
  | .wrongLength length expected =>
    "invalid length " ++ Numeral.decimal length ++ ", expected " ++ expected

/-- A value as faults show it. -/
def found : Json → String
  | .null => "null"
  | .bool b => "boolean `" ++ (if b then "true" else "false") ++ "`"
  | .integer n => "integer `" ++ Numeral.decimalInt n ++ "`"
  | .float x => "floating point `" ++ Shortest.text x ++ "`"
  | .string s => "string " ++ Text.quoted s
  | .array _ => "sequence"
  | .object _ => "map"

/-- The fault of a value of the wrong kind. -/
def mismatch {α : Type} (v : Json) (expected : String) : Except DecodeFault α :=
  .error (.wrongKind v.found expected)

def asText : Json → Except DecodeFault String
  | .string s => .ok s
  | v => mismatch v "a string"

def asFlag : Json → Except DecodeFault Bool
  | .bool b => .ok b
  | v => mismatch v "a boolean"

/-- An integer from `low` up to, but not including, `high`. -/
def asIntegerIn (low high : Int) (expected : String) : Json → Except DecodeFault Int
  | .integer n =>
    if low ≤ n ∧ n < high then .ok n else .error (.outOfRange (found (.integer n)) expected)
  | v => mismatch v expected

/-- A natural number of 32 bits. -/
def asNat32 (v : Json) : Except DecodeFault Nat :=
  (asIntegerIn 0 UInt32.size "u32" v).map Int.toNat

def asInt64 : Json → Except DecodeFault Int := 
  asIntegerIn (-9223372036854775808) 9223372036854775808 "i64"

/-- None for `null`, and else what `view` gives. -/
def optional {α : Type} (view : Json → Except DecodeFault α) : Json → Except DecodeFault (Option α)
  | .null => .ok none
  | v => (view v).map some

/-- A list of which every item has the view. -/
def asList {α : Type} (view : Json → Except DecodeFault α) : Json → Except DecodeFault (List α)
  | .array items => items.mapM view
  | v => mismatch v "a sequence"

/-- An object of which every member has the view. -/
def asMap {α : Type} (view : Json → Except DecodeFault α) :
    Json → Except DecodeFault (List (String × α))
  | .object members => members.mapM fun m => (view m.2).map fun a => (m.1, a)
  | v => mismatch v "a map"

/-- One field of a record: its name, how its value is put into the record, and whether the
record has to give it. -/
structure Field (ρ : Type) where
  name : String
  put : Json → ρ → Except DecodeFault ρ
  required : Bool

/-- A record type: its name in faults, its fields, and the record before any field is known. -/
structure Shape (ρ : Type) where
  name : String
  fields : List (Field ρ)
  blank : ρ

namespace Shape

variable {ρ : Type}

def label (s : Shape ρ) : String := "struct " ++ s.name

/-- The record type with its number of fields. -/
def sizedLabel (s : Shape ρ) : String :=
  s.label ++ " with " ++ Numeral.decimal s.fields.length
    ++ if s.fields.length = 1 then " element" else " elements"

/-- One member of an object put into the record. -/
def putMember (s : Shape ρ) (r : ρ) (m : String × Json) : Except DecodeFault ρ :=
  match s.fields.find? (·.name == m.1) with
  | some f => f.put m.2 r
  | none => .ok r

/-- The first required field that an object does not have. -/
def missing? (s : Shape ρ) (members : List (String × Json)) : Option (Field ρ) :=
  s.fields.find? fun f => f.required && (lookup f.name members).isNone

def ofMembers (s : Shape ρ) (members : List (String × Json)) : Except DecodeFault ρ := do
  let r ← members.foldlM s.putMember s.blank
  match s.missing? members with
  | some f => .error (.missing f.name)
  | none => .ok r

/-- The items of an array put into the fields `fs`, of which `i` have been read, and the
items that are left. -/
def putItems (s : Shape ρ) : (i : Nat) → (fs : List (Field ρ)) → List Json → ρ →
    Except DecodeFault (ρ × List Json)
  | _, [], items, r => .ok (r, items)
  | i, f :: fs, [], r =>
    if f.required then .error (.wrongLength i s.sizedLabel) else putItems s (i + 1) fs [] r
  | i, f :: fs, v :: items, r => do
    let r ← f.put v r
    putItems s (i + 1) fs items r

def ofItems (s : Shape ρ) (items : List Json) : Except DecodeFault ρ := do
  let (r, rest) ← s.putItems 0 s.fields items s.blank
  if rest.isEmpty then .ok r
  else .error (.wrongLength items.length "fewer elements in array")

/-- The record that a value holds. -/
def decode (s : Shape ρ) : Json → Except DecodeFault ρ
  | .object members => s.ofMembers members
  | .array items => s.ofItems items
  | v => mismatch v s.label

end Shape
end Strongbox.Json
