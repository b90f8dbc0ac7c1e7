/-
Form encoding loses nothing of a list of pairs.

A form is read as a server reads it (`Form.decode?`): cut at `&`, empty parts left out, every part
cut at its first `=`, and in both sides a plus taken for a blank and every escape for its byte.
Names and values are written without `&`, `=` and plus, so the cuts are found again.

* `decodeText?_encodeText` — a name or a value is read back;
* `decodePair?_encodePair` — a pair is cut where it was put together;
* `decode?_encode` — a list of pairs is read back, in its order, with all its repetitions.
-/
import Strongbox.Form
import Strongbox.Proofs.Percent
import Strongbox.Proofs.Pieces

namespace Strongbox.Form

/-! ### Reading a form -/

/-- A plus stands for a blank. -/
def blankOf (c : Char) : Char := if c = '+' then ' ' else c

/-- The name or the value that a text of a form stands for. -/
def decodeText? (s : List Char) : Option String :=
  (Utf8.read? (Percent.decode (s.map blankOf))).map String.ofList

/-- The pair that a part of a form stands for; a part without `=` is a name. -/
def decodePair? (s : List Char) : Option (String × String) :=
  match Text.splitOnce? ['='] s with
  | some (name, value) => do
    let n ← decodeText? name
    let v ← decodeText? value
    pure (n, v)
  | none => (decodeText? s).map fun n => (n, "")

/-- The pairs that a form stands for. -/
def decode? (s : List Char) : Option (List (String × String)) :=
  ((Text.pieces '&' s).filter fun part => !part.isEmpty).mapM decodePair?

/-! ### Names and values -/

/-- The bytes that stand for themselves when a plus has been taken for a blank. -/
def isPlainOrBlank (b : UInt8) : Bool := b == 0x20 || isPlain b

theorem isClear_isPlainOrBlank : Percent.IsClear isPlainOrBlank :=
  Percent.forall_byte (by decide +kernel)

theorem encodeByte_facts (b : UInt8) :
    (encodeByte b).map blankOf = Percent.encodeByte isPlainOrBlank b ∧
      '&' ∉ encodeByte b ∧ '=' ∉ encodeByte b :=
  Percent.forall_byte
    (P := fun b => (encodeByte b).map blankOf = Percent.encodeByte isPlainOrBlank b ∧
      '&' ∉ encodeByte b ∧ '=' ∉ encodeByte b) (by decide +kernel) b

theorem map_blankOf_encodeText (s : String) :
    (encodeText s).map blankOf = Percent.encode isPlainOrBlank s.toList := by
  rw [encodeText, List.map_flatMap, Percent.encode, Utf8.ofString]
  exact List.flatMap_congr fun b _ => (encodeByte_facts b).1

theorem not_mem_encodeText (s : String) : '&' ∉ encodeText s ∧ '=' ∉ encodeText s := by
  constructor
  · intro h
    obtain ⟨b, -, hb⟩ := List.mem_flatMap.1 h
    exact (encodeByte_facts b).2.1 hb
  · intro h
    obtain ⟨b, -, hb⟩ := List.mem_flatMap.1 h
    exact (encodeByte_facts b).2.2 hb

/-- A name or a value is read back. -/
theorem decodeText?_encodeText (s : String) : decodeText? (encodeText s) = some s := by
  rw [decodeText?, map_blankOf_encodeText, Percent.decode_encode isClear_isPlainOrBlank,
    Utf8.read?_bytes, Option.map_some, String.ofList_toList]

/-! ### Pairs -/

variable (pair : String × String) (pairs : List (String × String))

theorem encodePair_ne_nil : encodePair pair ≠ [] :=
  List.append_ne_nil_of_right_ne_nil _ (List.cons_ne_nil _ _)

theorem not_mem_encodePair : '&' ∉ encodePair pair := by
  intro h
  rcases List.mem_append.1 h with h | h
  · exact (not_mem_encodeText pair.1).1 h
  · rcases List.mem_cons.1 h with h | h
    · exact absurd h (by decide)
    · exact (not_mem_encodeText pair.2).1 h

/-- A pair is cut where it was put together. -/
theorem decodePair?_encodePair : decodePair? (encodePair pair) = some pair := by
  have hcut : Text.splitOnce? ['='] (encodePair pair) =
      some (encodeText pair.1, encodeText pair.2) :=
    Text.splitOnce?_singleton.2 ⟨rfl, (not_mem_encodeText pair.1).2⟩
  rw [decodePair?, hcut]
  simp only [decodeText?_encodeText, Option.pure_def, Option.bind_eq_bind, Option.bind_some]

theorem mapM_decodePair? : (pairs.map encodePair).mapM decodePair? = some pairs := by
  induction pairs with
  | nil => rfl
  | cons pair pairs ih =>
    rw [List.map_cons, List.mapM_cons, decodePair?_encodePair, ih]
    rfl

/-- **A list of pairs is read back from its form.** -/
theorem decode?_encode : decode? (encode pairs) = some pairs := by
  by_cases hnone : pairs = []
  · rw [hnone]
    rfl
  · have hparts : Text.pieces '&' (encode pairs) = pairs.map encodePair := by
      refine Text.pieces_join (by simpa using hnone) fun part hpart => ?_
      obtain ⟨pair, -, rfl⟩ := List.mem_map.1 hpart
      exact not_mem_encodePair pair
    have hall : (pairs.map encodePair).filter (fun part => !part.isEmpty) =
        pairs.map encodePair := by
      refine List.filter_eq_self.2 fun part hpart => ?_
      obtain ⟨pair, -, rfl⟩ := List.mem_map.1 hpart
      simpa using encodePair_ne_nil pair
    rw [decode?, hparts, hall, mapM_decodePair?]

end Strongbox.Form
