/-
UTF-8: the bytes of a text, and the text that bytes stand for.

`Utf8.bytes` writes the characters one after another; `Utf8.read?` accepts exactly what
`Utf8.bytes` writes (`read?_eq_some_iff`): no overlong forms, no surrogates, nothing above
U+10FFFF.
-/
namespace Strongbox.Utf8

def bytes (s : List Char) : List UInt8 := s.flatMap String.utf8EncodeChar

def ofString (s : String) : List UInt8 := bytes s.toList

/-- The text that the bytes stand for, if they are valid. -/
def read? (bs : List UInt8) : Option (List Char) := bs.toByteArray.utf8Decode?.map Array.toList

theorem bytes_append (s t : List Char) : bytes (s ++ t) = bytes s ++ bytes t := by
  simp [bytes]

/-- What is written is read back. -/
theorem read?_bytes (s : List Char) : read? (bytes s) = some s := by
  have h := List.utf8Decode?_utf8Encode (l := s)
  rw [List.utf8Encode] at h
  simp [read?, bytes, h]

/-- Only what is written is read. -/
theorem bytes_of_read? {bs : List UInt8} {s : List Char} (h : read? bs = some s) :
    bytes s = bs := by
  obtain ⟨cs, hcs, rfl⟩ := Option.map_eq_some_iff.1 h
  have hsome : bs.toByteArray.utf8Decode?.isSome := by simp [hcs]
  have hback := ByteArray.utf8Encode_get_utf8Decode? (h := hsome)
  simp only [hcs, Option.get_some] at hback
  have hdata := congrArg (fun b : ByteArray => b.data.toList) hback
  simpa [List.utf8Encode, List.data_toByteArray, bytes] using hdata

theorem read?_eq_some_iff {bs : List UInt8} {s : List Char} :
    read? bs = some s ↔ bytes s = bs :=
  ⟨bytes_of_read?, fun h => h ▸ read?_bytes s⟩

end Strongbox.Utf8
