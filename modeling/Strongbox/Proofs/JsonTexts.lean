/-
The text of a JSON value is read as the value.

Reading follows writing, byte by byte: a character of a string stands for itself or is escaped, an
item ends where a comma or a bracket stands, and the members of an object come in their order, so
each is put behind those before it.  The steps that a reader may take are more than the bytes of the
text, and every part of a value has a shorter text than the value.

What is read back is any value that the format has (`Json.Proper`), by a reader that allows for as
many brackets as the value has, and makes its numbers of their decimals.  One that rounds to the
nearest number does so for all of them (`readNearest`); of the reader of answers that is known for
some only, so its values are asked to have no others.

* `string_stringText` — strings;
* `items_cons`, `members_cons` — what a reader does at an item and at a member;
* `whole_textOf` — the text of a value is read as the value;
* `readNearest_textOf`, `readBytes_textOf` — by the two readers.
-/
import Strongbox.Json.Printer
import Strongbox.Proofs.NumberTexts
import Strongbox.Proofs.Records
import Mathlib.Data.List.DropRight

namespace Strongbox.Json

namespace Reader

/-! ### Strings -/

/-- A byte of a string that stands for itself. -/
def IsPlain (b : UInt8) : Prop := b ≠ byte '"' ∧ b ≠ byte '\\' ∧ ¬b < 0x20

theorem stringBytes_plain {bs : Bytes} (h : ∀ b ∈ bs, IsPlain b) (fuel : ℕ)
    (acc rest : Bytes) : stringBytes (fuel + bs.length) acc (bs ++ rest) =
      stringBytes fuel (bs.reverse ++ acc) rest := by
  induction bs generalizing acc with
  | nil => rfl
  | cons b bs ih =>
    obtain ⟨⟨hquote, hslash, hcontrol⟩, hrest⟩ := List.forall_mem_cons.1 h
    rw [List.length_cons, List.cons_append, ← Nat.add_assoc, stringBytes, if_neg hquote,
      if_neg hslash, if_neg hcontrol, ih hrest, List.reverse_cons, List.append_assoc,
      List.singleton_append]

theorem isPlain_of_le {b : UInt8} (h : 128 ≤ b.toNat) : IsPlain b := by
  have hne : ∀ c : UInt8, c.toNat < 128 → b ≠ c := by
    intro c hc heq
    rw [heq] at h
    omega
  refine ⟨hne _ (by decide), hne _ (by decide), fun hlt => ?_⟩
  have hlow : b.toNat < 32 := hlt
  omega

theorem toNat_byte {c : Char} (h : c.toNat < 128) : (byte c).toNat = c.toNat := by
  rw [byte, Nat.toUInt8_eq, UInt8.toNat_ofNat', Nat.mod_eq_of_lt (by omega)]

theorem byte_inj {c d : Char} (hc : c.toNat < 128) (hd : d.toNat < 128) (h : byte c = byte d) :
    c = d := by
  have hnat := congrArg UInt8.toNat h
  rw [toNat_byte hc, toNat_byte hd] at hnat
  exact Char.toNat_inj.1 hnat

/-- An escape, of which the bytes that it stands for are read. -/
theorem stringBytes_escape {bs cs : Bytes} {rest : Bytes}
    (h : escape (bs ++ rest) = .ok (cs, rest)) (fuel : ℕ) (acc : Bytes) :
    stringBytes (fuel + 1) acc (byte '\\' :: bs ++ rest) =
      stringBytes fuel (cs.reverse ++ acc) rest := by
  rw [List.cons_append, stringBytes, if_neg (by decide), if_pos rfl, h]
  rfl

theorem hexFour_control : ∀ n < 32, Numeral.read? 16
    ([byte '0', byte '0', byte (Numeral.lowerDigit (n / 16)),
      byte (Numeral.lowerDigit (n % 16))].map fun x => Char.ofNat x.toNat) = some n := by
  decide

theorem escape_control {n : ℕ} (h : n < 32) (rest : Bytes) :
    escape (byte 'u' :: byte '0' :: byte '0' :: byte (Numeral.lowerDigit (n / 16)) ::
      byte (Numeral.lowerDigit (n % 16)) :: rest) =
        .ok (String.utf8EncodeChar (Char.ofNat n), rest) := by
  have hlead : isLeading n = false := by
    rw [isLeading, Bool.and_eq_false_iff, decide_eq_false_iff_not]
    exact Or.inl (by omega)
  have htrail : isTrailing n = false := by
    rw [isTrailing, Bool.and_eq_false_iff, decide_eq_false_iff_not]
    exact Or.inl (by omega)
  have hpoint : codePoint (byte '0' :: byte '0' :: byte (Numeral.lowerDigit (n / 16)) ::
      byte (Numeral.lowerDigit (n % 16)) :: rest) = .ok (n, rest) := by
    rw [codePoint, hexFour, hexFour_control n h]
    show (if isTrailing n then _ else _) = _
    rw [htrail, hlead]
    rfl
  rw [escape, if_neg (by decide), if_neg (by decide), if_neg (by decide), if_neg (by decide),
    if_neg (by decide), if_neg (by decide), if_pos rfl, hpoint]
  rfl

/-- A character of a string stands for itself or is escaped. -/
theorem escapeChar_cases (c : Char) :
    (escapeChar c = [c] ∧ ∀ b ∈ String.utf8EncodeChar c, IsPlain b) ∨
    ∃ bs, Utf8.bytes (escapeChar c) = byte '\\' :: bs ∧
      ∀ rest, escape (bs ++ rest) = .ok (String.utf8EncodeChar c, rest) := by
  fun_cases escapeChar c with
  | case1 => exact Or.inr ⟨[byte '"'], by decide, fun _ => rfl⟩
  | case2 => exact Or.inr ⟨[byte '\\'], by decide, fun _ => rfl⟩
  | case3 => exact Or.inr ⟨[byte 'b'], by decide, fun _ => rfl⟩
  | case4 => exact Or.inr ⟨[byte 'f'], by decide, fun _ => rfl⟩
  | case5 => exact Or.inr ⟨[byte 'n'], by decide, fun _ => rfl⟩
  | case6 => exact Or.inr ⟨[byte 'r'], by decide, fun _ => rfl⟩
  | case7 => exact Or.inr ⟨[byte 't'], by decide, fun _ => rfl⟩
  | case8 c _ _ _ _ _ _ _ hcontrol =>
    have hdigit : ∀ d < 16, (Numeral.lowerDigit d).toNat < 128 := by decide
    have hescape := escape_control hcontrol
    rw [Char.ofNat_toNat] at hescape
    refine Or.inr ⟨[byte 'u', byte '0', byte '0', byte (Numeral.lowerDigit (c.toNat / 16)),
      byte (Numeral.lowerDigit (c.toNat % 16))], ?_, hescape⟩
    rw [Utf8.bytes_cons_of_lt (by decide), Utf8.bytes_cons_of_lt (by decide),
      Utf8.bytes_cons_of_lt (by decide), Utf8.bytes_cons_of_lt (by decide),
      Utf8.bytes_cons_of_lt (hdigit _ (by omega)), Utf8.bytes_cons_of_lt (hdigit _ (by omega))]
    rfl
  | case9 c hquote hslash _ _ _ _ _ hcontrol =>
    refine Or.inl ⟨rfl, fun b hb => ?_⟩
    by_cases hlt : c.toNat < 128
    · rw [Utf8.encodeChar_of_lt hlt, List.mem_singleton] at hb
      have hbyte : b = byte c := hb
      rw [hbyte]
      refine ⟨fun h => hquote (byte_inj hlt (by decide) h),
        fun h => hslash (byte_inj hlt (by decide) h), fun hsmall => hcontrol ?_⟩
      have hnat : (byte c).toNat < 32 := hsmall
      rwa [toNat_byte hlt] at hnat
    · exact isPlain_of_le (Utf8.le_of_mem_encodeChar (by omega) hb)

/-- What is written for a character is read as the bytes of the character. -/
theorem stringBytes_escapeChar (c : Char) : ∃ k, k ≤ (Utf8.bytes (escapeChar c)).length ∧
    ∀ fuel acc rest, stringBytes (fuel + k) acc (Utf8.bytes (escapeChar c) ++ rest) =
      stringBytes fuel ((String.utf8EncodeChar c).reverse ++ acc) rest := by
  rcases escapeChar_cases c with ⟨hself, hplain⟩ | ⟨bs, hbytes, hescape⟩
  · rw [hself, Utf8.bytes_singleton]
    exact ⟨_, le_refl _, fun fuel acc rest => stringBytes_plain hplain fuel acc rest⟩
  · rw [hbytes]
    exact ⟨1, by simp, fun fuel acc rest => stringBytes_escape (hescape rest) fuel acc⟩

theorem stringBytes_flatMap (cs : List Char) (rest : Bytes) {fuel : ℕ} (acc : Bytes)
    (h : (Utf8.bytes (cs.flatMap escapeChar)).length < fuel) :
    stringBytes fuel acc (Utf8.bytes (cs.flatMap escapeChar) ++ byte '"' :: rest) =
      .ok (acc.reverse ++ Utf8.bytes cs, rest) := by
  induction cs generalizing fuel acc with
  | nil =>
    obtain ⟨n, rfl⟩ := Nat.exists_eq_add_one.2 (Nat.zero_lt_of_lt h)
    rw [List.flatMap_nil, Utf8.bytes, List.flatMap_nil, List.nil_append, stringBytes, if_pos rfl,
      List.append_nil]
  | cons c cs ih =>
    obtain ⟨k, hk, hread⟩ := stringBytes_escapeChar c
    rw [List.flatMap_cons, Utf8.bytes_append, List.length_append] at h
    obtain ⟨n, rfl⟩ : ∃ n, fuel = n + k := ⟨fuel - k, by omega⟩
    rw [List.flatMap_cons, Utf8.bytes_append, List.append_assoc, hread, ih _ (by omega),
      Utf8.bytes_cons, List.reverse_append, List.reverse_reverse, List.append_assoc]

/-- The text of a string is read as the string. -/
theorem string_stringText (s : String) (rest : Bytes) :
    string (Utf8.bytes (s.toList.flatMap escapeChar ++ ['"']) ++ rest) = .ok (s, rest) := by
  have hquote : Utf8.bytes ['"'] = [byte '"'] := by decide
  rw [Utf8.bytes_append, hquote, List.append_assoc, List.singleton_append, string,
    stringBytes_flatMap s.toList rest [] (by
      rw [List.length_append]
      omega)]
  dsimp only [bind, Except.bind, List.reverse_nil, List.nil_append]
  rw [Utf8.read?_bytes]
  dsimp only
  rw [String.ofList_toList]

/-! ### Values -/

variable (scale : ℕ → ℤ → Option Binary64)

theorem skipBlanks_cons {b : UInt8} (h : isBlankByte b = false) (rest : Bytes) :
    skipBlanks (b :: rest) = b :: rest := by
  rw [skipBlanks, List.dropWhile_cons_of_neg (by rw [h]; exact Bool.false_ne_true)]

theorem skipBlanks_skipBlanks (bs : Bytes) : skipBlanks (skipBlanks bs) = skipBlanks bs :=
  List.dropWhile_idempotent _ _

/-- A value does not start with the end of a list. -/
theorem exists_of_value {fuel depth : ℕ} {bs : Bytes} {r : Json × Bytes}
    (h : value scale fuel depth bs = .ok r) : ∃ b rest, skipBlanks bs = b :: rest ∧ b ≠ byte ']' ∧
      value scale fuel depth (b :: rest) = .ok r := by
  cases fuel with
  | zero => exact absurd h (by simp [value, stopBehind])
  | succ fuel =>
    cases hbs : skipBlanks bs with
    | nil =>
      rw [value, hbs] at h
      exact absurd h (by simp [stopBehind])
    | cons b rest =>
      refine ⟨b, rest, rfl, ?_, ?_⟩
      · rintro rfl
        rw [value, hbs] at h
        exact absurd h (by simp [stopBehind, byte, digit?])
      · rw [← hbs, value, skipBlanks_skipBlanks]
        rwa [value] at h

theorem digit_facts (b : UInt8) (h : (digit? b).isSome = true) : isBlankByte b = false ∧
    b ≠ byte 'n' ∧ b ≠ byte 't' ∧ b ≠ byte 'f' ∧ b ≠ byte '-' :=
  Percent.forall_byte (P := fun b => (digit? b).isSome = true → isBlankByte b = false ∧
    b ≠ byte 'n' ∧ b ≠ byte 't' ∧ b ≠ byte 'f' ∧ b ≠ byte '-') (by decide +kernel) b h

theorem value_of_number {bs : Bytes} {r : Json × Bytes} (h : number scale false bs = .ok r)
    (fuel depth : ℕ) : value scale (fuel + 1) depth bs = .ok r := by
  obtain ⟨b, rest, rfl, hb⟩ := digit_of_number scale false h
  obtain ⟨hblank, hn, ht, hf, hminus⟩ := digit_facts b hb
  rw [value, skipBlanks_cons hblank]
  dsimp only
  rw [if_neg hn, if_neg ht, if_neg hf, if_neg hminus, if_pos hb, h]

theorem value_minus {bs : Bytes} {r : Json × Bytes} (h : number scale true bs = .ok r)
    (fuel depth : ℕ) : value scale (fuel + 1) depth (byte '-' :: bs) = .ok r := by
  rw [value, skipBlanks_cons (by decide)]
  dsimp only
  rw [if_neg (by decide), if_neg (by decide), if_neg (by decide), if_pos rfl, h]

theorem value_word (fuel depth : ℕ) (rest : Bytes) :
    value scale (fuel + 1) depth (Utf8.bytes "null".toList ++ rest) = .ok (.null, rest) ∧
    value scale (fuel + 1) depth (Utf8.bytes "true".toList ++ rest) = .ok (.bool true, rest) ∧
    value scale (fuel + 1) depth (Utf8.bytes "false".toList ++ rest) = .ok (.bool false, rest) := by
  rw [value, value, value]
  exact ⟨rfl, rfl, rfl⟩

theorem value_string (s : String) (fuel depth : ℕ) (rest : Bytes) :
    value scale (fuel + 1) depth (Utf8.bytes (stringText s) ++ rest) = .ok (.string s, rest) := by
  rw [stringText, List.cons_append, Utf8.bytes_cons_of_lt (by decide), List.cons_append, value,
    skipBlanks_cons (by decide)]
  dsimp only
  rw [if_neg (by decide), if_neg (by decide), if_neg (by decide), if_neg (by decide),
    if_neg (by decide), if_pos rfl, string_stringText]
  rfl

theorem value_array {fuel depth : ℕ} (h : 1 < depth) {bs rest : Bytes} {vs : List Json}
    (hitems : items scale fuel (depth - 1) true [] bs = .ok (vs, rest)) :
    value scale (fuel + 1) depth (byte '[' :: bs) = .ok (.array vs, rest) := by
  rw [value, skipBlanks_cons (by decide)]
  dsimp only
  rw [if_neg (by decide), if_neg (by decide), if_neg (by decide), if_neg (by decide),
    if_neg (by decide), if_neg (by decide), if_pos rfl, if_neg (by omega), hitems]
  rfl

theorem value_object {fuel depth : ℕ} (h : 1 < depth) {bs rest : Bytes}
    {ms : List (String × Json)}
    (hmembers : members scale fuel (depth - 1) true [] bs = .ok (ms, rest)) :
    value scale (fuel + 1) depth (byte '\x7b' :: bs) = .ok (.object ms, rest) := by
  rw [value, skipBlanks_cons (by decide)]
  dsimp only
  rw [if_neg (by decide), if_neg (by decide), if_neg (by decide), if_neg (by decide),
    if_neg (by decide), if_neg (by decide), if_neg (by decide), if_pos rfl, if_neg (by omega),
    hmembers]
  rfl

/-! ### Items and members -/

theorem listNext_end (first : Bool) (rest : Bytes) :
    listNext first (byte ']' :: rest) = .ok (false, rest) := by
  rw [listNext, skipBlanks_cons (by decide)]
  rfl

theorem items_cons {fuel depth : ℕ} (first : Bool) {bs rest : Bytes} {v : Json} (acc : List Json)
    (hv : value scale fuel depth bs = .ok (v, rest)) {cs : Bytes}
    (hcs : cs = if first then bs else byte ',' :: bs) :
    items scale (fuel + 1) depth first acc cs = items scale fuel depth false (v :: acc) rest := by
  obtain ⟨b, bs', hbs, hb, hv'⟩ := exists_of_value scale hv
  have hnext : listNext first cs = .ok (true, b :: bs') := by
    rw [hcs]
    cases first with
    | true =>
      rw [if_pos rfl, listNext, hbs]
      dsimp only
      rw [if_neg hb, if_pos rfl]
    | false =>
      rw [if_neg Bool.false_ne_true, listNext, skipBlanks_cons (by decide)]
      dsimp only
      rw [if_neg (by decide), if_neg Bool.false_ne_true, if_pos rfl, hbs]
      dsimp only
      rw [if_neg hb]
  rw [items, hnext]
  show (value scale fuel depth (b :: bs') >>= _) = _
  rw [hv']
  rfl

theorem items_end (fuel depth : ℕ) (first : Bool) (acc : List Json) (rest : Bytes) :
    items scale (fuel + 1) depth first acc (byte ']' :: rest) = .ok (acc.reverse, rest) := by
  rw [items, listNext_end]
  rfl

theorem members_end (fuel depth : ℕ) (first : Bool) (acc : List (String × Json)) (rest : Bytes) :
    members scale (fuel + 1) depth first acc (byte '\x7d' :: rest) = .ok (acc, rest) := by
  rw [members, objectNext, skipBlanks_cons (by decide)]
  rfl

theorem colon_cons (rest : Bytes) : colon (byte ':' :: rest) = .ok ((), rest) := by
  rw [colon, skipBlanks_cons (by decide)]
  rfl

theorem members_cons {fuel depth : ℕ} (first : Bool) {bs rest : Bytes} {name : String} {v : Json}
    (acc : List (String × Json)) (hv : value scale fuel depth bs = .ok (v, rest)) {cs : Bytes}
    (hcs : cs = if first then Utf8.bytes (stringText name) ++ byte ':' :: bs else
      byte ',' :: (Utf8.bytes (stringText name) ++ byte ':' :: bs)) :
    members scale (fuel + 1) depth first acc cs =
      members scale fuel depth false (Json.insert name v acc) rest := by
  obtain ⟨text, htext⟩ : ∃ text, Utf8.bytes (name.toList.flatMap escapeChar ++ ['"']) = text :=
    ⟨_, rfl⟩
  have hstring := string_stringText name (byte ':' :: bs)
  rw [stringText, List.cons_append, Utf8.bytes_cons_of_lt (by decide), List.cons_append,
    htext] at hcs
  rw [htext] at hstring
  have hnext : objectNext first cs = .ok (true, text ++ byte ':' :: bs) := by
    rw [hcs]
    cases first with
    | true =>
      rw [if_pos rfl, objectNext, skipBlanks_cons (by decide)]
      rfl
    | false =>
      rw [if_neg Bool.false_ne_true, objectNext, skipBlanks_cons (by decide)]
      dsimp only
      rw [if_neg (by decide), if_neg Bool.false_ne_true, if_pos rfl, skipBlanks_cons (by decide)]
      rfl
  rw [members, hnext]
  dsimp only [bind, Except.bind]
  rw [hstring]
  dsimp only
  rw [colon_cons]
  dsimp only
  rw [hv]

end Reader

/-! ### Texts of items and members -/

theorem itemsText_cons (v : Json) (items : List Json) :
    itemsText (v :: items) = textOf v ++ items.flatMap fun w => ',' :: textOf w := by
  induction items generalizing v with
  | nil => rw [itemsText, List.flatMap_nil, List.append_nil]
  | cons w items ih => rw [itemsText, ih w, List.flatMap_cons, List.cons_append]

/-- The text of a member. -/
def memberText (m : String × Json) : List Char := stringText m.1 ++ ':' :: textOf m.2

theorem bytes_memberText (m : String × Json) : Utf8.bytes (memberText m) =
    Utf8.bytes (stringText m.1) ++ Reader.byte ':' :: Utf8.bytes (textOf m.2) := by
  rw [memberText, Utf8.bytes_append, Utf8.bytes_cons_of_lt (by decide)]

theorem membersText_cons (m : String × Json) (members : List (String × Json)) :
    membersText (m :: members) = memberText m ++ members.flatMap fun n => ',' :: memberText n := by
  induction members generalizing m with
  | nil => rw [membersText, List.flatMap_nil, List.append_nil, memberText]
  | cons n members ih =>
    rw [membersText, ih n, List.flatMap_cons, List.cons_append]
    rfl

/-! ### Values that are read back -/

mutual

/-- How deep the brackets of a value are nested. -/
def nesting : Json → ℕ
  | .null => 0
  | .bool _ => 0
  | .integer _ => 0
  | .float _ => 0
  | .string _ => 0
  | .array items => itemsNesting items + 1
  | .object members => membersNesting members + 1

def itemsNesting : List Json → ℕ
  | [] => 0
  | v :: rest => max (nesting v) (itemsNesting rest)

def membersNesting : List (String × Json) → ℕ
  | [] => 0
  | (_, v) :: rest => max (nesting v) (membersNesting rest)

end

theorem nesting_le_items {items : List Json} {v : Json} (h : v ∈ items) :
    nesting v ≤ itemsNesting items := by
  induction items with
  | nil => exact absurd h List.not_mem_nil
  | cons w items ih =>
    rw [itemsNesting]
    rcases List.mem_cons.1 h with rfl | h
    · exact le_max_left _ _
    · exact (ih h).trans (le_max_right _ _)

theorem nesting_le_members {members : List (String × Json)} {m : String × Json}
    (h : m ∈ members) : nesting m.2 ≤ membersNesting members := by
  induction members with
  | nil => exact absurd h List.not_mem_nil
  | cons n members ih =>
    obtain ⟨name, v⟩ := n
    rw [membersNesting]
    rcases List.mem_cons.1 h with rfl | h
    · exact le_max_left _ _
    · exact (ih h).trans (le_max_right _ _)

/-- A value of the format: its integers fit 64 bits, the members of an object stand in the order of
their names, no name twice, and its other numbers are as given. -/
inductive Proper (number : Binary64 → Prop) : Json → Prop
  | null : Proper number .null
  | bool (b : Bool) : Proper number (.bool b)
  | integer {n : ℤ} (low : -9223372036854775808 ≤ n) (high : n < 18446744073709551616) :
      Proper number (.integer n)
  | float {x : Binary64} (h : number x) : Proper number (.float x)
  | string (s : String) : Proper number (.string s)
  | array {items : List Json} (h : ∀ v ∈ items, Proper number v) : Proper number (.array items)
  | object {members : List (String × Json)} (h : ∀ m ∈ members, Proper number m.2)
      (ordered : members.Pairwise (·.1 < ·.1)) : Proper number (.object members)

namespace Reader

variable (scale : ℕ → ℤ → Option Binary64)

/-- The text of the value is read as the value, whatever follows that does not go on a number. -/
def ReadBack (v : Json) : Prop :=
  ∀ (fuel depth : ℕ) (rest : Bytes), (Utf8.bytes (textOf v)).length < fuel → nesting v < depth →
    Ends rest → value scale fuel depth (Utf8.bytes (textOf v) ++ rest) = .ok (v, rest)

theorem readBack_integer {n : ℤ} (low : -9223372036854775808 ≤ n)
    (high : n < 18446744073709551616) : ReadBack scale (.integer n) := by
  intro fuel depth rest hfuel _ h
  obtain ⟨fuel, rfl⟩ := Nat.exists_eq_add_one.2 (Nat.zero_lt_of_lt hfuel)
  rw [textOf]
  cases n with
  | ofNat n =>
    have hlt : n < gatherLimit := Int.ofNat_lt.1 high
    have hread := number_decimal scale false hlt h
    rw [plain, if_neg Bool.false_ne_true] at hread
    exact value_of_number scale hread fuel depth
  | negSucc n =>
    have hlow : n + 1 ≤ 9223372036854775808 := by omega
    have hread := number_decimal scale true (hlow.trans_lt (by decide) : n + 1 < gatherLimit) h
    rw [plain, if_pos rfl, if_neg (by omega)] at hread
    rw [Numeral.decimalInt, String.toList_append, Utf8.bytes_append]
    exact value_minus scale hread fuel depth

theorem readBack_float {x : Binary64} (hx : x.IsCanonical) (hmakes : Makes scale x) :
    ReadBack scale (.float x) := by
  intro fuel depth rest hfuel _ h
  obtain ⟨fuel, rfl⟩ := Nat.exists_eq_add_one.2 (Nat.zero_lt_of_lt hfuel)
  have hread := number_shortest scale hx hmakes h
  rw [textOf, Shortest.text, String.toList_append, Utf8.bytes_append]
  cases hneg : x.negative with
  | false =>
    rw [hneg] at hread
    exact value_of_number scale hread fuel depth
  | true =>
    rw [hneg] at hread
    exact value_minus scale hread fuel depth

/-- What stands behind an item or a member goes on no number. -/
theorem ends_tail {α : Type} (text : α → List Char) (xs : List α) {b : UInt8}
    (hdigit : digit? b = none) (hmark : b ≠ byte '.' ∧ b ≠ byte 'e' ∧ b ≠ byte 'E')
    (rest : Bytes) :
    Ends (Utf8.bytes (xs.flatMap fun x => ',' :: text x) ++ b :: rest) := by
  cases xs with
  | nil => exact ends_cons hdigit hmark rest
  | cons x xs =>
    rw [List.flatMap_cons, List.cons_append, Utf8.bytes_cons_of_lt (by decide), List.cons_append]
    exact ends_cons (by decide) (by decide) _

/-- The items behind the first one. -/
theorem items_tail {vs : List Json} (h : ∀ v ∈ vs, ReadBack scale v) {fuel depth : ℕ}
    (hfuel : (Utf8.bytes (vs.flatMap fun v => ',' :: textOf v)).length < fuel)
    (hdepth : ∀ v ∈ vs, nesting v < depth) (acc : List Json) (rest : Bytes) :
    items scale fuel depth false acc
      (Utf8.bytes (vs.flatMap fun v => ',' :: textOf v) ++ byte ']' :: rest) =
        .ok (acc.reverse ++ vs, rest) := by
  induction vs generalizing fuel acc with
  | nil =>
    obtain ⟨fuel, rfl⟩ := Nat.exists_eq_add_one.2 (Nat.zero_lt_of_lt hfuel)
    rw [List.append_nil]
    exact items_end scale fuel depth false acc rest
  | cons v vs ih =>
    obtain ⟨hv, hvs⟩ := List.forall_mem_cons.1 h
    obtain ⟨hdv, hdvs⟩ := List.forall_mem_cons.1 hdepth
    obtain ⟨fuel, rfl⟩ := Nat.exists_eq_add_one.2 (Nat.zero_lt_of_lt hfuel)
    rw [List.flatMap_cons, List.cons_append, Utf8.bytes_cons_of_lt (by decide), Utf8.bytes_append,
      List.length_cons, List.length_append] at hfuel
    have hread := hv fuel depth _ (by omega) hdv
      (ends_tail textOf vs (by decide : digit? (byte ']') = none) (by decide) rest)
    rw [List.flatMap_cons, List.cons_append, Utf8.bytes_cons_of_lt (by decide), Utf8.bytes_append,
      List.cons_append, List.append_assoc]
    refine (items_cons scale false acc hread rfl).trans ?_
    rw [ih hvs (by omega) hdvs, List.reverse_cons, List.append_assoc, List.singleton_append]

theorem readBack_array {vs : List Json} (h : ∀ v ∈ vs, ReadBack scale v) :
    ReadBack scale (.array vs) := by
  intro fuel depth rest hfuel hdepth _
  obtain ⟨fuel, rfl⟩ := Nat.exists_eq_add_one.2 (Nat.zero_lt_of_lt hfuel)
  have hclose : Utf8.bytes [']'] = [byte ']'] := by decide
  rw [nesting] at hdepth
  have hdepths : ∀ v ∈ vs, nesting v < depth - 1 := fun v hv => by
    have := nesting_le_items hv
    omega
  rw [textOf, List.cons_append, Utf8.bytes_cons_of_lt (by decide), Utf8.bytes_append,
    hclose] at hfuel ⊢
  rw [List.cons_append, List.append_assoc, List.singleton_append]
  rw [List.length_cons, List.length_append, List.length_singleton] at hfuel
  refine value_array scale (by omega) ?_
  cases vs with
  | nil =>
    obtain ⟨fuel, rfl⟩ := Nat.exists_eq_add_one.2 (by omega : 0 < fuel)
    exact items_end scale fuel (depth - 1) true [] rest
  | cons v vs =>
    obtain ⟨hv, hvs⟩ := List.forall_mem_cons.1 h
    obtain ⟨hdv, hdvs⟩ := List.forall_mem_cons.1 hdepths
    obtain ⟨fuel, rfl⟩ := Nat.exists_eq_add_one.2 (by omega : 0 < fuel)
    rw [itemsText_cons, Utf8.bytes_append, List.length_append] at hfuel
    have hread := hv fuel (depth - 1) _ (by omega) hdv
      (ends_tail textOf vs (by decide : digit? (byte ']') = none) (by decide) rest)
    rw [itemsText_cons, Utf8.bytes_append, List.append_assoc]
    exact (items_cons scale true [] hread rfl).trans (items_tail scale hvs (by omega) hdvs [v] rest)

/-- The members behind the first ones. -/
theorem members_tail {ms : List (String × Json)} (h : ∀ m ∈ ms, ReadBack scale m.2)
    {fuel depth : ℕ}
    (hfuel : (Utf8.bytes (ms.flatMap fun m => ',' :: memberText m)).length < fuel)
    (hdepth : ∀ m ∈ ms, nesting m.2 < depth) {acc : List (String × Json)}
    (hordered : (acc ++ ms).Pairwise (·.1 < ·.1)) (rest : Bytes) :
    members scale fuel depth false acc
      (Utf8.bytes (ms.flatMap fun m => ',' :: memberText m) ++ byte '\x7d' :: rest) =
        .ok (acc ++ ms, rest) := by
  induction ms generalizing fuel acc with
  | nil =>
    obtain ⟨fuel, rfl⟩ := Nat.exists_eq_add_one.2 (Nat.zero_lt_of_lt hfuel)
    rw [List.append_nil]
    exact members_end scale fuel depth false acc rest
  | cons m ms ih =>
    obtain ⟨hm, hms⟩ := List.forall_mem_cons.1 h
    obtain ⟨hdm, hdms⟩ := List.forall_mem_cons.1 hdepth
    obtain ⟨fuel, rfl⟩ := Nat.exists_eq_add_one.2 (Nat.zero_lt_of_lt hfuel)
    rw [List.flatMap_cons, List.cons_append, Utf8.bytes_cons_of_lt (by decide), Utf8.bytes_append,
      bytes_memberText, List.length_cons, List.length_append, List.length_append,
      List.length_cons] at hfuel
    have hread := hm fuel depth _ (by omega) hdm
      (ends_tail memberText ms (by decide : digit? (byte '\x7d') = none) (by decide) rest)
    have hinsert : Json.insert m.1 m.2 acc = acc ++ [m] :=
      StringMap.insert_last fun e he =>
        (List.pairwise_append.1 hordered).2.2 e he m List.mem_cons_self
    rw [List.append_cons acc] at hordered ⊢
    rw [List.flatMap_cons, List.cons_append, Utf8.bytes_cons_of_lt (by decide), Utf8.bytes_append,
      bytes_memberText, List.cons_append, List.append_assoc, List.append_assoc, List.cons_append]
    refine (members_cons scale false acc hread rfl).trans ?_
    rw [hinsert, ih hms (by omega) hdms hordered]

theorem readBack_object {ms : List (String × Json)} (h : ∀ m ∈ ms, ReadBack scale m.2)
    (hordered : ms.Pairwise (·.1 < ·.1)) : ReadBack scale (.object ms) := by
  intro fuel depth rest hfuel hdepth _
  obtain ⟨fuel, rfl⟩ := Nat.exists_eq_add_one.2 (Nat.zero_lt_of_lt hfuel)
  have hclose : Utf8.bytes ['\x7d'] = [byte '\x7d'] := by decide
  rw [nesting] at hdepth
  have hdepths : ∀ m ∈ ms, nesting m.2 < depth - 1 := fun m hm => by
    have := nesting_le_members hm
    omega
  rw [textOf, List.cons_append, Utf8.bytes_cons_of_lt (by decide), Utf8.bytes_append,
    hclose] at hfuel ⊢
  rw [List.cons_append, List.append_assoc, List.singleton_append]
  rw [List.length_cons, List.length_append, List.length_singleton] at hfuel
  refine value_object scale (by omega) ?_
  cases ms with
  | nil =>
    obtain ⟨fuel, rfl⟩ := Nat.exists_eq_add_one.2 (by omega : 0 < fuel)
    exact members_end scale fuel (depth - 1) true [] rest
  | cons m ms =>
    obtain ⟨hm, hms⟩ := List.forall_mem_cons.1 h
    obtain ⟨hdm, hdms⟩ := List.forall_mem_cons.1 hdepths
    obtain ⟨fuel, rfl⟩ := Nat.exists_eq_add_one.2 (by omega : 0 < fuel)
    rw [membersText_cons, Utf8.bytes_append, bytes_memberText, List.length_append,
      List.length_append, List.length_cons] at hfuel
    have hread := hm fuel (depth - 1) _ (by omega) hdm
      (ends_tail memberText ms (by decide : digit? (byte '\x7d') = none) (by decide) rest)
    rw [membersText_cons, Utf8.bytes_append, bytes_memberText, List.append_assoc,
      List.append_assoc, List.cons_append]
    exact (members_cons scale true [] hread rfl).trans
      (members_tail scale hms (by omega) hdms hordered rest)

/-- The text of a value is read back, if its numbers are made of their decimals. -/
theorem readBack_of_proper {v : Json} (h : v.Proper fun x => x.IsCanonical ∧ Makes scale x) :
    ReadBack scale v := by
  induction h with
  | null =>
    intro fuel depth rest hfuel _ _
    obtain ⟨fuel, rfl⟩ := Nat.exists_eq_add_one.2 (Nat.zero_lt_of_lt hfuel)
    exact (value_word scale fuel depth rest).1
  | bool b =>
    intro fuel depth rest hfuel _ _
    obtain ⟨fuel, rfl⟩ := Nat.exists_eq_add_one.2 (Nat.zero_lt_of_lt hfuel)
    cases b with
    | true => exact (value_word scale fuel depth rest).2.1
    | false => exact (value_word scale fuel depth rest).2.2
  | integer low high => exact readBack_integer scale low high
  | float h => exact readBack_float scale h.1 h.2
  | string s =>
    intro fuel depth rest hfuel _ _
    obtain ⟨fuel, rfl⟩ := Nat.exists_eq_add_one.2 (Nat.zero_lt_of_lt hfuel)
    exact value_string scale s fuel depth rest
  | array _ ih => exact readBack_array scale ih
  | object _ ordered ih => exact readBack_object scale ih ordered

/-- **A text that is one value is read as the value.** -/
theorem whole_textOf {v : Json} (h : v.Proper fun x => x.IsCanonical ∧ Makes scale x) {depth : ℕ}
    (hdepth : nesting v < depth) : whole scale depth (Utf8.bytes (textOf v)) = .ok v := by
  have hread := readBack_of_proper scale h (2 * (Utf8.bytes (textOf v)).length + 2) depth []
    (by omega) hdepth ends_nil
  rw [List.append_nil] at hread
  rw [whole, hread]
  rfl

end Reader

/-! ### The two readers -/

theorem Proper.mono {P Q : Binary64 → Prop} (hpq : ∀ x, P x → Q x) {v : Json} (h : v.Proper P) :
    v.Proper Q := by
  induction h with
  | null => exact .null
  | bool b => exact .bool b
  | integer low high => exact .integer low high
  | float h => exact .float (hpq _ h)
  | string s => exact .string s
  | array _ ih => exact .array ih
  | object _ ordered ih => exact .object ih ordered

/-- The value that the bytes are the text of, if a decimal stands for the number nearest to it, and
fewer brackets than `depth` are open at once. -/
def readNearest (depth : ℕ) (bs : List UInt8) : Except Reader.Stop Json :=
  Reader.whole Binary64.ofDecimal? depth bs

theorem readNearest_textOf {v : Json} (h : v.Proper Binary64.IsCanonical) {depth : ℕ}
    (hdepth : nesting v < depth) : readNearest depth (Utf8.bytes (textOf v)) = .ok v :=
  Reader.whole_textOf _ (h.mono fun _ hx => ⟨hx, Reader.makes_ofDecimal? hx⟩) hdepth

theorem readBytes_textOf {v : Json}
    (h : v.Proper fun x => x.IsCanonical ∧ Reader.Makes Binary64.ofScaled? x)
    (hdepth : nesting v < depthLimit) : readBytes (Utf8.bytes (textOf v)) = .ok v := by
  rw [readBytes, Reader.whole_textOf _ h hdepth]

end Strongbox.Json
