/-
Which settings name a generation of the engine.

The spellings of a generation are a regular language (`Engine.spellings`): any number of `kv`, then
dashes and underscores, then any number of `v`, then the digit.  A setting is read in steps, each
of which takes from its front as much as it can.  That is no loss, since no part of a spelling
can go on with what the part behind it begins with; only `kv` and `v` share a letter, and a copy of
`kv` starts with the other one.

* `Engine.skipKv_eq_iff` — what the first step leaves (`Text.dropWhile_eq_iff` is that of the others);
* `Engine.digitPart_eq_iff` — the digit alone is left of exactly the spellings;
* `Engine.eq_of_append` — no spelling goes on behind its digit, and none is one of both generations;
* `Settings.readEngine_iff_spelled` — so exactly the spellings are read, and any other setting is
  quoted in the error.
-/
import Mathlib.Computability.RegularExpressions
import Strongbox.Config.Sources
import Strongbox.Proofs.Arguments

namespace Strongbox

open RegularExpression (char)
open scoped Computability

/-! ### Trimmed texts and closures -/

namespace Text

variable {p : Char → Bool} {s t u : List Char}

/-- Characters of the class behind a text do not count. -/
theorem Core.append_of_forall (h : Core p s t) (hu : ∀ c ∈ u, p c = true) :
    Core p (s ++ u) t := by
  obtain ⟨⟨front, back, rfl, hfront, hback⟩, hends⟩ := h
  refine ⟨⟨front, back ++ u, ?_, hfront, List.forall_mem_append.2 ⟨hback, hu⟩⟩, hends⟩
  simp only [List.append_assoc]

/-- Any other text behind one of which something is left makes longer what is left. -/
theorem Core.exists_append (h : Core p s t) (hne : t ≠ []) (hu : ¬ ∀ c ∈ u, p c = true) :
    ∃ more, more ≠ [] ∧ Core p (s ++ u) (t ++ more) := by
  obtain ⟨⟨front, back, rfl, hfront, hback⟩, hhead, -⟩ := h
  obtain ⟨pad, hpad, hall⟩ := exists_eq_trimEnd_append p u
  have hrest : trimEnd p u ≠ [] := by
    intro hnil
    rw [hnil, List.nil_append] at hpad
    exact hu (hpad ▸ hall)
  refine ⟨back ++ trimEnd p u, List.append_ne_nil_of_right_ne_nil back hrest,
    ⟨front, pad, ?_, hfront, hall⟩, fun c hc => ?_, fun c hc => ?_⟩
  · calc front ++ (t ++ back) ++ u
        = front ++ (t ++ back) ++ (trimEnd p u ++ pad) := by rw [← hpad]
      _ = front ++ ((t ++ (back ++ trimEnd p u)) ++ pad) := by simp only [List.append_assoc]
  · rw [List.head?_append_of_ne_nil _ hne] at hc
    exact hhead c hc
  · rw [← List.append_assoc, List.getLast?_append_of_ne_nil _ hrest] at hc
    exact getLast?_trimEnd p u c hc

/-- The closure of one word: its copies. -/
theorem mem_kstar_singleton_iff {word : List Char} :
    s ∈ ({word} : Language Char)∗ ↔ ∃ n, s = (List.replicate n word).flatten := by
  rw [Language.mem_kstar]
  constructor
  · rintro ⟨words, rfl, hwords⟩
    exact ⟨words.length, congrArg List.flatten (List.eq_replicate_iff.2 ⟨rfl, hwords⟩)⟩
  · rintro ⟨n, rfl⟩
    exact ⟨List.replicate n word, rfl, fun y hy => List.eq_of_mem_replicate hy⟩

/-- The closure of single characters: the texts made of them. -/
theorem mem_kstar_iff_forall {chars : Language Char} {q : Char → Prop}
    (h : ∀ word, word ∈ chars ↔ ∃ c, word = [c] ∧ q c) : s ∈ chars∗ ↔ ∀ c ∈ s, q c := by
  rw [Language.mem_kstar]
  constructor
  · rintro ⟨words, rfl, hwords⟩ c hc
    obtain ⟨word, hword, hcword⟩ := List.mem_flatten.1 hc
    obtain ⟨d, rfl, hd⟩ := (h word).1 (hwords word hword)
    rw [List.mem_singleton.1 hcword]
    exact hd
  · intro hall
    refine ⟨s.map fun c => [c], ?_, fun word hword => ?_⟩
    · rw [← List.flatMap_def, List.flatMap_singleton']
    · obtain ⟨c, hc, rfl⟩ := List.mem_map.1 hword
      exact (h [c]).2 ⟨c, rfl, hall c hc⟩

end Text

namespace Engine

/-! ### Spellings -/

/-- The digit of a generation. -/
def digit : Engine → Char
  | .unversioned => '1'
  | .versioned => '2'

/-- The spellings of a generation in small letters: `(kv)*[-_]*v*` and then its digit. -/
def spellings (e : Engine) : RegularExpression Char :=
  (char 'k' * char 'v').star * ((char '-' + char '_').star * ((char 'v').star * char e.digit))

/-- A setting is a spelling up to the white space around it and the case of its letters. -/
def SpelledBy (e : Engine) (setting : String) : Prop :=
  ∃ word, Text.Core Text.isSpace setting.toList word ∧ word.map Char.toLower ∈ e.spellings.matches'

variable {e e' : Engine} {w t rest : List Char}

/-- The parts of a spelling. -/
theorem mem_spellings_iff :
    w ∈ e.spellings.matches' ↔ ∃ n marks vs, (∀ c ∈ marks, c = '-' ∨ c = '_') ∧
      (∀ c ∈ vs, c = 'v') ∧
      w = (List.replicate n ['k', 'v']).flatten ++ (marks ++ (vs ++ [e.digit])) := by
  have hkv : ({['k']} * {['v']} : Language Char) = {['k', 'v']} := Set.image2_singleton
  have hmarks : ∀ u, u ∈ ({['-']} + {['_']} : Language Char)∗ ↔ ∀ c ∈ u, c = '-' ∨ c = '_' := by
    intro u
    refine Text.mem_kstar_iff_forall fun word => ?_
    rw [Language.mem_add]
    constructor
    · rintro (rfl | rfl)
      · exact ⟨'-', rfl, Or.inl rfl⟩
      · exact ⟨'_', rfl, Or.inr rfl⟩
    · rintro ⟨c, rfl, rfl | rfl⟩
      · exact Or.inl rfl
      · exact Or.inr rfl
  have hvs : ∀ u, u ∈ ({['v']} : Language Char)∗ ↔ ∀ c ∈ u, c = 'v' := by
    intro u
    refine Text.mem_kstar_iff_forall fun word => ?_
    constructor
    · rintro rfl
      exact ⟨'v', rfl, rfl⟩
    · rintro ⟨c, rfl, rfl⟩
      rfl
  simp only [spellings, RegularExpression.matches'_mul, RegularExpression.matches'_star,
    RegularExpression.matches'_add, RegularExpression.matches'_char, hkv]
  constructor
  · rintro ⟨kvs, hkvs, -, ⟨marks, hm, -, ⟨vs, hv, -, rfl, rfl⟩, rfl⟩, rfl⟩
    obtain ⟨n, rfl⟩ := Text.mem_kstar_singleton_iff.1 hkvs
    exact ⟨n, marks, vs, (hmarks marks).1 hm, (hvs vs).1 hv, rfl⟩
  · rintro ⟨n, marks, vs, hm, hv, rfl⟩
    exact ⟨_, Text.mem_kstar_singleton_iff.2 ⟨n, rfl⟩, _, ⟨marks, (hmarks marks).2 hm, _,
      ⟨vs, (hvs vs).2 hv, _, rfl, rfl⟩, rfl⟩, rfl⟩

example : "kvkv-_v2".toList ∈ versioned.spellings.matches' ∧
    "v-1".toList ∉ unversioned.spellings.matches' := by decide

theorem digit_not_mem (e : Engine) : e.digit ∉ ['k', 'v', '-', '_'] := by
  cases e <;> decide

theorem digit_injective (h : e.digit = e'.digit) : e = e' := by
  cases e <;> cases e' <;> first | rfl | exact absurd h (by decide)

/-- The digit of a spelling is its last character and the only digit in it. -/
theorem exists_eq_append_digit (h : w ∈ e.spellings.matches') :
    ∃ front, w = front ++ [e.digit] ∧ ∀ c ∈ front, c ∈ ['k', 'v', '-', '_'] := by
  obtain ⟨n, marks, vs, hmarks, hvs, rfl⟩ := mem_spellings_iff.1 h
  refine ⟨(List.replicate n ['k', 'v']).flatten ++ (marks ++ vs), ?_, fun c hc => ?_⟩
  · simp only [List.append_assoc]
  · rcases List.mem_append.1 hc with hc | hc
    · obtain ⟨word, hword, hcword⟩ := List.mem_flatten.1 hc
      rw [List.eq_of_mem_replicate hword] at hcword
      exact List.mem_append_left ['-', '_'] hcword
    · rcases List.mem_append.1 hc with hc | hc
      · rcases hmarks c hc with rfl | rfl
        · decide
        · decide
      · rw [hvs c hc]
        decide

/-- No spelling goes on behind its digit, and none is a spelling of both generations. -/
theorem eq_of_append (hw : w ∈ e.spellings.matches') (h : w ++ rest ∈ e'.spellings.matches') :
    rest = [] ∧ e' = e := by
  obtain ⟨front, rfl, -⟩ := exists_eq_append_digit hw
  obtain ⟨front', heq, hfront'⟩ := exists_eq_append_digit h
  rcases List.eq_nil_or_concat rest with rfl | ⟨init, c, rfl⟩
  · rw [List.append_nil] at heq
    exact ⟨rfl, digit_injective (List.singleton_inj.1 (List.append_inj_right' heq rfl)).symm⟩
  · -- the first digit would stand before the last one
    rw [List.concat_eq_append, ← List.append_assoc] at heq
    have hmem : e.digit ∈ front' := by
      rw [← List.append_inj_left' heq rfl]
      simp
    exact absurd (hfront' _ hmem) e.digit_not_mem

/-! ### Reading a setting -/

/-- Skipping takes all copies of `kv` that stand in front, and nothing behind them. -/
theorem skipKv_eq_iff : skipKv w = t ↔
    (∃ n, w = (List.replicate n ['k', 'v']).flatten ++ t) ∧ ¬ ['k', 'v'] <+: t := by
  constructor
  · rintro rfl
    fun_induction skipKv w with
    | case1 rest ih =>
      obtain ⟨⟨n, hn⟩, hnot⟩ := ih
      exact ⟨⟨n + 1, congrArg (fun u => 'k' :: 'v' :: u) hn⟩, hnot⟩
    | case2 w hw =>
      refine ⟨⟨0, rfl⟩, ?_⟩
      rintro ⟨u, rfl⟩
      exact hw u rfl
  · rintro ⟨⟨n, rfl⟩, hnot⟩
    induction n with
    | zero =>
      fun_cases skipKv t with
      | case1 rest => exact absurd ⟨rest, rfl⟩ hnot
      | case2 => rfl
    | succ n ih => exact ih

/-- The digit alone is left of a setting exactly if it is a spelling. -/
theorem digitPart_eq_iff :
    digitPart w = [e.digit] ↔ Text.toLowerAscii (Text.trim w) ∈ e.spellings.matches' := by
  rw [digitPart, mem_spellings_iff]
  constructor
  · intro h
    obtain ⟨⟨vs, hvs, hv⟩, -⟩ := Text.dropWhile_eq_iff.1 h
    obtain ⟨⟨marks, hmarks, hm⟩, -⟩ := Text.dropWhile_eq_iff.1 hvs
    obtain ⟨⟨n, hn⟩, -⟩ := skipKv_eq_iff.1 hmarks
    exact ⟨n, marks, vs, fun c hc => by simpa using hm c hc, fun c hc => by simpa using hv c hc, hn⟩
  · rintro ⟨n, marks, vs, hmarks, hvs, hw⟩
    -- no step takes a character of a later part
    have hdigit := e.digit_not_mem
    have hkv : skipKv (Text.toLowerAscii (Text.trim w)) = marks ++ (vs ++ [e.digit]) := by
      refine skipKv_eq_iff.2 ⟨⟨n, hw⟩, fun hprefix => ?_⟩
      have hk : 'k' ∈ marks ++ (vs ++ [e.digit]) := hprefix.subset (by decide)
      rcases List.mem_append.1 hk with hk | hk
      · exact absurd (hmarks 'k' hk) (by decide)
      · rcases List.mem_append.1 hk with hk | hk
        · exact absurd (hvs 'k' hk) (by decide)
        · exact hdigit (List.mem_singleton.1 hk ▸ by decide)
    have hmark : (marks ++ (vs ++ [e.digit])).dropWhile (fun c => c == '-' || c == '_') =
        vs ++ [e.digit] := by
      refine Text.dropWhile_eq_iff.2 ⟨⟨marks, rfl, fun c hc => by simpa using hmarks c hc⟩,
        fun c hc => ?_⟩
      rcases List.mem_append.1 (List.mem_of_mem_head? hc) with hc | hc
      · rw [hvs c hc]
        rfl
      · rw [List.mem_singleton.1 hc]
        cases e <;> rfl
    have hv : (vs ++ [e.digit]).dropWhile (· == 'v') = [e.digit] := by
      refine Text.dropWhile_eq_iff.2 ⟨⟨vs, rfl, fun c hc => beq_iff_eq.2 (hvs c hc)⟩,
        fun c hc => ?_⟩
      rw [List.mem_singleton.1 (List.mem_of_mem_head? hc)]
      cases e <;> rfl
    rw [hkv, hmark, hv]

variable {s more : String}

theorem parse?_eq_some_iff : parse? s = some e ↔ digitPart s.toList = [e.digit] := by
  rw [parse?]
  constructor
  · intro h
    split at h
    · next hdigit =>
      rw [← Option.some_inj.1 h, hdigit]
      rfl
    · next hdigit =>
      rw [← Option.some_inj.1 h, hdigit]
      rfl
    · exact absurd h (by simp)
  · intro h
    rw [h]
    cases e <;> rfl

theorem spelledBy_iff :
    e.SpelledBy s ↔ Text.toLowerAscii (Text.trim s.toList) ∈ e.spellings.matches' := by
  constructor
  · rintro ⟨word, hcore, hword⟩
    rw [Text.trim, Text.core_iff.1 hcore]
    exact hword
  · exact fun h => ⟨_, Text.core_iff.2 rfl, h⟩

theorem parse?_eq_some_iff_spelledBy : parse? s = some e ↔ e.SpelledBy s :=
  calc parse? s = some e
      ↔ digitPart s.toList = [e.digit] := parse?_eq_some_iff
    _ ↔ Text.toLowerAscii (Text.trim s.toList) ∈ e.spellings.matches' := digitPart_eq_iff
    _ ↔ e.SpelledBy s := spelledBy_iff.symm

/-- A spelling stays one exactly if nothing but white space is put behind it. -/
theorem SpelledBy.append_iff (h : e.SpelledBy s) :
    e'.SpelledBy (s ++ more) ↔ e' = e ∧ ∀ c ∈ more.toList, Text.isSpace c = true := by
  obtain ⟨word, hcore, hword⟩ := h
  rw [spelledBy_iff, String.toList_append, Text.trim]
  by_cases hblank : ∀ c ∈ more.toList, Text.isSpace c = true
  · rw [Text.core_iff.1 (hcore.append_of_forall hblank)]
    constructor
    · intro h
      have happend : word.map Char.toLower ++ [] ∈ e'.spellings.matches' := by
        rw [List.append_nil]
        exact h
      exact ⟨(eq_of_append hword happend).2, hblank⟩
    · rintro ⟨rfl, -⟩
      exact hword
  · have hne : word ≠ [] := by
      rintro rfl
      obtain ⟨front, hfront, -⟩ := exists_eq_append_digit hword
      simp at hfront
    obtain ⟨rest, hrest, hcore'⟩ := hcore.exists_append hne hblank
    rw [Text.core_iff.1 hcore', Text.toLowerAscii, List.map_append]
    constructor
    · intro h
      exact absurd (List.map_eq_nil_iff.1 (eq_of_append hword h).1) hrest
    · exact fun h => absurd h.2 hblank

end Engine

namespace Settings

variable {s : String} {e : Engine}

theorem readEngine_eq_ok_iff : readEngine s = .ok e ↔ e.SpelledBy s := by
  rw [← Engine.parse?_eq_some_iff_spelledBy, readEngine]
  cases Engine.parse? s with
  | none => simp
  | some e' => simp

theorem readEngine_eq_error (h : ∀ e : Engine, ¬ e.SpelledBy s) :
    readEngine s = .error (.unknownEngine s) := by
  cases hs : Engine.parse? s with
  | none => rw [readEngine, hs]
  | some e => exact absurd (Engine.parse?_eq_some_iff_spelledBy.1 hs) (h e)

/-- **The settings that name a generation.**  A setting is read as a generation exactly if it is a
spelling of it, and any other setting is an error of the configuration that quotes it as it stands.
No setting is a spelling of both generations, and behind a spelling nothing but white space may
follow. -/
theorem readEngine_iff_spelled (setting : String) :
    (∀ e : Engine, readEngine setting = .ok e ↔ e.SpelledBy setting) ∧
    ((∀ e : Engine, ¬ e.SpelledBy setting) →
      (readEngine setting).mapError ConfigFault.toError =
        .error (.config ("Unknown K/V backend version: " ++ setting))) ∧
    (∀ e e' : Engine, e.SpelledBy setting → e'.SpelledBy setting → e = e') ∧
    ∀ (e : Engine) (more : String), e.SpelledBy setting → ∀ e' : Engine,
      readEngine (setting ++ more) = .ok e' ↔
        e' = e ∧ ∀ c ∈ more.toList, Text.isSpace c = true := by
  refine ⟨fun e => readEngine_eq_ok_iff, fun hnone => ?_, fun e e' h h' => ?_,
    fun e more h e' => ?_⟩
  · rw [readEngine_eq_error hnone]
    rfl
  · exact Except.ok.inj ((readEngine_eq_ok_iff.2 h).symm.trans (readEngine_eq_ok_iff.2 h'))
  · rw [readEngine_eq_ok_iff, h.append_iff]

/-- A spelling with two copies of `kv`, every mark and white space around it, and a text with a `v`
on the wrong side of a dash. -/
theorem readEngine_iff_spelled_oddSettings :
    Engine.versioned.SpelledBy "\u00a0KVkv-_Vv2\n" ∧
      (∀ e : Engine, ¬ e.SpelledBy "v-1") ∧
      (readEngine "v-1").mapError ConfigFault.toError =
        .error (.config "Unknown K/V backend version: v-1") ∧
      ∀ e : Engine, readEngine ("\u00a0KVkv-_Vv2\n" ++ "1") ≠ .ok e := by
  have hok : readEngine "\u00a0KVkv-_Vv2\n" = .ok .versioned := by decide
  have herror : readEngine "v-1" = .error (.unknownEngine "v-1") := by decide
  obtain ⟨hiff, -, -, hmore⟩ := readEngine_iff_spelled "\u00a0KVkv-_Vv2\n"
  obtain ⟨hiff', hquoted, -, -⟩ := readEngine_iff_spelled "v-1"
  have hspelled := (hiff .versioned).1 hok
  have hnone : ∀ e : Engine, ¬ e.SpelledBy "v-1" := by
    intro e h
    rw [← hiff' e, herror] at h
    exact absurd h (by simp)
  refine ⟨hspelled, hnone, hquoted hnone, fun e h => ?_⟩
  have hspace := ((hmore .versioned "1" hspelled e).1 h).2 '1' (by decide)
  exact absurd hspace (by decide)

end Settings
end Strongbox
