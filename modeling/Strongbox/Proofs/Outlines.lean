/-
What faults show of the values that they are about.

The outline of a value is what is left of it when the contents of its scalars are taken away
(`Json.outline`): its structure, the names of its members and the kinds of its scalars.  Whether a
value can be read as a payload depends on its outline alone, and so does the fault, but for one
thing that it quotes.

* `cases_of_outline`, `cases_of_outlineAt` — what values of one outline, and values that are alike
  but for the contents of scalars at one place (`outlineAt`), have in common;
* `FailsBy.related` — readings that fail say the same exactly if they quote the same;
* `quotes_ofField`, `StringMap.quotes_decode` — so it is with records of one text and with maps.
-/
import Strongbox.Json.Decode
import Strongbox.Secret
import Strongbox.Proofs.Records
import Mathlib.Data.List.Forall2

namespace Strongbox
namespace Json

/-! ### Outlines -/

mutual

/-- The value without the contents of its scalars. -/
def outline : Json → Json
  | .null => .null
  | .bool _ => .bool false
  | .integer _ => .integer 0
  | .float _ => .integer 0
  | .string _ => .string ""
  | .array items => .array (outlineItems items)
  | .object members => .object (outlineMembers members)

/-- The items without the contents of their scalars. -/
def outlineItems : List Json → List Json
  | [] => []
  | v :: rest => outline v :: outlineItems rest

/-- The members without the contents of their scalars. -/
def outlineMembers : List (String × Json) → List (String × Json)
  | [] => []
  | (n, v) :: rest => (n, outline v) :: outlineMembers rest

end

/-- The value without the contents of the scalars below a member: its name, the name of a member
of that, and so on. -/
def outlineAt : List String → Json → Json
  | [], v => v.outline
  | n :: path, .object members =>
    .object (members.map fun m => if m.1 = n then (m.1, outlineAt path m.2) else m)
  | _ :: _, v => v

theorem outlineItems_eq_map (items : List Json) : outlineItems items = items.map outline := by
  induction items with
  | nil => rfl
  | cons v rest ih => rw [outlineItems, ih, List.map_cons]

theorem outlineMembers_eq_map (members : List (String × Json)) :
    outlineMembers members = members.map fun m => (m.1, m.2.outline) := by
  induction members with
  | nil => rfl
  | cons m rest ih => rw [outlineMembers, ih, List.map_cons]

/-- Members of the same name whose values have the same outline. -/
def MemberAlike (m n : String × Json) : Prop := m.1 = n.1 ∧ m.2.outline = n.2.outline

theorem forall₂_of_outlineItems {vs ws : List Json} (h : outlineItems vs = outlineItems ws) :
    List.Forall₂ (fun v w => v.outline = w.outline) vs ws := by
  rw [outlineItems_eq_map, outlineItems_eq_map, ← List.forall₂_eq_eq_eq,
    List.forall₂_map_left_iff, List.forall₂_map_right_iff] at h
  exact h

theorem forall₂_of_outlineMembers {ms ns : List (String × Json)}
    (h : outlineMembers ms = outlineMembers ns) : List.Forall₂ MemberAlike ms ns := by
  rw [outlineMembers_eq_map, outlineMembers_eq_map, ← List.forall₂_eq_eq_eq,
    List.forall₂_map_left_iff, List.forall₂_map_right_iff] at h
  exact h.imp fun _ _ heq => Prod.mk.inj heq

mutual

theorem outline_outline : ∀ v : Json, v.outline.outline = v.outline
  | .null => rfl
  | .bool _ => rfl
  | .integer _ => rfl
  | .float _ => rfl
  | .string _ => rfl
  | .array items => congrArg Json.array (outlineItems_outlineItems items)
  | .object members => congrArg Json.object (outlineMembers_outlineMembers members)

theorem outlineItems_outlineItems : ∀ items, outlineItems (outlineItems items) = outlineItems items
  | [] => rfl
  | v :: rest => congrArg₂ List.cons (outline_outline v) (outlineItems_outlineItems rest)

theorem outlineMembers_outlineMembers :
    ∀ members, outlineMembers (outlineMembers members) = outlineMembers members
  | [] => rfl
  | (n, v) :: rest =>
    congrArg₂ (fun w ms => (n, w) :: ms) (outline_outline v) (outlineMembers_outlineMembers rest)

end

/-- Taking contents away in one place changes nothing in the outline. -/
theorem outline_outlineAt (path : List String) (v : Json) :
    (outlineAt path v).outline = v.outline := by
  induction path generalizing v with
  | nil => exact outline_outline v
  | cons n path ih =>
    cases v with
    | object members =>
      rw [outlineAt, outline, outline, outlineMembers_eq_map, outlineMembers_eq_map, List.map_map]
      refine congrArg Json.object (List.map_congr_left fun m _ => ?_)
      dsimp only [Function.comp_apply]
      split
      · rw [ih]
      · rfl
    | _ => rfl

/-- Is the value neither an array nor an object? -/
def isLeaf : Json → Bool
  | .array _ => false
  | .object _ => false
  | _ => true

theorem isLeaf_outline (v : Json) : v.outline.isLeaf = v.isLeaf := by
  cases v <;> rfl

theorem isNull_outline (v : Json) : v.outline.isNull = v.isNull := by
  cases v <;> rfl

/-- Values of one outline are both leaves, or arrays of like items, or objects of like members. -/
theorem cases_of_outline {v w : Json} (h : v.outline = w.outline) :
    (v.isLeaf = true ∧ w.isLeaf = true) ∨
      (∃ vs ws, v = .array vs ∧ w = .array ws ∧
        List.Forall₂ (fun x y => x.outline = y.outline) vs ws) ∨
      ∃ ms ns, v = .object ms ∧ w = .object ns ∧ List.Forall₂ MemberAlike ms ns := by
  have hleaf : v.isLeaf = w.isLeaf := by rw [← isLeaf_outline v, h, isLeaf_outline]
  cases v with
  | array vs =>
    cases w with
    | array ws =>
      exact Or.inr (Or.inl ⟨vs, ws, rfl, rfl, forall₂_of_outlineItems (Json.array.inj h)⟩)
    | object ns => exact absurd h (by simp [outline])
    | _ => exact absurd hleaf (by simp [isLeaf])
  | object ms =>
    cases w with
    | object ns =>
      exact Or.inr (Or.inr ⟨ms, ns, rfl, rfl, forall₂_of_outlineMembers (Json.object.inj h)⟩)
    | array ws => exact absurd h (by simp [outline])
    | _ => exact absurd hleaf (by simp [isLeaf])
  | _ => exact Or.inl ⟨rfl, hleaf.symm⟩

/-! ### Values that are alike but for one place -/

/-- Members of the same name that differ at most in the contents of the scalars at the path, if
they have its first name. -/
def MemberAlikeAt (name : String) (path : List String) (m n : String × Json) : Prop :=
  m.1 = n.1 ∧ (m.1 = name → outlineAt path m.2 = outlineAt path n.2) ∧ (m.1 ≠ name → m.2 = n.2)

/-- Values that differ at most in one place are the same, or objects of which the members differ
at most there. -/
theorem cases_of_outlineAt {name : String} {path : List String} {v w : Json}
    (h : outlineAt (name :: path) v = outlineAt (name :: path) w) :
    v = w ∨ ∃ ms ns, v = .object ms ∧ w = .object ns ∧
      List.Forall₂ (MemberAlikeAt name path) ms ns := by
  cases v with
  | object ms =>
    cases w with
    | object ns =>
      refine Or.inr ⟨ms, ns, rfl, rfl, ?_⟩
      rw [outlineAt, outlineAt, Json.object.injEq, ← List.forall₂_eq_eq_eq,
        List.forall₂_map_left_iff, List.forall₂_map_right_iff] at h
      refine h.imp fun m n hmn => ?_
      have hname : m.1 = n.1 := by
        have hfst := congrArg Prod.fst hmn
        split at hfst <;> split at hfst <;> exact hfst
      refine ⟨hname, fun hm => ?_, fun hm => ?_⟩
      · rw [if_pos hm, if_pos (hname ▸ hm)] at hmn
        exact congrArg Prod.snd hmn
      · rw [if_neg hm, if_neg fun hn => hm (hname.trans hn)] at hmn
        exact congrArg Prod.snd hmn
    | _ => exact absurd h (by simp [outlineAt])
  | _ => cases w <;> first | exact Or.inl h | exact absurd h (by simp [outlineAt])

theorem outline_of_outlineAt {path : List String} {v w : Json}
    (h : outlineAt path v = outlineAt path w) : v.outline = w.outline := by
  rw [← outline_outlineAt path v, h, outline_outlineAt]

theorem isNull_of_outlineAt {path : List String} {v w : Json}
    (h : outlineAt path v = outlineAt path w) : v.isNull = w.isNull := by
  rw [← isNull_outline v, outline_of_outlineAt h, isNull_outline]

theorem lookup_of_memberAlikeAt {name : String} {path : List String} {ms ns : List (String × Json)}
    (h : List.Forall₂ (MemberAlikeAt name path) ms ns) :
    (lookup name ms).map (outlineAt path) = (lookup name ns).map (outlineAt path) := by
  induction h with
  | nil => rfl
  | @cons m n ms ns hmn _ ih =>
    obtain ⟨a, v⟩ := m
    obtain ⟨b, w⟩ := n
    obtain rfl : a = b := hmn.1
    rw [lookup, lookup]
    split
    · next ha => exact congrArg some (hmn.2.1 ha)
    · exact ih

/-! ### What faults quote -/

/-- What a fault shows of a value that is no text. -/
def shown : Json → Option String
  | .string _ => none
  | v => some v.found

theorem isSome_shown {v w : Json} (h : v.outline = w.outline) :
    v.shown.isSome = w.shown.isSome := by
  have houtline : ∀ u : Json, u.outline.shown.isSome = u.shown.isSome := fun u => by
    cases u <;> rfl
  rw [← houtline v, h, houtline]

theorem message_wrongKind_inj {q q' expected : String} :
    (DecodeFault.wrongKind q expected).message = (DecodeFault.wrongKind q' expected).message ↔
      q = q' := by
  show "invalid type: " ++ q ++ ", expected " ++ expected =
    "invalid type: " ++ q' ++ ", expected " ++ expected ↔ q = q'
  rw [String.append_left_inj, String.append_left_inj, String.append_right_inj]

/-- A reading fails exactly if something is quoted, as the wrong kind of value. -/
def FailsBy {α : Type} (x : Except DecodeFault α) (quoted : Option String) (expected : String) :
    Prop :=
  ∀ f, x = .error f ↔ quoted.map (fun q => DecodeFault.wrongKind q expected) = some f

theorem failsBy_mismatch {α : Type} (v : Json) (expected : String) :
    FailsBy (mismatch v expected : Except DecodeFault α) (some v.found) expected := by
  simp [FailsBy, mismatch]

theorem failsBy_asText (v : Json) : FailsBy (asText v) v.shown "a string" := by
  cases v with
  | string s => simp [FailsBy, asText, shown]
  | _ => exact failsBy_mismatch _ _

theorem FailsBy.map {α β : Type} {x : Except DecodeFault α} {quoted : Option String}
    {expected : String} (h : FailsBy x quoted expected) (g : α → β) :
    FailsBy (x.map g) quoted expected := by
  intro f
  rw [← h f]
  cases x <;> simp [Except.map]

/-- Two readings that fail by what they quote say the same exactly if they quote the same. -/
theorem FailsBy.related {α β : Type} {x : Except DecodeFault α} {y : Except DecodeFault β}
    {q q' : Option String} {expected : String} (hx : FailsBy x q expected)
    (hy : FailsBy y q' expected) (h : q.isSome = q'.isSome) :
    Results.Related (fun f g => f.message = g.message ↔ q = q') (fun _ _ => q = q') x y := by
  cases q with
  | none =>
    obtain rfl : q' = none := by simpa using h.symm
    cases x with
    | error f => exact absurd ((hx f).1 rfl) (by simp)
    | ok a =>
      cases y with
      | error g => exact absurd ((hy g).1 rfl) (by simp)
      | ok b => exact .ok rfl
  | some q =>
    obtain ⟨q', rfl⟩ := Option.isSome_iff_exists.1 h.symm
    rw [(hx _).2 rfl, (hy _).2 rfl]
    refine .error ?_
    rw [message_wrongKind_inj, Option.some_inj]

/-- A way to read a value goes the same way for all values of one outline, and where it fails it
says the same exactly if it quotes the same. -/
def Quotes {α : Type} (decode : Json → Except DecodeFault α) (quoted : Json → Option String) :
    Prop :=
  ∀ v w, v.outline = w.outline →
    Results.Related (fun f g => f.message = g.message ↔ quoted v = quoted w) (fun _ _ => True)
      (decode v) (decode w)

theorem isSome_findSome? {ms ns : List (String × Json)} {p : String × Json → Option String}
    (h : List.Forall₂ MemberAlike ms ns)
    (hp : ∀ m n, MemberAlike m n → (p m).isSome = (p n).isSome) :
    (ms.findSome? p).isSome = (ns.findSome? p).isSome := by
  induction h with
  | nil => rfl
  | @cons m n ms ns hmn _ ih =>
    have hmn := hp m n hmn
    rw [List.findSome?_cons, List.findSome?_cons]
    cases hm : p m with
    | none =>
      obtain hn : p n = none := by simpa [hm] using hmn.symm
      rw [hn]
      exact ih
    | some q =>
      obtain ⟨q', hn⟩ := Option.isSome_iff_exists.1 (hmn.symm.trans (by rw [hm]; rfl))
      rw [hn]
      rfl

theorem isNone_lookup {ms ns : List (String × Json)} (h : List.Forall₂ (fun m n => m.1 = n.1) ms ns)
    (name : String) : (lookup name ms).isNone = (lookup name ns).isNone := by
  induction h with
  | nil => rfl
  | @cons m n ms ns hmn _ ih =>
    obtain ⟨a, v⟩ := m
    obtain ⟨b, w⟩ := n
    obtain rfl : a = b := hmn
    rw [lookup, lookup]
    split
    · rfl
    · exact ih

theorem missing?_congr {ρ : Type} (s : Shape ρ) {ms ns : List (String × Json)}
    (h : List.Forall₂ (fun m n => m.1 = n.1) ms ns) : s.missing? ms = s.missing? ns := by
  rw [Shape.missing?, Shape.missing?]
  simp only [isNone_lookup h]

/-! ### Records of one text -/

/-- What a fault shows of a member, if it has the name and is no text. -/
def shownAt (name : String) (m : String × Json) : Option String :=
  if m.1 = name then m.2.shown else none

/-- What a fault shows of a value that is no record of one text: the first member of the name, or
the first item, that is no text, or else the value if it is neither object nor array. -/
def quotedField (name : String) : Json → Option String
  | .object members => members.findSome? (shownAt name)
  | .array items => items.head?.bind shown
  | v => some v.found

section

variable {ρ : Type} {s : Shape ρ} {name : String} {g : ρ → String → ρ}

theorem failsBy_putMember (hs : s.fields = [⟨name, fun v r => (asText v).map (g r), true⟩]) (r : ρ)
    (m : String × Json) : FailsBy (s.putMember r m) (shownAt name m) "a string" := by
  rw [Shape.putMember, hs, shownAt]
  by_cases hm : m.1 = name
  · rw [if_pos hm]
    simpa [List.find?_cons, hm] using (failsBy_asText m.2).map (g r)
  · have hm' : ¬ name = m.1 := fun h => hm h.symm
    rw [if_neg hm]
    simp [FailsBy, hm']

theorem failsBy_foldlM (hs : s.fields = [⟨name, fun v r => (asText v).map (g r), true⟩])
    (members : List (String × Json)) (r : ρ) :
    FailsBy (members.foldlM s.putMember r) (members.findSome? (shownAt name)) "a string" := by
  intro f
  rw [Results.foldlM_eq_error_iff fun r m f => failsBy_putMember hs r m f, List.map_findSome?]
  rfl

/-- A record of one text goes the same way for all values of one outline. -/
theorem quotes_ofField (hs : s.fields = [⟨name, fun v r => (asText v).map (g r), true⟩]) :
    Quotes s.decode (quotedField name) := by
  intro v w h
  rcases cases_of_outline h with ⟨hv, hw⟩ | ⟨vs, ws, rfl, rfl, hitems⟩ | ⟨ms, ns, rfl, rfl, hms⟩
  · have hdecode : ∀ u : Json, u.isLeaf = true →
        s.decode u = mismatch u s.label ∧ quotedField name u = some u.found := fun u hu => by
      cases u <;> first | exact ⟨rfl, rfl⟩ | exact absurd hu Bool.false_ne_true
    rw [(hdecode v hv).1, (hdecode v hv).2, (hdecode w hw).1, (hdecode w hw).2]
    exact ((failsBy_mismatch v s.label).related (failsBy_mismatch w s.label) rfl).mono
      (fun _ _ hE => hE) fun _ _ _ => trivial
  · cases hitems with
    | nil => exact .refl (fun _ => iff_of_true rfl rfl) fun _ => trivial
    | @cons x y xs ys hxy hrest =>
      show Results.Related (fun f g => f.message = g.message ↔ x.shown = y.shown) _
        (s.ofItems (x :: xs)) (s.ofItems (y :: ys))
      have hempty : xs.isEmpty = ys.isEmpty := by cases hrest <;> rfl
      rw [Shape.ofItems_cons hs, Shape.ofItems_cons hs, hempty, hrest.length_eq]
      refine (((failsBy_asText x).map _).related ((failsBy_asText y).map _)
        (isSome_shown hxy)).bind fun a b hq => ?_
      split
      · exact .ok trivial
      · exact .error (iff_of_true rfl hq)
  · show Results.Related (fun f g => f.message = g.message ↔
      ms.findSome? (shownAt name) = ns.findSome? (shownAt name)) _ (s.ofMembers ms) (s.ofMembers ns)
    have hshown : ∀ m n, MemberAlike m n → (shownAt name m).isSome = (shownAt name n).isSome := by
      intro m n hmn
      rw [shownAt, shownAt, hmn.1]
      split
      · exact isSome_shown hmn.2
      · rfl
    refine ((failsBy_foldlM hs ms s.blank).related (failsBy_foldlM hs ns s.blank)
      (isSome_findSome? hms hshown)).bind fun a b hq => ?_
    rw [missing?_congr s (hms.imp fun _ _ hmn => hmn.1)]
    split
    · exact .error (iff_of_true rfl hq)
    · exact .ok trivial

end

end Json

/-! ### Maps -/

namespace StringMap

open Json

/-- What a fault shows of a value that is no map of texts: the first member that is no text, or
the value if it is no object. -/
def quoted : Json → Option String
  | .object members => members.findSome? fun m => m.2.shown
  | v => some v.found

/-- A map of texts goes the same way for all values of one outline. -/
theorem quotes_decode : Quotes StringMap.decode quoted := by
  intro v w h
  rcases cases_of_outline h with ⟨hv, hw⟩ | ⟨vs, ws, rfl, rfl, _⟩ | ⟨ms, ns, rfl, rfl, hms⟩
  · have hdecode : ∀ u : Json, u.isLeaf = true →
        StringMap.decode u = mismatch u "a map" ∧ quoted u = some u.found := fun u hu => by
      cases u <;> first | exact ⟨rfl, rfl⟩ | exact absurd hu Bool.false_ne_true
    rw [(hdecode v hv).1, (hdecode v hv).2, (hdecode w hw).1, (hdecode w hw).2]
    exact ((failsBy_mismatch v "a map").related (failsBy_mismatch w "a map") rfl).mono
      (fun _ _ hE => hE) fun _ _ _ => trivial
  · exact .refl (fun _ => iff_of_true rfl rfl) fun _ => trivial
  · have hwalk : ∀ members : List (String × Json), FailsBy (StringMap.decode (.object members))
        (members.findSome? fun m => m.2.shown) "a string" := by
      intro members f
      rw [StringMap.decode, asMap, Results.mapM_eq_error_iff fun m f =>
        (failsBy_asText m.2).map (fun a => (m.1, a)) f, List.map_findSome?]
      rfl
    exact ((hwalk ms).related (hwalk ns)
      (isSome_findSome? hms fun m n hmn => isSome_shown hmn.2)).mono
      (fun _ _ hE => hE) fun _ _ _ => trivial

end StringMap
end Strongbox
