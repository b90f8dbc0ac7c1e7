/-
Records of one field and maps of texts, as values hold them.

A record of one field is read from an object that has the field, or from a list with one item.
Members of other names are ignored; if a name stands more than once, all its values are of the type
of the field, and the last one counts (`Json.Holds`).  A map of texts is read from an object with
nothing but texts.

* `Shape.decode_eq_ok_iff` — a record of one field is read exactly from the values that hold it;
* `holds_object_iff` — an object without a name twice holds what its member of that name is;
* `ScalarRecord.decode_eq_ok_iff`, `StringMap.decode_eq_ok_iff` — so it is with payloads;
* `StringMap.decode_toJson`, `StringMap.holds_toObject_iff` — what is read of a map that was
  written.
-/
import Strongbox.Proofs.Answers
import Mathlib.Data.List.Induction
import Mathlib.Data.List.Nodup
import Mathlib.Data.String.Basic

namespace Strongbox
namespace Json

/-! ### Members by name -/

theorem lookup_append (name : String) (ms ns : List (String × Json)) :
    lookup name (ms ++ ns) = (lookup name ms).or (lookup name ns) := by
  induction ms with
  | nil => rfl
  | cons m ms ih =>
    rw [List.cons_append, lookup, lookup]
    split
    · rfl
    · exact ih

theorem mem_of_lookup {name : String} {v : Json} {members : List (String × Json)}
    (h : lookup name members = some v) : (name, v) ∈ members := by
  induction members with
  | nil => simp [lookup] at h
  | cons m members ih =>
    obtain ⟨n, w⟩ := m
    rw [lookup] at h
    by_cases hn : n = name
    · rw [if_pos hn, Option.some_inj] at h
      rw [hn, h]
      exact List.mem_cons_self
    · rw [if_neg hn] at h
      exact List.mem_cons_of_mem _ (ih h)

theorem exists_lookup_of_mem {name : String} {v : Json} {members : List (String × Json)}
    (h : (name, v) ∈ members) : ∃ w, lookup name members = some w := by
  induction members with
  | nil => simp at h
  | cons m members ih =>
    obtain ⟨n, w⟩ := m
    rw [lookup]
    by_cases hn : n = name
    · exact ⟨w, if_pos hn⟩
    · rw [if_neg hn]
      rcases List.mem_cons.1 h with heq | hmem
      · exact absurd (Prod.mk.inj heq).1.symm hn
      · exact ih hmem

/-- If no name stands twice, every member is found under its name. -/
theorem lookup_of_mem {name : String} {v : Json} {members : List (String × Json)}
    (hnames : (members.map Prod.fst).Nodup) (h : (name, v) ∈ members) :
    lookup name members = some v := by
  obtain ⟨w, hw⟩ := exists_lookup_of_mem h
  have heq : (name, w) = (name, v) := List.inj_on_of_nodup_map hnames (mem_of_lookup hw) h rfl
  rw [hw, (Prod.mk.inj heq).2]

/-! ### Values that hold a field -/

/-- The value holds a field: as its member, which is of the type of the field and nothing else, or
as the one item of an array.  If an object names the field more than once, all its members of the
name are of the type, and the last one counts. -/
inductive Holds {α : Type} (name : String) (enc : α → Json) : Json → α → Prop
  | member {members : List (String × Json)} {a : α}
    (hlast : lookup name members.reverse = some (enc a))
    (hall : ∀ v, (name, v) ∈ members → ∃ b, v = enc b) : Holds name enc (.object members) a
  | item {a : α} : Holds name enc (.array [enc a]) a

theorem holds_object_iff {α : Type} {name : String} {enc : α → Json}
    {members : List (String × Json)} (hnames : (members.map Prod.fst).Nodup) {a : α} :
    Holds name enc (.object members) a ↔ (name, enc a) ∈ members := by
  constructor
  · intro h
    cases h with
    | member hlast _ => exact List.mem_reverse.1 (mem_of_lookup hlast)
  · intro h
    have hreverse : (members.reverse.map Prod.fst).Nodup := by
      rwa [List.map_reverse, List.nodup_reverse]
    refine .member (lookup_of_mem hreverse (List.mem_reverse.2 h)) fun v hv => ⟨a, ?_⟩
    have hlookup := (lookup_of_mem hnames hv).symm.trans (lookup_of_mem hnames h)
    exact Option.some_inj.1 hlookup

namespace Shape

/-! ### Records of one field -/

section

variable {ρ : Type} {s : Shape ρ} {name : String} {put : Json → ρ → Except DecodeFault ρ}
  {required : Bool}

theorem putMember_self (hs : s.fields = [⟨name, put, required⟩]) (r : ρ) (v : Json) :
    s.putMember r (name, v) = put v r := by
  have hfind : s.fields.find? (·.name == name) = some ⟨name, put, required⟩ := by simp [hs]
  rw [putMember, hfind]

theorem putMember_of_ne (hs : s.fields = [⟨name, put, required⟩]) {n : String} (hn : n ≠ name)
    (r : ρ) (v : Json) : s.putMember r (n, v) = .ok r := by
  have hfind : s.fields.find? (·.name == n) = none := by simp [hs, hn.symm]
  rw [putMember, hfind]

/-- A record is read from an object by a walk over its members; a required field is among them. -/
theorem ofMembers_eq_ok_iff (hs : s.fields = [⟨name, put, required⟩])
    {members : List (String × Json)} {r : ρ} :
    s.ofMembers members = .ok r ↔ members.foldlM s.putMember s.blank = .ok r ∧
      (required = true → ∃ v, (name, v) ∈ members) := by
  have hmissing : s.missing? members = none ↔ (required = true → ∃ v, (name, v) ∈ members) := by
    have hmem : lookup name members ≠ none ↔ ∃ v, (name, v) ∈ members := by
      rw [Option.ne_none_iff_exists']
      constructor
      · rintro ⟨v, hv⟩
        exact ⟨v, mem_of_lookup hv⟩
      · rintro ⟨v, hv⟩
        exact exists_lookup_of_mem hv
    simp [missing?, hs, ← hmem]
  rw [ofMembers, Results.bind_eq_ok, ← hmissing]
  cases s.missing? members with
  | none => simp
  | some f => simp

theorem ofItems_nil (hs : s.fields = [⟨name, put, required⟩]) :
    s.ofItems [] =
      if required then .error (.wrongLength 0 s.sizedLabel) else .ok s.blank := by
  rw [ofItems, hs, putItems]
  cases required with
  | true => rfl
  | false =>
    show (s.putItems 1 [] [] s.blank >>= _) = _
    rw [putItems]
    rfl

theorem ofItems_cons (hs : s.fields = [⟨name, put, required⟩]) (v : Json) (rest : List Json) :
    s.ofItems (v :: rest) = (put v s.blank >>= fun r =>
      if rest.isEmpty then .ok r
      else .error (.wrongLength (rest.length + 1) "fewer elements in array")) := by
  rw [ofItems, hs, putItems]
  dsimp only
  cases put v s.blank with
  | error f => rfl
  | ok r =>
    show (s.putItems 1 [] rest r >>= _) = _
    rw [putItems]
    rfl

end

section

variable {ρ α : Type} {s : Shape ρ} {name : String} {view : Json → Except DecodeFault α}
  {mk : α → ρ} {required : Bool} {enc : α → Json}

/-- A walk over members succeeds if all that are named as the field are of its type, and then the
last of them is kept. -/
theorem foldlM_eq_ok_iff (hs : s.fields = [⟨name, fun v _ => (view v).map mk, required⟩])
    (hview : ∀ v a, view v = .ok a ↔ v = enc a) {members : List (String × Json)} {r₀ r : ρ} :
    members.foldlM s.putMember r₀ = .ok r ↔
      (∀ v, (name, v) ∈ members → ∃ a, v = enc a) ∧
        (lookup name members.reverse).elim (r = r₀) fun v => ∃ a, v = enc a ∧ r = mk a := by
  have hput : ∀ r r' v, s.putMember r (name, v) = .ok r' ↔ ∃ a, v = enc a ∧ r' = mk a := by
    intro r r' v
    rw [putMember_self hs, Results.map_eq_ok]
    simp only [hview, eq_comm]
  induction members generalizing r₀ with
  | nil =>
    show Except.ok r₀ = Except.ok r ↔ _ ∧ r = r₀
    simp [eq_comm]
  | cons m members ih =>
    obtain ⟨n, v⟩ := m
    rw [List.foldlM_cons, Results.bind_eq_ok, List.reverse_cons, lookup_append]
    by_cases hn : n = name
    · subst hn
      have hself : lookup n [(n, v)] = some v := by simp [lookup]
      simp only [hput, ih, hself]
      have hall : (∀ w, (n, w) ∈ (n, v) :: members → ∃ a, w = enc a) ↔
          (∃ a, v = enc a) ∧ ∀ w, (n, w) ∈ members → ∃ a, w = enc a := by
        simp [or_imp, forall_and]
      rw [hall]
      cases lookup n members.reverse with
      | none =>
        simp only [Option.none_or, Option.elim]
        constructor
        · rintro ⟨_, ⟨a, hv, rfl⟩, hmembers, rfl⟩
          exact ⟨⟨⟨a, hv⟩, hmembers⟩, a, hv, rfl⟩
        · rintro ⟨⟨_, hmembers⟩, hv⟩
          exact ⟨r, hv, hmembers, rfl⟩
      | some w =>
        simp only [Option.some_or, Option.elim]
        constructor
        · rintro ⟨_, ⟨a, hv, -⟩, hmembers, hw⟩
          exact ⟨⟨⟨a, hv⟩, hmembers⟩, hw⟩
        · rintro ⟨⟨⟨a, hv⟩, hmembers⟩, hw⟩
          exact ⟨mk a, ⟨a, hv, rfl⟩, hmembers, hw⟩
    · have hlookup : lookup name [(n, v)] = none := by simp [lookup, hn]
      have hmem : ∀ w, (name, w) ∈ (n, v) :: members ↔ (name, w) ∈ members := by
        intro w
        rw [List.mem_cons, Prod.mk.injEq, or_iff_right fun h => hn h.1.symm]
      simp only [putMember_of_ne hs hn, Except.ok.injEq, exists_eq_left', ih, hlookup,
        Option.or_none, hmem]

/-- **A record of one field is read exactly from the values that hold it**, unless it is what a
value without the field is read as. -/
theorem decode_eq_ok_iff (hs : s.fields = [⟨name, fun v _ => (view v).map mk, required⟩])
    (hview : ∀ v a, view v = .ok a ↔ v = enc a) (hmk : Function.Injective mk) {a : α}
    (hblank : required = true ∨ mk a ≠ s.blank) {v : Json} :
    s.decode v = .ok (mk a) ↔ Holds name enc v a := by
  cases v with
  | object members =>
    rw [decode, ofMembers_eq_ok_iff hs, foldlM_eq_ok_iff hs hview]
    constructor
    · rintro ⟨⟨hall, hlast⟩, hrequired⟩
      cases hfind : lookup name members.reverse with
      | none =>
        -- without the field the record is the blank one, which is not asked for
        rw [hfind] at hlast
        rcases hblank with hreq | hne
        · obtain ⟨v, hv⟩ := hrequired hreq
          obtain ⟨w, hw⟩ := exists_lookup_of_mem (List.mem_reverse.2 hv)
          simp [hfind] at hw
        · exact absurd hlast hne
      | some w =>
        rw [hfind] at hlast
        obtain ⟨b, rfl, hb⟩ := hlast
        rw [hmk hb]
        exact .member hfind hall
    · intro h
      cases h with
      | member hlast hall =>
        rw [hlast]
        exact ⟨⟨hall, a, rfl, rfl⟩, fun _ => ⟨enc a, List.mem_reverse.1 (mem_of_lookup hlast)⟩⟩
  | array items =>
    cases items with
    | nil =>
      refine iff_of_false (fun h => ?_) (by rintro ⟨⟩)
      rw [decode, ofItems_nil hs] at h
      rcases hblank with hrequired | hne
      · simp [hrequired] at h
      · split at h
        · simp at h
        · exact hne (Except.ok.inj h).symm
    | cons w rest =>
      rw [decode, ofItems_cons hs, Results.bind_eq_ok]
      simp only [Results.map_eq_ok, hview]
      constructor
      · rintro ⟨_, ⟨b, rfl, rfl⟩, hrest⟩
        cases rest with
        | nil =>
          rw [hmk (Except.ok.inj hrest)]
          exact .item
        | cons x rest => simp at hrest
      · intro h
        cases h with
        | item => exact ⟨mk a, ⟨a, rfl, rfl⟩, rfl⟩
  | _ => exact iff_of_false (by simp [decode, mismatch]) (by rintro ⟨⟩)

end

end Shape
end Json

/-! ### Scalar records -/

/-- A scalar record is read exactly from the values that hold its value. -/
theorem ScalarRecord.decode_eq_ok_iff {v : Json} {r : ScalarRecord} :
    decode v = .ok r ↔ Json.Holds "value" Json.string v r.value := by
  obtain ⟨value⟩ := r
  exact Json.Shape.decode_eq_ok_iff (s := shape) rfl (fun _ _ => Json.asText_eq_ok_iff)
    (fun _ _ h => ScalarRecord.mk.inj h) (Or.inl rfl)

/-! ### Maps of texts -/

namespace StringMap

/-- The object that has the entries of a map as its members. -/
def toObject (map : StringMap) : Json := .object (map.map fun e => (e.1, .string e.2))

/-- A map is read exactly from the object of its entries. -/
theorem decode_eq_ok_iff {v : Json} {map : StringMap} : decode v = .ok map ↔ v = map.toObject := by
  have hentry : ∀ (m : String × Json) (e : String × String),
      (Json.asText m.2).map (fun s => (m.1, s)) = .ok e ↔ m = (e.1, .string e.2) := by
    intro m e
    rw [Results.map_eq_ok]
    constructor
    · rintro ⟨s, hs, rfl⟩
      rw [← Json.asText_eq_ok_iff.1 hs]
    · rintro rfl
      exact ⟨e.2, rfl, rfl⟩
  cases v with
  | object members =>
    rw [decode, Json.asMap, Results.mapM_eq_ok_iff hentry, toObject, Json.object.injEq]
  | _ => simp [decode, Json.asMap, Json.mismatch, toObject]

theorem insert_last {name : String} {v : Json} {members : List (String × Json)}
    (h : ∀ e ∈ members, e.1 < name) : Json.insert name v members = members ++ [(name, v)] := by
  induction members with
  | nil => rfl
  | cons e members ih =>
    obtain ⟨n, w⟩ := e
    obtain ⟨hn, hrest⟩ := List.forall_mem_cons.1 h
    rw [Json.insert, if_neg (not_lt_of_gt hn), if_neg (ne_of_gt hn), ih hrest, List.cons_append]

/-- A map in order is written as the object of its entries. -/
theorem toJson_of_ordered {map : StringMap} (h : map.Pairwise fun e f => e.1 < f.1) :
    map.toJson = map.toObject := by
  -- from the last entry on: it comes behind all others
  have hfold : (map.map fun e => (e.1, Json.string e.2)).foldl
      (fun acc m => Json.insert m.1 m.2 acc) [] = map.map fun e => (e.1, .string e.2) := by
    induction map using List.reverseRecOn with
    | nil => rfl
    | append_singleton map e ih =>
      obtain ⟨hmap, -, hlast⟩ := List.pairwise_append.1 h
      rw [List.map_append, List.foldl_append, ih hmap]
      refine insert_last fun f hf => ?_
      obtain ⟨d, hd, rfl⟩ := List.mem_map.1 hf
      exact hlast d hd e List.mem_cons_self
  rw [toJson, Json.ofMembers, hfold, toObject]

theorem decode_toJson {map : StringMap} (h : map.Pairwise fun e f => e.1 < f.1) :
    decode map.toJson = .ok map := decode_eq_ok_iff.2 (toJson_of_ordered h)

/-- The object of a map in order holds a field as the entry of that name. -/
theorem holds_toObject_iff {map : StringMap} (h : map.Pairwise fun e f => e.1 < f.1)
    {name value : String} :
    Json.Holds name Json.string map.toObject value ↔ (name, value) ∈ map := by
  have hnames : ((map.map fun e => (e.1, Json.string e.2)).map Prod.fst).Nodup := by
    rw [List.map_map, List.Nodup, List.pairwise_map]
    exact h.imp fun hlt => ne_of_lt hlt
  rw [toObject, Json.holds_object_iff hnames, List.mem_map]
  simp

end StringMap
end Strongbox
