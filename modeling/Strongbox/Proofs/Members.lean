/-
The object that a map of texts is written as.

A map is given by its entries, of which the last one of a name counts.  The members of its object
are told by the names alone: each name stands there once, in order, with the value that counts for
it (`StringMap.members`).  The writer puts one entry after another in its place instead; both lists
are in order and have the same members.

* `Json.pairwise_insert`, `Json.mem_insert_iff` — one more member, in its place;
* `StringMap.inOrder_inserted`, `StringMap.mem_inserted_iff` — so it is with what the writer makes;
* `StringMap.toJson_eq` — the object that is written has those members.
-/
import Strongbox.Secret
import Mathlib.Data.Finset.Sort
import Mathlib.Data.List.Induction
import Mathlib.Data.String.Basic

namespace Strongbox

namespace Json

/-- The members of an object stand in the order of their names, and no name stands twice. -/
def InOrder (members : List (String × Json)) : Prop := members.Pairwise fun m n => m.1 < n.1

theorem mem_insert_iff {name : String} {value : Json} {members : List (String × Json)}
    (h : InOrder members) {m : String × Json} :
    m ∈ insert name value members ↔ m = (name, value) ∨ (m ∈ members ∧ m.1 ≠ name) := by
  induction members with
  | nil => simp [insert]
  | cons e members ih =>
    obtain ⟨n, v⟩ := e
    obtain ⟨hfirst, hrest⟩ := List.pairwise_cons.1 h
    rw [insert]
    by_cases hlt : name < n
    · -- all names that are there come behind the new one
      have hne : ∀ m ∈ (n, v) :: members, m.1 ≠ name :=
        List.forall_mem_cons.2 ⟨hlt.ne', fun m hm => (hlt.trans (hfirst m hm)).ne'⟩
      rw [if_pos hlt, List.mem_cons]
      exact or_congr_right (and_iff_left_of_imp (hne m)).symm
    · rw [if_neg hlt]
      by_cases heq : name = n
      · subst heq
        have hne : ∀ m ∈ members, m.1 ≠ name := fun m hm => (hfirst m hm).ne'
        rw [if_pos rfl, List.mem_cons, List.mem_cons]
        refine or_congr_right ⟨fun hm => ⟨.inr hm, hne m hm⟩, ?_⟩
        rintro ⟨rfl | hm, hname⟩
        · exact absurd rfl hname
        · exact hm
      · rw [if_neg heq, List.mem_cons, ih hrest, List.mem_cons]
        have hself : m = (n, v) → m.1 ≠ name := by
          rintro rfl
          exact Ne.symm heq
        tauto

theorem pairwise_insert {name : String} {value : Json} {members : List (String × Json)}
    (h : InOrder members) : InOrder (insert name value members) := by
  induction members with
  | nil => exact List.pairwise_singleton _ _
  | cons e members ih =>
    obtain ⟨n, v⟩ := e
    obtain ⟨hfirst, hrest⟩ := List.pairwise_cons.1 h
    rw [insert]
    by_cases hlt : name < n
    · rw [if_pos hlt]
      exact List.pairwise_cons.2
        ⟨List.forall_mem_cons.2 ⟨hlt, fun m hm => hlt.trans (hfirst m hm)⟩, h⟩
    · rw [if_neg hlt]
      by_cases heq : name = n
      · subst heq
        rw [if_pos rfl]
        exact List.pairwise_cons.2 ⟨hfirst, hrest⟩
      · rw [if_neg heq]
        refine List.pairwise_cons.2 ⟨fun m hm => ?_, ih hrest⟩
        rcases (mem_insert_iff hrest).1 hm with rfl | ⟨hm, -⟩
        · exact lt_of_le_of_ne (not_lt.1 hlt) (Ne.symm heq)
        · exact hfirst m hm

/-- Lists in order that have the same members are the same. -/
theorem InOrder.eq_of_mem_iff {l l' : List (String × Json)} (h : InOrder l) (h' : InOrder l')
    (hmem : ∀ m, m ∈ l ↔ m ∈ l') : l = l' := by
  have hirrefl : Std.Irrefl fun m n : String × Json => m.1 < n.1 := ⟨fun _ => lt_irrefl _⟩
  have hantisymm : Std.Antisymm fun m n : String × Json => m.1 < n.1 :=
    ⟨fun _ _ hlt hgt => absurd hlt (lt_asymm hgt)⟩
  exact List.Pairwise.eq_of_mem_iff h h' hmem

end Json

/-- The names of a set, in order. -/
def inOrder (names : Finset String) : List String := names.sort

theorem mem_inOrder {names : Finset String} {name : String} :
    name ∈ inOrder names ↔ name ∈ names := Finset.mem_sort _

theorem sortedLT_inOrder (names : Finset String) : (inOrder names).SortedLT :=
  Finset.sortedLT_sort _

namespace StringMap

/-- The value that a map has for a name: that of the last entry of the name. -/
def value? (map : StringMap) (name : String) : Option String :=
  (map.filter (·.1 == name)).getLast?.map (·.2)

/-- The members of the object of a map: every name once, in order, with its value. -/
def members (map : StringMap) : List (String × Json) :=
  (inOrder (map.map Prod.fst).toFinset).map fun name =>
    (name, .string ((map.value? name).getD ""))

theorem value?_concat (map : StringMap) (e : String × String) (name : String) :
    value? (map ++ [e]) name = if e.1 = name then some e.2 else map.value? name := by
  rw [value?, List.filter_append]
  by_cases he : e.1 = name
  · simp [he]
  · simp [he, value?]

theorem value?_isSome_iff {map : StringMap} {name : String} :
    (map.value? name).isSome ↔ name ∈ map.map Prod.fst := by
  induction map using List.reverseRecOn with
  | nil => simp [value?]
  | append_singleton map e ih =>
    rw [value?_concat, List.map_append, List.mem_append, ← ih]
    by_cases he : e.1 = name
    · simp [he]
    · simp [he, Ne.symm he]

theorem mem_members_iff {map : StringMap} {m : String × Json} :
    m ∈ map.members ↔ ∃ value, map.value? m.1 = some value ∧ m.2 = .string value := by
  rw [members, List.mem_map]
  constructor
  · rintro ⟨name, hname, rfl⟩
    rw [mem_inOrder, List.mem_toFinset, ← value?_isSome_iff] at hname
    obtain ⟨value, hvalue⟩ := Option.isSome_iff_exists.1 hname
    exact ⟨value, hvalue, by rw [hvalue, Option.getD_some]⟩
  · rintro ⟨value, hvalue, hm⟩
    refine ⟨m.1, ?_, Prod.ext rfl (by rw [hvalue, hm, Option.getD_some])⟩
    rw [mem_inOrder, List.mem_toFinset, ← value?_isSome_iff, hvalue]
    rfl

theorem inOrder_members (map : StringMap) : Json.InOrder map.members := by
  rw [members, Json.InOrder, List.pairwise_map]
  exact (sortedLT_inOrder _).pairwise

/-- The members that the writer makes of a map, by putting one entry after another in its place. -/
def inserted (map : StringMap) : List (String × Json) :=
  (map.map fun e => (e.1, Json.string e.2)).foldl (fun acc m => Json.insert m.1 m.2 acc) []

theorem inserted_concat (map : StringMap) (e : String × String) :
    inserted (map ++ [e]) = Json.insert e.1 (.string e.2) (inserted map) := by
  rw [inserted, List.map_append, List.foldl_append]
  rfl

theorem inOrder_inserted (map : StringMap) : Json.InOrder (inserted map) := by
  induction map using List.reverseRecOn with
  | nil => exact List.Pairwise.nil
  | append_singleton map e ih =>
    rw [inserted_concat]
    exact Json.pairwise_insert ih

theorem mem_inserted_iff {map : StringMap} {m : String × Json} :
    m ∈ inserted map ↔ ∃ value, map.value? m.1 = some value ∧ m.2 = .string value := by
  induction map using List.reverseRecOn with
  | nil => simp [inserted, value?]
  | append_singleton map e ih =>
    rw [inserted_concat, Json.mem_insert_iff (inOrder_inserted map), ih, value?_concat]
    -- the new entry decides for its own name
    by_cases he : e.1 = m.1
    · rw [if_pos he]
      constructor
      · rintro (rfl | ⟨-, hne⟩)
        · exact ⟨e.2, rfl, rfl⟩
        · exact absurd he.symm hne
      · rintro ⟨value, hvalue, hm⟩
        exact .inl (Prod.ext he.symm (by rw [hm, Option.some_inj.1 hvalue]))
    · rw [if_neg he, and_iff_left (Ne.symm he), or_iff_right fun h => he (by rw [h])]

/-- What is written of a map are its members. -/
theorem toJson_eq (map : StringMap) : map.toJson = .object map.members :=
  congrArg Json.object ((inOrder_inserted map).eq_of_mem_iff map.inOrder_members fun _ =>
    mem_inserted_iff.trans mem_members_iff.symm)

end StringMap
end Strongbox
