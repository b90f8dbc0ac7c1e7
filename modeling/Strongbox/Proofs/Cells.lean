/-
The cells of the server in memory.

The cells stand in the order of their mounts and keys, so that a write finds the cell of its
secret or the place where that has to be (`Ordered`).
* `versionsIn_push`, `versionsIn_delete` — a write and a deletion change the versions of one
  secret;
* `ordered_push`, `ordered_delete` — they keep the order;
* `sortedNames_facts` — a listing shows every name once, in order.
-/
import Strongbox.Backend.Memory
import Mathlib.Data.List.Sort
import Mathlib.Data.Prod.Lex
import Mathlib.Data.String.Basic

namespace Strongbox.Memory

/-! ### The order of the cells -/

/-- The place of a secret in the order of the cells. -/
def placeOf (mount key : String) : Lex (String × String) := toLex (mount, key)

theorem isBefore_iff {mount key mount' key' : String} :
    isBefore mount key mount' key' = true ↔ placeOf mount key < placeOf mount' key' := by
  rw [isBefore, placeOf, placeOf, Prod.Lex.toLex_lt_toLex]
  simp

theorem placeOf_inj {mount key mount' key' : String} :
    placeOf mount key = placeOf mount' key' ↔ mount = mount' ∧ key = key' := by
  rw [placeOf, placeOf, toLex_inj, Prod.mk.injEq]

/-- The cells stand in order, and none is without a version. -/
structure Ordered (cells : List Cell) : Prop where
  sorted : cells.Pairwise fun c d => placeOf c.mount c.key < placeOf d.mount d.key
  versions_ne_nil : ∀ c ∈ cells, c.versions ≠ []

theorem ordered_nil : Ordered [] := ⟨List.Pairwise.nil, fun _ h => absurd h List.not_mem_nil⟩

theorem ordered_cons {c : Cell} {cells : List Cell} :
    Ordered (c :: cells) ↔ (∀ d ∈ cells, placeOf c.mount c.key < placeOf d.mount d.key) ∧
      c.versions ≠ [] ∧ Ordered cells := by
  constructor
  · rintro ⟨hsorted, hne⟩
    obtain ⟨hlt, hsorted⟩ := List.pairwise_cons.1 hsorted
    exact ⟨hlt, hne c List.mem_cons_self, hsorted, fun d hd => hne d (List.mem_cons_of_mem c hd)⟩
  · rintro ⟨hlt, hc, hsorted, hne⟩
    refine ⟨List.pairwise_cons.2 ⟨hlt, hsorted⟩, fun d hd => ?_⟩
    rcases List.mem_cons.1 hd with rfl | hd
    · exact hc
    · exact hne d hd

/-! ### The versions of a secret -/

/-- The versions of a secret; none if it has no cell. -/
def versionsIn (cells : List Cell) (mount key : String) : List Stored :=
  ((cells.find? fun c => c.mount == mount && c.key == key).map Cell.versions).getD []

variable {cells : List Cell} {mount key m k : String} {v : Stored}

theorem versionsIn_cons (c : Cell) (cells : List Cell) (mount key : String) :
    versionsIn (c :: cells) mount key =
      if c.mount = mount ∧ c.key = key then c.versions else versionsIn cells mount key := by
  by_cases h : c.mount = mount ∧ c.key = key
  · rw [if_pos h, versionsIn, List.find?_cons_of_pos (by simpa using h)]
    rfl
  · rw [if_neg h, versionsIn, List.find?_cons_of_neg (by simpa using h), versionsIn]

/-- A secret has a version exactly if it has a cell. -/
theorem versionsIn_ne_nil_iff (h : Ordered cells) :
    versionsIn cells mount key ≠ [] ↔ ∃ c ∈ cells, c.mount = mount ∧ c.key = key := by
  induction cells with
  | nil => simp [versionsIn]
  | cons c cells ih =>
    obtain ⟨_, hc, hcells⟩ := ordered_cons.1 h
    rw [versionsIn_cons]
    by_cases heq : c.mount = mount ∧ c.key = key
    · rw [if_pos heq]
      exact ⟨fun _ => ⟨c, List.mem_cons_self, heq⟩, fun _ => hc⟩
    · rw [if_neg heq, ih hcells]
      constructor
      · rintro ⟨d, hd, hplace⟩
        exact ⟨d, List.mem_cons_of_mem c hd, hplace⟩
      · rintro ⟨d, hd, hplace⟩
        rcases List.mem_cons.1 hd with rfl | hd
        · exact absurd hplace heq
        · exact ⟨d, hd, hplace⟩

theorem versions?_eq (s : Store) (h : Ordered s.cells) (mount key : String) :
    s.versions? mount key =
      if versionsIn s.cells mount key = [] then none else some (versionsIn s.cells mount key) := by
  rw [Store.versions?, versionsIn]
  cases hfind : s.cells.find? fun c => c.mount == mount && c.key == key with
  | none => rfl
  | some c =>
    have hne := h.versions_ne_nil c (List.mem_of_find?_eq_some hfind)
    rw [Option.map_some, Option.getD_some, if_neg hne]

theorem versionsIn_eq_nil (h : ∀ c ∈ cells, placeOf mount key < placeOf c.mount c.key) :
    versionsIn cells mount key = [] := by
  induction cells with
  | nil => rfl
  | cons c cells ih =>
    rw [versionsIn_cons, if_neg, ih fun d hd => h d (List.mem_cons_of_mem c hd)]
    rintro ⟨rfl, rfl⟩
    exact lt_irrefl _ (h c List.mem_cons_self)

/-! ### Writes -/

/-- A write adds its version to the secret and changes no other one. -/
theorem versionsIn_push (h : Ordered cells) :
    versionsIn (push mount key v cells) m k =
      if mount = m ∧ key = k then versionsIn cells m k ++ [v] else versionsIn cells m k := by
  induction cells with
  | nil =>
    rw [push, versionsIn_cons]
    rfl
  | cons c cells ih =>
    obtain ⟨hlt, _, hcells⟩ := ordered_cons.1 h
    rw [push]
    split
    · next heq =>
      obtain ⟨rfl, rfl⟩ := heq
      rw [versionsIn_cons, versionsIn_cons]
      split <;> rfl
    · next hne =>
      split
      · next hbefore =>
        -- the new cell comes before all others, none of which holds the secret
        have hplace := isBefore_iff.1 hbefore
        rw [versionsIn_cons]
        by_cases heq : mount = m ∧ key = k
        · obtain ⟨rfl, rfl⟩ := heq
          rw [if_pos ⟨rfl, rfl⟩, if_pos ⟨rfl, rfl⟩, versionsIn_eq_nil]
          · rfl
          · intro d hd
            rcases List.mem_cons.1 hd with rfl | hd
            · exact hplace
            · exact lt_trans hplace (hlt d hd)
        · rw [if_neg heq, if_neg heq]
      · rw [versionsIn_cons, versionsIn_cons, ih hcells]
        by_cases hc : c.mount = m ∧ c.key = k
        · rw [if_pos hc, if_neg, if_pos hc]
          rintro ⟨rfl, rfl⟩
          exact hne hc
        · rw [if_neg hc, if_neg hc]

theorem mem_push {c : Cell} (h : c ∈ push mount key v cells) :
    placeOf c.mount c.key = placeOf mount key ∨
      ∃ d ∈ cells, placeOf d.mount d.key = placeOf c.mount c.key := by
  induction cells with
  | nil =>
    rw [push, List.mem_singleton] at h
    exact Or.inl (by rw [h])
  | cons d cells ih =>
    rw [push] at h
    split at h
    · rcases List.mem_cons.1 h with rfl | h
      · exact Or.inr ⟨d, List.mem_cons_self, rfl⟩
      · exact Or.inr ⟨c, List.mem_cons_of_mem d h, rfl⟩
    · split at h
      · rcases List.mem_cons.1 h with rfl | h
        · exact Or.inl rfl
        · exact Or.inr ⟨c, h, rfl⟩
      · rcases List.mem_cons.1 h with rfl | h
        · exact Or.inr ⟨c, List.mem_cons_self, rfl⟩
        · rcases ih h with hplace | ⟨e, he, hplace⟩
          · exact Or.inl hplace
          · exact Or.inr ⟨e, List.mem_cons_of_mem d he, hplace⟩

theorem ordered_push (h : Ordered cells) : Ordered (push mount key v cells) := by
  induction cells with
  | nil =>
    rw [push, ordered_cons]
    exact ⟨fun _ hd => absurd hd List.not_mem_nil, List.cons_ne_nil v [], ordered_nil⟩
  | cons c cells ih =>
    obtain ⟨hlt, hc, hcells⟩ := ordered_cons.1 h
    rw [push]
    split
    · rw [ordered_cons]
      exact ⟨hlt, List.concat_ne_nil v c.versions, hcells⟩
    · next hne =>
      split
      · next hbefore =>
        have hplace := isBefore_iff.1 hbefore
        refine ordered_cons.2 ⟨fun d hd => ?_, List.cons_ne_nil v [], h⟩
        rcases List.mem_cons.1 hd with rfl | hd
        · exact hplace
        · exact lt_trans hplace (hlt d hd)
      · next hbefore =>
        -- neither the same place nor before it: the new version comes after the first cell
        have hplace : placeOf c.mount c.key < placeOf mount key := by
          refine lt_of_le_of_ne (not_lt.1 fun hlt => hbefore (isBefore_iff.2 hlt)) fun heq => ?_
          exact hne (placeOf_inj.1 heq)
        refine ordered_cons.2 ⟨fun d hd => ?_, hc, ih hcells⟩
        rcases mem_push hd with hd | ⟨e, he, hd⟩
        · rw [hd]
          exact hplace
        · rw [← hd]
          exact hlt e he

/-! ### Deletions -/

/-- The version marked as deleted, counted from one. -/
def markDeleted (version : Nat) (vs : List Stored) : List Stored :=
  vs.modify (version - 1) fun v => { v with deleted := true }

theorem versionsIn_delete {version : Nat} (hv : 0 < version) (s : Store) :
    versionsIn (deleteVersion mount key version s).cells m k =
      if mount = m ∧ key = k then markDeleted version (versionsIn s.cells m k)
      else versionsIn s.cells m k := by
  rw [deleteVersion]
  dsimp only
  induction s.cells with
  | nil =>
    show [] = if mount = m ∧ key = k then markDeleted version [] else []
    rw [markDeleted, List.modify_nil, ite_self]
  | cons c cells ih =>
    rw [List.map_cons]
    by_cases hc : c.mount = mount ∧ c.key = key
    · obtain ⟨rfl, rfl⟩ := hc
      rw [if_pos ⟨rfl, rfl, hv⟩, versionsIn_cons, versionsIn_cons, ih]
      split <;> rfl
    · rw [if_neg fun h => hc ⟨h.1, h.2.1⟩, versionsIn_cons, versionsIn_cons, ih]
      by_cases heq : c.mount = m ∧ c.key = k
      · rw [if_pos heq, if_pos heq, if_neg]
        rintro ⟨rfl, rfl⟩
        exact hc heq
      · rw [if_neg heq, if_neg heq]

theorem ordered_delete {s : Store} (version : Nat) (h : Ordered s.cells) :
    Ordered (deleteVersion mount key version s).cells := by
  obtain ⟨hsorted, hne⟩ := h
  constructor
  · rw [deleteVersion, List.pairwise_map]
    refine hsorted.imp fun {c d} hlt => ?_
    split <;> split <;> exact hlt
  · intro c hc
    obtain ⟨d, hd, rfl⟩ := List.mem_map.1 hc
    split
    · exact fun hnil => hne d hd (List.modify_eq_nil_iff.1 hnil)
    · exact hne d hd

/-! ### Listings -/

theorem mem_insertName {name n : String} {names : List String} :
    n ∈ insertName name names ↔ n = name ∨ n ∈ names := by
  induction names with
  | nil => simp [insertName]
  | cons x names ih =>
    rw [insertName]
    split
    · exact List.mem_cons
    · split
      · next heq => simp [heq]
      · rw [List.mem_cons, ih, List.mem_cons]
        tauto

theorem sortedLT_insertName {name : String} {names : List String} (h : names.SortedLT) :
    (insertName name names).SortedLT := by
  rw [List.sortedLT_iff_pairwise] at h ⊢
  induction names with
  | nil => simp [insertName]
  | cons x names ih =>
    obtain ⟨hlt, hnames⟩ := List.pairwise_cons.1 h
    rw [insertName]
    split
    · next hbefore =>
      refine List.pairwise_cons.2 ⟨fun y hy => ?_, h⟩
      rcases List.mem_cons.1 hy with rfl | hy
      · exact hbefore
      · exact lt_trans hbefore (hlt y hy)
    · next hbefore =>
      split
      · exact h
      · next hne =>
        refine List.pairwise_cons.2 ⟨fun y hy => ?_, ih hnames⟩
        rcases mem_insertName.1 hy with rfl | hy
        · exact lt_of_le_of_ne (not_lt.1 hbefore) (Ne.symm hne)
        · exact hlt y hy

/-- Names in order, each once. -/
def sortedNames (names : List String) : List String :=
  names.foldl (fun acc n => insertName n acc) []

/-- A listing shows the names of a list, each once and in order. -/
theorem sortedNames_facts (names : List String) :
    (sortedNames names).SortedLT ∧ ∀ n, n ∈ sortedNames names ↔ n ∈ names := by
  -- the names that are in place already stay there
  have hgen : ∀ acc : List String, acc.SortedLT →
      (names.foldl (fun acc n => insertName n acc) acc).SortedLT ∧
        ∀ n, n ∈ names.foldl (fun acc n => insertName n acc) acc ↔ n ∈ acc ∨ n ∈ names := by
    induction names with
    | nil => exact fun acc hacc => ⟨hacc, fun n => by simp⟩
    | cons x names ih =>
      intro acc hacc
      obtain ⟨hsorted, hmem⟩ := ih (insertName x acc) (sortedLT_insertName hacc)
      refine ⟨hsorted, fun n => ?_⟩
      rw [List.foldl_cons, hmem, mem_insertName, List.mem_cons]
      tauto
  obtain ⟨hsorted, hmem⟩ := hgen [] (by rw [List.sortedLT_iff_pairwise]; exact List.Pairwise.nil)
  exact ⟨hsorted, fun n => by rw [sortedNames, hmem]; simp⟩

end Strongbox.Memory
