/-
The handles that lookups leave behind.

A lookup keeps all handles that there are, finds the handle of its mount or makes one behind them,
and is counted once, as a handle made or as a lookup that found one.

* `idxOf?_touch`, `idxOf?_touch_self` — a handle keeps its place, which is what a lookup returns;
* `mem_touchAll`, `created_touchAll` — lookups one after another make a handle for each mount that
  has none yet;
* `created_add_hits_touchAll` — they are counted once each.
-/
import Strongbox.HandleCache
import Mathlib.Data.Finset.Card
import Mathlib.Data.List.Basic
import Mathlib.Tactic.Common

namespace Strongbox.HandleCache

/-! ### One lookup -/

variable (c : HandleCache) (m : String)

theorem getOrCreate_of_mem {i : Nat} (h : c.mounts.idxOf? m = some i) :
    c.getOrCreate m = (i, { c with hits := c.hits + 1 }) := by
  rw [getOrCreate, h]

theorem getOrCreate_of_not_mem (h : m ∉ c.mounts) :
    c.getOrCreate m = (c.mounts.length, { c with mounts := c.mounts ++ [m] }) := by
  rw [getOrCreate, List.idxOf?_eq_none_iff.2 h]

/-- A lookup finds the handle of its mount, or there is none yet. -/
theorem idxOf?_or_not_mem : (∃ i, c.mounts.idxOf? m = some i) ∨ m ∉ c.mounts := by
  cases h : c.mounts.idxOf? m with
  | some i => exact .inl ⟨i, rfl⟩
  | none => exact .inr (List.idxOf?_eq_none_iff.1 h)

variable {c m}

theorem mem_of_idxOf? {i : Nat} (h : c.mounts.idxOf? m = some i) : m ∈ c.mounts :=
  List.isSome_idxOf?.1 (by rw [h]; rfl)

variable (c m)

theorem mounts_touch :
    (c.touch m).mounts = if m ∈ c.mounts then c.mounts else c.mounts ++ [m] := by
  obtain ⟨i, hi⟩ | hnot := c.idxOf?_or_not_mem m
  · rw [touch, getOrCreate_of_mem c m hi, if_pos (mem_of_idxOf? hi)]
  · rw [touch, getOrCreate_of_not_mem c m hnot, if_neg hnot]

theorem mem_touch {x : String} : x ∈ (c.touch m).mounts ↔ x ∈ c.mounts ∨ x = m := by
  rw [mounts_touch]
  split
  · next hmem =>
    refine ⟨.inl, fun h => h.elim id ?_⟩
    rintro rfl
    exact hmem
  · simp

theorem nodup_touch (h : c.mounts.Nodup) : (c.touch m).mounts.Nodup := by
  rw [mounts_touch]
  split
  · exact h
  · next hnot => exact h.append (List.nodup_singleton m) (by simpa using hnot)

/-- A lookup is counted once. -/
theorem created_add_hits_touch :
    (c.touch m).created + (c.touch m).hits = c.created + c.hits + 1 := by
  obtain ⟨i, hi⟩ | hnot := c.idxOf?_or_not_mem m
  · rw [touch, getOrCreate_of_mem c m hi, created, created, Nat.add_assoc]
  · rw [touch, getOrCreate_of_not_mem c m hnot, created, created]
    dsimp only
    rw [List.length_append, List.length_singleton]
    omega

/-- A handle keeps its place. -/
theorem idxOf?_touch {x : String} {i : Nat} (h : c.mounts.idxOf? x = some i) :
    (c.touch m).mounts.idxOf? x = some i := by
  rw [mounts_touch]
  split
  · exact h
  · rw [List.idxOf?, List.findIdx?_append, ← List.idxOf?, h]
    rfl

/-- The handle that a lookup returns has its place afterwards. -/
theorem idxOf?_touch_self : (c.touch m).mounts.idxOf? m = some (c.getOrCreate m).1 := by
  obtain ⟨i, hi⟩ | hnot := c.idxOf?_or_not_mem m
  · rw [idxOf?_touch c m hi, getOrCreate_of_mem c m hi]
  · rw [touch, getOrCreate_of_not_mem c m hnot]
    dsimp only
    rw [List.idxOf?, List.findIdx?_append, ← List.idxOf?, List.idxOf?_eq_none_iff.2 hnot]
    simp

/-! ### Lookups one after another -/

/-- The cache after lookups one after another. -/
def touchAll (c : HandleCache) (ms : List String) : HandleCache := ms.foldl touch c

theorem touchAll_nil : c.touchAll [] = c := rfl

theorem touchAll_append (ms ms' : List String) :
    c.touchAll (ms ++ ms') = (c.touchAll ms).touchAll ms' := List.foldl_append

theorem touchAll_concat (ms : List String) : c.touchAll (ms ++ [m]) = (c.touchAll ms).touch m :=
  touchAll_append c ms [m]

theorem mem_touchAll (ms : List String) {x : String} :
    x ∈ (c.touchAll ms).mounts ↔ x ∈ c.mounts ∨ x ∈ ms := by
  induction ms using List.reverseRecOn with
  | nil => simp [touchAll_nil]
  | append_singleton ms m ih => rw [touchAll_concat, mem_touch, ih, List.mem_append,
      List.mem_singleton, or_assoc]

theorem nodup_touchAll (h : c.mounts.Nodup) (ms : List String) : (c.touchAll ms).mounts.Nodup := by
  induction ms using List.reverseRecOn with
  | nil => exact h
  | append_singleton ms m ih =>
    rw [touchAll_concat]
    exact nodup_touch _ m ih

/-- Lookups one after another are counted once each. -/
theorem created_add_hits_touchAll (ms : List String) :
    (c.touchAll ms).created + (c.touchAll ms).hits = c.created + c.hits + ms.length := by
  induction ms using List.reverseRecOn with
  | nil => rfl
  | append_singleton ms m ih =>
    rw [touchAll_concat, created_add_hits_touch, ih, List.length_append, List.length_singleton,
      Nat.add_assoc]

/-- Lookups one after another make a handle for each mount that has none yet. -/
theorem created_touchAll (h : c.mounts.Nodup) (ms : List String) :
    (c.touchAll ms).created = c.created + (ms.toFinset \ c.mounts.toFinset).card := by
  have hset : (c.touchAll ms).mounts.toFinset = ms.toFinset ∪ c.mounts.toFinset := by
    ext x
    rw [List.mem_toFinset, mem_touchAll, Finset.mem_union, List.mem_toFinset, List.mem_toFinset,
      or_comm]
  rw [created, created, ← List.toFinset_card_of_nodup (nodup_touchAll c h ms), hset,
    ← Finset.card_sdiff_add_card, List.toFinset_card_of_nodup h, Nat.add_comm]

end Strongbox.HandleCache
