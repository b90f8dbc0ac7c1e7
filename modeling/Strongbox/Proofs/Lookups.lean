/-
Lookups of handles at the same time.

The callers of a cache share its handles, its entries and two counters.  A lookup is not one step:
it goes to the entry of its mount, which makes a handle and counts it if there is none; then it
counts a hit if the handle was there before; then it returns.  Between these steps other lookups
go on, and the counters lag behind the entries.  A copy of a cache shares everything with it, so
nothing depends on which copy a lookup is made.

The places in `HandleCache.mounts` tell handles apart, and each lookup of a race takes effect
where it is at its entry.  So a race does what the same lookups do one after another, in that
order, but for the hits that are still to be counted.

* `SharedCache.race`, `Race.run` — lookups at the same time, and a schedule of their steps;
* `Race.Invariant.step`, `Race.Invariant.run` — the invariant of a race;
* `SharedCache.lookups_converge` — the handles that they return and the final statistics do not
  depend on the schedule;
* `SharedCache.Represents.exists_order`, `SharedCache.Represents.getOrCreate` — a race is
  `HandleCache.touchAll` for some order of its lookups, and a lookup alone is
  `HandleCache.getOrCreate`.
-/
import Strongbox.Handle
import Strongbox.Proofs.Handles
import Mathlib.Data.List.Infix

namespace Strongbox

open scoped List

/-! ### The shared cache -/

/-- A cache as its callers share it.  The place of a handle among the objects is its identity. -/
structure SharedCache where
  objects : List Handle
  entries : List (String × Nat)
  created : UInt64
  hits : UInt64

namespace SharedCache

def fresh : SharedCache := ⟨[], [], 0, 0⟩

/-- The object of the handle of a mount. -/
def find? (c : SharedCache) (mount : String) : Option Nat := c.entries.lookup mount

/-- Is there a handle for the mount? -/
def contains (c : SharedCache) (mount : String) : Bool := (c.find? mount).isSome

/-- Makes the handle of a mount and counts it. -/
def create (c : SharedCache) (mount : String) : SharedCache where
  objects := c.objects ++ [⟨mount⟩]
  entries := (mount, c.objects.length) :: c.entries
  created := c.created + 1
  hits := c.hits

/-- Counts a lookup that found a handle. -/
def recordHit (c : SharedCache) : SharedCache := { c with hits := c.hits + 1 }

/-- The mounts among these that have no handle yet. -/
def absent (c : SharedCache) (mounts : List String) : Finset String :=
  {m ∈ mounts.toFinset | c.contains m = false}

/-- Nothing in the first cache is lost or replaced in the second one. -/
structure Keeps (c c' : SharedCache) : Prop where
  objects : c.objects <+: c'.objects
  find? : ∀ m o, c.find? m = some o → c'.find? m = some o

end SharedCache

/-! ### Lookups in steps -/

/-- How far a lookup has come, with the object that it has found or made. -/
inductive Stage where
  | called
  | entered (object : Nat) (isFresh : Bool)
  | counted (object : Nat)
  | returned (object : Nat)

namespace Stage

/-- The object that a lookup has found or made. -/
def object? : Stage → Option Nat
  | .called => none
  | .entered o _ => some o
  | .counted o => some o
  | .returned o => some o

/-- The object that a lookup has returned. -/
def result? : Stage → Option Nat
  | .returned o => some o
  | _ => none

/-- Is a hit still to be counted? -/
def isPending : Stage → Bool
  | .entered _ isFresh => !isFresh
  | _ => false

/-- The number of steps that are left. -/
def left : Stage → Nat
  | .called => 3
  | .entered _ _ => 2
  | .counted _ => 1
  | .returned _ => 0

theorem object?_of_result? {s : Stage} {o : Nat} (h : s.result? = some o) : s.object? = some o := by
  cases s with
  | returned => exact h
  | _ => exact absurd h (by simp [result?])

theorem isPending_of_result? {s : Stage} (h : s.result?.isSome) : s.isPending = false := by
  cases s with
  | returned => rfl
  | _ => exact absurd h (by simp [result?])

theorem result?_of_left {s : Stage} (h : s.left = 0) : s.result?.isSome := by
  cases s with
  | returned => rfl
  | _ => exact absurd h (by simp [left])

end Stage

/-- A lookup on its way. -/
structure Lookup where
  mount : String
  stage : Stage

/-- The next step of a lookup, on the cache that it shares. -/
def Lookup.step (l : Lookup) (c : SharedCache) : Lookup × SharedCache :=
  match l.stage with
  | .called =>
    match c.find? l.mount with
    | some o => ({ l with stage := .entered o false }, c)
    | none => ({ l with stage := .entered c.objects.length true }, c.create l.mount)
  | .entered o isFresh => ({ l with stage := .counted o }, if isFresh then c else c.recordHit)
  | .counted o => ({ l with stage := .returned o }, c)
  | .returned _ => (l, c)

/-- Lookups at the same time, and the cache that they share. -/
structure Race where
  cache : SharedCache
  lookups : List Lookup

namespace Race

/-- The next step of one of the lookups. -/
def step (r : Race) (i : Nat) : Race :=
  match r.lookups[i]? with
  | some l => ⟨(l.step r.cache).2, r.lookups.set i (l.step r.cache).1⟩
  | none => r

/-- Steps of the lookups in the order of a schedule. -/
def run (r : Race) (schedule : List Nat) : Race := schedule.foldl step r

/-- The object that a lookup has returned. -/
def result? (r : Race) (i : Nat) : Option Nat := r.lookups[i]?.bind fun l => l.stage.result?

/-- Have all lookups returned? -/
def Finished (r : Race) : Prop := ∀ l ∈ r.lookups, l.stage.result?.isSome

end Race

namespace SharedCache

/-- Lookups that begin at the same time. -/
def race (c : SharedCache) (mounts : List String) : Race := ⟨c, mounts.map fun m => ⟨m, .called⟩⟩

/-- The caches that arise from a fresh one with a number of lookups: after races, the lookups of
which may have been left on their way. -/
inductive Reached : Nat → SharedCache → Prop
  | fresh : Reached 0 .fresh
  | race {n : Nat} {c : SharedCache} (h : Reached n c) (mounts : List String)
    (schedule : List Nat) : Reached (n + mounts.length) ((c.race mounts).run schedule).cache

/-! ### What a cache stands for -/

theorem find?_create (c : SharedCache) (m x : String) :
    (c.create m).find? x = if x = m then some c.objects.length else c.find? x := by
  rw [find?, create, List.lookup_cons]
  by_cases h : x = m
  · rw [if_pos h, beq_iff_eq.2 h]
  · rw [if_neg h, beq_eq_false_iff_ne.2 h, find?]

theorem keeps_refl (c : SharedCache) : c.Keeps c := ⟨List.prefix_rfl, fun _ _ h => h⟩

theorem Keeps.trans {c c' c'' : SharedCache} (h : c.Keeps c') (h' : c'.Keeps c'') : c.Keeps c'' :=
  ⟨h.objects.trans h'.objects, fun m o hm => h'.find? m o (h.find? m o hm)⟩

theorem keeps_create {c : SharedCache} {m : String} (h : c.find? m = none) :
    c.Keeps (c.create m) := by
  refine ⟨List.prefix_append _ _, fun x o hx => ?_⟩
  have hne : x ≠ m := by
    rintro rfl
    rw [h] at hx
    exact absurd hx (by simp)
  rw [find?_create, if_neg hne, hx]

/-- A shared cache is what a cache of one caller is, but for some hits that are still to be
counted. -/
structure Tracks (c : SharedCache) (d : HandleCache) (pending : Nat) : Prop where
  objects : c.objects = d.mounts.map Handle.mk
  find? : ∀ m, c.find? m = d.mounts.idxOf? m
  created : c.created = UInt64.ofNat d.created
  pending_le : pending ≤ d.hits
  hits : c.hits = UInt64.ofNat (d.hits - pending)

/-- A shared cache is what a cache of one caller is. -/
def Represents (c : SharedCache) (d : HandleCache) : Prop := c.Tracks d 0

namespace Tracks

variable {c : SharedCache} {d : HandleCache} {p : Nat} {m : String} {o : Nat}

/-- The object of a mount is a handle of that mount. -/
theorem getElem?_objects (h : c.Tracks d p) (hm : c.find? m = some o) :
    c.objects[o]? = some ⟨m⟩ := by
  rw [h.find?] at hm
  obtain ⟨ho, hget, -⟩ := List.idxOf?_eq_some_iff.1 hm
  rw [h.objects, List.getElem?_map, List.getElem?_eq_getElem ho, hget]
  rfl

/-- At an entry with a handle, a lookup takes effect as one that finds it: a hit is to be
counted. -/
theorem found (h : c.Tracks d p) (hm : c.find? m = some o) : c.Tracks (d.touch m) (p + 1) := by
  rw [h.find?] at hm
  rw [HandleCache.touch, HandleCache.getOrCreate_of_mem d m hm]
  refine ⟨h.objects, h.find?, h.created, Nat.succ_le_succ h.pending_le, ?_⟩
  rw [h.hits, Nat.add_sub_add_right]

/-- At an entry without a handle, a lookup takes effect as one that makes it. -/
theorem create (h : c.Tracks d p) (hm : c.find? m = none) : (c.create m).Tracks (d.touch m) p := by
  have hnot : m ∉ d.mounts := by
    rw [h.find?] at hm
    exact List.idxOf?_eq_none_iff.1 hm
  have htouch : d.touch m = { d with mounts := d.mounts ++ [m] } := by
    rw [HandleCache.touch, HandleCache.getOrCreate_of_not_mem d m hnot]
  have hlength : c.objects.length = d.mounts.length := by rw [h.objects, List.length_map]
  refine ⟨?_, fun x => ?_, ?_, ?_, ?_⟩
  · rw [SharedCache.create, h.objects, htouch, List.map_append]
    rfl
  · rw [find?_create]
    split
    · next heq =>
      rw [heq, HandleCache.idxOf?_touch_self, HandleCache.getOrCreate_of_not_mem d m hnot, hlength]
    · next hne =>
      rw [h.find?]
      cases hx : d.mounts.idxOf? x with
      | some i => rw [HandleCache.idxOf?_touch d m hx]
      | none =>
        rw [eq_comm, List.idxOf?_eq_none_iff, HandleCache.mem_touch]
        exact not_or.2 ⟨List.idxOf?_eq_none_iff.1 hx, hne⟩
  · rw [SharedCache.create, h.created, htouch, HandleCache.created, HandleCache.created,
      List.length_append, List.length_singleton, UInt64.ofNat_add]
    rfl
  · rw [htouch]
    exact h.pending_le
  · rw [htouch]
    exact h.hits

/-- A hit is counted. -/
theorem recordHit (h : c.Tracks d (p + 1)) : c.recordHit.Tracks d p := by
  refine ⟨h.objects, h.find?, h.created, Nat.le_of_succ_le h.pending_le, ?_⟩
  have hnext : d.hits - p = d.hits - (p + 1) + 1 := by
    have := h.pending_le
    omega
  rw [SharedCache.recordHit, h.hits, hnext, UInt64.ofNat_add]
  rfl

/-- A shared cache is what a cache of one caller is without the hits that were never counted. -/
theorem exists_represents (h : c.Tracks d p) :
    ∃ d' : HandleCache, d'.mounts = d.mounts ∧ d'.hits ≤ d.hits ∧ c.Represents d' :=
  ⟨{ d with hits := d.hits - p }, rfl, Nat.sub_le _ _, h.objects, h.find?, h.created, Nat.zero_le _,
    h.hits⟩

end Tracks

end SharedCache

/-! ### One step -/

/-- What a step of a lookup does: the stage before it, the one after it, and the cache after it. -/
inductive Moves (c : SharedCache) (m : String) : Stage → Stage → SharedCache → Prop
  | find {o : Nat} (h : c.find? m = some o) : Moves c m .called (.entered o false) c
  | make (h : c.find? m = none) : Moves c m .called (.entered c.objects.length true) (c.create m)
  | pass {o : Nat} : Moves c m (.entered o true) (.counted o) c
  | hit {o : Nat} : Moves c m (.entered o false) (.counted o) c.recordHit
  | finish {o : Nat} : Moves c m (.counted o) (.returned o) c
  | stay {o : Nat} : Moves c m (.returned o) (.returned o) c

theorem Lookup.moves_step (l : Lookup) (c : SharedCache) :
    ∃ stage, (l.step c).1 = { l with stage } ∧ Moves c l.mount l.stage stage (l.step c).2 := by
  obtain ⟨m, stage⟩ := l
  cases stage with
  | called =>
    cases h : c.find? m with
    | some o =>
      have hstep : Lookup.step ⟨m, .called⟩ c = (⟨m, .entered o false⟩, c) := by
        rw [step]
        simp only [h]
      exact ⟨_, by rw [hstep], by rw [hstep]; exact .find h⟩
    | none =>
      have hstep : Lookup.step ⟨m, .called⟩ c =
          (⟨m, .entered c.objects.length true⟩, c.create m) := by
        rw [step]
        simp only [h]
      exact ⟨_, by rw [hstep], by rw [hstep]; exact .make h⟩
  | entered o isFresh =>
    cases isFresh with
    | true => exact ⟨_, rfl, .pass⟩
    | false => exact ⟨_, rfl, .hit⟩
  | counted o => exact ⟨_, rfl, .finish⟩
  | returned o => exact ⟨_, rfl, .stay⟩

namespace Moves

variable {c c' : SharedCache} {m : String} {s s' : Stage} {d : HandleCache} {p : Nat}

theorem keeps (h : Moves c m s s' c') : c.Keeps c' := by
  cases h with
  | make h => exact SharedCache.keeps_create h
  | hit => exact ⟨List.prefix_rfl, fun _ _ h => h⟩
  | _ => exact c.keeps_refl

/-- A step brings a lookup nearer to its end. -/
theorem left (h : Moves c m s s' c') : s'.left = s.left - 1 := by cases h <;> rfl

/-- What a lookup has found or made is the object of its mount. -/
theorem find? (h : Moves c m s s' c') (hs : ∀ o, s.object? = some o → c.find? m = some o)
    {o : Nat} (ho : s'.object? = some o) : c'.find? m = some o := by
  cases h with
  | find h => rw [h, ← ho]; rfl
  | make h => rw [SharedCache.find?_create, if_pos rfl, ← ho]; rfl
  | _ => exact hs o ho

theorem hasBegun (h : Moves c m s s' c') : s'.object?.isSome := by cases h <;> rfl

/-- A lookup takes effect in its first step. -/
theorem tracks (h : Moves c m s s' c') (ht : c.Tracks d (p + if s.isPending then 1 else 0)) :
    c'.Tracks (if s.object?.isSome then d else d.touch m)
      (p + if s'.isPending then 1 else 0) := by
  cases h with
  | find h => exact ht.found h
  | make h => exact ht.create h
  | hit => exact ht.recordHit
  | _ => exact ht

end Moves

/-- What a step of a race does: one of the lookups moves, or there is no such lookup. -/
inductive Race.Steps (i : Nat) : Race → Race → Prop
  | none {r : Race} (h : r.lookups[i]? = none) : Steps i r r
  | move {before after : List Lookup} {m : String} {s s' : Stage} {c c' : SharedCache}
    (hi : before.length = i) (h : Moves c m s s' c') :
    Steps i ⟨c, before ++ ⟨m, s⟩ :: after⟩ ⟨c', before ++ ⟨m, s'⟩ :: after⟩

theorem Race.steps_step (r : Race) (i : Nat) : Race.Steps i r (r.step i) := by
  obtain ⟨c, lookups⟩ := r
  rw [step]
  cases h : lookups[i]? with
  | none => exact .none h
  | some l =>
    obtain ⟨hi, hl⟩ := List.getElem?_eq_some_iff.1 h
    obtain ⟨before, after, hbefore, rfl⟩ :
        ∃ before after, before.length = i ∧ lookups = before ++ l :: after := by
      refine ⟨lookups.take i, lookups.drop (i + 1), ?_, ?_⟩
      · rw [List.length_take, Nat.min_eq_left (Nat.le_of_lt hi)]
      · rw [← hl, ← List.drop_eq_getElem_cons hi, List.take_append_drop]
    obtain ⟨stage, hstage, hmoves⟩ := l.moves_step c
    dsimp only
    rw [List.set_append_right _ _ (Nat.le_of_eq hbefore), hbefore, Nat.sub_self, List.set_cons_zero,
      hstage]
    exact .move hbefore hmoves

namespace Race.Steps

variable {i : Nat} {r r' : Race}

theorem keeps (h : Steps i r r') : r.cache.Keeps r'.cache := by
  cases h with
  | none _ => exact r.cache.keeps_refl
  | move _ h => exact h.keeps

theorem map_mount (h : Steps i r r') :
    r'.lookups.map Lookup.mount = r.lookups.map Lookup.mount := by
  cases h with
  | none => rfl
  | move _ h => rw [List.map_append, List.map_append, List.map_cons, List.map_cons]

/-- A step of a race brings one lookup nearer to its end. -/
theorem left (h : Steps i r r') {j : Nat} {l' : Lookup} (hl : r'.lookups[j]? = some l') :
    ∃ l, r.lookups[j]? = some l ∧ l'.stage.left = l.stage.left - if i = j then 1 else 0 := by
  cases h with
  | none h =>
    have hne : i ≠ j := by
      rintro rfl
      rw [h] at hl
      exact absurd hl (by simp)
    exact ⟨l', hl, by rw [if_neg hne, Nat.sub_zero]⟩
  | @move before after m s s' c c' hi h =>
    subst hi
    dsimp only at hl ⊢
    rcases Nat.lt_trichotomy j before.length with hlt | rfl | hgt
    · rw [List.getElem?_append_left hlt] at hl ⊢
      exact ⟨l', hl, by rw [if_neg (by omega), Nat.sub_zero]⟩
    · rw [List.getElem?_append_right (Nat.le_refl _), Nat.sub_self, List.getElem?_cons_zero] at hl ⊢
      obtain rfl := Option.some_inj.1 hl
      exact ⟨_, rfl, by rw [if_pos rfl]; exact h.left⟩
    · obtain ⟨k, rfl⟩ := Nat.exists_eq_add_of_lt hgt
      have hk : before.length + k + 1 - before.length = k + 1 := by omega
      rw [List.getElem?_append_right (Nat.le_of_lt hgt), hk, List.getElem?_cons_succ] at hl ⊢
      exact ⟨l', hl, by rw [if_neg (by omega), Nat.sub_zero]⟩

end Race.Steps

/-! ### The invariant of a race -/

namespace Race

/-- The number of hits that lookups have still to count. -/
def pending (lookups : List Lookup) : Nat := lookups.countP fun l => l.stage.isPending

/-- The mounts of the lookups that have been at their entries. -/
def begun (lookups : List Lookup) : List String :=
  (lookups.filter fun l => l.stage.object?.isSome).map Lookup.mount

theorem pending_append_cons (before after : List Lookup) (m : String) (s : Stage) :
    pending (before ++ ⟨m, s⟩ :: after) =
      pending before + pending after + if s.isPending then 1 else 0 := by
  rw [pending, List.countP_append, List.countP_cons, ← Nat.add_assoc]
  rfl

theorem begun_append_cons (before after : List Lookup) (m : String) (s : Stage) :
    begun (before ++ ⟨m, s⟩ :: after) =
      begun before ++ ((if s.object?.isSome then [m] else []) ++ begun after) := by
  rw [begun, List.filter_append, List.map_append, List.filter_cons]
  split <;> rfl

/-- What holds at every moment of a race on a cache that `d` stands for: `order` are the mounts of
the lookups that have been at their entries, in the order in which they were there. -/
structure Invariant (d : HandleCache) (order : List String) (r : Race) : Prop where
  tracks : r.cache.Tracks (d.touchAll order) (pending r.lookups)
  order : order.Perm (begun r.lookups)
  found : ∀ l ∈ r.lookups, ∀ o, l.stage.object? = some o → r.cache.find? l.mount = some o

theorem Invariant.start {c : SharedCache} {d : HandleCache} (h : c.Represents d)
    (mounts : List String) : Invariant d [] (c.race mounts) := by
  refine ⟨?_, ?_, ?_⟩
  · have hnone : pending (c.race mounts).lookups = 0 := by
      rw [pending, List.countP_eq_zero, SharedCache.race]
      simp [Stage.isPending]
    rw [hnone]
    exact h
  · have hnone : begun (c.race mounts).lookups = [] := by
      rw [begun, List.map_eq_nil_iff, List.filter_eq_nil_iff, SharedCache.race]
      simp [Stage.object?]
    rw [hnone]
  · intro l hl o ho
    obtain ⟨m, -, rfl⟩ := List.mem_map.1 hl
    exact absurd ho (by simp [Stage.object?])

/-- **The step of a race**: a lookup takes effect at its entry. -/
theorem Invariant.step {d : HandleCache} {order : List String} {i : Nat} {r r' : Race}
    (h : Invariant d order r) (hstep : Steps i r r') : ∃ order', Invariant d order' r' := by
  cases hstep with
  | none => exact ⟨order, h⟩
  | @move before after m s s' c c' _ hmoves =>
    have hfound : ∀ l ∈ before ++ ⟨m, s'⟩ :: after, ∀ o, l.stage.object? = some o →
        c'.find? l.mount = some o := by
      intro l hl o ho
      rw [List.mem_append, List.mem_cons] at hl
      obtain hl | rfl | hl := hl
      · exact hmoves.keeps.find? _ _ (h.found l (List.mem_append_left _ hl) o ho)
      · exact hmoves.find? (h.found ⟨m, s⟩ (by simp)) ho
      · exact hmoves.keeps.find? _ _
          (h.found l (List.mem_append_right _ (List.mem_cons_of_mem _ hl)) o ho)
    have htracks := h.tracks
    rw [pending_append_cons] at htracks
    have htracks' := hmoves.tracks htracks
    rw [← pending_append_cons] at htracks'
    have horder := h.order
    rw [begun_append_cons] at horder
    have hnext := begun_append_cons before after m s'
    rw [if_pos hmoves.hasBegun] at hnext
    -- only the first step of a lookup puts its mount into the order
    cases hs : s.object?.isSome with
    | true =>
      rw [hs, if_pos rfl] at htracks' horder
      exact ⟨order, htracks', by rwa [hnext], hfound⟩
    | false =>
      rw [hs, if_neg Bool.false_ne_true] at htracks' horder
      rw [← HandleCache.touchAll_concat] at htracks'
      refine ⟨order ++ [m], htracks', ?_, hfound⟩
      rw [hnext]
      calc order ++ [m] ~ m :: order := List.perm_append_singleton m order
        _ ~ m :: (begun before ++ begun after) := horder.cons m
        _ ~ begun before ++ m :: begun after := List.perm_middle.symm

theorem run_concat (r : Race) (schedule : List Nat) (i : Nat) :
    r.run (schedule ++ [i]) = (r.run schedule).step i := by
  rw [run, List.foldl_append]
  rfl

/-- What every step keeps holds after every schedule. -/
theorem run_induction {P : Race → Prop} {r : Race} (h : P r)
    (hstep : ∀ i r r', Steps i r r' → P r → P r') (schedule : List Nat) : P (r.run schedule) := by
  induction schedule using List.reverseRecOn with
  | nil => exact h
  | append_singleton schedule i ih =>
    rw [run_concat]
    exact hstep i _ _ (steps_step _ i) ih

theorem Invariant.run {d : HandleCache} {order : List String} {r : Race}
    (h : Invariant d order r) (schedule : List Nat) :
    ∃ order', Invariant d order' (r.run schedule) := by
  refine run_induction (P := fun r => ∃ order, Invariant d order r) ⟨order, h⟩ ?_ schedule
  rintro i r r' hstep ⟨order, h⟩
  exact h.step hstep

theorem keeps_run (r : Race) (schedule : List Nat) : r.cache.Keeps (r.run schedule).cache :=
  run_induction (P := fun r' => r.cache.Keeps r'.cache) r.cache.keeps_refl
    (fun _ _ _ hstep h => h.trans hstep.keeps) schedule

theorem map_mount_run (c : SharedCache) (mounts : List String) (schedule : List Nat) :
    ((c.race mounts).run schedule).lookups.map Lookup.mount = mounts := by
  refine run_induction (P := fun r => r.lookups.map Lookup.mount = mounts) ?_ ?_ schedule
  · rw [SharedCache.race, List.map_map]
    exact List.map_id _
  · rintro i r r' hstep h
    rw [hstep.map_mount, h]

/-- A lookup has as many steps left as it has not made. -/
theorem left_run (r : Race) (schedule : List Nat) {i : Nat} {l' : Lookup}
    (h : (r.run schedule).lookups[i]? = some l') :
    ∃ l, r.lookups[i]? = some l ∧ l'.stage.left = l.stage.left - schedule.count i := by
  induction schedule using List.reverseRecOn generalizing l' with
  | nil => exact ⟨l', h, by rw [List.count_nil, Nat.sub_zero]⟩
  | append_singleton schedule j ih =>
    rw [run_concat] at h
    obtain ⟨l, hl, hleft⟩ := (steps_step _ j).left h
    obtain ⟨l₀, hl₀, hleft₀⟩ := ih hl
    refine ⟨l₀, hl₀, ?_⟩
    rw [hleft, hleft₀, List.count_append, List.count_singleton, Nat.sub_add_eq]
    simp only [beq_iff_eq]

theorem isSome_result? {c : SharedCache} {mounts : List String} {schedule : List Nat}
    (hf : ((c.race mounts).run schedule).Finished) {i : Nat} (hi : i < mounts.length) :
    (((c.race mounts).run schedule).result? i).isSome := by
  have hlength : i < ((c.race mounts).run schedule).lookups.length := by
    rwa [← List.length_map Lookup.mount, map_mount_run]
  rw [result?, List.getElem?_eq_getElem hlength]
  exact hf _ (List.getElem_mem hlength)

/-- Lookups that have made three steps each have returned: none waits for another. -/
theorem finished_of_steps {c : SharedCache} {mounts : List String} {schedule : List Nat}
    (h : ∀ i < mounts.length, 3 ≤ schedule.count i) :
    ((c.race mounts).run schedule).Finished := by
  intro l hl
  obtain ⟨i, hi, hget⟩ := List.getElem_of_mem hl
  obtain ⟨l₀, hl₀, hleft⟩ := left_run _ _ (List.getElem?_eq_some_iff.2 ⟨hi, hget⟩)
  have hlength : i < mounts.length := by
    rwa [← List.length_map Lookup.mount, map_mount_run] at hi
  obtain ⟨m, -, rfl⟩ := List.mem_map.1 (List.mem_of_getElem? hl₀)
  have hnone : l.stage.left = 0 := by
    have hthree := h i hlength
    rw [hleft, Stage.left]
    omega
  exact Stage.result?_of_left hnone

section

variable {d : HandleCache} {order : List String} {r : Race}

/-- A lookup returns the handle of its mount, which is the one in the cache. -/
theorem Invariant.find? (h : Invariant d order r) {i o : Nat} {m : String}
    (hm : (r.lookups.map Lookup.mount)[i]? = some m) (ho : r.result? i = some o) :
    r.cache.find? m = some o := by
  rw [List.getElem?_map] at hm
  obtain ⟨l, hl, rfl⟩ := Option.map_eq_some_iff.1 hm
  rw [result?, hl] at ho
  exact h.found l (List.mem_of_getElem? hl) o (Stage.object?_of_result? ho)

/-- When all lookups have returned, the cache is what it is after the same lookups one after
another. -/
theorem Invariant.represents (h : Invariant d order r) (hf : r.Finished) :
    r.cache.Represents (d.touchAll order) ∧ order ~ r.lookups.map Lookup.mount := by
  have hpending : pending r.lookups = 0 := by
    rw [pending, List.countP_eq_zero]
    intro l hl
    rw [Stage.isPending_of_result? (hf l hl)]
    exact Bool.false_ne_true
  have hbegun : begun r.lookups = r.lookups.map Lookup.mount := by
    rw [begun, List.filter_eq_self.2 fun l hl => ?_]
    obtain ⟨o, ho⟩ := Option.isSome_iff_exists.1 (hf l hl)
    rw [Stage.object?_of_result? ho]
    rfl
  have htracks := h.tracks
  have horder := h.order
  rw [hpending] at htracks
  rw [hbegun] at horder
  exact ⟨htracks, horder⟩

end

end Race

/-! ### Races on reached caches -/

namespace SharedCache

variable {c : SharedCache} {d : HandleCache} {n : Nat}

/-- A race whose lookups have all returned does what they do one after another, in some order. -/
theorem Represents.exists_order (h : c.Represents d) {mounts : List String} {schedule : List Nat}
    (hf : ((c.race mounts).run schedule).Finished) :
    ∃ order, order ~ mounts ∧
      ((c.race mounts).run schedule).cache.Represents (d.touchAll order) := by
  obtain ⟨order, horder⟩ := (Race.Invariant.start h mounts).run schedule
  obtain ⟨hrepresents, hperm⟩ := horder.represents hf
  rw [Race.map_mount_run] at hperm
  exact ⟨order, hperm, hrepresents⟩

/-- A lookup alone is `HandleCache.getOrCreate`. -/
theorem Represents.getOrCreate (h : c.Represents d) (m : String) :
    ((c.race [m]).run [0, 0, 0]).result? 0 = some (d.getOrCreate m).1 ∧
      ((c.race [m]).run [0, 0, 0]).cache.Represents (d.getOrCreate m).2 := by
  obtain ⟨order, hinv⟩ := (Race.Invariant.start h [m]).run [0, 0, 0]
  have hf : ((c.race [m]).run [0, 0, 0]).Finished :=
    Race.finished_of_steps fun i hi => by
      obtain rfl : i = 0 := by simpa using hi
      decide
  obtain ⟨hrepresents, hperm⟩ := hinv.represents hf
  rw [Race.map_mount_run, List.perm_singleton] at hperm
  rw [hperm] at hrepresents
  refine ⟨?_, hrepresents⟩
  obtain ⟨o, ho⟩ := Option.isSome_iff_exists.1 (Race.isSome_result? hf Nat.one_pos)
  have hfound := hinv.find? (by rw [Race.map_mount_run]; rfl) ho
  rw [hrepresents.find?] at hfound
  rw [ho, ← hfound]
  exact HandleCache.idxOf?_touch_self d m

/-- A cache reached with `n` lookups is what a cache of one caller is after at most as many. -/
theorem Reached.exists_represents (h : c.Reached n) :
    ∃ d : HandleCache, d.mounts.Nodup ∧ d.created + d.hits ≤ n ∧ c.Represents d := by
  induction h with
  | fresh =>
    exact ⟨.empty, List.nodup_nil, Nat.le_refl _, rfl, fun _ => rfl, rfl, Nat.le_refl _, rfl⟩
  | @race n c _ mounts schedule ih =>
    obtain ⟨d, hnodup, hle, hd⟩ := ih
    obtain ⟨order, horder⟩ := (Race.Invariant.start hd mounts).run schedule
    have hlength : order.length ≤ mounts.length := by
      rw [horder.order.length_eq, Race.begun, List.length_map]
      refine Nat.le_trans (List.length_filter_le _ _) ?_
      rw [← List.length_map Lookup.mount, Race.map_mount_run]
    have haccount := HandleCache.created_add_hits_touchAll d order
    -- the hits of lookups that were left on their way are never counted
    obtain ⟨d', hmounts, hhits, hd'⟩ := horder.tracks.exists_represents
    have hcreated : d'.created = (d.touchAll order).created := congrArg List.length hmounts
    refine ⟨d', ?_, ?_, hd'⟩
    · rw [hmounts]
      exact HandleCache.nodup_touchAll d hnodup order
    · omega

theorem Represents.contains (h : c.Represents d) (m : String) :
    c.contains m = d.mounts.contains m := by
  rw [SharedCache.contains, h.find?, Bool.eq_iff_iff, List.isSome_idxOf?, List.contains_iff_mem]

/-- The counters, if they have not run over. -/
theorem Represents.toNat (h : c.Represents d) (hsmall : d.created + d.hits < UInt64.size) :
    c.created.toNat = d.created ∧ c.hits.toNat = d.hits := by
  constructor
  · rw [h.created, UInt64.toNat_ofNat_of_lt' (by omega)]
  · rw [h.hits, Nat.sub_zero, UInt64.toNat_ofNat_of_lt' (by omega)]

theorem Represents.absent (h : c.Represents d) (mounts : List String) :
    c.absent mounts = mounts.toFinset \ d.mounts.toFinset := by
  ext m
  rw [SharedCache.absent, Finset.mem_filter, Finset.mem_sdiff, h.contains, List.mem_toFinset]
  simp

/-- **Lookups at the same time converge.**  From any reached cache, with any mounts and any
schedule of the steps: a lookup returns a handle of its mount, which is the one in the cache; two
lookups return the same object exactly if their mounts are the same; nothing is ever lost or
replaced, neither what was there before nor what the race has made so far; and when all have
returned, as many handles have been made as there were mounts without one, and as many hits have
been counted as there were other lookups. -/
theorem lookups_converge (h : c.Reached n) (mounts : List String)
    (hsmall : n + mounts.length < UInt64.size) (schedule : List Nat) {r : Race}
    (hr : (c.race mounts).run schedule = r) :
    (∀ i m o, mounts[i]? = some m → r.result? i = some o →
      r.cache.find? m = some o ∧ r.cache.objects[o]? = some ⟨m⟩) ∧
    (∀ i j m m' o o', mounts[i]? = some m → mounts[j]? = some m' →
      r.result? i = some o → r.result? j = some o' → (o = o' ↔ m = m')) ∧
    c.Keeps r.cache ∧ (∀ later, r.cache.Keeps (r.run later).cache) ∧
    (r.Finished →
      r.cache.created.toNat = c.created.toNat + (c.absent mounts).card ∧
      r.cache.hits.toNat + (c.absent mounts).card = c.hits.toNat + mounts.length ∧
      ∀ m, r.cache.contains m = (c.contains m || mounts.contains m)) := by
  obtain ⟨d, hnodup, hle, hd⟩ := h.exists_represents
  subst hr
  obtain ⟨order, hinv⟩ := (Race.Invariant.start hd mounts).run schedule
  have hfind : ∀ i m o, mounts[i]? = some m → ((c.race mounts).run schedule).result? i = some o →
      ((c.race mounts).run schedule).cache.find? m = some o ∧
        ((c.race mounts).run schedule).cache.objects[o]? = some ⟨m⟩ := fun i m o hm ho => by
    have hfound := hinv.find? (by rwa [Race.map_mount_run]) ho
    exact ⟨hfound, hinv.tracks.getElem?_objects hfound⟩
  refine ⟨hfind, ?_, (c.race mounts).keeps_run schedule, fun later => Race.keeps_run _ later, ?_⟩
  · intro i j m m' o o' hm hm' ho ho'
    obtain ⟨hfound, hobject⟩ := hfind i m o hm ho
    obtain ⟨hfound', hobject'⟩ := hfind j m' o' hm' ho'
    constructor
    · rintro rfl
      rw [hobject, Option.some_inj] at hobject'
      exact congrArg Handle.mount hobject'
    · rintro rfl
      rw [hfound, Option.some_inj] at hfound'
      exact hfound'
  · intro hf
    obtain ⟨hrepresents, hperm⟩ := hinv.represents hf
    rw [Race.map_mount_run] at hperm
    have haccount := HandleCache.created_add_hits_touchAll d order
    have hcreated := HandleCache.created_touchAll d hnodup order
    rw [List.toFinset_eq_of_perm _ _ hperm, ← hd.absent] at hcreated
    rw [hperm.length_eq] at haccount
    obtain ⟨hc, hh⟩ := hd.toNat (by omega)
    obtain ⟨hc', hh'⟩ := hrepresents.toNat (by omega)
    refine ⟨by omega, by omega, fun m => ?_⟩
    rw [hrepresents.contains, hd.contains, Bool.eq_iff_iff, Bool.or_eq_true, List.contains_iff_mem,
      List.contains_iff_mem, List.contains_iff_mem, HandleCache.mem_touchAll, hperm.mem_iff]

/-- Two lookups for a new mount and one for an old one, which overtake each other. -/
theorem lookups_converge_team :
    ∃ c : SharedCache, c.Reached 1 ∧ c.contains "kv" = true ∧ c.contains "team" = false ∧
      1 + ["team", "kv", "team"].length < UInt64.size ∧
      ∃ r, (c.race ["team", "kv", "team"]).run [0, 2, 1, 2, 1, 0, 2, 0, 1] = r ∧ r.Finished ∧
        r.result? 0 = r.result? 2 ∧ r.result? 0 ≠ r.result? 1 ∧
        r.cache.created.toNat = c.created.toNat + 1 ∧
        r.cache.hits.toNat + 1 = c.hits.toNat + 3 := by
  have hreached : Reached 1 ((fresh.race ["kv"]).run [0, 0, 0]).cache :=
    Reached.fresh.race ["kv"] [0, 0, 0]
  obtain ⟨-, hsame, -, -, haccount⟩ := lookups_converge hreached ["team", "kv", "team"] (by decide)
    [0, 2, 1, 2, 1, 0, 2, 0, 1] rfl
  have hf : ((((fresh.race ["kv"]).run [0, 0, 0]).cache.race ["team", "kv", "team"]).run
      [0, 2, 1, 2, 1, 0, 2, 0, 1]).Finished := Race.finished_of_steps (by decide)
  obtain ⟨o, ho⟩ := Option.isSome_iff_exists.1 (Race.isSome_result? hf (i := 0) (by decide))
  obtain ⟨o', ho'⟩ := Option.isSome_iff_exists.1 (Race.isSome_result? hf (i := 1) (by decide))
  obtain ⟨o'', ho''⟩ := Option.isSome_iff_exists.1 (Race.isSome_result? hf (i := 2) (by decide))
  obtain ⟨hcreated, hhits, -⟩ := haccount hf
  have habsent : (((fresh.race ["kv"]).run [0, 0, 0]).cache.absent ["team", "kv", "team"]).card
      = 1 := by decide
  rw [habsent] at hcreated hhits
  refine ⟨_, hreached, by decide, by decide, by decide, _, rfl, hf, ?_, ?_, ?_, ?_⟩
  · rw [ho, ho'', (hsame 0 2 _ _ o o'' rfl rfl ho ho'').2 rfl]
  · rw [ho, ho', ne_eq, Option.some_inj, hsame 0 1 _ _ o o' rfl rfl ho ho']
    decide
  · exact hcreated
  · exact hhits

end SharedCache
end Strongbox
