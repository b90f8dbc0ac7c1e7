/-
Operations on secrets at the same time.

An operation is not one step.  It looks up the handle of its mount, the backend carries out its
request, which is one step of the backend, and then the operation reads the answer and returns.
Each caller carries out its own operations one after another, and the steps of all callers mix in
any order that a schedule gives.  The callers work on copies of one client, so they share one
session.

* `Call.step_step_step` — an operation that nobody disturbs is `Call.run`;
* `Traffic.Steps` — what a step does: one operation of one caller goes on;
* `Traffic.outcome_run` — a result of an operation stays what it is;
* `Traffic.exists_execution` — an operation that has a result was carried out in one of the steps,
  in one go;
* `Traffic.returned_of_count` — a caller that gets its steps returns from all its operations.
-/
import Strongbox.Proofs.Actions
import Strongbox.Proofs.Handles

namespace Strongbox

/-! ### The steps of a call -/

/-- How far a call has come: it is asked for, it has looked up its handle, its request has been
answered, it has returned. -/
inductive Call.Stage (α : Type) where
  | asked
  | looked
  | answered (answer : Result Response)
  | returned (result : Result α)

/-- What a plan makes of the answer to its request. -/
def Plan.finish {α : Type} : Plan α → Result Response → Result α
  | .settled r, _ => r
  | .exchange _ finish, answer => answer.bind finish

namespace Call

variable {σ α : Type}

/-- The next step of a call. -/
def step (b : Backend σ) (c : Call α) (stage : Stage α) (s : Session σ) : Stage α × Session σ :=
  match stage with
  | .asked => (.looked, { s with handles := s.handles.touchAll c.mount.toList })
  | .looked =>
    match c.plan with
    | .settled r => (.returned r, s)
    | .exchange q _ =>
      (.answered (b.answer q s.state).1, { s with state := (b.answer q s.state).2 })
  | .answered answer => (.returned (c.plan.finish answer), s)
  | .returned r => (.returned r, s)

/-- The result of a call, as soon as its request has been answered. -/
def outcome? (c : Call α) : Stage α → Option (Result α)
  | .asked => none
  | .looked => none
  | .answered answer => some (c.plan.finish answer)
  | .returned r => some r

/-- The number of steps that are left of a call. -/
def Stage.left : Stage α → Nat
  | .asked => 3
  | .looked => 2
  | .answered _ => 1
  | .returned _ => 0

/-- A call that nobody disturbs does what it does in one go. -/
theorem step_step_step (b : Backend σ) (c : Call α) (s : Session σ) :
    c.step b (c.step b (c.step b .asked s).1 (c.step b .asked s).2).1
        (c.step b (c.step b .asked s).1 (c.step b .asked s).2).2 =
      (.returned (c.run b s).1, (c.run b s).2) := by
  obtain ⟨mount, plan⟩ := c
  cases mount <;> cases plan <;> rfl

/-- What a step of a call does: nothing happens to the backend, and the call has no other result
than before; or the call gets its result and leaves the backend as if it were carried out in one
go. -/
inductive Moves (b : Backend σ) (c : Call α) :
    Stage α → Session σ → Stage α → Session σ → Prop
  | quiet {stage stage' : Stage α} {s s' : Session σ}
    (houtcome : c.outcome? stage' = c.outcome? stage) (hstate : s'.state = s.state) :
    Moves b c stage s stage' s'
  | execute {stage stage' : Stage α} {s s' : Session σ} (hnone : c.outcome? stage = none)
    (houtcome : c.outcome? stage' = some (c.run b s).1) (hstate : s'.state = (c.run b s).2.state) :
    Moves b c stage s stage' s'

theorem moves_step (b : Backend σ) (c : Call α) (stage : Stage α) (s : Session σ) :
    Moves b c stage s (c.step b stage s).1 (c.step b stage s).2 := by
  cases stage with
  | asked => exact .quiet rfl rfl
  | looked =>
    refine .execute rfl ?_ ?_
    · rw [step, run]
      cases hplan : c.plan with
      | settled r => rfl
      | exchange q finish =>
        rw [outcome?, hplan]
        rfl
    · rw [step, run]
      cases c.plan <;> rfl
  | answered answer => exact .quiet rfl rfl
  | returned r => exact .quiet rfl rfl

/-- A result does not change any more. -/
theorem Moves.outcome {b : Backend σ} {c : Call α} {stage stage' : Stage α} {s s' : Session σ}
    (h : Moves b c stage s stage' s') {x : Result α} (hx : c.outcome? stage = some x) :
    c.outcome? stage' = some x := by
  cases h with
  | quiet houtcome _ => rw [houtcome, hx]
  | execute hnone _ _ => exact absurd (hnone.symm.trans hx) (by simp)

theorem left_step (b : Backend σ) (c : Call α) (stage : Stage α) (s : Session σ) :
    (c.step b stage s).1.left ≤ stage.left - 1 := by
  cases stage with
  | looked =>
    rw [step]
    cases c.plan with
    | settled r => exact Nat.zero_le _
    | exchange q finish => exact Nat.le_refl _
  | _ => exact Nat.le_refl _

end Call

/-! ### Callers -/

/-- An operation of a caller, and how far it has come. -/
structure Job where
  {α : Type}
  action : Secrets.Action α
  stage : Call.Stage α

namespace Job

/-- The next step of an operation. -/
def step {σ : Type} (b : Backend σ) (j : Job) (s : Session σ) : Job × Session σ :=
  (⟨j.action, (j.action.call.step b j.stage s).1⟩, (j.action.call.step b j.stage s).2)

/-- Has the operation returned? -/
def isReturned (j : Job) : Bool :=
  match j.stage with
  | .returned _ => true
  | _ => false

/-- Has the request of the operation been answered? -/
def isExecuted (j : Job) : Bool := (j.action.call.outcome? j.stage).isSome

/-- The steps that are left of operations. -/
def left : List Job → Nat
  | [] => 0
  | j :: rest => j.stage.left + left rest

theorem isReturned_iff {j : Job} : j.isReturned = true ↔ j.stage.left = 0 := by
  obtain ⟨action, stage⟩ := j
  cases stage <;> simp [isReturned, Call.Stage.left]

theorem left_eq_zero_iff {jobs : List Job} : left jobs = 0 ↔ ∀ j ∈ jobs, j.isReturned = true := by
  induction jobs with
  | nil => simp [left]
  | cons j rest ih => rw [left, Nat.add_eq_zero_iff, ih, List.forall_mem_cons, isReturned_iff]

theorem left_append (jobs jobs' : List Job) : left (jobs ++ jobs') = left jobs + left jobs' := by
  induction jobs with
  | nil => exact (Nat.zero_add _).symm
  | cons j rest ih => rw [List.cons_append, left, ih, left, Nat.add_assoc]

/-- The next step of a caller: the first of its operations that has not returned goes on. -/
def advance {σ : Type} (b : Backend σ) : List Job → Session σ → List Job × Session σ
  | [], s => ([], s)
  | j :: rest, s =>
    if j.isReturned then (j :: (advance b rest s).1, (advance b rest s).2)
    else ((j.step b s).1 :: rest, (j.step b s).2)

/-- A caller has returned from all its operations, or one of them goes on. -/
theorem advance_cases {σ : Type} (b : Backend σ) (jobs : List Job) (s : Session σ) :
    ((∀ j ∈ jobs, j.isReturned = true) ∧ advance b jobs s = (jobs, s)) ∨
      ∃ before j after, jobs = before ++ j :: after ∧ j.isReturned = false ∧
        advance b jobs s = (before ++ (j.step b s).1 :: after, (j.step b s).2) := by
  induction jobs with
  | nil => exact .inl ⟨fun _ h => absurd h List.not_mem_nil, rfl⟩
  | cons j rest ih =>
    rw [advance]
    cases hj : j.isReturned with
    | false => exact .inr ⟨[], j, rest, rfl, hj, rfl⟩
    | true =>
      rw [if_pos rfl]
      rcases ih with ⟨hall, heq⟩ | ⟨before, k, after, hrest, hk, heq⟩
      · exact .inl ⟨List.forall_mem_cons.2 ⟨hj, hall⟩, by rw [heq]⟩
      · exact .inr ⟨j :: before, k, after, by rw [hrest]; rfl, hk, by rw [heq]; rfl⟩

theorem left_advance {σ : Type} (b : Backend σ) (jobs : List Job) (s : Session σ) :
    left (advance b jobs s).1 ≤ left jobs - 1 := by
  rcases advance_cases b jobs s with ⟨hall, heq⟩ | ⟨before, j, after, rfl, hj, heq⟩
  · rw [heq, left_eq_zero_iff.2 hall]
  · have hpos : j.stage.left ≠ 0 := fun hzero => by
      rw [isReturned_iff.2 hzero] at hj
      exact absurd hj (by simp)
    have hstep : (j.step b s).1.stage.left ≤ j.stage.left - 1 :=
      Call.left_step b j.action.call j.stage s
    rw [heq, left_append, left_append, left, left]
    omega

end Job

/-- Callers at the same time, and the session that they share. -/
structure Traffic (σ : Type) where
  session : Session σ
  callers : List (List Job)

namespace Traffic

variable {σ : Type}

/-- Callers that begin at the same time, each with its own operations. -/
def start (session : Session σ) (programs : List (History Secrets.Action)) : Traffic σ :=
  ⟨session, programs.map fun p => p.map fun e => ⟨e.2, .asked⟩⟩

/-- The operations of all callers. -/
def jobs (r : Traffic σ) : List Job := r.callers.flatten

/-- The operations of a caller. -/
def jobsOf (r : Traffic σ) (caller : Nat) : List Job := r.callers.getD caller []

variable (b : Backend σ)

/-- The next step of one of the callers. -/
def step (r : Traffic σ) (caller : Nat) : Traffic σ :=
  match r.callers[caller]? with
  | some jobs =>
    ⟨(Job.advance b jobs r.session).2, r.callers.set caller (Job.advance b jobs r.session).1⟩
  | none => r

/-- Steps of the callers in the order of a schedule. -/
def run (r : Traffic σ) (schedule : List Nat) : Traffic σ := schedule.foldl (step b) r

/-- What a step does: one operation goes on, or there is none that could. -/
inductive Steps : Traffic σ → Traffic σ → Prop
  | stay {r : Traffic σ} : Steps r r
  | move {r r' : Traffic σ} {before after : List Job} {j : Job}
    (hjobs : r.jobs = before ++ j :: after)
    (hjobs' : r'.jobs = before ++ (j.step b r.session).1 :: after)
    (hsession : r'.session = (j.step b r.session).2) : Steps r r'

theorem steps_step (r : Traffic σ) (caller : Nat) : Steps b r (r.step b caller) := by
  obtain ⟨session, callers⟩ := r
  rw [step]
  cases h : callers[caller]? with
  | none => exact .stay
  | some jobs =>
    obtain ⟨hi, hget⟩ := List.getElem?_eq_some_iff.1 h
    obtain ⟨first, last, hfirst, rfl⟩ :
        ∃ first last, first.length = caller ∧ callers = first ++ jobs :: last := by
      refine ⟨callers.take caller, callers.drop (caller + 1), ?_, ?_⟩
      · rw [List.length_take, Nat.min_eq_left (Nat.le_of_lt hi)]
      · rw [← hget, ← List.drop_eq_getElem_cons hi, List.take_append_drop]
    dsimp only
    rw [List.set_append_right _ _ (Nat.le_of_eq hfirst), hfirst, Nat.sub_self, List.set_cons_zero]
    rcases Job.advance_cases b jobs session with ⟨-, heq⟩ | ⟨before, j, after, rfl, -, heq⟩
    · rw [heq]
      exact .stay
    · rw [heq]
      refine @Steps.move σ b _ _ (first.flatten ++ before) (after ++ last.flatten) j ?_ ?_ rfl
      · simp [Traffic.jobs]
      · simp [Traffic.jobs]

theorem run_append (r : Traffic σ) (schedule later : List Nat) :
    r.run b (schedule ++ later) = (r.run b schedule).run b later := List.foldl_append

theorem run_concat (r : Traffic σ) (schedule : List Nat) (caller : Nat) :
    r.run b (schedule ++ [caller]) = (r.run b schedule).step b caller := run_append b r schedule _

variable {b}

/-- What every step keeps holds after every schedule. -/
theorem run_induction {P : Traffic σ → Prop} {r : Traffic σ} (h : P r)
    (hstep : ∀ r r', Steps b r r' → P r → P r') (schedule : List Nat) : P (r.run b schedule) := by
  induction schedule using List.reverseRecOn with
  | nil => exact h
  | append_singleton schedule caller ih =>
    rw [run_concat]
    exact hstep _ _ (steps_step b _ caller) ih

/-- A step moves one operation, or nothing. -/
theorem Steps.exists_moves {r r' : Traffic σ} (h : Steps b r r') :
    (r'.jobs = r.jobs ∧ r'.session = r.session) ∨
      ∃ (before after : List Job) (j : Job) (stage' : Call.Stage j.α),
        r.jobs = before ++ j :: after ∧ r'.jobs = before ++ ⟨j.action, stage'⟩ :: after ∧
          Call.Moves b j.action.call j.stage r.session stage' r'.session := by
  cases h with
  | stay => exact .inl ⟨rfl, rfl⟩
  | @move _ before after j hjobs hjobs' hsession =>
    refine .inr ⟨before, after, j, _, hjobs, hjobs', ?_⟩
    rw [hsession]
    exact Call.moves_step b j.action.call j.stage r.session

/-! ### One operation among the others -/

section

variable {α : Type} {a : Secrets.Action α} {stage : Call.Stage α} {r r' : Traffic σ} {i : Nat}

/-- In a step an operation stays where it is, or it is the one that goes on. -/
theorem Steps.getElem? (h : Steps b r r') (hi : r.jobs[i]? = some ⟨a, stage⟩) :
    r'.jobs[i]? = some ⟨a, stage⟩ ∨
      (r'.jobs[i]? = some ⟨a, (a.call.step b stage r.session).1⟩ ∧
        r'.session = (a.call.step b stage r.session).2) := by
  cases h with
  | stay => exact .inl hi
  | @move _ before after j hjobs hjobs' hsession =>
    rw [hjobs] at hi
    rw [hjobs']
    rcases Nat.lt_trichotomy i before.length with hlt | rfl | hgt
    · rw [List.getElem?_append_left hlt] at hi ⊢
      exact .inl hi
    · rw [List.getElem?_append_right (Nat.le_refl _), Nat.sub_self, List.getElem?_cons_zero] at hi ⊢
      obtain rfl := Option.some_inj.1 hi
      exact .inr ⟨rfl, hsession⟩
    · obtain ⟨k, rfl⟩ := Nat.exists_eq_add_of_lt hgt
      have hk : before.length + k + 1 - before.length = k + 1 := by omega
      rw [List.getElem?_append_right (Nat.le_of_lt hgt), hk, List.getElem?_cons_succ] at hi ⊢
      exact .inl hi

theorem Steps.outcome (h : Steps b r r') (hi : r.jobs[i]? = some ⟨a, stage⟩) :
    ∃ stage', r'.jobs[i]? = some ⟨a, stage'⟩ ∧
      ∀ x, a.call.outcome? stage = some x → a.call.outcome? stage' = some x := by
  rcases h.getElem? hi with hi' | ⟨hi', -⟩
  · exact ⟨stage, hi', fun _ hx => hx⟩
  · exact ⟨_, hi', fun _ hx => (Call.moves_step b a.call stage r.session).outcome hx⟩

/-- A result of an operation stays what it is. -/
theorem outcome_run (hi : r.jobs[i]? = some ⟨a, stage⟩) (later : List Nat) :
    ∃ stage', (r.run b later).jobs[i]? = some ⟨a, stage'⟩ ∧
      ∀ x, a.call.outcome? stage = some x → a.call.outcome? stage' = some x := by
  refine run_induction (P := fun r' => ∃ stage', r'.jobs[i]? = some ⟨a, stage'⟩ ∧
    ∀ x, a.call.outcome? stage = some x → a.call.outcome? stage' = some x)
    ⟨stage, hi, fun _ hx => hx⟩ ?_ later
  rintro r r' hstep ⟨stage', hi', hkeep⟩
  obtain ⟨stage'', hi'', hkeep'⟩ := hstep.outcome hi'
  exact ⟨stage'', hi'', fun x hx => hkeep' x (hkeep x hx)⟩

/-- An operation that gets its result in a step is carried out in this step. -/
theorem Steps.run_eq (h : Steps b r r') (hi : r.jobs[i]? = some ⟨a, stage⟩)
    (hnone : a.call.outcome? stage = none) {stage' : Call.Stage α} {x : Result α}
    (hi' : r'.jobs[i]? = some ⟨a, stage'⟩) (hx : a.call.outcome? stage' = some x) :
    x = (a.call.run b r.session).1 := by
  rcases h.getElem? hi with hsame | ⟨hnext, -⟩
  · obtain rfl : stage' = stage := by simpa using hi'.symm.trans hsame
    exact absurd (hnone.symm.trans hx) (by simp)
  · obtain rfl : stage' = (a.call.step b stage r.session).1 := by simpa using hi'.symm.trans hnext
    cases Call.moves_step b a.call stage r.session with
    | quiet houtcome _ => exact absurd ((houtcome.trans hnone).symm.trans hx) (by simp)
    | execute _ houtcome _ => exact Option.some_inj.1 (hx.symm.trans houtcome)

/-- An operation that has got its result in the meantime was carried out in one of the steps, and
in one go. -/
theorem exists_execution (hi : r.jobs[i]? = some ⟨a, stage⟩) (hnone : a.call.outcome? stage = none)
    {later : List Nat} {stage' : Call.Stage α} {x : Result α}
    (hi' : (r.run b later).jobs[i]? = some ⟨a, stage'⟩) (hx : a.call.outcome? stage' = some x) :
    ∃ before caller after, later = before ++ caller :: after ∧
      x = (a.call.run b (r.run b before).session).1 := by
  induction later using List.reverseRecOn generalizing stage' x with
  | nil =>
    obtain rfl : stage = stage' := by simpa using hi.symm.trans hi'
    exact absurd (hnone.symm.trans hx) (by simp)
  | append_singleton later caller ih =>
    obtain ⟨stage₁, hi₁, -⟩ := outcome_run hi later
    have hstep := steps_step b (r.run b later) caller
    rw [← run_concat] at hstep
    cases hx₁ : a.call.outcome? stage₁ with
    | none => exact ⟨later, caller, [], rfl, hstep.run_eq hi₁ hx₁ hi' hx⟩
    | some y =>
      -- the operation had its result before this step
      obtain ⟨before, c, after, rfl, hy⟩ := ih hi₁ hx₁
      obtain ⟨stage₂, hi₂, hkeep⟩ := hstep.outcome hi₁
      obtain rfl : stage' = stage₂ := by simpa using hi'.symm.trans hi₂
      obtain rfl : y = x := Option.some_inj.1 ((hkeep y hx₁).symm.trans hx)
      exact ⟨before, c, after ++ [caller], by simp, hy⟩

end

/-! ### Callers get on -/

theorem left_step (r : Traffic σ) (caller other : Nat) :
    Job.left ((r.step b caller).jobsOf other) ≤
      Job.left (r.jobsOf other) - if caller = other then 1 else 0 := by
  rw [step]
  cases h : r.callers[caller]? with
  | none =>
    dsimp only
    split
    · next heq =>
      have hnil : r.jobsOf other = [] := by
        rw [jobsOf, List.getD_eq_getElem?_getD, ← heq, h, Option.getD_none]
      rw [hnil]
      exact Nat.zero_le _
    · exact Nat.le_refl _
  | some jobs =>
    obtain ⟨hi, -⟩ := List.getElem?_eq_some_iff.1 h
    have hjobs : r.jobsOf caller = jobs := by
      rw [jobsOf, List.getD_eq_getElem?_getD, h, Option.getD_some]
    dsimp only
    rw [jobsOf, List.getD_eq_getElem?_getD, List.getElem?_set, if_pos hi]
    split
    · next heq =>
      rw [← heq, hjobs]
      exact Job.left_advance b jobs r.session
    · exact Nat.le_of_eq (by rw [jobsOf, List.getD_eq_getElem?_getD, Nat.sub_zero])

theorem left_run (r : Traffic σ) (schedule : List Nat) (caller : Nat) :
    Job.left ((r.run b schedule).jobsOf caller) ≤
      Job.left (r.jobsOf caller) - schedule.count caller := by
  induction schedule using List.reverseRecOn with
  | nil => exact Nat.le_of_eq (by rw [List.count_nil, Nat.sub_zero]; rfl)
  | append_singleton schedule other ih =>
    have hstep := left_step (b := b) (r.run b schedule) other caller
    rw [run_concat, List.count_append, List.count_singleton]
    simp only [beq_iff_eq]
    omega

/-- A caller that has got three steps for each of its operations has returned from all of them. -/
theorem returned_of_count {session : Session σ} {programs : List (History Secrets.Action)}
    {schedule : List Nat} {caller : Nat}
    (h : 3 * (programs.getD caller []).length ≤ schedule.count caller) :
    ∀ j ∈ ((start session programs).run b schedule).jobsOf caller, j.isReturned = true := by
  have hstart : ∀ p : History Secrets.Action,
      Job.left (p.map fun e => ⟨e.2, .asked⟩) = 3 * p.length := by
    intro p
    induction p with
    | nil => rfl
    | cons e p ih =>
      rw [List.map_cons, Job.left, ih, Call.Stage.left, List.length_cons]
      omega
  have hjobs : (start session programs).jobsOf caller =
      (programs.getD caller []).map fun e => ⟨e.2, .asked⟩ := by
    rw [jobsOf, start, List.getD_eq_getElem?_getD, List.getD_eq_getElem?_getD, List.getElem?_map]
    cases programs[caller]? <;> rfl
  have hleft := left_run (b := b) (start session programs) schedule caller
  rw [hjobs, hstart] at hleft
  exact Job.left_eq_zero_iff.1 (by omega)

end Traffic
end Strongbox
