/-
What an operation makes of an answer without success.

The status of the answer decides how the operation goes (`Service.Action.verdict`): there is
nothing, the server refused to encrypt or to decrypt, or it is an error with that status.  Nothing
else of the answer counts, except that an operation which asks for the health goes on to read a
report if the status is one that comes with a report.

* `Verdict.Describes` — the results that a verdict allows;
* `Verdict.Makes` — the one result that it makes, with the message of the answer in its error;
* `Verdict.Makes.describes` — it is one of those that are allowed, unless a report is garbled;
* `Plan.Obeys` — a plan of which the results are as a verdict says;
* `Service.Action.obeys` — so it is with every operation.
-/
import Strongbox.Proofs.Absence
import Strongbox.Proofs.Reports

namespace Strongbox

/-- How an operation goes on an answer without success. -/
inductive Verdict (α : Type) where
  | absent (value : α)
  | encryption
  | decryption
  | http
  | report (value : Health → α)

namespace Verdict

variable {α β : Type}

/-- The results that a verdict on an answer allows: what is told of a report counts only if the
answer reports the health. -/
inductive Describes (r : Response) : Verdict α → Result α → Prop
  | absent {value : α} : Describes r (.absent value) (.ok value)
  | encryption {m : String} : Describes r .encryption (.error (.encryption m))
  | decryption {m : String} : Describes r .decryption (.error (.decryption m))
  | http {m : String} : Describes r .http (.error (.http r.status m r.requestId))
  | report {value : Health → α} {h : Health} (hr : r.Reports h) :
    Describes r (.report value) (.ok (value h))
  | noReport {value : Health → α} {m : String} (hr : ∀ h, ¬ r.Reports h) :
    Describes r (.report value) (.error (.http r.status m r.requestId))

/-- The result that a verdict makes of an answer: an error has the message of the answer.  A report
is read from the body. -/
inductive Makes (r : Response) : Verdict α → Result α → Prop
  | absent {value : α} : Makes r (.absent value) (.ok value)
  | encryption : Makes r .encryption (.error (.encryption r.failureMessage))
  | decryption : Makes r .decryption (.error (.decryption r.failureMessage))
  | http : Makes r .http (.error r.toError)
  | report {value : Health → α} {result : Result Health} (h : r.Reading result) :
    Makes r (.report value) (result.map value)

/-- What a verdict makes of an answer is what it allows, unless there should be a report and it
cannot be read. -/
theorem Makes.describes {r : Response} {v : Verdict α} {result : Result α} (h : v.Makes r result)
    (hreport : ∀ value, v = .report value → ∀ f, ¬ r.Garbles f) : v.Describes r result := by
  cases h with
  | absent => exact .absent
  | encryption => exact .encryption
  | decryption => exact .decryption
  | http => exact .http
  | report hread =>
    cases hread with
    | report hr => exact .report hr
    | garbled hf => exact absurd hf (hreport _ rfl _)
    | failure hr _ => exact .noReport hr

/-- There is nothing if the server knows nothing. -/
def absentOr (value : α) (status : Nat) : Verdict α := if status = 404 then .absent value else .http

/-- The server refuses a key or a text with status 400. -/
def refusalOr (refusal : Verdict α) (status : Nat) : Verdict α :=
  if status = 400 then refusal else .http

/-- Some statuses come with a report of the health. -/
def reportOr (value : Health → α) (status : Nat) : Verdict α :=
  if Health.statuses.contains status then .report value else .http

/-- The same verdict where the result is turned into another. -/
def map (g : α → β) : Verdict α → Verdict β
  | .absent value => .absent (g value)
  | .encryption => .encryption
  | .decryption => .decryption
  | .http => .http
  | .report value => .report fun h => g (value h)

theorem map_absentOr (g : α → β) (value : α) (status : Nat) :
    (absentOr value status).map g = absentOr (g value) status := by
  rw [absentOr, absentOr]
  split <;> rfl

theorem map_reportOr (g : α → β) (value : Health → α) (status : Nat) :
    (reportOr value status).map g = reportOr (fun h => g (value h)) status := by
  rw [reportOr, reportOr]
  split <;> rfl

theorem Makes.map {r : Response} {v : Verdict α} {result : Result α} (h : v.Makes r result)
    (g : α → β) : (v.map g).Makes r (result.map g) := by
  cases h with
  | absent => exact .absent
  | encryption => exact .encryption
  | decryption => exact .decryption
  | http => exact .http
  | @report value result hread =>
    have hmap : (result.map value).map g = result.map fun h => g (value h) := by
      cases result <;> rfl
    rw [hmap]
    exact .report hread

end Verdict

/-! ### Verdicts of operations -/

/-- The verdict of an operation on secrets on a status without success. -/
def Secrets.Action.verdict {α : Type} : Secrets.Action α → Nat → Verdict α
  | .write _ _ _ => fun _ => .http
  | .read _ _ => .absentOr none
  | .readVersion _ _ _ => .absentOr none
  | .readVersioned _ _ _ => .absentOr none
  | .writeMap _ _ _ => fun _ => .http
  | .readMap _ _ => .absentOr []
  | .readMapVersion _ _ _ => .absentOr []
  | .list _ => .absentOr []

/-- The verdict of an operation of a service on a status without success. -/
def Service.Action.verdict {α : Type} : Service.Action α → Nat → Verdict α
  | .health => .reportOr id
  | .serverVersion => .reportOr Health.version
  | .encrypt _ _ => .refusalOr .encryption
  | .decrypt _ _ => .refusalOr .decryption
  | .secret action => action.verdict

/-! ### Plans that obey a verdict -/

/-- Is what the plan makes of an answer without success what the verdict makes of it? -/
def Plan.Obeys {α : Type} (p : Plan α) (verdict : Nat → Verdict α) : Prop :=
  ∀ q finish, p = .exchange q finish →
    ∀ r : Response, r.isSuccess = false → (verdict r.status).Makes r (finish r)

namespace Plan

variable {α β : Type} {verdict : Nat → Verdict α}

theorem obeys_exchange {q : Request} {finish : Response → Result α}
    (h : ∀ r : Response, r.isSuccess = false → (verdict r.status).Makes r (finish r)) :
    (Plan.exchange q finish).Obeys verdict := by
  intro q' finish' heq
  obtain ⟨_, rfl⟩ := Plan.exchange.inj heq
  exact h

theorem obeys_settled (result : Result α) : (Plan.settled result).Obeys verdict :=
  fun _ _ heq => absurd heq (by simp)

theorem obeys_ofArgument {a : Except ArgumentFault β} {f : β → Plan α}
    (hf : ∀ b, (f b).Obeys verdict) : (Plan.ofArgument a f).Obeys verdict := by
  cases a with
  | error fault => exact obeys_settled _
  | ok b => exact hf b

theorem Obeys.map {p : Plan α} (h : p.Obeys verdict) (g : α → β) {verdict' : Nat → Verdict β}
    (hmap : ∀ status, (verdict status).map g = verdict' status) : (p.map g).Obeys verdict' := by
  cases p with
  | settled result => exact obeys_settled _
  | exchange q finish =>
    refine obeys_exchange fun r hr => ?_
    rw [← hmap]
    exact (h q finish rfl r hr).map g

end Plan

theorem Call.obeys_ofArgument {α β : Type} {verdict : Nat → Verdict α}
    {a : Except ArgumentFault β} {f : β → Call α} (hf : ∀ b, (f b).plan.Obeys verdict) :
    (Call.ofArgument a f).plan.Obeys verdict := by
  cases a with
  | error fault => exact Plan.obeys_settled _
  | ok b => exact hf b

namespace Response

theorem makes_toError {α : Type} (r : Response) :
    (Verdict.http : Verdict α).Makes r (.error r.toError) := .http

/-- An answer that knows nothing is told apart from the others without success. -/
theorem makes_absentOr {α : Type} {r : Response} (hr : r.isSuccess = false) (value : α)
    (other : Result α) :
    (Verdict.absentOr value r.status).Makes r
      (if r.isNotFound then .ok value else if !r.isSuccess then .error r.toError else other) := by
  rw [Verdict.absentOr]
  by_cases hfound : r.status = 404
  · rw [if_pos hfound, if_pos (isNotFound_iff.2 hfound)]
    exact .absent
  · rw [if_neg hfound, if_neg fun h404 => hfound (isNotFound_iff.1 h404), hr, Bool.not_false,
      if_pos rfl]
    exact r.makes_toError

end Response

namespace Handle

variable (h : Handle) (key : String)

theorem obeys_get {α : Type} (version : Version) (decode : Json → Except Json.DecodeFault α) :
    (h.get key version decode).Obeys (.absentOr none) := by
  refine Plan.obeys_ofArgument fun k => Plan.obeys_ofArgument fun _ =>
    Plan.obeys_exchange fun r hr => ?_
  rw [finishGet]
  exact Response.makes_absentOr hr none _

theorem obeys_put (payload : Json) : (h.put key payload).Obeys fun _ => .http := by
  refine Plan.obeys_ofArgument fun k => Plan.obeys_ofArgument fun _ =>
    Plan.obeys_exchange fun r hr => ?_
  rw [finishPut, hr, Bool.not_false, if_pos rfl]
  exact r.makes_toError

theorem obeys_list (path : String) : (h.list path).Obeys (.absentOr []) := by
  refine Plan.obeys_ofArgument fun _ => Plan.obeys_ofArgument fun _ =>
    Plan.obeys_exchange fun r hr => ?_
  rw [finishList]
  exact Response.makes_absentOr hr [] _

end Handle

namespace Transit

/-- Data of an answer without success are a refusal or an error with its status. -/
theorem finish_of_not_isSuccess {α : Type} (refused : String → Error)
    (decode : Json → Except Json.DecodeFault α) {r : Response} (hr : r.isSuccess = false) :
    finish refused decode r =
      .error (if r.status = 400 then refused r.failureMessage else r.toError) := by
  rw [finish]
  split
  · rfl
  · rw [hr, Bool.not_false, if_pos rfl]

theorem obeys_encrypt (t : Transit) (key : String) (plaintext : List UInt8) :
    (t.encrypt key plaintext).Obeys (.refusalOr .encryption) := by
  refine Plan.obeys_ofArgument fun k => Plan.obeys_exchange fun r hr => ?_
  rw [finishEncrypt, finish_of_not_isSuccess _ _ hr, Verdict.refusalOr]
  split
  · exact .encryption
  · exact .http

theorem obeys_decrypt (t : Transit) (key ciphertext : String) :
    (t.decrypt key ciphertext).Obeys (.refusalOr .decryption) := by
  refine Plan.obeys_ofArgument fun k => Plan.obeys_exchange fun r hr => ?_
  rw [finishDecrypt, finish_of_not_isSuccess _ _ hr, Verdict.refusalOr]
  split
  · exact .decryption
  · exact .http

end Transit

/-! ### Every operation obeys its verdict -/

namespace Secrets

variable {α β : Type}

theorem obeys_onKey {mount key : String} {f : Handle → String → Call α}
    {verdict : Nat → Verdict α} (hf : ∀ h k, (f h k).plan.Obeys verdict) :
    (onKey mount key f).plan.Obeys verdict :=
  Call.obeys_ofArgument fun m => Call.obeys_ofArgument fun k => hf ⟨m⟩ k

/-- A read whose result is turned into another finds nothing where the read finds nothing. -/
theorem obeys_get (mount key : String) (version : Version)
    (decode : Json → Except Json.DecodeFault α) (g : Option (Versioned α) → β) :
    (onKey mount key fun h key => through h ((h.get key version decode).map g)).plan.Obeys
      (.absentOr (g none)) := by
  refine obeys_onKey fun h k => ?_
  rw [plan_through]
  exact (h.obeys_get k version decode).map g (Verdict.map_absentOr g none)

theorem obeys_readScalar (mount key : String) (version : Version) :
    (readScalar mount key version).plan.Obeys (.absentOr none) := by
  rw [readScalar, readScalarVersioned, Call.plan_map]
  exact (obeys_get mount key version ScalarRecord.decode _).map _ (Verdict.map_absentOr _ _)

theorem Action.obeys (a : Secrets.Action α) : a.call.plan.Obeys a.verdict := by
  cases a with
  | write mount key value =>
    rw [call, Service.writeSecret, writeScalar]
    refine obeys_onKey fun h k => ?_
    rw [plan_through]
    exact h.obeys_put k _
  | read mount key =>
    rw [call, Service.readSecret, Service.readSecretVersion]
    exact obeys_readScalar mount key .latest
  | readVersion mount key version =>
    rw [call, Service.readSecretVersion]
    exact obeys_readScalar mount key version
  | readVersioned mount key version =>
    rw [call, Service.readVersionedSecret, readScalarVersioned]
    exact obeys_get mount key version ScalarRecord.decode _
  | writeMap mount key map =>
    rw [call, Service.writeSecretMap, Secrets.writeMap]
    refine obeys_onKey fun h k => ?_
    split
    · exact Plan.obeys_settled _
    · rw [plan_through]
      exact (h.obeys_put k _).map some fun _ => rfl
  | readMap mount key =>
    rw [call, Service.readSecretMap, Service.readSecretMapVersion, Secrets.readMap]
    exact obeys_get mount key .latest StringMap.decode _
  | readMapVersion mount key version =>
    rw [call, Service.readSecretMapVersion, Secrets.readMap]
    exact obeys_get mount key version StringMap.decode _
  | list mount =>
    rw [call, Service.listSecrets, Secrets.list]
    refine Call.obeys_ofArgument fun m => ?_
    rw [plan_through]
    exact Handle.obeys_list ⟨m⟩ ""

end Secrets

namespace Service

theorem obeys_health : health.plan.Obeys (.reportOr id) := by
  refine Plan.obeys_exchange fun r hr => ?_
  rw [Verdict.reportOr]
  split
  · have hid : (finishHealth r).map id = finishHealth r := by cases finishHealth r <;> rfl
    rw [← hid]
    exact .report (reading_finishHealth r)
  · next hstatus =>
    rw [finishHealth, if_pos (by simpa using hstatus)]
    exact r.makes_toError

/-- **The status decides.**  Every operation obeys its verdict on the status of an answer without
success. -/
theorem Action.obeys (s : Service) {α : Type} (a : Service.Action α) :
    (a.call s).plan.Obeys a.verdict := by
  cases a with
  | health =>
    rw [call, verdict]
    exact obeys_health
  | serverVersion =>
    rw [call, verdict, Service.serverVersion, Call.plan_map]
    exact obeys_health.map Health.version (Verdict.map_reportOr Health.version id)
  | encrypt key plaintext =>
    rw [call, verdict, Service.encrypt, Call.direct]
    dsimp only
    exact s.transit.obeys_encrypt key plaintext
  | decrypt key ciphertext =>
    rw [call, verdict, Service.decrypt, Call.direct]
    dsimp only
    exact s.transit.obeys_decrypt key ciphertext
  | secret action =>
    rw [call, verdict]
    exact action.obeys

end Service
end Strongbox
