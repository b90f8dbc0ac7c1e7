/-
What a question for the health makes of an answer.

An answer reports the health if its status is one that comes with a report and its body can be read
as one (`Response.Reports`); it garbles the report if it has such a status and a body that cannot be
(`Response.Garbles`).  Every answer reports, garbles, or does neither, and that decides how the
question goes (`Reading`): to the health, to a fault of the body, or to an error with the status of
the answer.

* `reading_finishHealth` — what is made of an answer is its reading;
* `Reading.eq_ok_iff` — an answer is read as a health exactly if it reports it;
* `act_health_iff` — so the health and the version are told exactly by the answers that report
  them, and a failing server is said to be unavailable unless it garbles its report.
-/
import Strongbox.Backend.Script
import Strongbox.Proofs.Requests

namespace Strongbox

/-! ### Answers that report -/

namespace Response

/-- Is the status one of those that come with a report of the health? -/
def HasReportStatus (r : Response) : Prop := r.status ∈ [200, 429, 472, 473, 501, 503]

instance {r : Response} : Decidable r.HasReportStatus :=
  inferInstanceAs (Decidable (r.status ∈ [200, 429, 472, 473, 501, 503]))

/-- The answer reports the health. -/
structure Reports (r : Response) (h : Health) : Prop where
  status : r.HasReportStatus
  body : r.body.map Health.decode = some (.ok h)

/-- The answer should report the health, and its body cannot be read. -/
structure Garbles (r : Response) (f : Json.DecodeFault) : Prop where
  status : r.HasReportStatus
  body : r.body.map Health.decode = some (.error f)

theorem contains_statuses_iff {r : Response} :
    Health.statuses.contains r.status = true ↔ r.HasReportStatus := by
  rw [List.contains_iff_mem]
  rfl

theorem Reports.unique {r : Response} {h k : Health} (hr : r.Reports h) (hk : r.Reports k) :
    h = k := Except.ok.inj (Option.some.inj (hr.body.symm.trans hk.body))

theorem Garbles.unique {r : Response} {f g : Json.DecodeFault} (hf : r.Garbles f)
    (hg : r.Garbles g) : f = g := Except.error.inj (Option.some.inj (hf.body.symm.trans hg.body))

theorem Reports.not_garbles {r : Response} {h : Health} (hr : r.Reports h) (f : Json.DecodeFault) :
    ¬ r.Garbles f := by
  intro hf
  have hbody := Option.some.inj (hr.body.symm.trans hf.body)
  simp at hbody

/-- What an answer means to a question for the health. -/
inductive Reading (r : Response) : Result Health → Prop
  | report {h : Health} (hr : r.Reports h) : Reading r (.ok h)
  | garbled {f : Json.DecodeFault} (hf : r.Garbles f) : Reading r (.error (.deserialize f.message))
  | failure {m : String} (hreport : ∀ h, ¬ r.Reports h) (hgarbled : ∀ f, ¬ r.Garbles f) :
    Reading r (.error (.http r.status m r.requestId))

theorem Reading.eq_ok_iff {r : Response} {result : Result Health} {h : Health}
    (hread : r.Reading result) : result = .ok h ↔ r.Reports h := by
  cases hread with
  | report hr =>
    rw [Except.ok.injEq]
    exact ⟨fun heq => heq ▸ hr, fun hh => hr.unique hh⟩
  | garbled hf =>
    exact iff_of_false (by simp) fun hr => hr.not_garbles _ hf
  | failure hreport _ => exact iff_of_false (by simp) (hreport h)

end Response

namespace Service

/-- What is made of an answer is its reading. -/
theorem reading_finishHealth (r : Response) : r.Reading (finishHealth r) := by
  rw [finishHealth]
  by_cases hstatus : r.HasReportStatus
  · rw [Response.contains_statuses_iff.2 hstatus, Bool.not_true, if_neg Bool.false_ne_true]
    cases hbody : r.body with
    | none =>
      refine .failure (fun h hr => ?_) fun f hf => ?_
      · simpa [hbody] using hr.body
      · simpa [hbody] using hf.body
    | some v =>
      dsimp only
      cases hdecode : Health.decode v with
      | ok h => exact .report ⟨hstatus, by simp [hbody, hdecode]⟩
      | error f => exact .garbled ⟨hstatus, by simp [hbody, hdecode]⟩
  · have hcontains : ¬ Health.statuses.contains r.status = true := fun h =>
      hstatus (Response.contains_statuses_iff.1 h)
    rw [if_pos (by simpa using hcontains)]
    exact .failure (fun h hr => hstatus hr.status) fun f hf => hstatus hf.status

/-- Both questions make of an answer what it is read as. -/
theorem act_health_eq (s : Service) {σ : Type} (b : Backend σ) (session : Session σ) {r : Response}
    (hr : (b.answer (.read "sys/health") session.state).1 = .ok r) :
    (s.act b .health session).1 = finishHealth r ∧
      (s.act b .serverVersion session).1 = (finishHealth r).map Health.version := by
  have hanswer := Call.run_of_plan (c := health) rfl b session
  have hversion := Call.run_of_plan (c := serverVersion) rfl b session
  constructor
  · rw [act, Action.call, hanswer.1]
    show (b.answer (.read "sys/health") session.state).1.bind finishHealth = _
    rw [hr]
    rfl
  · rw [act, Action.call, hversion.1]
    show (b.answer (.read "sys/health") session.state).1.bind _ = _
    rw [hr]
    rfl

/-- **When a server is said to be unavailable.**  The health is told exactly if the answer reports
it, and the version is that of the report.  On every other answer both questions fail with the same
error.  It has the status and the id of the answer, and so says that the server is unavailable, and
may be for a while, exactly if the answer does not garble a report; otherwise it is the fault of the
body. -/
theorem act_health_iff (s : Service) {σ : Type} (b : Backend σ) (session : Session σ) {r : Response}
    (hr : (b.answer (.read "sys/health") session.state).1 = .ok r) :
    (∀ h, (s.act b .health session).1 = .ok h ↔ r.Reports h) ∧
    (∀ v, (s.act b .serverVersion session).1 = .ok v ↔ ∃ h, r.Reports h ∧ h.version = v) ∧
    ((∀ h, ¬ r.Reports h) →
      ∃ e, (s.act b .health session).1 = .error e ∧ (s.act b .serverVersion session).1 = .error e ∧
        ((∃ m, e = .http r.status m r.requestId) ↔ ∀ f, ¬ r.Garbles f) ∧
        (e.kind = .backendUnavailable ↔ ∀ f, ¬ r.Garbles f) ∧
        (e.isRetryable = true ↔
          (∀ f, ¬ r.Garbles f) ∧ r.status ∈ [429, 500, 502, 503, 504]) ∧
        ∀ f, r.Garbles f → e = .deserialize f.message) := by
  obtain ⟨hhealth, hversion⟩ := s.act_health_eq b session hr
  have hreading := reading_finishHealth r
  rw [hhealth, hversion]
  generalize finishHealth r = result at hreading ⊢
  refine ⟨fun h => hreading.eq_ok_iff, fun v => ?_, fun hnot => ?_⟩
  · rw [Results.map_eq_ok]
    simp only [hreading.eq_ok_iff]
  · cases hreading with
    | report hr => exact absurd hr (hnot _)
    | @garbled f hf =>
      have hany : ¬ ∀ f, ¬ r.Garbles f := fun hnone => hnone f hf
      refine ⟨.deserialize f.message, rfl, rfl, ?_, ?_, ?_, fun g hg => ?_⟩
      · simp [hany]
      · simp [Error.kind, hany]
      · simp [Error.isRetryable, hany]
      · rw [hf.unique hg]
    | @failure m _ hnone =>
      refine ⟨.http r.status m r.requestId, rfl, rfl, ?_, ?_, ?_, fun f hf => absurd hf (hnone f)⟩
      · exact iff_of_true ⟨m, rfl⟩ hnone
      · exact iff_of_true rfl hnone
      · rw [and_iff_right hnone]
        show Error.passingStatuses.contains r.status = true ↔ _
        rw [List.contains_iff_mem]
        rfl

/-- A server that is out of order. -/
def outage : Response :=
  ⟨500, some (.object [("errors", .array [.string "internal error"])]), some "7"⟩

/-- A server that is sealed and says so in the words of other errors. -/
def sealedAnswer : Response :=
  ⟨503, some (.object [("errors", .array [.string "Vault is sealed"])]), none⟩

theorem garbles_sealedAnswer : sealedAnswer.Garbles (.missing "initialized") :=
  ⟨by decide, rfl⟩

/-- A server that is out of order is said to be unavailable. -/
theorem act_health_iff_outage :
    ∃ s, ofSettings slashedSettings = .ok s ∧
      (Script.backend.answer (.read "sys/health") [.ok outage]).1 = .ok outage ∧
      (∀ h, ¬ outage.Reports h) ∧ (∀ f, ¬ outage.Garbles f) ∧
      ∃ e, (s.act Script.backend .health (.fresh [.ok outage])).1 = .error e ∧
        (s.act Script.backend .serverVersion (.fresh [.ok outage])).1 = .error e ∧
        (∃ m, e = .http outage.status m outage.requestId) ∧ e.kind = .backendUnavailable ∧
        e.isRetryable = true := by
  obtain ⟨s, hs⟩ := exists_slashed
  have hstatus : ¬ outage.HasReportStatus := by decide
  have hreport : ∀ h, ¬ outage.Reports h := fun h hr => hstatus hr.status
  have hgarbled : ∀ f, ¬ outage.Garbles f := fun f hf => hstatus hf.status
  obtain ⟨e, hhealth, hversion, hhttp, hkind, hretryable, -⟩ :=
    (act_health_iff s Script.backend (.fresh [.ok outage]) rfl).2.2 hreport
  exact ⟨s, hs, rfl, hreport, hgarbled, e, hhealth, hversion, hhttp.2 hgarbled, hkind.2 hgarbled,
    hretryable.2 ⟨hgarbled, by decide⟩⟩

/-- A server that is sealed is not always said to be unavailable: where its answer has no report,
the error is about the fields of one. -/
theorem act_health_of_sealedAnswer :
    ∃ s, ofSettings slashedSettings = .ok s ∧
      ¬ (200 ≤ sealedAnswer.status ∧ sealedAnswer.status < 300) ∧
      (∀ h, ¬ sealedAnswer.Reports h) ∧
      ∃ e, (s.act Script.backend .health (.fresh [.ok sealedAnswer])).1 = .error e ∧
        (s.act Script.backend .serverVersion (.fresh [.ok sealedAnswer])).1 = .error e ∧
        (∀ status m id, e ≠ .http status m id) ∧ e.kind ≠ .backendUnavailable ∧
        e.isRetryable = false := by
  obtain ⟨s, hs⟩ := exists_slashed
  have hreport : ∀ h, ¬ sealedAnswer.Reports h := fun h hr =>
    hr.not_garbles _ garbles_sealedAnswer
  exact ⟨s, hs, by decide, hreport, .deserialize "missing field `initialized`", rfl, rfl,
    fun _ _ _ => by simp, by decide, rfl⟩

end Service
end Strongbox
