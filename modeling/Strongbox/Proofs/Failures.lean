/-
How failures reach the caller.

A backend that gives no answer fails with an error of its own, and that is the error of the
operation.  An answer without success is an error with its status and its id, unless the status
means something to the operation (`Service.Action.verdict`).  `Response.Explains` says which message
such an error has: the errors that the body tells (`FailureBody.Tells`), or the status if it tells
none.

* `FailureBody.decode_eq_ok_iff` — a body is read as errors exactly if it tells them;
* `Response.explains_iff` — an answer has one message, and that is the one in its error;
* `Service.act_failure` — so it is with every operation that asks.
-/
import Strongbox.Proofs.Records
import Strongbox.Proofs.Validation
import Strongbox.Proofs.Verdicts

namespace Strongbox

/-! ### The errors that a body tells -/

namespace FailureBody

/-- The errors that a body tells: those of its member `errors`, which is a list of texts and
nothing else, or of the one item of an array.  If an object names `errors` more than once, all of
them are lists of texts, and the last one counts. -/
inductive Tells : Json → List String → Prop
  | member {members : List (String × Json)} {errors : List String}
    (hlast : Json.lookup "errors" members.reverse = some (Json.texts errors))
    (hall : ∀ v, ("errors", v) ∈ members → ∃ ss, v = Json.texts ss) : Tells (.object members) errors
  | item {errors : List String} : Tells (.array [Json.texts errors]) errors

theorem tells_iff_holds {v : Json} {errors : List String} :
    Tells v errors ↔ Json.Holds "errors" Json.texts v errors := by
  constructor
  · rintro (⟨hlast, hall⟩ | _)
    · exact .member hlast hall
    · exact .item
  · rintro (⟨hlast, hall⟩ | _)
    · exact .member hlast hall
    · exact .item

/-- Errors are read from a body exactly if it tells them. -/
theorem decode_eq_ok_iff {v : Json} {errors : List String} (hne : errors ≠ []) :
    shape.decode v = .ok ⟨errors⟩ ↔ Tells v errors := by
  rw [tells_iff_holds]
  exact Json.Shape.decode_eq_ok_iff (s := shape) rfl (fun _ _ => Json.asList_asText_eq_ok_iff)
    (fun _ _ h => FailureBody.mk.inj h) (Or.inr fun h => hne (FailureBody.mk.inj h))

theorem errorsOf_eq_iff {body : Option Json} {errors : List String} (hne : errors ≠ []) :
    errorsOf body = errors ↔ ∃ v, body = some v ∧ Tells v errors := by
  cases body with
  | none => simpa [errorsOf] using hne.symm
  | some v =>
    simp only [Option.some.injEq, exists_eq_left', ← decode_eq_ok_iff hne]
    rw [errorsOf, Option.map_some]
    cases shape.decode v with
    | error f => simpa using hne.symm
    | ok b =>
      rw [Except.ok.injEq]
      exact ⟨fun h => congrArg FailureBody.mk h, fun h => congrArg FailureBody.errors h⟩

end FailureBody

/-! ### The message of an answer -/

namespace Response

/-- The message of an answer without success: the errors that its body tells, or else its
status. -/
inductive Explains (r : Response) : String → Prop
  | told {body : Json} {errors : List String} (hbody : r.body = some body) (hne : errors ≠ [])
    (htells : FailureBody.Tells body errors) : Explains r (String.intercalate "; " errors)
  | untold (h : ∀ body errors, r.body = some body → FailureBody.Tells body errors → errors = []) :
    Explains r ("HTTP error " ++ Numeral.decimal r.status)

theorem failureMessage_of_cons {r : Response} {errors : List String}
    (h : FailureBody.errorsOf r.body = errors) (hne : errors ≠ []) :
    r.failureMessage = String.intercalate "; " errors := by
  obtain ⟨e, es, rfl⟩ := List.exists_cons_of_ne_nil hne
  rw [failureMessage, h]

/-- An answer has one message, and that is the one in its error. -/
theorem explains_iff {r : Response} {m : String} : r.Explains m ↔ m = r.failureMessage := by
  constructor
  · intro h
    cases h with
    | told hbody hne htells =>
      have herrors := (FailureBody.errorsOf_eq_iff hne).2 ⟨_, hbody, htells⟩
      exact (failureMessage_of_cons herrors hne).symm
    | untold h =>
      have herrors : FailureBody.errorsOf r.body = [] := by
        by_contra hne
        obtain ⟨body, hbody, htells⟩ := (FailureBody.errorsOf_eq_iff hne).1 rfl
        exact hne (h body _ hbody htells)
      rw [failureMessage, herrors]
  · rintro rfl
    by_cases hnil : FailureBody.errorsOf r.body = []
    · rw [failureMessage, hnil]
      refine .untold fun body errors hbody htells => ?_
      by_contra hne
      exact hne (((FailureBody.errorsOf_eq_iff hne).2 ⟨body, hbody, htells⟩).symm.trans hnil)
    · obtain ⟨body, hbody, htells⟩ := (FailureBody.errorsOf_eq_iff hnil).1 rfl
      rw [failureMessage_of_cons rfl hnil]
      exact .told hbody hnil htells

end Response

/-! ### Operations -/

namespace Service

open Argument (AllAccepted)

/-- **Failures reach the caller unchanged.**  An operation on accepted names that asks the backend
hands one request over.  If there is no answer to it, the operation fails with the error of the
backend.  If the answer is not one of success, the operation goes as its verdict on the status
says, and every error that it makes has the message of the answer: an HTTP error has the status and
the id of the answer as well, and a refusal to encrypt or to decrypt is an error of that kind.  Only
where there is nothing, or where a report comes with the status, is there another result. -/
theorem act_failure (s : Service) {α : Type} (a : Service.Action α) (h : AllAccepted a.names)
    (hne : ¬ a.IsEmptyWrite) :
    ∃ q, (a.call s).plan.request? = some q ∧
      ∀ {σ : Type} (b : Backend σ) (session : Session σ),
        (∀ e, (b.answer q session.state).1 = .error e → (s.act b a session).1 = .error e) ∧
        ∀ r, (b.answer q session.state).1 = .ok r → ¬ (200 ≤ r.status ∧ r.status < 300) →
          ∃ m, r.Explains m ∧
            (∀ value, a.verdict r.status = .absent value → (s.act b a session).1 = .ok value) ∧
            (a.verdict r.status = .http →
              (s.act b a session).1 = .error (.http r.status m r.requestId)) ∧
            (a.verdict r.status = .encryption → (s.act b a session).1 = .error (.encryption m)) ∧
            (a.verdict r.status = .decryption → (s.act b a session).1 = .error (.decryption m)) := by
  obtain ⟨q, finish, hplan⟩ := Action.isExchange_call s a h hne
  refine ⟨q, by rw [hplan, Plan.request?], fun b session => ?_⟩
  have hact : (s.act b a session).1 = (b.answer q session.state).1.bind finish :=
    (Call.run_of_plan hplan b session).1
  refine ⟨fun e he => by rw [hact, he]; rfl, fun r hr hstatus => ?_⟩
  have hfail : r.isSuccess = false := by
    rw [← Bool.not_eq_true, Response.isSuccess_iff]
    exact hstatus
  have hresult : (s.act b a session).1 = finish r := by rw [hact, hr]; rfl
  have hmakes := Action.obeys s a q finish hplan r hfail
  rw [hresult]
  refine ⟨r.failureMessage, Response.explains_iff.2 rfl, fun value hv => ?_, fun hv => ?_,
    fun hv => ?_, fun hv => ?_⟩
  all_goals
    -- the verdict leaves one result
    rw [hv] at hmakes
    generalize finish r = result at hmakes ⊢
    cases hmakes
    rfl

/-- A refusal with two errors. -/
def refusal : Response :=
  ⟨400, some (.object [("errors", .array [.string "no such key", .string "denied"])]), some "7"⟩

/-- A decryption that gets no answer in time, one that is refused, and a write that is answered with
the same status. -/
theorem act_failure_refusal :
    ∃ s, ofSettings slashedSettings = .ok s ∧
      (AllAccepted (Action.decrypt "k" "c").names ∧ ¬ (Action.decrypt "k" "c").IsEmptyWrite ∧
        (s.act Script.backend (.decrypt "k" "c") (.fresh [.error .timeout])).1 =
          .error .timeout ∧
        ¬ (200 ≤ refusal.status ∧ refusal.status < 300) ∧
        (s.act Script.backend (.decrypt "k" "c") (.fresh [.ok refusal])).1 =
          .error (.decryption "no such key; denied")) ∧
      AllAccepted (Action.secret (.write "kv" "db" "v")).names ∧
        ¬ (Action.secret (.write "kv" "db" "v")).IsEmptyWrite ∧
        (s.act Script.backend (.secret (.write "kv" "db" "v")) (.fresh [.ok refusal])).1 =
          .error (.http 400 "no such key; denied" (some "7")) := by
  obtain ⟨s, hs⟩ : ∃ s, ofSettings slashedSettings = .ok s := ⟨_, rfl⟩
  have hkey : AllAccepted (Action.decrypt "k" "c").names :=
    Argument.allAccepted_singleton.2 ⟨"k", rfl⟩
  have hplace : AllAccepted (Action.secret (.write "kv" "db" "v")).names :=
    Argument.allAccepted_keyNames.2 ⟨⟨"kv", rfl⟩, "db", rfl⟩
  have hstatus : ¬ (200 ≤ refusal.status ∧ refusal.status < 300) := by decide
  have hmessage : refusal.failureMessage = "no such key; denied" := by decide
  obtain ⟨_, _, hdecrypt⟩ := act_failure s (.decrypt "k" "c") hkey id
  obtain ⟨_, _, hwrite⟩ := act_failure s (.secret (.write "kv" "db" "v")) hplace id
  obtain ⟨m, hm, _, _, _, hrefused⟩ :=
    (hdecrypt Script.backend (.fresh [.ok refusal])).2 refusal rfl hstatus
  obtain ⟨n, hn, _, hfailed, _⟩ :=
    (hwrite Script.backend (.fresh [.ok refusal])).2 refusal rfl hstatus
  obtain rfl : m = "no such key; denied" := (Response.explains_iff.1 hm).trans hmessage
  obtain rfl : n = "no such key; denied" := (Response.explains_iff.1 hn).trans hmessage
  exact ⟨s, hs,
    ⟨hkey, id, (hdecrypt Script.backend (.fresh [.error .timeout])).1 .timeout rfl, hstatus,
      hrefused rfl⟩, hplace, id, hfailed rfl⟩

end Service
end Strongbox
