/-
Operations on a mount that nobody has looked at.

The handle of a mount and the encryption engine behind one can be had for any text.  Each operation
of theirs checks what it is given: a handle its own mount and the key or the path below it, an
encryption and a decryption their key alone.

* `Direct.Action.path` — the path that an operation means, and that its request has;
* `hasDotSegment_secret`, `hasDotSegment_listing` and so on — where a dot segment of it comes from;
* `Direct.outcome` — an operation is refused, or hands over that path;
* `Direct.escapes_iff` — a path with dot segments is handed over exactly by an encryption or a
  decryption whose mount has them.
-/
import Strongbox.Proofs.Requests

namespace Strongbox

/-! ### Dot segments of a path -/

namespace Argument

/-- An empty segment is no dot segment, so it does not matter whether those are left out. -/
theorem hasDotSegment_eq (path : List Char) :
    hasDotSegment path = (Endpoint.segments path).any isDotSegment := by
  have hempty : ∀ p : List Char, isDotSegment p = (!p.isEmpty && isDotSegment p) := by
    intro p
    cases p with
    | nil => rfl
    | cons c p => rfl
  rw [hasDotSegment, segments, Endpoint.segments, List.any_filter]
  exact congrArg (List.any _) (funext hempty)

theorem hasDotSegment_append_cons (a b : List Char) :
    hasDotSegment (a ++ '/' :: b) = (hasDotSegment a || hasDotSegment b) := by
  rw [hasDotSegment_eq, Endpoint.segments_append_cons, List.any_append, ← hasDotSegment_eq,
    ← hasDotSegment_eq]

/-- Slashes at the ends of a name hide no dot segment. -/
theorem hasDotSegment_of_require {n : ArgumentName} {v t : String} (h : require n v = .ok t) :
    hasDotSegment v.toList = false := by
  rw [hasDotSegment_eq, ← segments_of_require h, ← hasDotSegment_eq,
    (accepted_of_require h).not_dot]

end Argument

namespace Endpoint

open Argument (hasDotSegment isDotSegment hasDotSegment_eq hasDotSegment_append_cons)

theorem hasDotSegment_encodePath (name : String) :
    hasDotSegment (encodePath name).toList = hasDotSegment name.toList := by
  rw [hasDotSegment_eq, segments_encodePath, List.any_map, hasDotSegment_eq]
  exact congrArg (List.any _) (funext isDotSegment_encodeSegment)

/-- The path of a key behind a mount and a word has the dot segments of the two names. -/
theorem hasDotSegment_word {w : String} (hw : hasDotSegment w.toList = false)
    (mount key : String) :
    hasDotSegment (encodePath mount ++ ("/" ++ w ++ "/") ++ encodePath key).toList =
      (hasDotSegment mount.toList || hasDotSegment key.toList) := by
  have hlist : (encodePath mount ++ ("/" ++ w ++ "/") ++ encodePath key).toList =
      (encodePath mount).toList ++ '/' :: (w.toList ++ '/' :: (encodePath key).toList) := by simp
  rw [hlist, hasDotSegment_append_cons, hasDotSegment_append_cons, hw, Bool.false_or,
    hasDotSegment_encodePath, hasDotSegment_encodePath]

theorem hasDotSegment_secret (mount key : String) :
    hasDotSegment (secret mount key).toList =
      (hasDotSegment mount.toList || hasDotSegment key.toList) :=
  hasDotSegment_word (w := "data") (by decide) mount key

theorem hasDotSegment_encrypt (mount key : String) :
    hasDotSegment (encrypt mount key).toList =
      (hasDotSegment mount.toList || hasDotSegment key.toList) :=
  hasDotSegment_word (w := "encrypt") (by decide) mount key

theorem hasDotSegment_decrypt (mount key : String) :
    hasDotSegment (decrypt mount key).toList =
      (hasDotSegment mount.toList || hasDotSegment key.toList) :=
  hasDotSegment_word (w := "decrypt") (by decide) mount key

theorem hasDotSegment_listing (mount path : String) :
    hasDotSegment (listing mount path).toList =
      (hasDotSegment mount.toList || hasDotSegment path.toList) := by
  have hfront : hasDotSegment (encodePath mount ++ "/metadata/" ++ encodePath path).toList =
      (hasDotSegment mount.toList || hasDotSegment path.toList) :=
    hasDotSegment_word (w := "metadata") (by decide) mount path
  rw [listing]
  split
  · next hempty =>
    -- at the root of the mount nothing stands behind the word
    have hnil : encodePath path = "" := by simpa using hempty
    rw [hnil, String.append_empty] at hfront
    exact hfront
  · have hlist : ∀ p : String, (p ++ "/").toList = p.toList ++ '/' :: [] := by simp
    rw [hlist, hasDotSegment_append_cons, hfront]
    exact Bool.or_false _

end Endpoint

/-! ### The operations -/

/-- The operations through the handle of a mount and with the encryption engine behind one; the
index is what an operation returns. -/
inductive Direct.Action : Type → Type 1 where
  | get {α : Type} (mount key : String) (version : Version)
    (decode : Json → Except Json.DecodeFault α) : Action (Option (Versioned α))
  | put (mount key : String) (payload : Json) : Action VersionMetadata
  | list (mount path : String) : Action (List String)
  | encrypt (mount key : String) (plaintext : List UInt8) : Action String
  | decrypt (mount key ciphertext : String) : Action (List UInt8)

namespace Direct

open Argument (hasDotSegment require)

/-- The call that an operation is. -/
def Action.call {α : Type} : Direct.Action α → Call α
  | .get mount key version decode => Secrets.through ⟨mount⟩ (Handle.get ⟨mount⟩ key version decode)
  | .put mount key payload => Secrets.through ⟨mount⟩ (Handle.put ⟨mount⟩ key payload)
  | .list mount path => Secrets.through ⟨mount⟩ (Handle.list ⟨mount⟩ path)
  | .encrypt mount key plaintext => .direct (Transit.encrypt ⟨mount⟩ key plaintext)
  | .decrypt mount key ciphertext => .direct (Transit.decrypt ⟨mount⟩ key ciphertext)

/-- The path that an operation means. -/
def Action.path {α : Type} : Direct.Action α → String
  | .get mount key _ _ => Endpoint.secret mount key
  | .put mount key _ => Endpoint.secret mount key
  | .list mount path => Endpoint.listing mount path
  | .encrypt mount key _ => Endpoint.encrypt mount key
  | .decrypt mount key _ => Endpoint.decrypt mount key

/-- Carries out an operation. -/
def act {σ α : Type} (b : Backend σ) (a : Direct.Action α) (session : Session σ) :
    Result α × Session σ :=
  a.call.run b session

/-- Does the operation hand over dot segments?  An encryption and a decryption with an accepted key
do, if their mount has some. -/
def Action.Escapes {α : Type} : Direct.Action α → Prop
  | .encrypt mount key _ =>
    hasDotSegment mount.toList = true ∧ ∃ t, require .transitKey key = .ok t
  | .decrypt mount key _ =>
    hasDotSegment mount.toList = true ∧ ∃ t, require .transitKey key = .ok t
  | _ => False

/-! ### What an operation hands over -/

/-- Is the operation refused for one of its arguments? -/
def Action.Refused {α : Type} (a : Direct.Action α) : Prop :=
  ∃ fault, a.call.plan = .settled (.error (Error.ofArgument fault))

/-- Does the operation hand over the path that it means? -/
def Action.HandsOver {α : Type} (a : Direct.Action α) : Prop :=
  ∃ q finish, a.call.plan = .exchange q finish ∧ q.path = a.path

/-- What an operation does with a path that has dot segments, and with any other. -/
inductive Action.Outcome {α : Type} (a : Direct.Action α) : Prop
  | refused (h : a.Refused) (hne : ¬ a.Escapes)
  | safe (h : a.HandsOver) (hdot : hasDotSegment a.path.toList = false) (hne : ¬ a.Escapes)
  | escapes (h : a.HandsOver) (hdot : hasDotSegment a.path.toList = true) (he : a.Escapes)

variable {α : Type} {a : Direct.Action α} (mount key : String)

theorem encodePath_of_require {n : ArgumentName} {v t : String} (h : require n v = .ok t) :
    Endpoint.encodePath t = Endpoint.encodePath v :=
  Endpoint.encodePath_eq_iff.2 (Argument.segments_of_require h)

/-- A handle looks at the key and at its mount, so the path of a secret that it hands over has no
dot segment. -/
theorem outcome_of_secret (q : String → Request) (finish : String → Response → Result α)
    (hplan : a.call.plan = Plan.ofArgument (require .secretKey key) fun key =>
      Plan.ofArgument (Handle.mk mount).checkMount fun _ => .exchange (q key) (finish key))
    (hq : ∀ t, (q t).path = Endpoint.secret mount t) (ha : a.path = Endpoint.secret mount key)
    (hne : ¬ a.Escapes) : a.Outcome := by
  cases hk : require .secretKey key with
  | error fault => exact .refused ⟨fault, by rw [hplan, hk, Plan.ofArgument]⟩ hne
  | ok t =>
    rw [hk, Plan.ofArgument, Handle.checkMount, Argument.checkSegments] at hplan
    cases hm : hasDotSegment mount.toList with
    | true => exact .refused ⟨.dotSegment .mount, by rw [hplan, if_pos hm, Plan.ofArgument]⟩ hne
    | false =>
      refine .safe ⟨q t, finish t, ?_, ?_⟩ ?_ hne
      · rw [hplan, if_neg (by simp [hm]), Plan.ofArgument]
      · rw [hq, ha, Endpoint.secret, encodePath_of_require hk, Endpoint.secret]
      · rw [ha, Endpoint.hasDotSegment_secret, hm, Argument.hasDotSegment_of_require hk,
          Bool.or_false]

theorem outcome_list (path : String) : (Action.list mount path).Outcome := by
  have hne : ¬ (Action.list mount path).Escapes := id
  have hplan : (Action.list mount path).call.plan =
      Plan.ofArgument (Argument.checkSegments .mount mount) fun _ =>
        Plan.ofArgument (Argument.checkSegments .listPath path) fun _ =>
          .exchange (.list (Endpoint.listing mount path)) Handle.finishList := rfl
  rw [Argument.checkSegments, Argument.checkSegments] at hplan
  cases hm : hasDotSegment mount.toList with
  | true => exact .refused ⟨.dotSegment .mount, by rw [hplan, if_pos hm, Plan.ofArgument]⟩ hne
  | false =>
    rw [if_neg (by simp [hm]), Plan.ofArgument] at hplan
    cases hp : hasDotSegment path.toList with
    | true => exact .refused ⟨.dotSegment .listPath, by rw [hplan, if_pos hp, Plan.ofArgument]⟩ hne
    | false =>
      refine .safe ⟨.list (Endpoint.listing mount path), Handle.finishList, ?_, ?_⟩ ?_ hne
      · rw [hplan, if_neg (by simp [hp]), Plan.ofArgument]
      · rw [Action.path, Request.list]
      · rw [Action.path, Endpoint.hasDotSegment_listing, hm, hp, Bool.or_false]

/-- An encryption or a decryption looks at its key alone, so the dot segments of its mount are
handed over. -/
theorem outcome_of_transitKey (q : String → Request) (finish : Response → Result α)
    (hplan : a.call.plan = Plan.ofArgument (require .transitKey key) fun key =>
      .exchange (q key) finish)
    (hq : ∀ t, require .transitKey key = .ok t → (q t).path = a.path)
    (hdot : hasDotSegment a.path.toList = (hasDotSegment mount.toList || hasDotSegment key.toList))
    (hescapes : a.Escapes ↔
      hasDotSegment mount.toList = true ∧ ∃ t, require .transitKey key = .ok t) :
    a.Outcome := by
  cases hk : require .transitKey key with
  | error fault =>
    refine .refused ⟨fault, by rw [hplan, hk, Plan.ofArgument]⟩ fun he => ?_
    obtain ⟨-, t, ht⟩ := hescapes.1 he
    exact absurd (hk.symm.trans ht) (by simp)
  | ok t =>
    have hover : a.HandsOver := ⟨q t, finish, by rw [hplan, hk, Plan.ofArgument], hq t hk⟩
    rw [Argument.hasDotSegment_of_require hk, Bool.or_false] at hdot
    cases hm : hasDotSegment mount.toList with
    | true => exact .escapes hover (hdot.trans hm) (hescapes.2 ⟨hm, t, hk⟩)
    | false =>
      refine .safe hover (hdot.trans hm) fun he => ?_
      exact Bool.false_ne_true (hm.symm.trans (hescapes.1 he).1)

/-- Every operation is refused, or hands over the path that it means. -/
theorem outcome (a : Direct.Action α) : a.Outcome := by
  cases a with
  | get mount key version decode =>
    refine outcome_of_secret mount key (fun t => (Handle.mk mount).getRequest t version)
      (fun t => (Handle.mk mount).finishGet t decode) ?_ (fun t => ?_) rfl id
    · rw [Action.call, Secrets.plan_through, Handle.get]
    · rw [Secrets.getRequest_eq, Endpoint.secret]
  | put mount key payload =>
    exact outcome_of_secret mount key
      (fun t => .write (Endpoint.secret mount t) (.object [("data", payload)]))
      (fun _ => Handle.finishPut)
      (by rw [Action.call, Secrets.plan_through, Handle.put]) (fun t => rfl) rfl id
  | list mount path => exact outcome_list mount path
  | encrypt mount key plaintext =>
    refine outcome_of_transitKey mount key
      (fun t => .write (Endpoint.encrypt mount t)
        (.object [("plaintext", .string (Base64.encodeText plaintext))]))
      Transit.finishEncrypt (by rw [Action.call, Call.direct, Transit.encrypt]) (fun t hk => ?_)
      (Endpoint.hasDotSegment_encrypt mount key) Iff.rfl
    show Endpoint.encrypt mount t = Endpoint.encrypt mount key
    rw [Endpoint.encrypt, encodePath_of_require hk, Endpoint.encrypt]
  | decrypt mount key ciphertext =>
    refine outcome_of_transitKey mount key
      (fun t => .write (Endpoint.decrypt mount t) (.object [("ciphertext", .string ciphertext)]))
      Transit.finishDecrypt (by rw [Action.call, Call.direct, Transit.decrypt]) (fun t hk => ?_)
      (Endpoint.hasDotSegment_decrypt mount key) Iff.rfl
    show Endpoint.decrypt mount t = Endpoint.decrypt mount key
    rw [Endpoint.decrypt, encodePath_of_require hk, Endpoint.decrypt]

/-! ### Whole histories -/

variable {mount key}

theorem Action.HandsOver.exists_request {a : Direct.Action α} (h : a.HandsOver) :
    ∃ q, a.call.plan.request? = some q ∧ q.path = a.path := by
  obtain ⟨q, finish, hplan, hpath⟩ := h
  exact ⟨q, by rw [hplan, Plan.request?], hpath⟩

/-- The request of an operation, if there is one, has dot segments exactly if the operation
escapes. -/
theorem exists_request_iff (a : Direct.Action α) :
    (∃ q, a.call.plan.request? = some q ∧ hasDotSegment q.path.toList = true) ↔ a.Escapes := by
  cases outcome a with
  | refused h hne =>
    obtain ⟨fault, hplan⟩ := h
    refine iff_of_false (fun hq => ?_) hne
    obtain ⟨q, hq, -⟩ := hq
    rw [hplan, Plan.request?] at hq
    exact absurd hq.symm (Option.some_ne_none q)
  | safe h hdot hne =>
    refine iff_of_false (fun hq => ?_) hne
    obtain ⟨q, hq, hdot'⟩ := hq
    obtain ⟨r, hr, hpath⟩ := h.exists_request
    obtain rfl : q = r := Option.some_inj.1 (hq.symm.trans hr)
    rw [hpath, hdot] at hdot'
    exact absurd hdot' Bool.false_ne_true
  | escapes h hdot he =>
    obtain ⟨q, hq, hpath⟩ := h.exists_request
    exact iff_of_true ⟨q, hq, by rw [hpath, hdot]⟩ he

variable {σ : Type} (b : Backend σ)

/-- A refused operation fails with its fault, and the backend is not asked. -/
theorem act_of_refused {a : Direct.Action α} (h : a.Refused) (session : Session σ) :
    ∃ fault : ArgumentFault, (act b a session).1 = .error (.invalidArgument fault.message) ∧
      (act b a session).2.state = session.state := by
  obtain ⟨fault, hplan⟩ := h
  refine ⟨fault, ?_⟩
  rw [act, Call.run, hplan]
  exact ⟨rfl, rfl⟩

theorem run_logged (history : History Direct.Action) (session : Session (σ × List Request)) :
    (History.run (act b.logged) history session).2.state.2 =
      session.state.2 ++ history.flatMap fun a => a.2.call.plan.request?.toList :=
  History.log_run Action.call b history session

/-- **Dot segments are handed over exactly by encryption.**  Whatever text the mounts are, and
whatever the backend does, an encryption or a decryption with an accepted key hands over its path
with the dot segments of its mount; every other operation whose path has dot segments is refused,
and the backend is not asked.  So among the requests of a history there is one with dot segments
exactly if the history has such an encryption or decryption. -/
theorem escapes_iff :
    (∀ {α : Type} (a : Direct.Action α) (session : Session (σ × List Request)), a.Escapes →
      ∃ q, (act b.logged a session).2.state.2 = session.state.2 ++ [q] ∧ q.path = a.path ∧
        hasDotSegment q.path.toList = true) ∧
    (∀ {α : Type} (a : Direct.Action α) (session : Session (σ × List Request)), ¬ a.Escapes →
        hasDotSegment a.path.toList = true →
      ∃ fault : ArgumentFault,
        (act b.logged a session).1 = .error (.invalidArgument fault.message) ∧
          (act b.logged a session).2.state = session.state) ∧
    ∀ (history : History Direct.Action) (state : σ),
      (∃ q ∈ (History.run (act b.logged) history (.fresh (state, []))).2.state.2,
        hasDotSegment q.path.toList = true) ↔ ∃ a ∈ history, a.2.Escapes := by
  refine ⟨fun a session he => ?_, fun a session hne hdot => ?_, fun history state => ?_⟩
  · cases outcome a with
    | refused _ hne => exact absurd he hne
    | safe _ _ hne => exact absurd he hne
    | escapes h hdot _ =>
      obtain ⟨q, hq, hpath⟩ := h.exists_request
      refine ⟨q, ?_, hpath, by rw [hpath, hdot]⟩
      rw [act, Call.log_run, hq, Option.toList_some]
  · cases outcome a with
    | refused h _ => exact act_of_refused b.logged h session
    | safe _ hsafe _ => exact absurd (hsafe.symm.trans hdot) Bool.false_ne_true
    | escapes _ _ he => exact absurd he hne
  · rw [run_logged, Session.fresh, List.nil_append]
    constructor
    · rintro ⟨q, hq, hdot⟩
      obtain ⟨a, ha, hq⟩ := List.mem_flatMap.1 hq
      exact ⟨a, ha, (exists_request_iff a.2).1 ⟨q, Option.mem_toList.1 hq, hdot⟩⟩
    · rintro ⟨a, ha, he⟩
      obtain ⟨q, hq, hdot⟩ := (exists_request_iff a.2).2 he
      exact ⟨q, List.mem_flatMap.2 ⟨a, ha, Option.mem_toList.2 hq⟩, hdot⟩

/-- A write below a mount that is left by its key, and an encryption whose mount is left. -/
theorem escapes_iff_dots :
    (hasDotSegment "transit/..".toList = true ∧
      ∃ q, (act Script.backend.logged (.encrypt "transit/.." "k" []) (.fresh ([], []))).2.state.2 =
          [] ++ [q] ∧
        q.path = Endpoint.encrypt "transit/.." "k" ∧ hasDotSegment q.path.toList = true) ∧
    (hasDotSegment (Endpoint.secret "secret" "../../sys/policy").toList = true ∧
      ∃ fault : ArgumentFault,
        (act Script.backend.logged (.put "secret" "../../sys/policy" .null)
            (.fresh ([], []))).1 = .error (.invalidArgument fault.message) ∧
          (act Script.backend.logged (.put "secret" "../../sys/policy" .null)
            (.fresh ([], []))).2.state = ([], [])) := by
  obtain ⟨hescapes, hrefused, -⟩ := escapes_iff Script.backend
  have hmount : hasDotSegment "transit/..".toList = true := by decide
  have hpath : hasDotSegment (Endpoint.secret "secret" "../../sys/policy").toList = true := by
    decide
  exact ⟨⟨hmount, hescapes (.encrypt "transit/.." "k" []) _ ⟨hmount, "k", rfl⟩⟩,
    ⟨hpath, hrefused (.put "secret" "../../sys/policy" .null) _ id hpath⟩⟩

/-- The mount of an encryption is not looked at: two dots are handed over. -/
theorem log_encrypt_of_dots :
    (act Script.backend.logged (.encrypt ".." "k" []) (.fresh ([], []))).2.state.2.map
        Request.path = ["../encrypt/k"] ∧
      hasDotSegment "../encrypt/k".toList = true := by
  decide

end Direct
end Strongbox
