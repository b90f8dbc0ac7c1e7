/-
What the statistics of the handles say about a run.

An operation looks up the handle of a mount if it works on secrets, its names are accepted and it
does not write an empty map (`Service.Action.counted`); the mount is the one that it was given,
without the slashes at its ends.  A copy of a client works on the session of the client that it
was made from, so all copies show the same statistics.

* `Service.Action.mount_call` — the handle that an operation looks up;
* `Service.handles_run` — the handles after a history;
* `Clients.Reached.exists_run` — operations on copies are a history on the one session;
* `Clients.statistics` — the statistics account for the operations so far.
-/
import Strongbox.Proofs.Handles
import Strongbox.Proofs.Validation

namespace Strongbox

open Argument (AllAccepted RejectedFor)

/-! ### The operations that are counted -/

instance Argument.decidableAllAccepted (names : List (ArgumentName × String)) :
    Decidable (AllAccepted names) :=
  decidable_of_iff (∀ n ∈ names, (Argument.require n.1 n.2).isOk = true) <|
    forall₂_congr fun n _ => by cases Argument.require n.1 n.2 <;> simp [Except.isOk, Except.toBool]

theorem Argument.not_allAccepted {names : List (ArgumentName × String)} {fault : ArgumentFault}
    (h : RejectedFor names fault) : ¬ AllAccepted names := by
  rintro haccepted
  obtain ⟨n, hn, hreject⟩ := h
  obtain ⟨v, haccept⟩ := haccepted n hn
  rw [hreject] at haccept
  exact absurd haccept (by simp)

namespace Service.Action

variable {α : Type}

instance decidableIsEmptyWrite (a : Service.Action α) : Decidable a.IsEmptyWrite :=
  match a with
  | .secret (.writeMap _ _ map) => inferInstanceAs (Decidable (map = []))
  | .secret (.write _ _ _) => .isFalse id
  | .secret (.read _ _) => .isFalse id
  | .secret (.readVersion _ _ _) => .isFalse id
  | .secret (.readVersioned _ _ _) => .isFalse id
  | .secret (.readMap _ _) => .isFalse id
  | .secret (.readMapVersion _ _ _) => .isFalse id
  | .secret (.list _) => .isFalse id
  | .health => .isFalse id
  | .serverVersion => .isFalse id
  | .encrypt _ _ => .isFalse id
  | .decrypt _ _ => .isFalse id

/-- The mount that an operation is given. -/
def mount? : Service.Action α → Option String
  | .secret action => some action.mount
  | _ => none

/-- The mount for which an operation is counted, without the slashes at its ends: it works on
secrets, its names are accepted and it does not write an empty map. -/
def counted (a : Service.Action α) : Option String :=
  if AllAccepted a.names ∧ ¬ a.IsEmptyWrite then
    a.mount?.map fun m => String.ofList (Text.trimSlashes m.toList)
  else none

/-- The operations that are not counted. -/
theorem counted_eq_none {a : Service.Action α}
    (h : a.mount? = none ∨ (∃ fault, RejectedFor a.names fault) ∨ a.IsEmptyWrite) :
    a.counted = none := by
  rw [counted]
  obtain hnone | ⟨fault, hrejected⟩ | hempty := h
  · rw [hnone, Option.map_none, ite_self]
  · exact if_neg fun haccepted => Argument.not_allAccepted hrejected haccepted.1
  · exact if_neg fun haccepted => haccepted.2 hempty

end Service.Action

theorem Call.mount_map {α β : Type} (f : α → β) (c : Call α) : (c.map f).mount = c.mount := rfl

namespace Secrets

variable {α : Type}

theorem mount_onKey {mount key : String} {f : Handle → String → Call α}
    (h : AllAccepted (keyNames mount key)) (hf : ∀ h k, (f h k).mount = some h.mount) :
    (onKey mount key f).mount = some (String.ofList (Text.trimSlashes mount.toList)) := by
  obtain ⟨⟨m, hm⟩, k, hk⟩ := Argument.allAccepted_keyNames.1 h
  obtain ⟨-, -, -, hlist⟩ := Argument.require_eq_ok hm
  rw [onKey_accepted hm hk, hf, ← hlist, String.ofList_toList]

theorem mount_readScalar {mount key : String} (h : AllAccepted (keyNames mount key))
    (version : Version) : (readScalar mount key version).mount =
      some (String.ofList (Text.trimSlashes mount.toList)) := by
  rw [readScalar, Call.mount_map, readScalarVersioned]
  exact mount_onKey h fun _ _ => rfl

theorem mount_readMap {mount key : String} (h : AllAccepted (keyNames mount key))
    (version : Version) : (readMap mount key version).mount =
      some (String.ofList (Text.trimSlashes mount.toList)) := by
  rw [readMap]
  exact mount_onKey h fun _ _ => rfl

theorem Action.mount_call (a : Secrets.Action α) (h : AllAccepted a.names)
    (hne : ¬ (Service.Action.secret a).IsEmptyWrite) :
    a.call.mount = some (String.ofList (Text.trimSlashes a.mount.toList)) := by
  cases a with
  | write mount key value =>
    rw [call, Service.writeSecret, writeScalar, Action.mount]
    exact mount_onKey h fun _ _ => rfl
  | read mount key =>
    rw [call, Service.readSecret, Service.readSecretVersion, Action.mount]
    exact mount_readScalar h .latest
  | readVersion mount key version =>
    rw [call, Service.readSecretVersion, Action.mount]
    exact mount_readScalar h version
  | readVersioned mount key version =>
    rw [call, Service.readVersionedSecret, readScalarVersioned, Action.mount]
    exact mount_onKey h fun _ _ => rfl
  | writeMap mount key map =>
    have hmap : ¬ map.isEmpty = true := by simpa [Service.Action.IsEmptyWrite] using hne
    rw [call, Service.writeSecretMap, Secrets.writeMap, Action.mount]
    refine mount_onKey h fun handle k => ?_
    rw [if_neg hmap, through]
  | readMap mount key =>
    rw [call, Service.readSecretMap, Service.readSecretMapVersion, Action.mount]
    exact mount_readMap h .latest
  | readMapVersion mount key version =>
    rw [call, Service.readSecretMapVersion, Action.mount]
    exact mount_readMap h version
  | list mount =>
    obtain ⟨m, hm⟩ := Argument.allAccepted_singleton.1 h
    obtain ⟨-, -, -, hlist⟩ := Argument.require_eq_ok hm
    rw [call, Service.listSecrets, Secrets.list, hm, Call.ofArgument, through, Action.mount,
      ← hlist, String.ofList_toList]

end Secrets

namespace Service

variable {α : Type} (s : Service)

/-- An operation looks up the handle of the mount for which it is counted. -/
theorem Action.mount_call (a : Service.Action α) : (a.call s).mount = a.counted := by
  rw [counted]
  split
  · next h =>
    cases a with
    | secret action => exact Secrets.Action.mount_call action h.1 h.2
    | _ => rfl
  · next h =>
    rcases Argument.allAccepted_or_rejectedFor a.names with haccepted | hrejected
    · have he : a.IsEmptyWrite := by
        by_contra hne
        exact h ⟨haccepted, hne⟩
      obtain ⟨r, hr⟩ := Action.call_emptyWrite s haccepted he
      rw [hr]
      rfl
    · obtain ⟨fault, -, hcall⟩ := Action.call_rejected s a hrejected
      rw [hcall]
      rfl

/-! ### The handles after a run -/

variable {σ : Type} (b : Backend σ)

/-- The mounts for which the operations of a history are counted. -/
def countedMounts (h : History Service.Action) : List String := h.filterMap fun op => op.2.counted

theorem handles_act (a : Service.Action α) (session : Session σ) :
    (s.act b a session).2.handles = session.handles.touchAll a.counted.toList := by
  rw [act, Call.run, Action.mount_call]
  cases a.counted <;> rfl

/-- The handles after a history are those of the lookups that are counted. -/
theorem handles_run (h : History Service.Action) (session : Session σ) :
    (History.run (s.act b) h session).2.handles =
      session.handles.touchAll (countedMounts h) := by
  induction h generalizing session with
  | nil => rfl
  | cons op rest ih =>
    have hmounts : countedMounts (op :: rest) = op.2.counted.toList ++ countedMounts rest := by
      rw [countedMounts, countedMounts, List.filterMap_cons]
      cases op.2.counted <;> rfl
    rw [History.run_cons_snd, ih, handles_act, hmounts, HandleCache.touchAll_append]

end Service

/-! ### Copies of a client -/

/-- A client and its copies: the sessions that there are, and for each copy, the client itself
among them, the place of the session that it works on. -/
structure Clients (σ : Type) where
  sessions : List (Session σ)
  copies : List Nat

namespace Clients

variable {σ : Type}

/-- One client on a session of its own. -/
def new (session : Session σ) : Clients σ := ⟨[session], [0]⟩

/-- The session that a copy works on. -/
def session? (cs : Clients σ) (copy : Nat) : Option (Session σ) :=
  cs.copies[copy]?.bind fun place => cs.sessions[place]?

/-- One more copy, of one of the copies: it works on the same session. -/
def clone (cs : Clients σ) (copy : Nat) : Clients σ :=
  { cs with copies := cs.copies ++ cs.copies[copy]?.toList }

/-- An operation on one of the copies. -/
def act {α : Type} (s : Service) (b : Backend σ) (cs : Clients σ) (copy : Nat)
    (a : Service.Action α) : Clients σ :=
  match cs.copies[copy]? with
  | some place => { cs with sessions := cs.sessions.modify place fun t => (s.act b a t).2 }
  | none => cs

/-- The clients that arise from a new one, with the operations carried out on its copies so far. -/
inductive Reached (s : Service) (b : Backend σ) (state : σ) :
    History Service.Action → Clients σ → Prop
  | new : Reached s b state [] (.new (.fresh state))
  | clone {h : History Service.Action} {cs : Clients σ} (hr : Reached s b state h cs) (copy : Nat)
    (hcopy : copy < cs.copies.length) : Reached s b state h (cs.clone copy)
  | act {h : History Service.Action} {cs : Clients σ} (hr : Reached s b state h cs) (copy : Nat)
    (hcopy : copy < cs.copies.length) {α : Type} (a : Service.Action α) :
    Reached s b state (h ++ [⟨α, a⟩]) (cs.act s b copy a)

variable {s : Service} {b : Backend σ} {state : σ} {h : History Service.Action} {cs : Clients σ}

/-! ### All copies work on one session -/

theorem session?_shared (t : Session σ) (n copy : Nat) :
    (Clients.mk [t] (List.replicate n 0)).session? copy = if copy < n then some t else none := by
  rw [session?, List.getElem?_replicate]
  split <;> rfl

theorem act_shared {α : Type} (t : Session σ) {n copy : Nat} (hcopy : copy < n)
    (a : Service.Action α) :
    (Clients.mk [t] (List.replicate n 0)).act s b copy a =
      ⟨[(s.act b a t).2], List.replicate n 0⟩ := by
  rw [act, List.getElem?_replicate, if_pos hcopy]
  rfl

theorem act_of_le {α : Type} (t : Session σ) {n copy : Nat} (hcopy : n ≤ copy)
    (a : Service.Action α) :
    (Clients.mk [t] (List.replicate n 0)).act s b copy a = ⟨[t], List.replicate n 0⟩ := by
  rw [act, List.getElem?_replicate, if_neg (Nat.not_lt.2 hcopy)]

/-- Operations on copies are a history on the one session that all copies work on. -/
theorem Reached.exists_run (hr : Reached s b state h cs) :
    ∃ n, cs = ⟨[(History.run (s.act b) h (.fresh state)).2], List.replicate n 0⟩ := by
  induction hr with
  | new => exact ⟨1, rfl⟩
  | clone _ copy hcopy ih =>
    obtain ⟨n, rfl⟩ := ih
    rw [List.length_replicate] at hcopy
    refine ⟨n + 1, ?_⟩
    rw [Clients.clone, List.getElem?_replicate, if_pos hcopy, List.replicate_succ']
    rfl
  | act _ copy hcopy a ih =>
    obtain ⟨n, rfl⟩ := ih
    rw [List.length_replicate] at hcopy
    exact ⟨n, by rw [act_shared _ hcopy, History.run_concat_snd]⟩

/-- **The statistics account for the run.**  After any operations on a client and its copies,
whatever the backend does: every copy shows as many handles made as there are mounts among those
for which the operations are counted, and as many handles made and hits together as there are such
operations; and an operation that works on no secrets, one with a rejected name and a write of an
empty map leave the handles as they are. -/
theorem statistics (hr : Reached s b state h cs) :
    (∀ copy < cs.copies.length, ∃ session, cs.session? copy = some session ∧
      session.handles.created = (Service.countedMounts h).toFinset.card ∧
      session.handles.created + session.handles.hits = (Service.countedMounts h).length) ∧
    (∀ copy < cs.copies.length, ∀ other < cs.copies.length,
      cs.session? copy = cs.session? other) ∧
    ∀ {α : Type} (a : Service.Action α),
      (a.mount? = none ∨ (∃ fault, RejectedFor a.names fault) ∨ a.IsEmptyWrite) →
      ∀ copy other, ((cs.act s b copy a).session? other).map Session.handles =
        (cs.session? other).map Session.handles := by
  obtain ⟨n, rfl⟩ := hr.exists_run
  rw [List.length_replicate]
  have hhandles := Service.handles_run s b h (.fresh state)
  have hcreated := HandleCache.created_touchAll .empty List.nodup_nil (Service.countedMounts h)
  have haccount := HandleCache.created_add_hits_touchAll .empty (Service.countedMounts h)
  refine ⟨fun copy hcopy => ⟨_, by rw [session?_shared, if_pos hcopy], ?_, ?_⟩,
    fun copy hcopy other hother => ?_, fun a ha copy other => ?_⟩
  · rw [hhandles, Session.fresh, hcreated]
    simp [HandleCache.created, HandleCache.empty]
  · rw [hhandles, Session.fresh, haccount]
    simp [HandleCache.created, HandleCache.empty]
  · rw [session?_shared, session?_shared, if_pos hcopy, if_pos hother]
  · have hsame : ∀ t : Session σ, (s.act b a t).2.handles = t.handles := fun t => by
      rw [Service.handles_act, Service.Action.counted_eq_none ha]
      rfl
    rcases Nat.lt_or_ge copy n with hcopy | hcopy
    · rw [act_shared _ hcopy, session?_shared, session?_shared]
      split
      · rw [Option.map_some, Option.map_some, hsame]
      · rfl
    · rw [act_of_le _ hcopy]

/-- A read, an encryption and a write of nothing by the client itself, then two lists by a copy:
the copy and the client both show two handles for three lookups. -/
theorem statistics_twoMounts :
    ∃ s, Service.ofSettings Service.slashedSettings = .ok s ∧
      ∃ (h : History Service.Action) (cs : Clients Script), Reached s Script.backend [] h cs ∧
        cs.copies.length = 2 ∧ cs.session? 0 = cs.session? 1 ∧
        (∃ session, cs.session? 1 = some session ∧ session.handles.created = 2 ∧
          session.handles.created + session.handles.hits = 3) ∧
        (Service.Action.health.mount? = none ∧
          ((cs.act s Script.backend 1 .health).session? 0).map Session.handles =
            (cs.session? 0).map Session.handles) := by
  obtain ⟨s, hs⟩ : ∃ s, Service.ofSettings Service.slashedSettings = .ok s := ⟨_, rfl⟩
  have hnew : Reached s Script.backend [] [] (.new (.fresh [])) := .new
  have hreached := (((((hnew.act 0 Nat.one_pos (.secret (.read "/kv/" "db"))).act 0 Nat.one_pos
    (.encrypt "app" [])).act 0 Nat.one_pos (.secret (.writeMap "kv" "db" []))).clone 0
      Nat.one_pos).act 1 Nat.one_lt_two (.secret (.list "kv"))).act 1 Nat.one_lt_two
        (.secret (.list "team//"))
  obtain ⟨haccount, hsame, hkeep⟩ := statistics hreached
  obtain ⟨session, hsession, hcreated, hboth⟩ := haccount 1 Nat.one_lt_two
  exact ⟨s, hs, _, _, hreached, rfl, hsame 0 Nat.two_pos 1 Nat.one_lt_two,
    ⟨session, hsession, hcreated.trans (by decide), hboth.trans (by decide)⟩,
    rfl, hkeep .health (.inl rfl) 1 0⟩

end Clients
end Strongbox
