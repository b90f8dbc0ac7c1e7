/-
What error texts tell of secrets.

Two answers of success are compared that differ only in the contents of the scalars of a secret,
which stands at one place of their bodies (`Response.AlikeBut`).  An operation that reads the secret
goes the same way on both, up to the point at which a text is taken for base64.  Where both fail,
the errors are of one case, but they need not be one text: the fault of a payload quotes the scalar
that stands in the way, and that of a plaintext the symbol.

* `Entry.related_decode` — the entries of such answers are alike as well;
* `quotesAt_finishGet`, `quotesAt_finishDecrypt` — the errors are one text exactly if the answers
  quote the same;
* `act_error_eq_iff` — so it is with every operation that reads a secret;
* `act_discloses_pin` — two numbers in the place of a text are told apart by the error.
-/
import Strongbox.Proofs.Absence
import Strongbox.Proofs.Numerals
import Strongbox.Proofs.Outlines
import Strongbox.Proofs.Validation

namespace Strongbox

open Json (outline outlineAt)

/-! ### Answers that are alike -/

/-- Two answers that differ at most in the contents of the scalars at a place of their bodies. -/
structure Response.AlikeBut (path : List String) (r₁ r₂ : Response) : Prop where
  status : r₁.status = r₂.status
  requestId : r₁.requestId = r₂.requestId
  body : r₁.body.map (outlineAt path) = r₂.body.map (outlineAt path)

theorem Response.AlikeBut.isSuccess {path : List String} {r₁ r₂ : Response}
    (h : r₁.AlikeBut path r₂) : r₁.isSuccess = r₂.isSuccess := by
  rw [Response.isSuccess, Response.isSuccess, h.status]

/-- The `data` of like answers is alike. -/
theorem Response.AlikeBut.related_data {path : List String} {r₁ r₂ : Response}
    (h : r₁.AlikeBut ("data" :: path) r₂) :
    Results.Related (· = ·) (fun v w => outlineAt path v = outlineAt path w) r₁.data r₂.data := by
  obtain ⟨status, body, id⟩ := r₁
  obtain ⟨status', body', id'⟩ := r₂
  have hbody : body.map (outlineAt ("data" :: path)) = body'.map (outlineAt ("data" :: path)) :=
    h.body
  cases body with
  | none =>
    obtain rfl : body' = none := by simpa using hbody.symm
    exact .error rfl
  | some v =>
    cases body' with
    | none => exact absurd hbody (by simp)
    | some w =>
      rcases Json.cases_of_outlineAt (Option.some.inj hbody) with rfl | ⟨ms, ns, rfl, rfl, hms⟩
      · exact .refl (fun _ => rfl) fun _ => rfl
      · have hlookup := Json.lookup_of_memberAlikeAt hms
        rw [Response.data, Response.data]
        dsimp only
        cases hv : Json.lookup "data" ms with
        | none =>
          rw [hv] at hlookup
          rw [Option.map_eq_none_iff.1 hlookup.symm]
          exact .error rfl
        | some a =>
          rw [hv] at hlookup
          obtain ⟨b, hw, hab⟩ := Option.map_eq_some_iff.1 hlookup.symm
          rw [hw]
          dsimp only
          rw [Json.isNull_of_outlineAt hab.symm]
          split
          · exact .error rfl
          · exact .ok hab.symm

/-! ### Entries -/

namespace Entry

/-- Two entries that differ at most in the contents of the scalars of their payloads. -/
def Alike (e f : Entry) : Prop :=
  e.metadata = f.metadata ∧ e.data.map outline = f.data.map outline

theorem alike_present {v w : Json} (h : v.outline = w.outline) :
    (present v).map outline = (present w).map outline := by
  have hnull : v.isNull = w.isNull := by
    rw [← Json.isNull_outline v, h, Json.isNull_outline]
  rw [present, present, hnull]
  split
  · rfl
  · exact congrArg some h

theorem related_putMember {e f : Entry} {m n : String × Json}
    (hmn : Json.MemberAlikeAt "data" [] m n) (h : Alike e f) :
    Results.Related (· = ·) Alike (shape.putMember e m) (shape.putMember f n) := by
  obtain ⟨name, v⟩ := m
  obtain ⟨name', w⟩ := n
  obtain ⟨rfl, hdata, hsame⟩ : name = name' ∧ _ := hmn
  by_cases hname : name = "data"
  · subst hname
    rw [Memory.putMember_data, Memory.putMember_data]
    exact .ok ⟨h.1, alike_present (hdata rfl)⟩
  · obtain rfl : v = w := hsame hname
    by_cases hmetadata : name = "metadata"
    · subst hmetadata
      rw [Memory.putMember_metadata, Memory.putMember_metadata]
      exact (Results.Related.refl (fun _ => rfl) fun _ => rfl).map fun a b hab => ⟨hab, h.2⟩
    · rw [Memory.putMember_of_ne hname hmetadata, Memory.putMember_of_ne hname hmetadata]
      exact .ok h

/-- The entries of values that are alike but for the payload are alike. -/
theorem related_decode {v w : Json} (h : outlineAt ["data"] v = outlineAt ["data"] w) :
    Results.Related (· = ·) Alike (decode v) (decode w) := by
  have hrefl : ∀ e, Alike e e := fun e => ⟨rfl, rfl⟩
  rcases Json.cases_of_outlineAt h with rfl | ⟨ms, ns, rfl, rfl, hms⟩
  · exact .refl (fun _ => rfl) hrefl
  · show Results.Related (· = ·) Alike (shape.ofMembers ms) (shape.ofMembers ns)
    rw [Json.Shape.ofMembers, Json.Shape.ofMembers,
      Json.missing?_congr shape (hms.imp fun _ _ hmn => hmn.1)]
    refine (Results.Related.foldlM hms (hrefl shape.blank) fun e f m n hmn hef =>
      related_putMember hmn hef).bind fun e f hef => ?_
    split
    · exact .error rfl
    · exact .ok hef

/-- What an answer to a read quotes of its payload: nothing, if it holds no entry. -/
def quoted (payload : Json → Option String) (r : Response) : Option String :=
  (r.dataAs decode).toOption.bind fun e => e.data.bind payload

end Entry

theorem Response.AlikeBut.related_entry {r₁ r₂ : Response} (h : r₁.AlikeBut ["data", "data"] r₂) :
    Results.Related (· = ·) Entry.Alike (r₁.dataAs Entry.decode) (r₂.dataAs Entry.decode) :=
  h.related_data.bind fun _ _ hvw =>
    (Entry.related_decode hvw).mapError fun _ _ hf => congrArg Error.ofDecode hf

/-! ### Errors that quote -/

theorem Error.message_deserialize_inj {m m' : String} :
    (Error.deserialize m).message = (Error.deserialize m').message ↔ m = m' := by
  show "deserialize: " ++ m = "deserialize: " ++ m' ↔ m = m'
  rw [String.append_right_inj]

/-- Of two answers of success that are alike but for a place, the errors are of one case, and they
are one text exactly if the answers quote the same. -/
def QuotesAt {α : Type} (path : List String) (quoted : Response → Option String)
    (finish : Response → Result α) : Prop :=
  ∀ r₁ r₂ e₁ e₂, r₁.isSuccess = true → r₁.AlikeBut path r₂ → finish r₁ = .error e₁ →
    finish r₂ = .error e₂ →
    e₁.caseName = e₂.caseName ∧ (e₁.message = e₂.message ↔ quoted r₁ = quoted r₂)

theorem QuotesAt.map {α β : Type} {path : List String} {quoted : Response → Option String}
    {finish : Response → Result α} (h : QuotesAt path quoted finish) (g : α → β) :
    QuotesAt path quoted fun r => (finish r).map g :=
  fun r₁ r₂ e₁ e₂ hsuccess halike h₁ h₂ =>
    h r₁ r₂ e₁ e₂ hsuccess halike (Results.map_eq_error.1 h₁) (Results.map_eq_error.1 h₂)

namespace Handle

variable {α : Type} (h : Handle) (key : String)

theorem readEntry_eq_error_iff {decode : Json → Except Json.DecodeFault α} {e : Entry}
    {error : Error} : h.readEntry key decode e = .error error ↔
      ∃ v f, e.data = some v ∧ v ≠ .null ∧ decode v = .error f ∧
        error = h.payloadFault key e.metadata.version f := by
  obtain ⟨_ | v, metadata⟩ := e
  · simp [readEntry]
  · cases v with
    | null => simp [readEntry]
    | _ =>
      simp only [readEntry]
      split
      · next a ha => simp [ha]
      · next f hf => simp [hf, eq_comm]

theorem message_payloadFault_inj {version : Nat} {f g : Json.DecodeFault} :
    (h.payloadFault key version f).message = (h.payloadFault key version g).message ↔
      f.message = g.message := by
  rw [payloadFault, payloadFault, Error.message_deserialize_inj, String.append_right_inj]

theorem finishGet_of_isSuccess {decode : Json → Except Json.DecodeFault α} {r : Response}
    (hr : r.isSuccess = true) :
    h.finishGet key decode r = r.dataAs Entry.decode >>= h.readEntry key decode := by
  have hfound : ¬ r.isNotFound = true := fun hfound => by
    have hstatus := Response.isSuccess_iff.1 hr
    have h404 := Response.isNotFound_iff.1 hfound
    omega
  rw [finishGet, if_neg hfound, hr, Bool.not_true, if_neg Bool.false_ne_true]

/-- A read quotes what its payload quotes. -/
theorem quotesAt_finishGet {decode : Json → Except Json.DecodeFault α}
    {payload : Json → Option String} (hdecode : Json.Quotes decode payload) :
    QuotesAt ["data", "data"] (Entry.quoted payload) (h.finishGet key decode) := by
  intro r₁ r₂ e₁ e₂ hsuccess halike h₁ h₂
  rw [finishGet_of_isSuccess h key hsuccess] at h₁
  rw [finishGet_of_isSuccess h key (halike.isSuccess ▸ hsuccess)] at h₂
  rw [Entry.quoted, Entry.quoted]
  have hentry := halike.related_entry
  generalize r₁.dataAs Entry.decode = x at h₁ hentry ⊢
  generalize r₂.dataAs Entry.decode = y at h₂ hentry ⊢
  cases hentry with
  | error heq =>
    obtain rfl : _ = e₁ := Except.error.inj h₁
    obtain rfl : _ = e₂ := Except.error.inj h₂
    exact ⟨by rw [heq], iff_of_true (by rw [heq]) rfl⟩
  | @ok x y hxy =>
    obtain ⟨v, f, hv, _, hf, rfl⟩ := (h.readEntry_eq_error_iff key).1 h₁
    obtain ⟨w, g, hw, _, hg, rfl⟩ := (h.readEntry_eq_error_iff key).1 h₂
    obtain ⟨hmetadata, hdata⟩ := hxy
    rw [hv, hw, Option.map_some, Option.map_some, Option.some_inj] at hdata
    refine ⟨rfl, ?_⟩
    rw [hmetadata, h.message_payloadFault_inj]
    show _ ↔ x.data.bind payload = y.data.bind payload
    rw [hv, hw]
    have hfaults := hdecode v w hdata
    rw [hf, hg] at hfaults
    cases hfaults with
    | error hfg => exact hfg

end Handle

namespace Transit

/-- What a text is told to have wrong as base64: a symbol and its place, or its length. -/
def quotedSymbol (s : String) : Option String :=
  match Base64.decode s with
  | .error f => some f.message
  | .ok _ => none

/-- What is quoted of the data of a decryption: the plaintext, if it is no text, or what is wrong
with it as base64. -/
def quotedData (v : Json) : Option String :=
  match Decrypted.shape.decode v with
  | .ok d => quotedSymbol d.plaintext
  | .error _ => Json.quotedField "plaintext" v

/-- What an answer to a decryption quotes: nothing, if it holds no data. -/
def quoted (r : Response) : Option String := r.data.toOption.bind quotedData

theorem finish_of_isSuccess {α : Type} {refused : String → Error}
    {decode : Json → Except Json.DecodeFault α} {r : Response} (hr : r.isSuccess = true) :
    finish refused decode r = r.dataAs decode := by
  have h400 : ¬ r.status = 400 := fun h400 => by
    have hstatus := Response.isSuccess_iff.1 hr
    omega
  rw [finish, if_neg h400, hr, Bool.not_true, if_neg Bool.false_ne_true]

theorem readPlaintext_eq_error_iff {s : String} {e : Error} : readPlaintext s = .error e ↔
    ∃ f, Base64.decode s = .error f ∧
      e = .deserialize ("transit plaintext is not base64: " ++ f.message) := by
  rw [readPlaintext]
  cases Base64.decode s with
  | error f => simp [Except.mapError, eq_comm]
  | ok bs => simp [Except.mapError]

/-- A decryption quotes the plaintext where it is no text, and else a part of it. -/
theorem quotesAt_finishDecrypt :
    QuotesAt ["data", "plaintext"] quoted finishDecrypt := by
  intro r₁ r₂ e₁ e₂ hsuccess halike h₁ h₂
  rw [finishDecrypt, finish_of_isSuccess hsuccess, Response.dataAs] at h₁
  rw [finishDecrypt, finish_of_isSuccess (halike.isSuccess ▸ hsuccess), Response.dataAs] at h₂
  rw [quoted, quoted]
  have hdata := halike.related_data
  generalize r₁.data = x at h₁ hdata ⊢
  generalize r₂.data = y at h₂ hdata ⊢
  cases hdata with
  | error heq =>
    obtain rfl : _ = e₁ := Except.error.inj h₁
    obtain rfl : _ = e₂ := Except.error.inj h₂
    exact ⟨by rw [heq], iff_of_true (by rw [heq]) rfl⟩
  | @ok v w hvw =>
    have hrecord := Json.quotes_ofField (s := Decrypted.shape) rfl v w
      (Json.outline_of_outlineAt hvw)
    show e₁.caseName = e₂.caseName ∧ (e₁.message = e₂.message ↔ quotedData v = quotedData w)
    rw [quotedData, quotedData]
    change ((Decrypted.shape.decode v).mapError Error.ofDecode >>= fun d =>
      readPlaintext d.plaintext) = .error e₁ at h₁
    change ((Decrypted.shape.decode w).mapError Error.ofDecode >>= fun d =>
      readPlaintext d.plaintext) = .error e₂ at h₂
    generalize Decrypted.shape.decode v = c at h₁ hrecord ⊢
    generalize Decrypted.shape.decode w = d at h₂ hrecord ⊢
    cases hrecord with
    | error hfg =>
      obtain rfl : _ = e₁ := Except.error.inj h₁
      obtain rfl : _ = e₂ := Except.error.inj h₂
      exact ⟨rfl, Error.message_deserialize_inj.trans hfg⟩
    | @ok c d _ =>
      -- both plaintexts are texts, and neither is base64
      obtain ⟨f, hf, rfl⟩ := readPlaintext_eq_error_iff.1 h₁
      obtain ⟨g, hg, rfl⟩ := readPlaintext_eq_error_iff.1 h₂
      refine ⟨rfl, ?_⟩
      show _ ↔ quotedSymbol c.plaintext = quotedSymbol d.plaintext
      rw [quotedSymbol, quotedSymbol, hf, hg, Error.message_deserialize_inj,
        String.append_right_inj, Option.some_inj]

end Transit

/-! ### Operations that read a secret -/

/-- The place of the secret in the answers to an operation that reads one. -/
def Service.Action.secretPath? {α : Type} : Service.Action α → Option (List String)
  | .decrypt _ _ => some ["data", "plaintext"]
  | .secret (.read _ _) => some ["data", "data"]
  | .secret (.readVersion _ _ _) => some ["data", "data"]
  | .secret (.readVersioned _ _ _) => some ["data", "data"]
  | .secret (.readMap _ _) => some ["data", "data"]
  | .secret (.readMapVersion _ _ _) => some ["data", "data"]
  | _ => none

/-- What the error of an operation that reads a secret quotes of the answer to it. -/
def Service.Action.quoted {α : Type} : Service.Action α → Response → Option String
  | .decrypt _ _ => Transit.quoted
  | .secret (.read _ _) => Entry.quoted (Json.quotedField "value")
  | .secret (.readVersion _ _ _) => Entry.quoted (Json.quotedField "value")
  | .secret (.readVersioned _ _ _) => Entry.quoted (Json.quotedField "value")
  | .secret (.readMap _ _) => Entry.quoted StringMap.quoted
  | .secret (.readMapVersion _ _ _) => Entry.quoted StringMap.quoted
  | _ => fun _ => none

/-- An operation that makes an exchange, and quotes of the answer to it. -/
def Call.QuotesAt {α : Type} (c : Call α) (path : List String)
    (quoted : Response → Option String) : Prop :=
  ∃ q finish, c.plan = .exchange q finish ∧ Strongbox.QuotesAt path quoted finish

theorem Call.QuotesAt.map {α β : Type} {c : Call α} {path : List String}
    {quoted : Response → Option String} (h : c.QuotesAt path quoted) (g : α → β) :
    (c.map g).QuotesAt path quoted := by
  obtain ⟨q, finish, hplan, hfinish⟩ := h
  exact ⟨q, fun r => (finish r).map g, by rw [Call.plan_map, hplan, Plan.map], hfinish.map g⟩

namespace Secrets

open Argument (AllAccepted)

/-- A read of an accepted key quotes what its payload quotes. -/
theorem quotesAt_get {α β : Type} {mount key : String} (h : AllAccepted (keyNames mount key))
    (version : Version) {decode : Json → Except Json.DecodeFault α}
    {payload : Json → Option String} (hdecode : Json.Quotes decode payload)
    (g : Option (Versioned α) → β) :
    (onKey mount key fun h key => through h ((h.get key version decode).map g)).QuotesAt
      ["data", "data"] (Entry.quoted payload) := by
  obtain ⟨⟨m, hm⟩, k, hk⟩ := Argument.allAccepted_keyNames.1 h
  exact ⟨_, _, plan_get hm hk version decode g, (Handle.quotesAt_finishGet ⟨m⟩ k hdecode).map g⟩

theorem quotesAt_readScalarVersioned {mount key : String} (h : AllAccepted (keyNames mount key))
    (version : Version) :
    (readScalarVersioned mount key version).QuotesAt ["data", "data"]
      (Entry.quoted (Json.quotedField "value")) := by
  rw [readScalarVersioned]
  exact quotesAt_get h version (Json.quotes_ofField rfl) _

theorem quotesAt_readMap {mount key : String} (h : AllAccepted (keyNames mount key))
    (version : Version) :
    (readMap mount key version).QuotesAt ["data", "data"] (Entry.quoted StringMap.quoted) := by
  rw [readMap]
  exact quotesAt_get h version StringMap.quotes_decode _

end Secrets

namespace Service

open Argument (AllAccepted)

theorem Action.quotesAt_call {α : Type} (s : Service) (a : Service.Action α) {path : List String}
    (hpath : a.secretPath? = some path) (h : AllAccepted a.names) :
    (a.call s).QuotesAt path a.quoted := by
  cases a with
  | health => exact absurd hpath (by simp [secretPath?])
  | serverVersion => exact absurd hpath (by simp [secretPath?])
  | encrypt key plaintext => exact absurd hpath (by simp [secretPath?])
  | decrypt key ciphertext =>
    obtain rfl := Option.some.inj hpath
    obtain ⟨k, hk⟩ := Argument.allAccepted_singleton.1 h
    rw [call, Service.decrypt, Call.direct, Transit.decrypt, hk, Plan.ofArgument]
    exact ⟨_, _, rfl, Transit.quotesAt_finishDecrypt⟩
  | secret action =>
    cases action with
    | read mount key =>
      obtain rfl := Option.some.inj hpath
      rw [call, Secrets.Action.call, Service.readSecret, Service.readSecretVersion,
        Secrets.readScalar]
      exact (Secrets.quotesAt_readScalarVersioned h .latest).map _
    | readVersion mount key version =>
      obtain rfl := Option.some.inj hpath
      rw [call, Secrets.Action.call, Service.readSecretVersion, Secrets.readScalar]
      exact (Secrets.quotesAt_readScalarVersioned h version).map _
    | readVersioned mount key version =>
      obtain rfl := Option.some.inj hpath
      rw [call, Secrets.Action.call, Service.readVersionedSecret]
      exact Secrets.quotesAt_readScalarVersioned h version
    | readMap mount key =>
      obtain rfl := Option.some.inj hpath
      rw [call, Secrets.Action.call, Service.readSecretMap, Service.readSecretMapVersion]
      exact Secrets.quotesAt_readMap h .latest
    | readMapVersion mount key version =>
      obtain rfl := Option.some.inj hpath
      rw [call, Secrets.Action.call, Service.readSecretMapVersion]
      exact Secrets.quotesAt_readMap h version
    | write mount key value => exact absurd hpath (by simp [secretPath?])
    | writeMap mount key map => exact absurd hpath (by simp [secretPath?])
    | list mount => exact absurd hpath (by simp [secretPath?])

/-- **What error texts tell of secrets.**  If an operation that reads a secret fails on two
answers of success that differ only in the contents of the scalars of the secret, then the errors
are of one case, and they are one text exactly if a name is rejected or the answers quote the
same. -/
theorem act_error_eq_iff (s : Service) {α : Type} (a : Service.Action α) {path : List String}
    (hpath : a.secretPath? = some path) {r₁ r₂ : Response} (hsuccess : r₁.isSuccess = true)
    (halike : r₁.AlikeBut path r₂) {σ₁ σ₂ : Type} {b₁ : Backend σ₁} {b₂ : Backend σ₂}
    {session₁ : Session σ₁} {session₂ : Session σ₂}
    (h₁ : ∀ q, (b₁.answer q session₁.state).1 = .ok r₁)
    (h₂ : ∀ q, (b₂.answer q session₂.state).1 = .ok r₂) {e₁ e₂ : Error}
    (he₁ : (s.act b₁ a session₁).1 = .error e₁) (he₂ : (s.act b₂ a session₂).1 = .error e₂) :
    e₁.caseName = e₂.caseName ∧
      (e₁.message = e₂.message ↔ ¬ AllAccepted a.names ∨ a.quoted r₁ = a.quoted r₂) := by
  rcases Argument.allAccepted_or_rejectedFor a.names with haccepted | hrejected
  · obtain ⟨q, finish, hplan, hfinish⟩ := Action.quotesAt_call s a hpath haccepted
    have hrun₁ := (Call.run_of_plan hplan b₁ session₁).1
    have hrun₂ := (Call.run_of_plan hplan b₂ session₂).1
    rw [h₁ q] at hrun₁
    rw [h₂ q] at hrun₂
    have hquotes := hfinish r₁ r₂ e₁ e₂ hsuccess halike (hrun₁.symm.trans he₁)
      (hrun₂.symm.trans he₂)
    exact ⟨hquotes.1, hquotes.2.trans ⟨Or.inr, fun h => h.resolve_left (not_not_intro haccepted)⟩⟩
  · -- the operation is settled by the fault of a name
    obtain ⟨fault, hfault, hcall⟩ := Action.call_rejected s a hrejected
    rw [act_of_settled s b₁ hcall session₁] at he₁
    rw [act_of_settled s b₂ hcall session₂] at he₂
    obtain rfl : e₁ = e₂ := (Except.error.inj he₁).symm.trans (Except.error.inj he₂)
    have hnot : ¬ AllAccepted a.names := fun haccepted => by
      obtain ⟨n, hn, hreject⟩ := hfault
      obtain ⟨v, hv⟩ := haccepted n hn
      rw [hv] at hreject
      exact absurd hreject (by simp)
    exact ⟨rfl, iff_of_true rfl (Or.inl hnot)⟩

/-- A payload with a number. -/
def pin (n : Int) : Json := .object [("pin", .integer n)]

/-- The session of a server that holds a payload with a number. -/
def holdingPin (n : Int) : Session Script := .fresh [.ok (Handle.versionThree (pin n))]

theorem pin_alike (m n : Int) :
    (Handle.versionThree (pin m)).AlikeBut ["data", "data"] (Handle.versionThree (pin n)) :=
  ⟨rfl, rfl, rfl⟩

/-- The fault of a payload with a number that is read as a map of texts. -/
def pinFault (n : Int) : Error :=
  (Handle.mk "kv").payloadFault "db" 3 (.wrongKind (Json.integer n).found "a string")

theorem act_readMap_pin (s : Service) (n : Int) :
    (s.act Script.backend (.secret (.readMap "kv" "db")) (holdingPin n)).1 =
      .error (pinFault n) := rfl

theorem message_pinFault {n : Int} {s : String} (hn : Numeral.decimalInt n = s) :
    (pinFault n).message =
      "deserialize: " ++ ("secret kv/db version 3: " ++
        ("invalid type: " ++ ("integer `" ++ s ++ "`") ++ ", expected " ++ "a string")) := by
  have hthree : Numeral.decimal 3 = "3" := by
    rw [Numeral.decimal, Numeral.digits_of_lt (by decide)]
    rfl
  have hpayload : "secret kv/db version 3: " =
      "secret kv/db version " ++ Numeral.decimal 3 ++ ": " := by
    rw [hthree]
    decide
  rw [hpayload, ← hn]
  rfl

/-- Reads of two payloads with a number as maps of texts: the errors are of one case, and one text
exactly if the answers quote the same. -/
theorem act_error_eq_iff_pins :
    ∃ s e₁ e₂, ofSettings slashedSettings = .ok s ∧
      (s.act Script.backend (.secret (.readMap "kv" "db")) (holdingPin 1234)).1 = .error e₁ ∧
      (s.act Script.backend (.secret (.readMap "kv" "db")) (holdingPin 5678)).1 = .error e₂ ∧
      e₁.caseName = e₂.caseName ∧
      (e₁.message = e₂.message ↔
        ¬ AllAccepted (Action.secret (.readMap "kv" "db")).names ∨
          (Action.secret (.readMap "kv" "db")).quoted (Handle.versionThree (pin 1234)) =
            (Action.secret (.readMap "kv" "db")).quoted (Handle.versionThree (pin 5678))) := by
  obtain ⟨s, hs⟩ : ∃ s, ofSettings slashedSettings = .ok s := ⟨_, rfl⟩
  have h₁ := act_readMap_pin s 1234
  have h₂ := act_readMap_pin s 5678
  exact ⟨s, _, _, hs, h₁, h₂, act_error_eq_iff s (.secret (.readMap "kv" "db")) rfl rfl
    (pin_alike 1234 5678) (fun _ => rfl) (fun _ => rfl) h₁ h₂⟩

/-- Errors tell secrets apart: the number that stands in the place of a text is quoted. -/
theorem act_discloses_pin :
    ∃ s e₁ e₂, ofSettings slashedSettings = .ok s ∧
      (Handle.versionThree (pin 1234)).isSuccess = true ∧
      (Handle.versionThree (pin 1234)).AlikeBut ["data", "data"] (Handle.versionThree (pin 5678)) ∧
      (s.act Script.backend (.secret (.readMap "kv" "db")) (holdingPin 1234)).1 = .error e₁ ∧
      (s.act Script.backend (.secret (.readMap "kv" "db")) (holdingPin 5678)).1 = .error e₂ ∧
      e₁.message = "deserialize: secret kv/db version 3: invalid type: integer `1234`, " ++
        "expected a string" ∧
      e₂.message = "deserialize: secret kv/db version 3: invalid type: integer `5678`, " ++
        "expected a string" ∧
      e₁.message ≠ e₂.message := by
  obtain ⟨s, hs⟩ : ∃ s, ofSettings slashedSettings = .ok s := ⟨_, rfl⟩
  have h₁ : (pinFault 1234).message =
      "deserialize: secret kv/db version 3: invalid type: integer `1234`, " ++
        "expected a string" := by
    have hnumeral : Numeral.decimalInt 1234 = "1234" := by
      simp [Numeral.decimalInt, Numeral.decimal, Numeral.digits, Numeral.lowerDigit]
    rw [message_pinFault hnumeral]
    decide
  have h₂ : (pinFault 5678).message =
      "deserialize: secret kv/db version 3: invalid type: integer `5678`, " ++
        "expected a string" := by
    have hnumeral : Numeral.decimalInt 5678 = "5678" := by
      simp [Numeral.decimalInt, Numeral.decimal, Numeral.digits, Numeral.lowerDigit]
    rw [message_pinFault hnumeral]
    decide
  refine ⟨s, _, _, hs, rfl, pin_alike 1234 5678, act_readMap_pin s 1234, act_readMap_pin s 5678,
    h₁, h₂, ?_⟩
  rw [h₁, h₂]
  decide

end Service
end Strongbox
