/-
Encryption hands over bytes as they are, whatever stands behind it.

Nothing is known here of the server but its answers: an answer that gives a text is one of success
whose data hold it (`Response.Gives`).  Bytes are described by the text that spells them in base64
(`Base64.Spells`), and an operation by the one request that it asks and by what it makes of the
answer (`Direct.Action.Asks`).

* `finish_of_gives` — the text of an answer that gives one;
* `asks_encrypt`, `asks_decrypt` — what either operation asks, and its result;
* `hands_over` — so bytes survive any server that hands back the text that it was given.
-/
import Strongbox.Proofs.DirectCalls
import Strongbox.Proofs.Records
import Strongbox.Proofs.Spelling
import Strongbox.Proofs.Disclosure
import Strongbox.Backend.Script

namespace Strongbox

/-- The answer is one of success, and its data hold a text. -/
inductive Response.Gives (r : Response) (field value : String) : Prop
  | intro {members : List (String × Json)} {v : Json} (hsuccess : 200 ≤ r.status ∧ r.status < 300)
    (hbody : r.body = some (.object members)) (hdata : Json.lookup "data" members = some v)
    (hnull : v ≠ .null) (hholds : Json.Holds field Json.string v value) : r.Gives field value

namespace Transit

variable {r : Response} {s : String}

/-- The record of an answer that gives its text. -/
theorem finish_of_gives {α : Type} {refused : String → Error}
    {decode : Json → Except Json.DecodeFault α} {field : String} {mk : String → α}
    (hdecode : ∀ v s, decode v = .ok (mk s) ↔ Json.Holds field Json.string v s)
    (h : r.Gives field s) : finish refused decode r = .ok (mk s) := by
  obtain ⟨hsuccess, hbody, hdata, hnull, hholds⟩ := h
  rw [finish_of_isSuccess (Response.isSuccess_iff.2 hsuccess)]
  exact Response.dataAs_eq_ok_iff.2
    ⟨_, Response.data_eq_ok_iff.2 ⟨_, hbody, hdata, hnull⟩, (hdecode _ s).2 hholds⟩

theorem Encrypted.decode_eq_ok_iff {v : Json} :
    Encrypted.shape.decode v = .ok ⟨s⟩ ↔ Json.Holds "ciphertext" Json.string v s :=
  Json.Shape.decode_eq_ok_iff rfl (fun _ _ => Json.asText_eq_ok_iff)
    (fun _ _ h => Encrypted.mk.inj h) (Or.inl rfl)

theorem Decrypted.decode_eq_ok_iff {v : Json} :
    Decrypted.shape.decode v = .ok ⟨s⟩ ↔ Json.Holds "plaintext" Json.string v s :=
  Json.Shape.decode_eq_ok_iff rfl (fun _ _ => Json.asText_eq_ok_iff)
    (fun _ _ h => Decrypted.mk.inj h) (Or.inl rfl)

theorem finishEncrypt_of_gives (h : r.Gives "ciphertext" s) : finishEncrypt r = .ok s := by
  rw [finishEncrypt, finish_of_gives (fun _ _ => Encrypted.decode_eq_ok_iff) h]
  rfl

theorem finishDecrypt_of_gives (h : r.Gives "plaintext" s) : finishDecrypt r = readPlaintext s := by
  rw [finishDecrypt, finish_of_gives (fun _ _ => Decrypted.decode_eq_ok_iff) h]
  rfl

/-- A text is read as the bytes that it spells. -/
theorem readPlaintext_eq_ok_iff {bs : List UInt8} :
    readPlaintext s = .ok bs ↔ Base64.Spells s.toList bs := by
  rw [readPlaintext, Results.mapError_eq_ok, Base64.decode_eq_ok_iff_spells]

/-- The fault of a text that spells nothing. -/
theorem exists_readPlaintext_eq_error (h : ∀ bs, ¬ Base64.Spells s.toList bs) :
    ∃ m, readPlaintext s = .error (.deserialize ("transit plaintext is not base64: " ++ m)) := by
  cases hs : readPlaintext s with
  | ok bs => exact absurd (readPlaintext_eq_ok_iff.1 hs) (h bs)
  | error e =>
    obtain ⟨f, -, rfl⟩ := readPlaintext_eq_error_iff.1 hs
    exact ⟨f.message, rfl⟩

end Transit

namespace Direct

/-- The operation asks the server once, for `q`, and what it makes of an answer is as `P` says. -/
def Action.Asks {α : Type} (a : Direct.Action α) (q : Request) (P : Response → Result α → Prop) :
    Prop :=
  ∀ (σ : Type) (b : Backend σ) (session : Session σ),
    (act b a session).2.state = (b.answer q session.state).2 ∧
    ∀ r, (b.answer q session.state).1 = .ok r → P r (act b a session).1

theorem asks_of_plan {α : Type} {a : Direct.Action α} {q : Request} {finish : Response → Result α}
    {P : Response → Result α → Prop} (hplan : a.call.plan = .exchange q finish)
    (hP : ∀ r, P r (finish r)) : a.Asks q P := by
  intro σ b session
  obtain ⟨hresult, hstate⟩ := Call.run_of_plan hplan b session
  refine ⟨hstate, fun r hr => ?_⟩
  have hfinish : (act b a session).1 = finish r := by
    rw [act, hresult, hr]
    rfl
  rw [hfinish]
  exact hP r

/-- What the server is asked for an encryption: the text of the bytes is the whole body. -/
def encryptRequest (mount key text : String) : Request :=
  .write (Endpoint.encrypt mount key) (.object [("plaintext", .string text)])

/-- What the server is asked for a decryption: the ciphertext is the whole body. -/
def decryptRequest (mount key ciphertext : String) : Request :=
  .write (Endpoint.decrypt mount key) (.object [("ciphertext", .string ciphertext)])

section

variable (mount : String) {key k : String} (hk : Argument.require .transitKey key = .ok k)
include hk

theorem plan_encrypt (p : List UInt8) : (Action.encrypt mount key p).call.plan =
    .exchange (encryptRequest mount k (Base64.encodeText p)) Transit.finishEncrypt := by
  rw [Action.call, Call.direct, Transit.encrypt, hk]
  rfl

theorem plan_decrypt (c : String) : (Action.decrypt mount key c).call.plan =
    .exchange (decryptRequest mount k c) Transit.finishDecrypt := by
  rw [Action.call, Call.direct, Transit.decrypt, hk]
  rfl

/-- An encryption asks for the text that spells the bytes, and returns the ciphertext of the
answer. -/
theorem asks_encrypt (p : List UInt8) : (Action.encrypt mount key p).Asks
    (encryptRequest mount k (Base64.encodeText p))
    fun r result => ∀ s, r.Gives "ciphertext" s → result = .ok s :=
  asks_of_plan (plan_encrypt mount hk p) fun _ _ h => Transit.finishEncrypt_of_gives h

/-- A decryption asks for the ciphertext, and returns the bytes that the plaintext of the answer
spells. -/
theorem asks_decrypt (c : String) : (Action.decrypt mount key c).Asks (decryptRequest mount k c)
    fun r result => ∀ s, r.Gives "plaintext" s →
      (∀ bs, result = .ok bs ↔ Base64.Spells s.toList bs) ∧
      ((∀ bs, ¬ Base64.Spells s.toList bs) →
        ∃ m, result = .error (.deserialize ("transit plaintext is not base64: " ++ m))) := by
  refine asks_of_plan (plan_decrypt mount hk c) fun r s hs => ?_
  rw [Transit.finishDecrypt_of_gives hs]
  exact ⟨fun bs => Transit.readPlaintext_eq_ok_iff, Transit.exists_readPlaintext_eq_error⟩

/-- **Bytes are handed over as they are.**  With an accepted key, whatever stands behind the client:
an encryption asks the server once, with the one text that spells the bytes as the whole body, and a
ciphertext in the answer is returned as it is.  A decryption asks the server once, with the
ciphertext as the whole body; a plaintext in the answer is returned as the bytes that it spells, and
is an error if it spells none.  So whenever the answer to a decryption has the text that an
encryption has handed over, the bytes of the encryption are returned. -/
theorem hands_over :
    (∀ p : List UInt8, ∃ text : String, Base64.Spells text.toList p ∧
      (Action.encrypt mount key p).Asks (encryptRequest mount k text)
        fun r result => ∀ s, r.Gives "ciphertext" s → result = .ok s) ∧
    (∀ c : String, (Action.decrypt mount key c).Asks (decryptRequest mount k c)
      fun r result => ∀ s, r.Gives "plaintext" s →
        (∀ bs, result = .ok bs ↔ Base64.Spells s.toList bs) ∧
        ((∀ bs, ¬ Base64.Spells s.toList bs) →
          ∃ m, result = .error (.deserialize ("transit plaintext is not base64: " ++ m)))) ∧
    ∀ (p : List UInt8) (text : String),
      (Action.encrypt mount key p).call.plan.request? = some (encryptRequest mount k text) →
      ∀ c : String, (Action.decrypt mount key c).Asks (decryptRequest mount k c)
        fun r result => r.Gives "plaintext" text → result = .ok p := by
  refine ⟨fun p => ?_, asks_decrypt mount hk, fun p text htext c σ b session => ?_⟩
  · exact ⟨Base64.encodeText p, Base64.spells_iff.2 rfl, asks_encrypt mount hk p⟩
  · obtain ⟨hstate, hresult⟩ := asks_decrypt mount hk c σ b session
    refine ⟨hstate, fun r hr hgives => ((hresult r hr text hgives).1 p).2 (Base64.spells_iff.2 ?_)⟩
    -- the text of the encryption is the one body that it asks with
    rw [plan_encrypt mount hk p] at htext
    have hbody := congrArg Request.body (Option.some_inj.1 htext)
    simpa [encryptRequest, Request.write] using hbody.symm

end

/-- An answer with a plaintext. -/
def decrypted (text : String) : Response :=
  ⟨200, some (.object [("data", .object [("plaintext", .string text)])]), none⟩

theorem gives_decrypted (text : String) : (decrypted text).Gives "plaintext" text := by
  have hstatus : 200 ≤ 200 ∧ 200 < 300 := by omega
  exact .intro hstatus rfl rfl (by simp) ((Json.holds_object_iff (by simp)).2 (by simp))

/-- Two bytes are handed over and come back, and a text with bits behind the last byte is refused. -/
theorem hands_over_twoBytes :
    Argument.require .transitKey "/orders/" = .ok "orders" ∧
    (∃ text : String, Base64.Spells text.toList [0xFF, 0x00] ∧
      (act Script.backend (.decrypt "transit" "/orders/" "vault:v1:x")
        (.fresh [.ok (decrypted text)])).1 = .ok [0xFF, 0x00]) ∧
    ∃ m, (act Script.backend (.decrypt "transit" "/orders/" "vault:v1:x")
      (.fresh [.ok (decrypted "/wB=")])).1 =
        .error (.deserialize ("transit plaintext is not base64: " ++ m)) := by
  have hkey : Argument.require .transitKey "/orders/" = .ok "orders" := rfl
  obtain ⟨hencrypt, hdecrypt, -⟩ := hands_over "transit" hkey
  have hbits : ∀ bs, ¬ Base64.Spells "/wB=".toList bs := by
    intro bs h
    have hread := Base64.decode_eq_ok_iff_spells.2 h
    rw [show Base64.decode "/wB=" = .error (.lastSymbol 66 2) from rfl] at hread
    exact absurd hread (by simp)
  obtain ⟨text, hspells, -⟩ := hencrypt [0xFF, 0x00]
  refine ⟨hkey, ⟨text, hspells, ?_⟩, ?_⟩
  · obtain ⟨-, hresult⟩ := hdecrypt "vault:v1:x" _ Script.backend (.fresh [.ok (decrypted text)])
    exact ((hresult _ rfl text (gives_decrypted text)).1 _).2 hspells
  · obtain ⟨-, hresult⟩ := hdecrypt "vault:v1:x" _ Script.backend (.fresh [.ok (decrypted "/wB=")])
    exact (hresult _ rfl "/wB=" (gives_decrypted "/wB=")).2 hbits

end Direct
end Strongbox
