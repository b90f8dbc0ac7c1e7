/-
Encryption and decryption by the server in memory.

A ciphertext is the base64 of a text: the path of a key, a bar and the base64 of the plaintext.
The path of a key may itself have a bar, and then the text is cut at the wrong place.  But base64
has no bar.  A decryption that succeeds reads what is behind the first bar as base64, so there is
no other bar, and the text is cut where it was put together.

* `opened?_eq_some_iff` — how a ciphertext is opened;
* `act_encrypt`, `act_decrypt` — the operations on a ciphertext, in any state of the server;
* `decrypt_encrypt` — what was encrypted is decrypted exactly under the same path of a key
  without a bar, and nothing else ever is.
-/
import Strongbox.Backend.Memory
import Strongbox.Proofs.Actions
import Strongbox.Proofs.Answers
import Strongbox.Proofs.Base64
import Strongbox.Proofs.Requests

namespace Strongbox.Memory

open Endpoint (encodePath)

/-! ### Ciphertexts -/

/-- What the server seals: the path of the key, a bar and the plaintext in base64. -/
def sealedText (path : String) (plaintext : List UInt8) : String :=
  path ++ "|" ++ Base64.encodeText plaintext

/-- The ciphertext of bytes under the path of a key. -/
def ciphertext (path : String) (plaintext : List UInt8) : String :=
  ciphertextMark ++ Base64.encodeText (Utf8.ofString (sealedText path plaintext))

theorem toList_sealedText (path : String) (plaintext : List UInt8) :
    (sealedText path plaintext).toList =
      path.toList ++ '|' :: (Base64.encodeText plaintext).toList := by
  rw [sealedText, String.toList_append, String.toList_append, List.append_assoc]
  rfl

/-- Texts sealed under paths, the second of which has no bar, are the same only if paths and
plaintexts are. -/
theorem sealedText_eq_iff {path path' : String} {p q : List UInt8} (hbar : '|' ∉ path'.toList) :
    sealedText path p = sealedText path' q ↔ path = path' ∧ p = q := by
  constructor
  · intro h
    have hlists := congrArg String.toList h
    -- what is behind the bar of the second text has no bar either, so that is its only one
    rw [toList_sealedText, toList_sealedText, eq_comm, List.append_cons_inj_of_notMem hbar
      (Base64.bar_not_mem_encodeText q)] at hlists
    obtain ⟨hpath, -, hplain⟩ := hlists
    have hdecode : Base64.decode (Base64.encodeText p) = .ok q := by
      rw [String.toList_injective hplain.symm]
      exact Base64.decode_eq_ok_iff.2 rfl
    rw [Base64.decode_eq_ok_iff.2 rfl] at hdecode
    exact ⟨String.toList_injective hpath.symm, Except.ok.inj hdecode⟩
  · rintro ⟨rfl, rfl⟩
    rfl

/-- A ciphertext without its mark. -/
def unmarked (path : String) (plaintext : List UInt8) : List Char :=
  (Base64.encodeText (Utf8.ofString (sealedText path plaintext))).toList

theorem after?_ciphertext (path : String) (plaintext : List UInt8) :
    Text.after? ciphertextMark.toList (ciphertext path plaintext).toList =
      some (unmarked path plaintext) := by
  rw [ciphertext, String.toList_append, Text.after?_append, unmarked]

/-- A ciphertext is opened at the first bar of what was sealed. -/
theorem opened?_eq_some_iff {path : String} {plaintext : List UInt8} {key text : String} :
    opened? (unmarked path plaintext) = some (key, text) ↔
      (sealedText path plaintext).toList = key.toList ++ '|' :: text.toList ∧
        '|' ∉ key.toList := by
  rw [unmarked, opened?, String.ofList_toList, Base64.decode_eq_ok_iff.2 rfl]
  simp only [Except.toOption, Option.bind_eq_bind, Option.bind_some]
  rw [Utf8.ofString, Utf8.read?_bytes, Option.bind_some, ← Text.splitOnce?_singleton]
  cases Text.splitOnce? ['|'] (sealedText path plaintext).toList with
  | none => simp
  | some parts =>
    obtain ⟨u, w⟩ := parts
    simp [← String.ofList_inj]

/-! ### The answers of the server -/

theorem finishEncrypt_encrypt (path : String) (plaintext : List UInt8) :
    Transit.finishEncrypt (encrypt path
      (some (.object [("plaintext", .string (Base64.encodeText plaintext))]))) =
        .ok (ciphertext path plaintext) := by
  have hbody : ((some (Json.object [("plaintext", .string (Base64.encodeText plaintext))])).bind
      (Json.member? "plaintext")).bind Json.text? = some (Base64.encodeText plaintext) := rfl
  rw [encrypt, hbody]
  simp only [Base64.decode_eq_ok_iff.2 rfl]
  rfl

theorem finishDecrypt_failure (messages : List String) (q : List UInt8) :
    Transit.finishDecrypt (failure 400 messages) ≠ .ok q := by
  have hrefused : Transit.finishDecrypt (failure 400 messages) =
      .error (.decryption (failure 400 messages).failureMessage) := rfl
  rw [hrefused]
  simp

theorem finishDecrypt_success {text : String} {q : List UInt8} :
    Transit.finishDecrypt (success (dataOf (.object [("plaintext", .string text)]))) = .ok q ↔
      text = Base64.encodeText q := by
  have hread : Transit.finishDecrypt (success (dataOf (.object [("plaintext", .string text)]))) =
      Transit.readPlaintext text := rfl
  rw [hread, Transit.readPlaintext, Results.mapError_eq_ok, Base64.decode_eq_ok_iff]

/-- A ciphertext is decrypted exactly to what was sealed under the path of the key, if that has no
bar. -/
theorem finishDecrypt_decrypt {path path' : String} {p q : List UInt8} :
    Transit.finishDecrypt (decrypt path'
      (some (.object [("ciphertext", .string (ciphertext path p))]))) = .ok q ↔
        sealedText path p = sealedText path' q ∧ '|' ∉ path'.toList := by
  have hbody : ((some (Json.object [("ciphertext", .string (ciphertext path p))])).bind
      (Json.member? "ciphertext")).bind Json.text? = some (ciphertext path p) := rfl
  rw [← String.toList_inj, toList_sealedText path' q, ← opened?_eq_some_iff, decrypt, hbody]
  simp only [after?_ciphertext]
  cases hopened : opened? (unmarked path p) with
  | none => simp [finishDecrypt_failure]
  | some parts =>
    obtain ⟨key, text⟩ := parts
    dsimp only
    split
    · next hkey => simp [finishDecrypt_success, hkey]
    · next hkey => simp [finishDecrypt_failure, hkey]

/-! ### The operations -/

theorem encodePath_transit : encodePath "transit" = "transit" := by decide

theorem toList_encrypt (key : String) : (Endpoint.encrypt "transit" key).toList =
    "transit/encrypt/".toList ++ (encodePath key).toList := by
  rw [Endpoint.encrypt, encodePath_transit, String.toList_append]
  rfl

theorem toList_decrypt (key : String) : (Endpoint.decrypt "transit" key).toList =
    "transit/decrypt/".toList ++ (encodePath key).toList := by
  rw [Endpoint.decrypt, encodePath_transit, String.toList_append]
  rfl

theorem ne_health {path : String} {rest : List Char} (h : path.toList = 't' :: rest) :
    path ≠ "sys/health" := by
  rintro rfl
  exact absurd (List.cons.inj h).1 (by decide)

theorem route_encrypt (key : String) :
    route (Endpoint.encrypt "transit" key) = .encrypt (encodePath key) := by
  rw [route, if_neg (ne_health (toList_encrypt key)), toList_encrypt, Text.after?_append]
  exact congrArg Route.encrypt String.ofList_toList

theorem route_decrypt (key : String) :
    route (Endpoint.decrypt "transit" key) = .decrypt (encodePath key) := by
  have hnone : Text.after? "transit/encrypt/".toList
      ("transit/decrypt/".toList ++ (encodePath key).toList) = none := rfl
  rw [route, if_neg (ne_health (toList_decrypt key)), toList_decrypt, hnone, Text.after?_append]
  exact congrArg Route.decrypt String.ofList_toList

theorem respond_encrypt (key : String) (body : Json) (st : Store) :
    (respond (.write (Endpoint.encrypt "transit" key) body) st).1 =
      encrypt (encodePath key) (some body) := by
  rw [respond, Request.write, route_encrypt]

theorem respond_decrypt (key : String) (body : Json) (st : Store) :
    (respond (.write (Endpoint.decrypt "transit" key) body) st).1 =
      decrypt (encodePath key) (some body) := by
  rw [respond, Request.write, route_decrypt]

/-- The result of a call whose answer does not depend on the state of the server. -/
theorem run_of_respond {α : Type} {c : Call α} {q : Request} {finish : Response → Result α}
    (hplan : c.plan = .exchange q finish) {r : Response} (hr : ∀ st, (respond q st).1 = r)
    (session : Session Store) : (c.run backend session).1 = finish r := by
  rw [(Call.run_of_plan hplan backend session).1]
  have hanswer : (backend.answer q session.state).1 =
      .ok (respond q { session.state with requests := session.state.requests + 1 }).1 := rfl
  rw [hanswer, hr]
  rfl

section

variable {s : Service} (htransit : s.config.transitMount = "transit") {k t : String}
  (hk : Argument.require .transitKey k = .ok t)
include htransit hk

/-- Bytes are encrypted under the path of a key, whatever the state of the server. -/
theorem act_encrypt (p : List UInt8) (session : Session Store) :
    (s.act backend (.encrypt k p) session).1 = .ok (ciphertext (encodePath k) p) := by
  have hpath : encodePath t = encodePath k :=
    Endpoint.encodePath_eq_iff.2 (Argument.segments_of_require hk)
  have hplan : ((Service.Action.encrypt k p).call s).plan = .exchange
      (.write (Endpoint.encrypt "transit" t)
        (.object [("plaintext", .string (Base64.encodeText p))])) Transit.finishEncrypt := by
    rw [Service.Action.call, Service.encrypt, Call.direct, Transit.encrypt, hk, Plan.ofArgument,
      Service.transit, htransit]
  rw [Service.act, run_of_respond hplan (respond_encrypt t _), hpath]
  exact finishEncrypt_encrypt (encodePath k) p

/-- A ciphertext is decrypted exactly under the path that it was made under, if that has no bar,
and to the bytes that it was made of, whatever the state of the server. -/
theorem act_decrypt (path : String) (p q : List UInt8) (session : Session Store) :
    (s.act backend (.decrypt k (ciphertext path p)) session).1 = .ok q ↔
      path = encodePath k ∧ p = q ∧ '|' ∉ (encodePath k).toList := by
  have hpath : encodePath t = encodePath k :=
    Endpoint.encodePath_eq_iff.2 (Argument.segments_of_require hk)
  have hplan : ((Service.Action.decrypt k (ciphertext path p)).call s).plan = .exchange
      (.write (Endpoint.decrypt "transit" t)
        (.object [("ciphertext", .string (ciphertext path p))])) Transit.finishDecrypt := by
    rw [Service.Action.call, Service.decrypt, Call.direct, Transit.decrypt, hk, Plan.ofArgument,
      Service.transit, htransit]
  rw [Service.act, run_of_respond hplan (respond_decrypt t _), hpath, finishDecrypt_decrypt]
  constructor
  · rintro ⟨hsealed, hbar⟩
    obtain ⟨hsame, hplain⟩ := (sealedText_eq_iff hbar).1 hsealed
    exact ⟨hsame, hplain, hbar⟩
  · rintro ⟨hsame, hplain, hbar⟩
    exact ⟨(sealedText_eq_iff hbar).2 ⟨hsame, hplain⟩, hbar⟩

end

/-- **What was encrypted is decrypted under its own key, and never as anything else.**  With the
mount `transit`, whatever state the server is in at either time: an encryption under an accepted
key succeeds, and a decryption of its result under an accepted key succeeds exactly if both keys
have the same path and that path has no bar, and then it gives the bytes that were encrypted. -/
theorem decrypt_encrypt {s : Service} (htransit : s.config.transitMount = "transit")
    {k₁ k₂ : String} (h₁ : ∃ t, Argument.require .transitKey k₁ = .ok t)
    (h₂ : ∃ t, Argument.require .transitKey k₂ = .ok t) (p : List UInt8) :
    ∃ c, (∀ session : Session Store, (s.act backend (.encrypt k₁ p) session).1 = .ok c) ∧
      ∀ (session : Session Store) (q : List UInt8),
        (s.act backend (.decrypt k₂ c) session).1 = .ok q ↔
          encodePath k₁ = encodePath k₂ ∧ p = q ∧ '|' ∉ (encodePath k₂).toList := by
  obtain ⟨t₁, h₁⟩ := h₁
  obtain ⟨t₂, h₂⟩ := h₂
  exact ⟨ciphertext (encodePath k₁) p, act_encrypt htransit h₁ p,
    fun session q => act_decrypt htransit h₂ (encodePath k₁) p q session⟩

/-- Two spellings of one key: what was encrypted under the first is decrypted under the second. -/
theorem decrypt_encrypt_spellings :
    ∃ s, Service.ofSettings Service.slashedSettings = .ok s ∧
      s.config.transitMount = "transit" ∧
      (∃ t, Argument.require .transitKey "team/app" = .ok t) ∧
      (∃ t, Argument.require .transitKey "/team//app/" = .ok t) ∧
      ∃ c, (∀ session : Session Store,
          (s.act backend (.encrypt "team/app" [0xFF, 0x00]) session).1 = .ok c) ∧
        ∀ session : Session Store,
          (s.act backend (.decrypt "/team//app/" c) session).1 = .ok [0xFF, 0x00] := by
  obtain ⟨s, hs, htransit⟩ : ∃ s, Service.ofSettings Service.slashedSettings = .ok s ∧
      s.config.transitMount = "transit" := ⟨_, rfl, rfl⟩
  have hkey : ∃ t, Argument.require .transitKey "team/app" = .ok t := ⟨_, rfl⟩
  have hspelling : ∃ t, Argument.require .transitKey "/team//app/" = .ok t := ⟨_, rfl⟩
  obtain ⟨c, hencrypt, hdecrypt⟩ := decrypt_encrypt htransit hkey hspelling [0xFF, 0x00]
  exact ⟨s, hs, htransit, hkey, hspelling, c, hencrypt,
    fun session => (hdecrypt session _).2 ⟨by decide, rfl, by decide⟩⟩

end Strongbox.Memory
