/-
Encryption by the server, with keys that never leave it.

A plaintext is sent in base64, and the ciphertext that comes back is handed on as it is;
decryption is the other way round.  A server that refuses the key or the text answers with
status 400.
-/
import Strongbox.Base64
import Strongbox.Endpoint
import Strongbox.Plan
namespace Strongbox

/-- The mount of an encryption engine. -/
structure Transit where
  mount : String

namespace Transit

/-- The answer to an encryption. -/
structure Encrypted where
  ciphertext : String

/-- The record type as answers hold it. -/
def Encrypted.shape : Json.Shape Encrypted where
  name := "EncryptData"
  fields := [⟨"ciphertext", fun v _ => (Json.asText v).map Encrypted.mk, true⟩]
  blank := ⟨""⟩

/-- The answer to a decryption. -/
structure Decrypted where
  plaintext : String

/-- The record type as answers hold it. -/
def Decrypted.shape : Json.Shape Decrypted where
  name := "DecryptData"
  fields := [⟨"plaintext", fun v _ => (Json.asText v).map Decrypted.mk, true⟩]
  blank := ⟨""⟩

/-- The data of an answer; status 400 is the refusal that `refused` makes of its message. -/
def finish {α : Type} (refused : String → Error) (decode : Json → Except Json.DecodeFault α)
    (r : Response) : Result α :=
  if r.status = 400 then .error (refused r.failureMessage)
  else if !r.isSuccess then .error r.toError
  else r.dataAs decode

/-- The answer to an encryption: the ciphertext. -/
def finishEncrypt (r : Response) : Result String :=
  (finish .encryption Encrypted.shape.decode r).map Encrypted.ciphertext

/-- The bytes of a plaintext in base64. -/
def readPlaintext (s : String) : Result (List UInt8) :=
  (Base64.decode s).mapError fun f =>
    .deserialize ("transit plaintext is not base64: " ++ f.message)

/-- The answer to a decryption: the bytes. -/
def finishDecrypt (r : Response) : Result (List UInt8) := do
  let d ← finish .decryption Decrypted.shape.decode r
  readPlaintext d.plaintext

/-- Encrypts bytes with a named key. -/
def encrypt (t : Transit) (key : String) (plaintext : List UInt8) : Plan String :=
  Plan.ofArgument (Argument.require .transitKey key) fun key =>
    .exchange
      (.write (Endpoint.encrypt t.mount key)
        (.object [("plaintext", .string (Base64.encodeText plaintext))]))
      finishEncrypt

/-- Decrypts a ciphertext with a named key. -/
def decrypt (t : Transit) (key ciphertext : String) : Plan (List UInt8) :=
  Plan.ofArgument (Argument.require .transitKey key) fun key =>
    .exchange (.write (Endpoint.decrypt t.mount key) (.object [("ciphertext", .string ciphertext)]))
      finishDecrypt

end Transit
end Strongbox
