import PqForgeFfi.NativeOperations

namespace PqForgeFfi

open NativeSign (msgSlice)

/-!
# Verifying Ed25519 signatures

`pqforge_ed25519_verify` and `NativeBackend.ed25519Verify`.  A key or a
signature of a wrong length does not verify, and is not handed to AWS-LC.
-/

/-- `UnparsedPublicKey::new(&ED25519, public_key).verify(message, signature)`. -/
structure AwsLcEd25519 where
  verify : (publicKey message signature : Bytes) → Bool

namespace NativeClassical

/-- `ED25519_PUBLIC_LEN`. -/
def ed25519PublicLen : Nat := 32

/-- `ED25519_SIGNATURE_LEN`. -/
def ed25519SignatureLen : Nat := 64

/-- The closure of `pqforge_ed25519_verify`. -/
def ed25519VerifyBody
    (aws : AwsLcEd25519)
    (pubkey msg sig : CSlice) :
    Except Exit PqForgeStatus :=
  if pubkey.isNull || sig.isNull || (msg.isNull && msg.len != 0) then
    .ok .nullArgument
  else if pubkey.len ≠ ed25519PublicLen ∨
      sig.len ≠ ed25519SignatureLen then
    .ok .authFailed
  else if aws.verify pubkey.bytes (msgSlice msg) sig.bytes then
    .ok .ok
  else
    .ok .authFailed

/-- `pqforge_ed25519_verify`. -/
def pqforgeEd25519Verify
    (aws : AwsLcEd25519)
    (pubkey msg sig : CSlice) :
    Int :=
  finish (guard (ed25519VerifyBody aws pubkey msg sig))

end NativeClassical

/-- `ed25519Verify`: every status but `ok` means that it did not verify. -/
def NativeBackend.ed25519Verify
    (aws : AwsLcEd25519)
    (publicKey message signature : Bytes) :
    Except DartThrow Bool :=
  let rc :=
    NativeClassical.pqforgeEd25519Verify aws (toNative publicKey)
      (toNative message) (toNative signature)
  .ok (rc == PqForgeErrorCode.ok.value)

/-- What verifies: a key and a signature of their lengths that AWS-LC accepts. -/
def AwsLcEd25519.Accepts
    (aws : AwsLcEd25519)
    (publicKey message signature : Bytes) : Prop :=
  publicKey.length = 32 ∧ signature.length = 64 ∧
    aws.verify publicKey message signature = true

/-- The verdict is the right one, whatever the lengths. -/
theorem NativeBackend.ed25519Verify_verdict
    (aws : AwsLcEd25519)
    (publicKey message signature : Bytes) :
    ∃ verdict,
      ed25519Verify aws publicKey message signature = .ok verdict ∧
        (verdict = true ↔ aws.Accepts publicKey message signature) := by
  refine ⟨_, rfl, ?_⟩
  simp only [NativeClassical.pqforgeEd25519Verify,
    NativeClassical.ed25519VerifyBody, toNative, CSlice.isNull,
    CSlice.len, CSlice.bytes, NativeSign.msgSlice_valid,
    NativeClassical.ed25519PublicLen,
    NativeClassical.ed25519SignatureLen, AwsLcEd25519.Accepts]
  by_cases lengths : publicKey.length = 32 ∧ signature.length = 64
  · obtain ⟨keyLength, signatureLength⟩ := lengths
    cases aws.verify publicKey message signature with
    | true =>
        simp [keyLength, signatureLength, PqForgeErrorCode.value,
          PqForgeStatus.code]
    | false =>
        simp [keyLength, signatureLength, PqForgeErrorCode.value,
          PqForgeStatus.code]
  · have wrong : publicKey.length ≠ 32 ∨ signature.length ≠ 64 :=
      not_and_or.mp lengths
    constructor
    · intro verified
      simp [wrong, PqForgeErrorCode.value, PqForgeStatus.code] at verified
    · rintro ⟨keyLength, signatureLength, _⟩
      exact (lengths ⟨keyLength, signatureLength⟩).elim

end PqForgeFfi
