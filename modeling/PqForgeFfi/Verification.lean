import PqForgeFfi.FallbackBackend
import PqForgeFfi.NativeOperations

namespace PqForgeFfi

/-!
# Verifying signatures on the two backends

`verify` promises `false`, never an exception, for whatever does not verify.
The native backend reads a verdict off every status; the fallback turns
whatever its library throws into an exception of the package.
-/

/-- `PqSignaturePrimitives` of the `pqforge` package. -/
structure PqSignaturePrimitives where
  verify :
    PqSignatureAlgorithm →
      (publicKey message signature : Bytes) →
      Except DartThrow Bool

namespace FallbackBackend

/-- What `_guard` throws in place of what it catches. -/
def guardThrow : DartThrow → PqForgeFfiException
  | .ffi exception => exception
  | .pqForgeException message _ => .invalidCiphertext message
  | .argumentError text => .invalidKey text
  | .rangeError text => .invalidKey text
  | .other text => .internalCrypto text

/-- `_guard`. -/
def guard
    {Result : Type}
    (body : Except DartThrow Result) :
    Except DartThrow Result :=
  body.mapError fun thrown => .ffi (guardThrow thrown)

/-- `verify`. -/
def verify
    (library : PqSignaturePrimitives)
    (algorithm : PqSignatureAlgorithm)
    (publicKey message signature : Bytes) :
    Except DartThrow Bool :=
  guard (library.verify algorithm publicKey message signature)

end FallbackBackend

/-- A verification returned a verdict, and the right one. -/
def Verifies
    (verification : Except DartThrow Bool)
    (accepts : Prop) : Prop :=
  ∃ verdict,
    verification = .ok verdict ∧ (verdict = true ↔ accepts)

section Verify

variable {aws : AwsLcPqdsa}
variable {library : PqSignaturePrimitives}
variable {algorithm : PqSignatureAlgorithm}
variable {publicKey message signature : Bytes}

/-- The native backend returns what AWS-LC decides. -/
theorem NativeBackend.verify_verifies :
    Verifies
      (verify aws algorithm publicKey message signature)
      (aws.verify algorithm publicKey message signature = true) := by
  refine ⟨aws.verify algorithm publicKey message signature, ?_,
    Iff.rfl⟩
  rw [verify, toNative, toNative, toNative,
    NativeSign.pqforgeMldsaVerify_valid]
  cases aws.verify algorithm publicKey message signature with
  | true =>
      rfl
  | false =>
      rfl

/-- The fallback returns what its library returns. -/
theorem FallbackBackend.verify_of_returned
    {verdict : Bool}
    (returned :
      library.verify algorithm publicKey message signature =
        .ok verdict) :
    verify library algorithm publicKey message signature =
      .ok verdict := by
  rw [verify, returned]
  rfl

/-- The fallback throws, within the taxonomy, whenever its library throws. -/
theorem FallbackBackend.verify_of_thrown
    {thrown : DartThrow}
    (threw :
      library.verify algorithm publicKey message signature =
        .error thrown) :
    verify library algorithm publicKey message signature =
      .error (.ffi (guardThrow thrown)) := by
  rw [verify, threw]
  rfl

/-- The fallback returns the right verdict exactly when its library returns. -/
theorem FallbackBackend.verify_verifies_iff :
    Verifies
        (verify library algorithm publicKey message signature)
        (library.verify algorithm publicKey message signature =
          .ok true) ↔
      ∃ verdict,
        library.verify algorithm publicKey message signature =
          .ok verdict := by
  constructor
  · rintro ⟨verdict, returned, _⟩
    cases answered :
        library.verify algorithm publicKey message signature with
    | error thrown =>
        rw [verify_of_thrown answered] at returned
        cases returned
    | ok answer =>
        exact ⟨answer, rfl⟩
  · rintro ⟨verdict, answered⟩
    refine ⟨verdict, verify_of_returned answered, ?_⟩
    rw [answered, Except.ok.injEq]

end Verify

/--
Both backends return the verdict of their primitive exactly when the `pqforge`
package returns one, and the native backend always does.
-/
theorem verify_neverThrows_iff
    (aws : AwsLcPqdsa)
    (library : PqSignaturePrimitives)
    (algorithm : PqSignatureAlgorithm)
    (publicKey message signature : Bytes) :
    (Verifies
          (NativeBackend.verify aws algorithm publicKey message
            signature)
          (aws.verify algorithm publicKey message signature = true) ∧
        Verifies
          (FallbackBackend.verify library algorithm publicKey message
            signature)
          (library.verify algorithm publicKey message signature =
            .ok true) ↔
      ∃ verdict,
        library.verify algorithm publicKey message signature =
          .ok verdict) ∧
    Verifies
      (NativeBackend.verify aws algorithm publicKey message signature)
      (aws.verify algorithm publicKey message signature = true) := by
  have native :
      Verifies
        (NativeBackend.verify aws algorithm publicKey message signature)
        (aws.verify algorithm publicKey message signature = true) :=
    NativeBackend.verify_verifies
  refine ⟨?_, native⟩
  rw [FallbackBackend.verify_verifies_iff]
  exact ⟨And.right, fun returns => ⟨native, returns⟩⟩

/-- A library that throws on keys and signatures of other lengths. -/
def PqSignaturePrimitives.checking
    (declared : DeclaredSizes) :
    PqSignaturePrimitives where
  verify := fun algorithm publicKey _ signature =>
    if publicKey.length ≠ declared.signPublicKeyBytes algorithm then
      .error (.argumentError "Invalid argument(s): public key length")
    else if signature.length ≠ declared.signatureBytes algorithm then
      .error (.argumentError "Invalid argument(s): signature length")
    else
      .ok false

/-- An empty key makes the fallback throw where the other returns `false`. -/
theorem verify_throws_on_empty_key :
    FallbackBackend.verify (.checking .standard) .mlDsa65 [] [] [] =
        .error (.ffi (.invalidKey
          "Invalid argument(s): public key length")) ∧
      NativeBackend.verify (.zeros .standard) .mlDsa65 [] [] [] =
        .ok false ∧
      ¬Verifies
        (FallbackBackend.verify (.checking .standard) .mlDsa65 [] []
          [])
        ((PqSignaturePrimitives.checking .standard).verify .mlDsa65 []
            [] [] =
          .ok true) := by
  have thrown :
      FallbackBackend.verify (.checking .standard) .mlDsa65 [] [] [] =
        .error (.ffi (.invalidKey
          "Invalid argument(s): public key length")) :=
    rfl
  refine ⟨thrown, rfl, ?_⟩
  rintro ⟨verdict, returned, _⟩
  cases thrown.symm.trans returned

end PqForgeFfi
