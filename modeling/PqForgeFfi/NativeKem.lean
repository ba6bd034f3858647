import PqForgeFfi.AwsLc
import PqForgeFfi.AwsLcKeys
import PqForgeFfi.CBoundary

namespace PqForgeFfi.NativeKem

/-!
# ML-KEM over AWS-LC

`pqforge_mlkem_keygen`, `pqforge_mlkem_encapsulate` and
`pqforge_mlkem_decapsulate`.  A body is what the exported closure computes
before it writes its outputs.
-/

/-- `kem_alg`. -/
def kemAlg : Int → Option PqKemAlgorithm
  | 0 => some .mlKem512
  | 1 => some .mlKem768
  | 2 => some .mlKem1024
  | _ => none

/-- The closure of `pqforge_mlkem_keygen`. -/
def keygenBody
    (aws : AwsLcKem)
    (algId : Int)
    (coins : Bytes) :
    Except Exit (Bytes × Bytes) :=
  match kemAlg algId with
  | none =>
      .error (.returned .invalidKey)
  | some alg => do
      let dk ← orExit (.failed (.internal "ML-KEM keygen failed"))
        (aws.generate alg coins)
      let ek ← orExit
        (.failed (.internal "derive encapsulation key failed"))
        (aws.encapsulationKey dk)
      let pubBytes ← orExit
        (.failed (.internal "export public key failed"))
        (aws.encapsulationKeyBytes ek)
      let secBytes ← orExit
        (.failed (.internal "export secret key failed"))
        (aws.decapsulationKeyBytes dk)
      .ok (pubBytes, secBytes)

/-- The closure of `pqforge_mlkem_encapsulate`. -/
def encapsulateBody
    (aws : AwsLcKem)
    (algId : Int)
    (pubkey : CSlice)
    (coins : Bytes) :
    Except Exit (Bytes × Bytes) :=
  match kemAlg algId with
  | none =>
      .error (.returned .invalidKey)
  | some alg =>
      if pubkey.isNull then
        .error (.returned .nullArgument)
      else do
        let ek ← orExit (.returned .invalidKey)
          (aws.newEncapsulationKey alg pubkey.bytes)
        orExit (.failed (.internal "ML-KEM encapsulate failed"))
          (aws.encapsulate ek coins)

/-- The closure of `pqforge_mlkem_decapsulate`. -/
def decapsulateBody
    (aws : AwsLcKem)
    (algId : Int)
    (seckey ct : CSlice) :
    Except Exit Bytes :=
  match kemAlg algId with
  | none =>
      .error (.returned .invalidKey)
  | some alg =>
      if seckey.isNull || ct.isNull then
        .error (.returned .nullArgument)
      else do
        let dk ← orExit (.returned .invalidKey)
          (aws.newDecapsulationKey alg seckey.bytes)
        orExit (.failed .invalidCiphertext)
          (aws.decapsulate dk ct.bytes)

/-- `pqforge_mlkem_keygen`. -/
def pqforgeMlkemKeygen
    (aws : AwsLcKem)
    (coins : Bytes)
    (algId : Int)
    (pub sec : CallerOutput) :
    Int × CallerOutput × CallerOutput :=
  exportedOutputs (keygenBody aws algId coins) pub sec

/-- `pqforge_mlkem_encapsulate`. -/
def pqforgeMlkemEncapsulate
    (aws : AwsLcKem)
    (coins : Bytes)
    (algId : Int)
    (pubkey : CSlice)
    (ct ss : CallerOutput) :
    Int × CallerOutput × CallerOutput :=
  exportedOutputs (encapsulateBody aws algId pubkey coins) ct ss

/-- `pqforge_mlkem_decapsulate`. -/
def pqforgeMlkemDecapsulate
    (aws : AwsLcKem)
    (algId : Int)
    (seckey ct : CSlice)
    (ss : CallerOutput) :
    Int × CallerOutput :=
  exportedOutput (decapsulateBody aws algId seckey ct) ss

/-- The Dart-side indices are the ids of the native library. -/
@[simp] theorem kemAlg_index (algorithm : PqKemAlgorithm) :
    kemAlg algorithm.index = some algorithm := by
  cases algorithm <;> rfl

/-- Any other id is of no algorithm. -/
theorem kemAlg_eq_some
    {algId : Int}
    {algorithm : PqKemAlgorithm}
    (found : kemAlg algId = some algorithm) :
    algId = algorithm.index := by
  unfold kemAlg at found
  split at found <;> cases found <;> rfl

/-- Key generation computes the pair of AWS-LC. -/
theorem keygenBody_computes
    (aws : AwsLcKem)
    (algorithm : PqKemAlgorithm)
    (coins : Bytes) :
    Computes (keygenBody aws algorithm.index coins)
      (aws.keyPair algorithm coins) := by
  rw [keygenBody, kemAlg_index]
  refine (Computes.call (Exit.refuses_failed _) _).bind fun dk => ?_
  refine (Computes.call (Exit.refuses_failed _) _).bind fun ek => ?_
  refine (Computes.call (Exit.refuses_failed _) _).bind
    fun pubBytes => ?_
  refine (Computes.call (Exit.refuses_failed _) _).bind
    fun secBytes => ?_
  exact Computes.done (pubBytes, secBytes)

/-- Encapsulation to a valid pointer computes that of AWS-LC. -/
theorem encapsulateBody_computes
    (aws : AwsLcKem)
    (algorithm : PqKemAlgorithm)
    (publicKey coins : Bytes) :
    Computes
      (encapsulateBody aws algorithm.index (.valid publicKey) coins)
      (aws.encapsulateTo algorithm publicKey coins) := by
  rw [encapsulateBody, kemAlg_index]
  have refusesKey : (Exit.returned .invalidKey).Refuses :=
    Exit.refuses_returned (by decide)
  refine (Computes.call refusesKey _).bind fun ek => ?_
  exact Computes.call (Exit.refuses_failed _) _

/-- Decapsulation of valid pointers computes that of AWS-LC. -/
theorem decapsulateBody_computes
    (aws : AwsLcKem)
    (algorithm : PqKemAlgorithm)
    (secretKey ciphertext : Bytes) :
    Computes
      (decapsulateBody aws algorithm.index (.valid secretKey)
        (.valid ciphertext))
      (aws.decapsulateWith algorithm secretKey ciphertext) := by
  rw [decapsulateBody, kemAlg_index]
  have refusesKey : (Exit.returned .invalidKey).Refuses :=
    Exit.refuses_returned (by decide)
  refine (Computes.call refusesKey _).bind fun dk => ?_
  exact Computes.call (Exit.refuses_failed _) _

end PqForgeFfi.NativeKem
