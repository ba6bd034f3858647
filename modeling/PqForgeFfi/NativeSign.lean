import PqForgeFfi.AwsLc
import PqForgeFfi.AwsLcKeys
import PqForgeFfi.CBoundary

namespace PqForgeFfi.NativeSign

/-!
# ML-DSA over AWS-LC

`pqforge_mldsa_keygen`, `pqforge_mldsa_keygen_from_seed`, `pqforge_mldsa_sign`
and `pqforge_mldsa_verify`.  A body is what the exported closure computes
before it writes its outputs.
-/

/-- The algorithm that each function selects by `match alg_id`. -/
def signAlg : Int → Option PqSignatureAlgorithm
  | 0 => some .mlDsa44
  | 1 => some .mlDsa65
  | 2 => some .mlDsa87
  | _ => none

/-- `msg_slice`: a message of no bytes may be null. -/
def msgSlice (msg : CSlice) : Bytes :=
  if msg.len = 0 then
    []
  else
    msg.bytes

/-- The raw keys that both key generations write. -/
def exportKeys
    (aws : AwsLcPqdsa)
    (kp : aws.KeyPair) :
    Except Exit (Bytes × Bytes) := do
  let secret ← orExit
    (.failed (.internal "export raw secret key failed"))
    (aws.privateKeyBytes kp)
  .ok (aws.publicKey kp, secret)

/-- The closure of `pqforge_mldsa_keygen`. -/
def keygenBody
    (aws : AwsLcPqdsa)
    (algId : Int)
    (coins : Bytes) :
    Except Exit (Bytes × Bytes) :=
  match signAlg algId with
  | none =>
      .error (.returned .invalidKey)
  | some alg => do
      let kp ← orExit (.failed (.internal "ML-DSA keygen failed"))
        (aws.generate alg coins)
      exportKeys aws kp

/-- The closure of `pqforge_mldsa_keygen_from_seed`. -/
def keygenFromSeedBody
    (aws : AwsLcPqdsa)
    (algId : Int)
    (seed : CSlice) :
    Except Exit (Bytes × Bytes) :=
  if seed.isNull then
    .error (.returned .nullArgument)
  else
    match signAlg algId with
    | none =>
        .error (.returned .invalidKey)
    | some alg => do
        let kp ← orExit (.returned .invalidKey)
          (aws.fromSeed alg seed.bytes)
        exportKeys aws kp

/-- The closure of `pqforge_mldsa_sign`. -/
def signBody
    (aws : AwsLcPqdsa)
    (algId : Int)
    (seckey msg : CSlice)
    (coins : Bytes) :
    Except Exit Bytes :=
  if seckey.isNull || (msg.isNull && msg.len != 0) then
    .error (.returned .nullArgument)
  else
    match signAlg algId with
    | none =>
        .error (.returned .invalidKey)
    | some alg => do
        let kp ← orExit (.returned .invalidKey)
          (aws.fromRawPrivateKey alg seckey.bytes)
        orExit (.failed (.internal "ML-DSA sign failed"))
          (aws.sign kp (msgSlice msg) coins)

/-- The closure of `pqforge_mldsa_verify`. -/
def verifyBody
    (aws : AwsLcPqdsa)
    (algId : Int)
    (pubkey msg sig : CSlice) :
    Except Exit PqForgeStatus :=
  if pubkey.isNull || sig.isNull || (msg.isNull && msg.len != 0) then
    .ok .nullArgument
  else
    match signAlg algId with
    | none =>
        .ok .invalidKey
    | some alg =>
        if aws.verify alg pubkey.bytes (msgSlice msg) sig.bytes then
          .ok .ok
        else
          .ok .authFailed

/-- `pqforge_mldsa_keygen`. -/
def pqforgeMldsaKeygen
    (aws : AwsLcPqdsa)
    (coins : Bytes)
    (algId : Int)
    (pub sec : CallerOutput) :
    Int × CallerOutput × CallerOutput :=
  exportedOutputs (keygenBody aws algId coins) pub sec

/-- `pqforge_mldsa_keygen_from_seed`. -/
def pqforgeMldsaKeygenFromSeed
    (aws : AwsLcPqdsa)
    (algId : Int)
    (seed : CSlice)
    (pub sec : CallerOutput) :
    Int × CallerOutput × CallerOutput :=
  exportedOutputs (keygenFromSeedBody aws algId seed) pub sec

/-- `pqforge_mldsa_sign`. -/
def pqforgeMldsaSign
    (aws : AwsLcPqdsa)
    (coins : Bytes)
    (algId : Int)
    (seckey msg : CSlice)
    (sig : CallerOutput) :
    Int × CallerOutput :=
  exportedOutput (signBody aws algId seckey msg coins) sig

/-- `pqforge_mldsa_verify`. -/
def pqforgeMldsaVerify
    (aws : AwsLcPqdsa)
    (algId : Int)
    (pubkey msg sig : CSlice) :
    Int :=
  finish (guard (verifyBody aws algId pubkey msg sig))

/-- The Dart-side indices are the ids of the native library. -/
@[simp] theorem signAlg_index (algorithm : PqSignatureAlgorithm) :
    signAlg algorithm.index = some algorithm := by
  cases algorithm <;> rfl

/-- Any other id is of no algorithm. -/
theorem signAlg_eq_some
    {algId : Int}
    {algorithm : PqSignatureAlgorithm}
    (found : signAlg algId = some algorithm) :
    algId = algorithm.index := by
  unfold signAlg at found
  split at found <;> cases found <;> rfl

/-- A valid message is read whole. -/
@[simp] theorem msgSlice_valid (msg : Bytes) :
    msgSlice (.valid msg) = msg := by
  rw [msgSlice]
  split
  · rename_i empty
    exact (List.eq_nil_of_length_eq_zero empty).symm
  · rfl

/-- Exporting the keys computes the raw keys. -/
theorem exportKeys_computes
    (aws : AwsLcPqdsa)
    (kp : aws.KeyPair) :
    Computes (exportKeys aws kp) (aws.rawKeys kp) := by
  refine (Computes.call (Exit.refuses_failed _) _).bind fun secret => ?_
  exact Computes.done (aws.publicKey kp, secret)

/-- Key generation computes the pair of AWS-LC. -/
theorem keygenBody_computes
    (aws : AwsLcPqdsa)
    (algorithm : PqSignatureAlgorithm)
    (coins : Bytes) :
    Computes (keygenBody aws algorithm.index coins)
      (aws.generated algorithm coins) := by
  rw [keygenBody, signAlg_index]
  refine (Computes.call (Exit.refuses_failed _) _).bind fun kp => ?_
  exact exportKeys_computes aws kp

/-- Seeded key generation computes the pair of AWS-LC. -/
theorem keygenFromSeedBody_computes
    (aws : AwsLcPqdsa)
    (algorithm : PqSignatureAlgorithm)
    (seed : Bytes) :
    Computes (keygenFromSeedBody aws algorithm.index (.valid seed))
      (aws.seeded algorithm seed) := by
  rw [keygenFromSeedBody, signAlg_index]
  have refusesKey : (Exit.returned .invalidKey).Refuses :=
    Exit.refuses_returned (by decide)
  refine (Computes.call refusesKey _).bind fun kp => ?_
  exact exportKeys_computes aws kp

/-- Signing valid pointers computes the signature of AWS-LC. -/
theorem signBody_computes
    (aws : AwsLcPqdsa)
    (algorithm : PqSignatureAlgorithm)
    (secretKey message coins : Bytes) :
    Computes
      (signBody aws algorithm.index (.valid secretKey) (.valid message)
        coins)
      (aws.signWith algorithm secretKey message coins) := by
  rw [signBody, signAlg_index, msgSlice_valid]
  have refusesKey : (Exit.returned .invalidKey).Refuses :=
    Exit.refuses_returned (by decide)
  refine (Computes.call refusesKey _).bind fun kp => ?_
  exact Computes.call (Exit.refuses_failed _) _

/-- Verification of valid pointers is decided by AWS-LC. -/
theorem verifyBody_valid
    (aws : AwsLcPqdsa)
    (algorithm : PqSignatureAlgorithm)
    (publicKey message signature : Bytes) :
    verifyBody aws algorithm.index (.valid publicKey) (.valid message)
        (.valid signature) =
      if aws.verify algorithm publicKey message signature then
        .ok .ok
      else
        .ok .authFailed := by
  rw [verifyBody, signAlg_index, msgSlice_valid]
  rfl

/-- The status of a verification of valid pointers is `ok` or `authFailed`. -/
theorem pqforgeMldsaVerify_valid
    (aws : AwsLcPqdsa)
    (algorithm : PqSignatureAlgorithm)
    (publicKey message signature : Bytes) :
    pqforgeMldsaVerify aws algorithm.index (.valid publicKey)
        (.valid message) (.valid signature) =
      if aws.verify algorithm publicKey message signature then
        PqForgeStatus.ok.code
      else
        PqForgeStatus.authFailed.code := by
  rw [pqforgeMldsaVerify, verifyBody_valid]
  split
  · exact finish_guard_ok _
  · exact finish_guard_ok _

end PqForgeFfi.NativeSign
