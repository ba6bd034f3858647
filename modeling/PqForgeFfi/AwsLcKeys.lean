import PqForgeFfi.Backend

namespace PqForgeFfi

/-!
# Keys in AWS-LC

The parts of `aws_lc_rs::kem`, `signature`, `agreement` and `rand` that the
native library calls, as parameters, and what one use of each amounts to: the
bytes it produces, or `none` where any of its calls fails.
-/

/-- The sizes that the `pqforge` package declares for its algorithms. -/
structure DeclaredSizes where
  kemPublicKeyBytes : PqKemAlgorithm → Nat
  kemSecretKeyBytes : PqKemAlgorithm → Nat
  ciphertextBytes : PqKemAlgorithm → Nat
  sharedSecretBytes : PqKemAlgorithm → Nat
  signPublicKeyBytes : PqSignatureAlgorithm → Nat
  signSecretKeyBytes : PqSignatureAlgorithm → Nat
  signatureBytes : PqSignatureAlgorithm → Nat

/-- The sizes of the standardised parameter sets. -/
def DeclaredSizes.standard : DeclaredSizes where
  kemPublicKeyBytes
    | .mlKem512 => 800
    | .mlKem768 => 1184
    | .mlKem1024 => 1568
  kemSecretKeyBytes
    | .mlKem512 => 1632
    | .mlKem768 => 2400
    | .mlKem1024 => 3168
  ciphertextBytes
    | .mlKem512 => 768
    | .mlKem768 => 1088
    | .mlKem1024 => 1568
  sharedSecretBytes := fun _ => 32
  signPublicKeyBytes
    | .mlDsa44 => 1312
    | .mlDsa65 => 1952
    | .mlDsa87 => 2592
  signSecretKeyBytes
    | .mlDsa44 => 2560
    | .mlDsa65 => 4032
    | .mlDsa87 => 4896
  signatureBytes
    | .mlDsa44 => 2420
    | .mlDsa65 => 3309
    | .mlDsa87 => 4627

/-! ## ML-KEM and ML-DSA -/

/-- The operations of `aws_lc_rs::kem`, with the coins of the random ones. -/
structure AwsLcKem where
  DecapsulationKey : Type
  EncapsulationKey : Type
  generate :
    PqKemAlgorithm →
      (coins : Bytes) →
      Option DecapsulationKey
  encapsulationKey : DecapsulationKey → Option EncapsulationKey
  encapsulationKeyBytes : EncapsulationKey → Option Bytes
  decapsulationKeyBytes : DecapsulationKey → Option Bytes
  newEncapsulationKey :
    PqKemAlgorithm →
      (publicKey : Bytes) →
      Option EncapsulationKey
  newDecapsulationKey :
    PqKemAlgorithm →
      (secretKey : Bytes) →
      Option DecapsulationKey
  encapsulate :
    EncapsulationKey →
      (coins : Bytes) →
      Option (Bytes × Bytes)
  decapsulate :
    DecapsulationKey →
      (ciphertext : Bytes) →
      Option Bytes

namespace AwsLcKem

/-- The raw public and secret key of a generated pair. -/
def keyPair
    (aws : AwsLcKem)
    (algorithm : PqKemAlgorithm)
    (coins : Bytes) :
    Option (Bytes × Bytes) := do
  let dk ← aws.generate algorithm coins
  let ek ← aws.encapsulationKey dk
  let publicKey ← aws.encapsulationKeyBytes ek
  let secretKey ← aws.decapsulationKeyBytes dk
  some (publicKey, secretKey)

/-- The ciphertext and shared secret for a raw public key. -/
def encapsulateTo
    (aws : AwsLcKem)
    (algorithm : PqKemAlgorithm)
    (publicKey coins : Bytes) :
    Option (Bytes × Bytes) := do
  let ek ← aws.newEncapsulationKey algorithm publicKey
  aws.encapsulate ek coins

/-- The shared secret of a ciphertext under a raw secret key. -/
def decapsulateWith
    (aws : AwsLcKem)
    (algorithm : PqKemAlgorithm)
    (secretKey ciphertext : Bytes) :
    Option Bytes := do
  let dk ← aws.newDecapsulationKey algorithm secretKey
  aws.decapsulate dk ciphertext

/-- Outputs have the declared sizes. -/
structure Sizes
    (aws : AwsLcKem)
    (declared : DeclaredSizes) : Prop where
  keyPair :
    ∀ algorithm coins publicKey secretKey,
      aws.keyPair algorithm coins = some (publicKey, secretKey) →
      publicKey.length = declared.kemPublicKeyBytes algorithm ∧
        secretKey.length = declared.kemSecretKeyBytes algorithm
  encapsulation :
    ∀ algorithm publicKey coins ciphertext sharedSecret,
      aws.encapsulateTo algorithm publicKey coins =
        some (ciphertext, sharedSecret) →
      ciphertext.length = declared.ciphertextBytes algorithm ∧
        sharedSecret.length = declared.sharedSecretBytes algorithm
  sharedSecret :
    ∀ algorithm secretKey ciphertext sharedSecret,
      aws.decapsulateWith algorithm secretKey ciphertext =
        some sharedSecret →
      sharedSecret.length = declared.sharedSecretBytes algorithm

end AwsLcKem

/-- The operations of `PqdsaKeyPair` and `UnparsedPublicKey::verify`. -/
structure AwsLcPqdsa where
  KeyPair : Type
  generate :
    PqSignatureAlgorithm →
      (coins : Bytes) →
      Option KeyPair
  fromSeed :
    PqSignatureAlgorithm →
      (seed : Bytes) →
      Option KeyPair
  fromRawPrivateKey :
    PqSignatureAlgorithm →
      (secretKey : Bytes) →
      Option KeyPair
  publicKey : KeyPair → Bytes
  privateKeyBytes : KeyPair → Option Bytes
  sign :
    KeyPair →
      (message coins : Bytes) →
      Option Bytes
  verify :
    PqSignatureAlgorithm →
      (publicKey message signature : Bytes) →
      Bool

namespace AwsLcPqdsa

/-- The raw public and secret key of a key pair. -/
def rawKeys
    (aws : AwsLcPqdsa)
    (keyPair : aws.KeyPair) :
    Option (Bytes × Bytes) := do
  let secretKey ← aws.privateKeyBytes keyPair
  some (aws.publicKey keyPair, secretKey)

/-- The raw keys of a generated pair. -/
def generated
    (aws : AwsLcPqdsa)
    (algorithm : PqSignatureAlgorithm)
    (coins : Bytes) :
    Option (Bytes × Bytes) := do
  let keyPair ← aws.generate algorithm coins
  aws.rawKeys keyPair

/-- The raw keys of the pair that a seed determines. -/
def seeded
    (aws : AwsLcPqdsa)
    (algorithm : PqSignatureAlgorithm)
    (seed : Bytes) :
    Option (Bytes × Bytes) := do
  let keyPair ← aws.fromSeed algorithm seed
  aws.rawKeys keyPair

/-- The signature of a message under a raw secret key. -/
def signWith
    (aws : AwsLcPqdsa)
    (algorithm : PqSignatureAlgorithm)
    (secretKey message coins : Bytes) :
    Option Bytes := do
  let keyPair ← aws.fromRawPrivateKey algorithm secretKey
  aws.sign keyPair message coins

/-- Outputs have the declared sizes. -/
structure Sizes
    (aws : AwsLcPqdsa)
    (declared : DeclaredSizes) : Prop where
  generated :
    ∀ algorithm coins publicKey secretKey,
      aws.generated algorithm coins = some (publicKey, secretKey) →
      publicKey.length = declared.signPublicKeyBytes algorithm ∧
        secretKey.length = declared.signSecretKeyBytes algorithm
  seeded :
    ∀ algorithm seed publicKey secretKey,
      aws.seeded algorithm seed = some (publicKey, secretKey) →
      publicKey.length = declared.signPublicKeyBytes algorithm ∧
        secretKey.length = declared.signSecretKeyBytes algorithm
  signature :
    ∀ algorithm secretKey message coins signature,
      aws.signWith algorithm secretKey message coins =
        some signature →
      signature.length = declared.signatureBytes algorithm

end AwsLcPqdsa

/-! ## X25519 and Ed25519 -/

/-- The operations of `aws_lc_rs::agreement` and of `Ed25519KeyPair`. -/
structure AwsLcClassical where
  PrivateKey : Type
  Ed25519KeyPair : Type
  fromPrivateKey : (secret : Bytes) → Option PrivateKey
  computePublicKey : PrivateKey → Option Bytes
  agree :
    PrivateKey →
      (peer : Bytes) →
      Option Bytes
  fromSeedUnchecked : (seed : Bytes) → Option Ed25519KeyPair
  ed25519PublicKey : Ed25519KeyPair → Bytes
  ed25519Sign :
    Ed25519KeyPair →
      (message : Bytes) →
      Bytes

/-- `rand::fill` of a buffer of the given length; `none` is its failure. -/
abbrev Rng : Type :=
  (length : Nat) → Option { drawn : Bytes // drawn.length = length }

/-- The bytes that a buffer of the given length is filled with. -/
def Rng.fill
    (rng : Rng)
    (length : Nat) :
    Option Bytes :=
  (rng length).map Subtype.val

/-- A filled buffer keeps its length. -/
theorem Rng.length_fill
    {rng : Rng}
    {length : Nat}
    {drawn : Bytes}
    (filled : rng.fill length = some drawn) :
    drawn.length = length := by
  obtain ⟨answer, _, rfl⟩ := Option.map_eq_some_iff.mp filled
  exact answer.property

namespace AwsLcClassical

/-- The X25519 public key of a private key, and that private key. -/
def x25519Keys
    (aws : AwsLcClassical)
    (secret : Bytes) :
    Option (Bytes × Bytes) := do
  let privateKey ← aws.fromPrivateKey secret
  let publicKey ← aws.computePublicKey privateKey
  some (publicKey, secret)

/-- The X25519 shared secret of a private key and a peer. -/
def x25519Agree
    (aws : AwsLcClassical)
    (secret peer : Bytes) :
    Option Bytes := do
  let privateKey ← aws.fromPrivateKey secret
  aws.agree privateKey peer

/-- The Ed25519 public key of a seed. -/
def ed25519Public
    (aws : AwsLcClassical)
    (seed : Bytes) :
    Option Bytes := do
  let keyPair ← aws.fromSeedUnchecked seed
  some (aws.ed25519PublicKey keyPair)

/-- The Ed25519 public key of a seed, and that seed. -/
def ed25519Keys
    (aws : AwsLcClassical)
    (seed : Bytes) :
    Option (Bytes × Bytes) := do
  let publicKey ← aws.ed25519Public seed
  some (publicKey, seed)

/-- The Ed25519 signature of a message under a seed. -/
def ed25519SignWith
    (aws : AwsLcClassical)
    (seed message : Bytes) :
    Option Bytes := do
  let keyPair ← aws.fromSeedUnchecked seed
  some (aws.ed25519Sign keyPair message)

/-- Public keys are of 32 bytes. -/
structure KeySizes (aws : AwsLcClassical) : Prop where
  publicKey :
    ∀ privateKey publicKey,
      aws.computePublicKey privateKey = some publicKey →
      publicKey.length = 32
  ed25519PublicKey :
    ∀ keyPair, (aws.ed25519PublicKey keyPair).length = 32

/-- Public keys and shared secrets are of 32 bytes, signatures of 64. -/
structure OutputSizes
    (aws : AwsLcClassical) : Prop extends aws.KeySizes where
  agreed :
    ∀ privateKey peer shared,
      aws.agree privateKey peer = some shared →
      shared.length = 32
  signature :
    ∀ keyPair message,
      (aws.ed25519Sign keyPair message).length = 64

namespace KeySizes

variable {aws : AwsLcClassical}

/-- The X25519 keys of a secret are a public key of 32 bytes and the secret. -/
theorem x25519Keys
    (sizes : aws.KeySizes)
    {secret publicKey secretKey : Bytes}
    (generated :
      aws.x25519Keys secret = some (publicKey, secretKey)) :
    publicKey.length = 32 ∧ secretKey = secret := by
  obtain ⟨privateKey, made, generated⟩ :=
    Option.bind_eq_some_iff.mp generated
  obtain ⟨computed, produced, same⟩ :=
    Option.bind_eq_some_iff.mp generated
  cases same
  exact ⟨sizes.publicKey privateKey publicKey produced, rfl⟩

/-- The Ed25519 keys of a seed are a public key of 32 bytes and the seed. -/
theorem ed25519Keys
    (sizes : aws.KeySizes)
    {seed publicKey secretKey : Bytes}
    (generated : aws.ed25519Keys seed = some (publicKey, secretKey)) :
    publicKey.length = 32 ∧ secretKey = seed := by
  obtain ⟨computed, derived, same⟩ :=
    Option.bind_eq_some_iff.mp generated
  cases same
  obtain ⟨keyPair, made, same⟩ := Option.bind_eq_some_iff.mp derived
  cases same
  exact ⟨sizes.ed25519PublicKey keyPair, rfl⟩

end KeySizes

end AwsLcClassical

/-- Zeros of a size, for an input of a size. -/
def zerosFor
    (input : Bytes)
    (inputSize outputSize : Nat) :
    Option Bytes :=
  if input.length = inputSize then
    some (List.replicate outputSize 0)
  else
    none

/-- Zeros of a size are given for an input of its size only. -/
theorem zerosFor_eq_some
    {input output : Bytes}
    {inputSize outputSize : Nat}
    (answered : zerosFor input inputSize outputSize = some output) :
    input.length = inputSize ∧ output.length = outputSize := by
  rw [zerosFor] at answered
  split at answered
  · rename_i length
    cases answered
    exact ⟨length, List.length_replicate⟩
  · cases answered

/-- An algorithm, for an input of a size. -/
def algorithmFor
    {Algorithm : Type}
    (algorithm : Algorithm)
    (input : Bytes)
    (inputSize : Nat) :
    Option Algorithm :=
  if input.length = inputSize then
    some algorithm
  else
    none

/-- The algorithm asked for is given, for an input of its size only. -/
theorem algorithmFor_eq_some
    {Algorithm : Type}
    {algorithm answer : Algorithm}
    {input : Bytes}
    {inputSize : Nat}
    (answered :
      algorithmFor algorithm input inputSize = some answer) :
    answer = algorithm ∧ input.length = inputSize := by
  rw [algorithmFor] at answered
  split at answered
  · rename_i length
    exact ⟨(Option.some.inj answered).symm, length⟩
  · cases answered

/-- Inputs and outputs of the declared sizes, with zeros for outputs. -/
def AwsLcKem.zeros (declared : DeclaredSizes) : AwsLcKem where
  DecapsulationKey := PqKemAlgorithm
  EncapsulationKey := PqKemAlgorithm
  generate := fun algorithm _ => some algorithm
  encapsulationKey := some
  encapsulationKeyBytes := fun algorithm =>
    some (List.replicate (declared.kemPublicKeyBytes algorithm) 0)
  decapsulationKeyBytes := fun algorithm =>
    some (List.replicate (declared.kemSecretKeyBytes algorithm) 0)
  newEncapsulationKey := fun algorithm publicKey =>
    algorithmFor algorithm publicKey
      (declared.kemPublicKeyBytes algorithm)
  newDecapsulationKey := fun algorithm secretKey =>
    algorithmFor algorithm secretKey
      (declared.kemSecretKeyBytes algorithm)
  encapsulate := fun algorithm _ =>
    some
      (List.replicate (declared.ciphertextBytes algorithm) 0,
        List.replicate (declared.sharedSecretBytes algorithm) 0)
  decapsulate := fun algorithm ciphertext =>
    zerosFor ciphertext (declared.ciphertextBytes algorithm)
      (declared.sharedSecretBytes algorithm)

theorem AwsLcKem.zeros_sizes (declared : DeclaredSizes) :
    (AwsLcKem.zeros declared).Sizes declared where
  keyPair := by
    intro algorithm coins publicKey secretKey generated
    cases generated
    exact ⟨List.length_replicate, List.length_replicate⟩
  encapsulation := by
    intro algorithm publicKey coins ciphertext sharedSecret encapsulated
    obtain ⟨ek, made, produced⟩ :=
      Option.bind_eq_some_iff.mp encapsulated
    obtain ⟨rfl, _⟩ := algorithmFor_eq_some made
    cases produced
    exact ⟨List.length_replicate, List.length_replicate⟩
  sharedSecret := by
    intro algorithm secretKey ciphertext sharedSecret decapsulated
    obtain ⟨dk, made, produced⟩ :=
      Option.bind_eq_some_iff.mp decapsulated
    obtain ⟨rfl, _⟩ := algorithmFor_eq_some made
    exact (zerosFor_eq_some produced).2

/-- Inputs and outputs of the declared sizes, with zeros for outputs. -/
def AwsLcPqdsa.zeros (declared : DeclaredSizes) : AwsLcPqdsa where
  KeyPair := PqSignatureAlgorithm
  generate := fun algorithm _ => some algorithm
  fromSeed := fun algorithm seed => algorithmFor algorithm seed 32
  fromRawPrivateKey := fun algorithm secretKey =>
    algorithmFor algorithm secretKey
      (declared.signSecretKeyBytes algorithm)
  publicKey := fun algorithm =>
    List.replicate (declared.signPublicKeyBytes algorithm) 0
  privateKeyBytes := fun algorithm =>
    some (List.replicate (declared.signSecretKeyBytes algorithm) 0)
  sign := fun algorithm _ _ =>
    some (List.replicate (declared.signatureBytes algorithm) 0)
  verify := fun algorithm publicKey _ signature =>
    publicKey.length = declared.signPublicKeyBytes algorithm &&
      signature.length = declared.signatureBytes algorithm

theorem AwsLcPqdsa.zeros_sizes (declared : DeclaredSizes) :
    (AwsLcPqdsa.zeros declared).Sizes declared where
  generated := by
    intro algorithm coins publicKey secretKey generated
    cases generated
    exact ⟨List.length_replicate, List.length_replicate⟩
  seeded := by
    intro algorithm seed publicKey secretKey seeded
    obtain ⟨keyPair, made, exported⟩ :=
      Option.bind_eq_some_iff.mp seeded
    obtain ⟨rfl, _⟩ := algorithmFor_eq_some made
    cases exported
    exact ⟨List.length_replicate, List.length_replicate⟩
  signature := by
    intro algorithm secretKey message coins signature signed
    obtain ⟨keyPair, made, produced⟩ :=
      Option.bind_eq_some_iff.mp signed
    obtain ⟨rfl, _⟩ := algorithmFor_eq_some made
    cases produced
    exact List.length_replicate

/-- Inputs and outputs of their sizes, with zeros for outputs. -/
def AwsLcClassical.zeros : AwsLcClassical where
  PrivateKey := Unit
  Ed25519KeyPair := Unit
  fromPrivateKey := fun secret => algorithmFor () secret 32
  computePublicKey := fun _ => some (List.replicate 32 0)
  agree := fun _ peer => zerosFor peer 32 32
  fromSeedUnchecked := fun seed => algorithmFor () seed 32
  ed25519PublicKey := fun _ => List.replicate 32 0
  ed25519Sign := fun _ _ => List.replicate 64 0

theorem AwsLcClassical.zeros_sizes :
    AwsLcClassical.zeros.OutputSizes where
  publicKey := by
    intro privateKey publicKey computed
    cases computed
    exact List.length_replicate
  agreed := fun _ _ _ agreed => (zerosFor_eq_some agreed).2
  ed25519PublicKey := fun _ => List.length_replicate
  signature := fun _ _ => List.length_replicate

end PqForgeFfi
