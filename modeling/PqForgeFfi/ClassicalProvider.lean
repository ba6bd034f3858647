import PqForgeFfi.LatticeProvider

namespace PqForgeFfi

/-!
# The classical provider

`NativePqforgeClassicalProvider` runs X25519 and Ed25519 on AWS-LC and hands the
NIST curves to another provider.  Its outputs are those of the pure-Dart
provider, so that both ends of a handshake agree whichever they use.
-/

/--
`PqClassicalProvider` of the `pqforge` package: what a future completes with,
and the generator that the key generations draw from.
-/
structure PqClassicalProvider where
  x25519GenerateKeyPair :
    (seed : Option Bytes) →
      Rng →
      Except DartThrow (Bytes × Bytes)
  x25519SharedSecret :
    (secretKey remotePublicKey : Bytes) →
      Except DartThrow Bytes
  ed25519GenerateKeyPair :
    (seed : Option Bytes) →
      Rng →
      Except DartThrow (Bytes × Bytes)
  ed25519PublicKeyFromSeed :
    (seed : Bytes) →
      Except DartThrow Bytes
  ed25519Sign :
    (secretKey publicKey message : Bytes) →
      Except DartThrow Bytes
  ed25519Verify :
    (publicKey message signature : Bytes) →
      Except DartThrow Bool
  p256GenerateKeyPair :
    (seed : Option Bytes) →
      Rng →
      Except DartThrow (Bytes × Bytes)
  p256SharedSecret :
    (secretKey remotePublicKey : Bytes) →
      Except DartThrow Bytes
  p384GenerateKeyPair :
    (seed : Option Bytes) →
      Rng →
      Except DartThrow (Bytes × Bytes)
  p384SharedSecret :
    (secretKey remotePublicKey : Bytes) →
      Except DartThrow Bytes
  ecdsaP256GenerateKeyPair :
    Rng →
      Except DartThrow (Bytes × Bytes)
  ecdsaP256PublicKeyFromPrivate :
    (secretKey : Bytes) →
      Except DartThrow Bytes
  ecdsaP256Sign :
    (secretKey message : Bytes) →
      Except DartThrow Bytes
  ecdsaP256Verify :
    (publicKey message signature : Bytes) →
      Except DartThrow Bool

/-- `NativePqforgeClassicalProvider`, over the backend of a native library. -/
def NativePqforgeClassicalProvider.provider
    (native : NativeMemory.NativeLibraries)
    (fallback : PqClassicalProvider) :
    PqClassicalProvider where
  x25519GenerateKeyPair := fun seed rng =>
    (NativeBackend.x25519Generate native.classical rng seed).ending
  x25519SharedSecret := fun secretKey remotePublicKey =>
    (NativeBackend.x25519SharedSecret native.classical secretKey
      remotePublicKey).ending
  ed25519GenerateKeyPair := fun seed rng =>
    (NativeBackend.ed25519Generate native.classical rng seed).ending
  ed25519PublicKeyFromSeed := fun seed =>
    (NativeBackend.ed25519PublicFromSeed native.classical seed).ending
  ed25519Sign := fun secretKey _ message =>
    (NativeBackend.ed25519Sign native.classical secretKey message).ending
  ed25519Verify := NativeBackend.ed25519Verify native.ed25519
  p256GenerateKeyPair := fallback.p256GenerateKeyPair
  p256SharedSecret := fallback.p256SharedSecret
  p384GenerateKeyPair := fallback.p384GenerateKeyPair
  p384SharedSecret := fallback.p384SharedSecret
  ecdsaP256GenerateKeyPair := fallback.ecdsaP256GenerateKeyPair
  ecdsaP256PublicKeyFromPrivate := fallback.ecdsaP256PublicKeyFromPrivate
  ecdsaP256Sign := fallback.ecdsaP256Sign
  ecdsaP256Verify := fallback.ecdsaP256Verify

/-! ## What the providers are to compute -/

/--
X25519 and Ed25519, where a secret key is the seed of 32 bytes that it is made
of, and an X25519 public key is of 32 bytes as well.
-/
structure ClassicalSystem where
  x25519Public : (secret : Bytes) → Option Bytes
  x25519Agree : (secret peer : Bytes) → Option Bytes
  ed25519Public : (seed : Bytes) → Option Bytes
  ed25519Sign : (seed message : Bytes) → Option Bytes
  x25519Lengths :
    ∀ secret publicKey,
      x25519Public secret = some publicKey →
      secret.length = 32 ∧ publicKey.length = 32
  ed25519Length :
    ∀ seed publicKey,
      ed25519Public seed = some publicKey →
      seed.length = 32

/-- Two parties agree on a secret. -/
def ClassicalSystem.Commutes (system : ClassicalSystem) : Prop :=
  ∀ alice alicePublic bob bobPublic,
    system.x25519Public alice = some alicePublic →
    system.x25519Public bob = some bobPublic →
    system.x25519Agree alice bobPublic =
      system.x25519Agree bob alicePublic

/-- A signature of a message under the seed of a public key. -/
def ClassicalSystem.Signed
    (system : ClassicalSystem)
    (publicKey message signature : Bytes) : Prop :=
  ∃ seed,
    system.ed25519Public seed = some publicKey ∧
      system.ed25519Sign seed message = some signature

/-- A provider implements X25519 and Ed25519. -/
structure PqClassicalProvider.Implements
    (provider : PqClassicalProvider)
    (system : ClassicalSystem) : Prop where
  x25519Generates :
    ∀ seed rng keys,
      provider.x25519GenerateKeyPair seed rng = .ok keys →
      system.x25519Public keys.2 = some keys.1
  x25519Seeded :
    ∀ seed rng,
      seed.length = 32 →
      (provider.x25519GenerateKeyPair (some seed) rng).toOption =
        (system.x25519Public seed).map (·, seed)
  x25519Agrees :
    ∀ secretKey publicKey remoteSecretKey remotePublicKey,
      system.x25519Public secretKey = some publicKey →
      system.x25519Public remoteSecretKey = some remotePublicKey →
      (provider.x25519SharedSecret secretKey
          remotePublicKey).toOption =
        system.x25519Agree secretKey remotePublicKey
  ed25519Generates :
    ∀ seed rng keys,
      provider.ed25519GenerateKeyPair seed rng = .ok keys →
      system.ed25519Public keys.2 = some keys.1
  ed25519Seeded :
    ∀ seed rng,
      seed.length = 32 →
      (provider.ed25519GenerateKeyPair (some seed) rng).toOption =
        (system.ed25519Public seed).map (·, seed)
  ed25519Derives :
    ∀ seed,
      seed.length = 32 →
      (provider.ed25519PublicKeyFromSeed seed).toOption =
        system.ed25519Public seed
  ed25519Signs :
    ∀ secretKey publicKey message,
      system.ed25519Public secretKey = some publicKey →
      (provider.ed25519Sign secretKey publicKey message).toOption =
        system.ed25519Sign secretKey message
  ed25519Verifies :
    ∀ publicKey message signature,
      system.Signed publicKey message signature →
      provider.ed25519Verify publicKey message signature = .ok true

/--
AWS-LC computes X25519 and Ed25519 on secrets and seeds of 32 bytes, and makes
outputs of the declared sizes.  Of other secrets and seeds nothing is assumed.
-/
structure NativeMemory.NativeLibraries.ComputeClassical
    (libraries : NativeMemory.NativeLibraries)
    (system : ClassicalSystem) : Prop where
  sizes : libraries.classical.OutputSizes
  x25519Keys :
    ∀ secret,
      secret.length = 32 →
      libraries.classical.x25519Keys secret =
        (system.x25519Public secret).map (·, secret)
  x25519Agree :
    ∀ secret publicKey remoteSecret remotePublicKey,
      system.x25519Public secret = some publicKey →
      system.x25519Public remoteSecret = some remotePublicKey →
      libraries.classical.x25519Agree secret remotePublicKey =
        system.x25519Agree secret remotePublicKey
  ed25519Public :
    ∀ seed,
      seed.length = 32 →
      libraries.classical.ed25519Public seed = system.ed25519Public seed
  ed25519Sign :
    ∀ seed message,
      seed.length = 32 →
      libraries.classical.ed25519SignWith seed message =
        system.ed25519Sign seed message
  ed25519Accepts :
    ∀ publicKey message signature,
      system.Signed publicKey message signature →
      libraries.ed25519.Accepts publicKey message signature

/-- The providers that can be registered over a pure-Dart one. -/
inductive RegisteredClassical
    (system : ClassicalSystem)
    (pureDart : PqClassicalProvider) :
    PqClassicalProvider →
    Prop where
  | pureDart : RegisteredClassical system pureDart pureDart
  | native
      {libraries : NativeMemory.NativeLibraries}
      {fallback : PqClassicalProvider}
      (compute : libraries.ComputeClassical system)
      (below : RegisteredClassical system pureDart fallback) :
      RegisteredClassical system pureDart
        (NativePqforgeClassicalProvider.provider libraries fallback)

namespace NativePqforgeClassicalProvider

open NativeClassical

variable {system : ClassicalSystem}
variable {libraries : NativeMemory.NativeLibraries}

/-- Keys asked for of AWS-LC are those of a secret: the seed or a drawn one. -/
theorem asked_eq_some
    {primitive : Bytes → Option (Bytes × Bytes)}
    {publicOf : Bytes → Option Bytes}
    (computes :
      ∀ secret,
        secret.length = 32 →
        primitive secret = (publicOf secret).map (·, secret))
    {rng : Rng}
    {seed : CSlice}
    {keys : Bytes × Bytes}
    (asked : (askedSecret rng seed >>= primitive) = some keys) :
    publicOf keys.2 = some keys.1 := by
  obtain ⟨secret, drawn, made⟩ := Option.bind_eq_some_iff.mp asked
  rw [computes secret (length_askedSecret drawn)] at made
  obtain ⟨publicKey, derived, rfl⟩ := Option.map_eq_some_iff.mp made
  exact derived

/-- Keys asked for by a seed of 32 bytes are those of that seed. -/
theorem asked_of_seed
    {primitive : Bytes → Option (Bytes × Bytes)}
    {seed : Bytes}
    (length : seed.length = 32)
    (rng : Rng) :
    (askedSecret rng (.valid seed) >>= primitive) = primitive seed := by
  rw [askedSecret, ofKeyLength, if_pos length]
  rfl

/-- Ed25519 keys are the public key of a seed and that seed. -/
theorem ed25519Keys_eq
    (compute : libraries.ComputeClassical system)
    (seed : Bytes)
    (length : seed.length = 32) :
    libraries.classical.ed25519Keys seed =
      (system.ed25519Public seed).map (·, seed) := by
  rw [AwsLcClassical.ed25519Keys, compute.ed25519Public seed length]
  cases system.ed25519Public seed with
  | none =>
      rfl
  | some publicKey =>
      rfl

/-- Any native provider implements X25519 and Ed25519. -/
theorem provider_implements
    (compute : libraries.ComputeClassical system)
    (fallback : PqClassicalProvider) :
    (provider libraries fallback).Implements system := by
  have marshalled := NativeBackend.classical_marshalled compute.sizes
  constructor
  case x25519Generates =>
    intro seed rng keys returned
    exact asked_eq_some compute.x25519Keys
      ((marshalled.x25519Generate rng seed).eq_some returned)
  case x25519Seeded =>
    intro seed rng length
    exact ((marshalled.x25519Generate rng (some seed)).toOption_eq.trans
      (asked_of_seed length rng)).trans (compute.x25519Keys seed length)
  case x25519Agrees =>
    intro secretKey publicKey remoteSecretKey remotePublicKey derived
      remoteDerived
    have agreed := (marshalled.x25519SharedSecret secretKey
      remotePublicKey).toOption_eq
    rw [ofKeyLength, ofKeyLength,
      if_pos (system.x25519Lengths _ _ derived).1,
      if_pos (system.x25519Lengths _ _ remoteDerived).2] at agreed
    exact agreed.trans
      (compute.x25519Agree secretKey publicKey remoteSecretKey
        remotePublicKey derived remoteDerived)
  case ed25519Generates =>
    intro seed rng keys returned
    exact asked_eq_some (ed25519Keys_eq compute)
      ((marshalled.ed25519Generate rng seed).eq_some returned)
  case ed25519Seeded =>
    intro seed rng length
    exact ((marshalled.ed25519Generate rng (some seed)).toOption_eq.trans
      (asked_of_seed length rng)).trans (ed25519Keys_eq compute seed length)
  case ed25519Derives =>
    intro seed length
    have derived := (marshalled.ed25519PublicFromSeed seed).toOption_eq
    rw [ofKeyLength, if_pos length] at derived
    exact derived.trans (compute.ed25519Public seed length)
  case ed25519Signs =>
    intro secretKey publicKey message derived
    have length := system.ed25519Length secretKey publicKey derived
    have signed := (marshalled.ed25519Sign secretKey message).toOption_eq
    rw [ofKeyLength, if_pos length] at signed
    exact signed.trans (compute.ed25519Sign secretKey message length)
  case ed25519Verifies =>
    intro publicKey message signature signed
    obtain ⟨verdict, returned, right⟩ :=
      NativeBackend.ed25519Verify_verdict libraries.ed25519 publicKey
        message signature
    have accepted := right.mpr
      (compute.ed25519Accepts publicKey message signature signed)
    exact returned.trans (congrArg Except.ok accepted)

end NativePqforgeClassicalProvider

/-! ## Towers of providers -/

section Towers

variable {system : ClassicalSystem}
variable {pureDart : PqClassicalProvider}

/-- Every provider over one that implements the curves implements them. -/
theorem RegisteredClassical.implements
    (bottom : pureDart.Implements system)
    {provider : PqClassicalProvider}
    (registered : RegisteredClassical system pureDart provider) :
    provider.Implements system := by
  cases registered with
  | pureDart =>
      exact bottom
  | native compute _ =>
      exact NativePqforgeClassicalProvider.provider_implements compute _

/-- The NIST curves are those of the provider at the bottom. -/
structure PqClassicalProvider.DelegatesTo
    (provider pureDart : PqClassicalProvider) : Prop where
  p256GenerateKeyPair :
    provider.p256GenerateKeyPair = pureDart.p256GenerateKeyPair
  p256SharedSecret :
    provider.p256SharedSecret = pureDart.p256SharedSecret
  p384GenerateKeyPair :
    provider.p384GenerateKeyPair = pureDart.p384GenerateKeyPair
  p384SharedSecret :
    provider.p384SharedSecret = pureDart.p384SharedSecret
  ecdsaP256GenerateKeyPair :
    provider.ecdsaP256GenerateKeyPair =
      pureDart.ecdsaP256GenerateKeyPair
  ecdsaP256PublicKeyFromPrivate :
    provider.ecdsaP256PublicKeyFromPrivate =
      pureDart.ecdsaP256PublicKeyFromPrivate
  ecdsaP256Sign :
    provider.ecdsaP256Sign = pureDart.ecdsaP256Sign
  ecdsaP256Verify :
    provider.ecdsaP256Verify = pureDart.ecdsaP256Verify

/-- Calls of the NIST curves reach the bottom of a tower of any height. -/
theorem RegisteredClassical.delegates
    {provider : PqClassicalProvider}
    (registered : RegisteredClassical system pureDart provider) :
    provider.DelegatesTo pureDart := by
  induction registered with
  | pureDart =>
      exact ⟨rfl, rfl, rfl, rfl, rfl, rfl, rfl, rfl⟩
  | native _ _ inductionHypothesis =>
      exact
        ⟨inductionHypothesis.p256GenerateKeyPair,
          inductionHypothesis.p256SharedSecret,
          inductionHypothesis.p384GenerateKeyPair,
          inductionHypothesis.p384SharedSecret,
          inductionHypothesis.ecdsaP256GenerateKeyPair,
          inductionHypothesis.ecdsaP256PublicKeyFromPrivate,
          inductionHypothesis.ecdsaP256Sign,
          inductionHypothesis.ecdsaP256Verify⟩

/--
What is determined by its inputs is the same bytes as of the other provider, or
nothing where that one throws: keys of seeds, secrets shared with the holder of
a key, public keys, and signatures under a public key that is the seed's.
-/
structure PqClassicalProvider.SameBytes
    (provider pureDart : PqClassicalProvider) : Prop where
  x25519Seeded :
    ∀ seed rng other,
      seed.length = 32 →
      (provider.x25519GenerateKeyPair (some seed) rng).toOption =
        (pureDart.x25519GenerateKeyPair (some seed) other).toOption
  x25519SharedSecret :
    ∀ seed rng keys remoteSeed remoteRng remoteKeys,
      pureDart.x25519GenerateKeyPair seed rng = .ok keys →
      pureDart.x25519GenerateKeyPair remoteSeed remoteRng =
        .ok remoteKeys →
      (provider.x25519SharedSecret keys.2 remoteKeys.1).toOption =
        (pureDart.x25519SharedSecret keys.2 remoteKeys.1).toOption
  ed25519Seeded :
    ∀ seed rng other,
      seed.length = 32 →
      (provider.ed25519GenerateKeyPair (some seed) rng).toOption =
        (pureDart.ed25519GenerateKeyPair (some seed) other).toOption
  ed25519PublicKeyFromSeed :
    ∀ seed,
      seed.length = 32 →
      (provider.ed25519PublicKeyFromSeed seed).toOption =
        (pureDart.ed25519PublicKeyFromSeed seed).toOption
  ed25519Sign :
    ∀ secretKey publicKey message,
      secretKey.length = 32 →
      pureDart.ed25519PublicKeyFromSeed secretKey = .ok publicKey →
      (provider.ed25519Sign secretKey publicKey message).toOption =
        (pureDart.ed25519Sign secretKey publicKey message).toOption

/-- Two implementations of the curves give the same bytes. -/
theorem PqClassicalProvider.Implements.sameBytes
    {provider : PqClassicalProvider}
    (here : provider.Implements system)
    (there : pureDart.Implements system) :
    provider.SameBytes pureDart where
  x25519Seeded := by
    intro seed rng other length
    rw [here.x25519Seeded seed rng length,
      there.x25519Seeded seed other length]
  x25519SharedSecret := by
    intro seed rng keys remoteSeed remoteRng remoteKeys made remoteMade
    have derived := there.x25519Generates seed rng keys made
    have remoteDerived :=
      there.x25519Generates remoteSeed remoteRng remoteKeys remoteMade
    rw [here.x25519Agrees _ _ _ _ derived remoteDerived,
      there.x25519Agrees _ _ _ _ derived remoteDerived]
  ed25519Seeded := by
    intro seed rng other length
    rw [here.ed25519Seeded seed rng length,
      there.ed25519Seeded seed other length]
  ed25519PublicKeyFromSeed := by
    intro seed length
    rw [here.ed25519Derives seed length,
      there.ed25519Derives seed length]
  ed25519Sign := by
    intro secretKey publicKey message length derived
    have ofSeed : system.ed25519Public secretKey = some publicKey := by
      rw [← there.ed25519Derives secretKey length, derived]
      rfl
    rw [here.ed25519Signs secretKey publicKey message ofSeed,
      there.ed25519Signs secretKey publicKey message ofSeed]

/-- Both ends of a handshake derive the same secret, or neither derives one. -/
def HandshakesAgree (alice bob : PqClassicalProvider) : Prop :=
  ∀ aliceSeed aliceRng aliceKeys bobSeed bobRng bobKeys,
    alice.x25519GenerateKeyPair aliceSeed aliceRng = .ok aliceKeys →
    bob.x25519GenerateKeyPair bobSeed bobRng = .ok bobKeys →
    (alice.x25519SharedSecret aliceKeys.2 bobKeys.1).toOption =
      (bob.x25519SharedSecret bobKeys.2 aliceKeys.1).toOption

/-- What one end signs under its keys the other end accepts. -/
def ClassicalSignaturesCross (signer verifier : PqClassicalProvider) :
    Prop :=
  ∀ seed rng keys message signature,
    signer.ed25519GenerateKeyPair seed rng = .ok keys →
    signer.ed25519Sign keys.2 keys.1 message = .ok signature →
    verifier.ed25519Verify keys.1 message signature = .ok true

/--
Providers registered over one pure-Dart provider hand it the NIST curves, give
the bytes that it gives on the others, and agree with each other in handshakes
and on signatures.
-/
theorem classical_providers_agree
    (commutes : system.Commutes)
    (bottom : pureDart.Implements system)
    {alice bob : PqClassicalProvider}
    (aliceUses : RegisteredClassical system pureDart alice)
    (bobUses : RegisteredClassical system pureDart bob) :
    alice.DelegatesTo pureDart ∧
      alice.SameBytes pureDart ∧
      HandshakesAgree alice bob ∧
      ClassicalSignaturesCross alice bob := by
  have here := aliceUses.implements bottom
  have there := bobUses.implements bottom
  refine ⟨aliceUses.delegates, here.sameBytes bottom, ?_, ?_⟩
  · intro aliceSeed aliceRng aliceKeys bobSeed bobRng bobKeys aliceMade
      bobMade
    have alicePublic :=
      here.x25519Generates aliceSeed aliceRng aliceKeys aliceMade
    have bobPublic :=
      there.x25519Generates bobSeed bobRng bobKeys bobMade
    rw [here.x25519Agrees _ _ _ _ alicePublic bobPublic,
      there.x25519Agrees _ _ _ _ bobPublic alicePublic]
    exact commutes aliceKeys.2 aliceKeys.1 bobKeys.2 bobKeys.1 alicePublic
      bobPublic
  · intro seed rng keys message signature made signed
    have ofSeed := here.ed25519Generates seed rng keys made
    refine there.ed25519Verifies keys.1 message signature
      ⟨keys.2, ofSeed, ?_⟩
    rw [← here.ed25519Signs keys.2 keys.1 message ofSeed, signed]
    rfl

end Towers

/-- Curves on which public keys, secrets and signatures are zeros. -/
def ClassicalSystem.zeros : ClassicalSystem where
  x25519Public := fun secret => zerosFor secret 32 32
  x25519Agree := AwsLcClassical.zeros.x25519Agree
  ed25519Public := AwsLcClassical.zeros.ed25519Public
  ed25519Sign := AwsLcClassical.zeros.ed25519SignWith
  x25519Lengths := fun _ _ derived => zerosFor_eq_some derived
  ed25519Length := by
    intro seed publicKey derived
    obtain ⟨keyPair, made, _⟩ := Option.bind_eq_some_iff.mp derived
    exact (algorithmFor_eq_some made).2

/-- Where the secret has the right length, the agreed bytes are the peer's. -/
theorem ClassicalSystem.zeros_agree
    {secret publicKey : Bytes}
    (derived : ClassicalSystem.zeros.x25519Public secret = some publicKey)
    (peer : Bytes) :
    ClassicalSystem.zeros.x25519Agree secret peer =
      zerosFor peer 32 32 := by
  have length := (zerosFor_eq_some derived).1
  show ((algorithmFor () secret 32).bind fun _ => zerosFor peer 32 32) = _
  rw [algorithmFor, if_pos length]
  rfl

theorem ClassicalSystem.zeros_commutes :
    ClassicalSystem.zeros.Commutes := by
  intro alice alicePublic bob bobPublic aliceDerived bobDerived
  rw [zeros_agree aliceDerived, zeros_agree bobDerived, zerosFor,
    zerosFor, if_pos (zerosFor_eq_some aliceDerived).2,
    if_pos (zerosFor_eq_some bobDerived).2]

/-- Public keys and signatures of zeros have their lengths. -/
theorem ClassicalSystem.zeros_signed
    {publicKey message signature : Bytes}
    (signed : ClassicalSystem.zeros.Signed publicKey message signature) :
    publicKey.length = 32 ∧ signature.length = 64 := by
  have sizes := AwsLcClassical.zeros_sizes
  obtain ⟨seed, derived, signed⟩ := signed
  obtain ⟨keyPair, _, same⟩ := Option.bind_eq_some_iff.mp derived
  obtain ⟨signing, _, alsoSame⟩ := Option.bind_eq_some_iff.mp signed
  cases same
  cases alsoSame
  exact ⟨sizes.ed25519PublicKey keyPair, sizes.signature signing message⟩

theorem NativeMemory.NativeLibraries.zeros_computeClassical :
    NativeMemory.NativeLibraries.zeros.ComputeClassical .zeros where
  sizes := AwsLcClassical.zeros_sizes
  x25519Keys := by
    intro secret _
    show ((algorithmFor () secret 32).bind fun _ =>
        some (List.replicate 32 0, secret)) =
      (zerosFor secret 32 32).map (·, secret)
    rw [algorithmFor, zerosFor]
    split
    · rfl
    · rfl
  x25519Agree := fun _ _ _ _ _ _ => rfl
  ed25519Public := fun _ _ => rfl
  ed25519Sign := fun _ _ _ => rfl
  ed25519Accepts := by
    intro publicKey message signature signed
    obtain ⟨keyLength, signatureLength⟩ :=
      ClassicalSystem.zeros_signed signed
    exact ⟨keyLength, signatureLength, rfl⟩

/-- A provider returns what is computed, and throws where nothing is. -/
def PqClassicalProvider.orThrow
    {Output : Type} :
    Option Output →
      Except DartThrow Output
  | some output => .ok output
  | none => .error (.argumentError "wrong length")

/-- A pure-Dart provider on those curves, and without the NIST ones. -/
def PqClassicalProvider.zeros : PqClassicalProvider where
  x25519GenerateKeyPair := fun seed rng =>
    orThrow do
      let secret ← seed.orElse fun _ => rng.fill 32
      let publicKey ← ClassicalSystem.zeros.x25519Public secret
      some (publicKey, secret)
  x25519SharedSecret := fun secretKey remotePublicKey =>
    orThrow (ClassicalSystem.zeros.x25519Agree secretKey remotePublicKey)
  ed25519GenerateKeyPair := fun seed rng =>
    orThrow do
      let secret ← seed.orElse fun _ => rng.fill 32
      let publicKey ← ClassicalSystem.zeros.ed25519Public secret
      some (publicKey, secret)
  ed25519PublicKeyFromSeed := fun seed =>
    orThrow (ClassicalSystem.zeros.ed25519Public seed)
  ed25519Sign := fun secretKey _ message =>
    orThrow (ClassicalSystem.zeros.ed25519Sign secretKey message)
  ed25519Verify := fun publicKey _ signature =>
    .ok (publicKey.length = 32 && signature.length = 64)
  p256GenerateKeyPair := fun _ _ => orThrow none
  p256SharedSecret := fun _ _ => orThrow none
  p384GenerateKeyPair := fun _ _ => orThrow none
  p384SharedSecret := fun _ _ => orThrow none
  ecdsaP256GenerateKeyPair := fun _ => orThrow none
  ecdsaP256PublicKeyFromPrivate := fun _ => orThrow none
  ecdsaP256Sign := fun _ _ => orThrow none
  ecdsaP256Verify := fun _ _ _ => orThrow none

/-- Forgetting what is thrown gives back what is computed. -/
@[simp] theorem PqClassicalProvider.toOption_orThrow
    {Output : Type}
    (computed : Option Output) :
    (orThrow computed).toOption = computed := by
  cases computed with
  | none =>
      rfl
  | some output =>
      rfl

/-- Keys of zeros are the public key of a secret and that secret. -/
theorem PqClassicalProvider.zeros_generates
    {publicOf : Bytes → Option Bytes}
    {asked : Option Bytes}
    {keys : Bytes × Bytes}
    (made :
      orThrow (do
        let secret ← asked
        let publicKey ← publicOf secret
        some (publicKey, secret)) =
        .ok keys) :
    publicOf keys.2 = some keys.1 := by
  have computed := congrArg Except.toOption made
  rw [toOption_orThrow] at computed
  obtain ⟨secret, _, computed⟩ := Option.bind_eq_some_iff.mp computed
  obtain ⟨publicKey, derived, same⟩ :=
    Option.bind_eq_some_iff.mp computed
  cases same
  exact derived

/-- The keys of a seed of zeros. -/
theorem PqClassicalProvider.zeros_seeded
    (publicOf : Bytes → Option Bytes)
    (seed : Bytes) :
    (orThrow (do
        let publicKey ← publicOf seed
        some (publicKey, seed))).toOption =
      (publicOf seed).map (·, seed) := by
  rw [toOption_orThrow, Option.map_eq_bind]
  rfl

theorem PqClassicalProvider.zeros_implements :
    PqClassicalProvider.zeros.Implements .zeros where
  x25519Generates := fun _ _ _ made => zeros_generates made
  x25519Seeded := fun seed _ _ =>
    zeros_seeded ClassicalSystem.zeros.x25519Public seed
  x25519Agrees := fun _ _ _ _ _ _ => toOption_orThrow _
  ed25519Generates := fun _ _ _ made => zeros_generates made
  ed25519Seeded := fun seed _ _ =>
    zeros_seeded ClassicalSystem.zeros.ed25519Public seed
  ed25519Derives := fun _ _ => toOption_orThrow _
  ed25519Signs := fun _ _ _ _ => toOption_orThrow _
  ed25519Verifies := by
    intro publicKey message signature signed
    obtain ⟨keyLength, signatureLength⟩ :=
      ClassicalSystem.zeros_signed signed
    simp only [zeros, keyLength, signatureLength, decide_true,
      Bool.and_self]

/--
A native provider over a native one, and the pure-Dart one: seeds of both give
keys under which the two derive the same secret.
-/
theorem classical_providers_agree_of_zeros :
    let tower :=
      NativePqforgeClassicalProvider.provider .zeros
        (NativePqforgeClassicalProvider.provider .zeros .zeros)
    let alice : Bytes := List.replicate 32 1
    let bob : Bytes := List.replicate 32 2
    let publicKey : Bytes := List.replicate 32 0
    tower.x25519GenerateKeyPair (some alice) (fun _ => none) =
        .ok (publicKey, alice) ∧
      (tower.x25519SharedSecret alice publicKey).toOption =
        (PqClassicalProvider.zeros.x25519SharedSecret bob
          publicKey).toOption := by
  intro tower alice bob publicKey
  have compute := NativeMemory.NativeLibraries.zeros_computeClassical
  have double : RegisteredClassical .zeros .zeros tower :=
    .native compute (.native compute .pureDart)
  have agree :=
    (classical_providers_agree ClassicalSystem.zeros_commutes
      PqClassicalProvider.zeros_implements double .pureDart).2.2.1
  have marshalled :=
    NativeBackend.classical_marshalled AwsLcClassical.zeros_sizes
  have aliceMade :
      tower.x25519GenerateKeyPair (some alice) (fun _ => none) =
        .ok (publicKey, alice) :=
    (marshalled.x25519Generate (fun _ => none) (some alice)).returns _ rfl
  have bobMade :
      PqClassicalProvider.zeros.x25519GenerateKeyPair (some bob)
          (fun _ => none) =
        .ok (publicKey, bob) :=
    rfl
  exact
    ⟨aliceMade,
      agree (some alice) _ (publicKey, alice) (some bob) _
        (publicKey, bob) aliceMade bobMade⟩

end PqForgeFfi
