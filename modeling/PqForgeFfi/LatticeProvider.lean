import PqForgeFfi.Interoperation

namespace PqForgeFfi

/-!
# The lattice provider

`NativePqforgeLatticeProvider` stands in for the pure-Dart provider of the
`pqforge` package and hands what AWS-LC cannot do to another provider, which may
be such a one again.  However high the tower, it answers as the provider at its
bottom, or makes what that one accepts.
-/

/-- `PqLatticeProvider` of the `pqforge` package, with the coins of the calls. -/
structure PqLatticeProvider where
  kemGenerateKeyPair :
    PqKemAlgorithm →
      (seed : Option Bytes) →
      (coins : Bytes) →
      Except DartThrow (Bytes × Bytes)
  kemEncapsulate :
    PqKemAlgorithm →
      (publicKey : Bytes) →
      (nonce : Option Bytes) →
      (coins : Bytes) →
      Except DartThrow (Bytes × Bytes)
  kemDecapsulate :
    PqKemAlgorithm →
      (secretKey ciphertext : Bytes) →
      Except DartThrow Bytes
  dsaGenerateKeyPair :
    PqSignatureAlgorithm →
      (coins : Bytes) →
      Except DartThrow (Bytes × Bytes)
  dsaGenerateKeyPairSeeded :
    PqSignatureAlgorithm →
      (seed : Bytes) →
      Except DartThrow (Bytes × Bytes)
  dsaSign :
    PqSignatureAlgorithm →
      (secretKey message : Bytes) →
      (context : Option Bytes) →
      (preHash : Bool) →
      (coins : Bytes) →
      Except DartThrow Bytes
  dsaVerify :
    PqSignatureAlgorithm →
      (publicKey message signature : Bytes) →
      (context : Option Bytes) →
      (preHash : Bool) →
      Except DartThrow Bool

namespace NativePqforgeLatticeProvider

/-- `preHash || (context != null && context.isNotEmpty)`. -/
def asksVariant
    (context : Option Bytes)
    (preHash : Bool) :
    Bool :=
  preHash ||
    match context with
    | none => false
    | some context => !context.isEmpty

/-- `NativePqforgeLatticeProvider`, over the backend of a native library. -/
def provider
    (native : NativeMemory.NativeLibraries)
    (fallback : PqLatticeProvider) :
    PqLatticeProvider where
  kemGenerateKeyPair := fun algorithm seed coins =>
    match seed with
    | some seed =>
        fallback.kemGenerateKeyPair algorithm (some seed) coins
    | none =>
        ((NativeBackend.backend native).kemGenerate algorithm coins).map
          fun kp => (kp.publicKey, kp.secretKey)
  kemEncapsulate := fun algorithm publicKey nonce coins =>
    match nonce with
    | some nonce =>
        fallback.kemEncapsulate algorithm publicKey (some nonce) coins
    | none =>
        ((NativeBackend.backend native).kemEncapsulate algorithm publicKey
          coins).map fun e => (e.ciphertext, e.sharedSecret)
  kemDecapsulate := (NativeBackend.backend native).kemDecapsulate
  dsaGenerateKeyPair := fun algorithm coins =>
    ((NativeBackend.backend native).signGenerate algorithm coins).map
      fun kp => (kp.publicKey, kp.secretKey)
  dsaGenerateKeyPairSeeded := fun algorithm seed =>
    (NativeBackend.signGenerateFromSeed native.pqdsa native.declared
      algorithm seed).ending.map fun kp => (kp.publicKey, kp.secretKey)
  dsaSign := fun algorithm secretKey message context preHash coins =>
    if asksVariant context preHash then
      fallback.dsaSign algorithm secretKey message context preHash coins
    else
      (NativeBackend.backend native).sign algorithm secretKey message
        coins
  dsaVerify := fun algorithm publicKey message signature context preHash =>
    if asksVariant context preHash then
      fallback.dsaVerify algorithm publicKey message signature context
        preHash
    else
      (NativeBackend.backend native).verify algorithm publicKey message
        signature

/-- Where no variant is asked for, the context is empty. -/
theorem plain_of_asksVariant
    {context : Option Bytes}
    {preHash : Bool}
    (plain : asksVariant context preHash = false) :
    context.getD [] = [] ∧ preHash = false := by
  cases context with
  | none =>
      exact ⟨rfl, (Bool.or_eq_false_iff.mp plain).1⟩
  | some context =>
      obtain ⟨noPreHash, empty⟩ := Bool.or_eq_false_iff.mp plain
      exact
        ⟨List.isEmpty_iff.mp (by simpa using empty), noPreHash⟩

end NativePqforgeLatticeProvider

/-! ## What the providers are to compute -/

/-- The cryptosystem with the variants that the seam offers. -/
structure LatticeSystem extends Cryptosystem where
  seededSignatureKeys :
    PqSignatureAlgorithm →
      (seed : Bytes) →
      Option (Bytes × Bytes)
  verifiesWith :
    PqSignatureAlgorithm →
      (publicKey message signature context : Bytes) →
      (preHash : Bool) →
      Bool
  verifiesWith_plain :
    ∀ algorithm publicKey message signature,
      verifiesWith algorithm publicKey message signature [] false =
        verifies algorithm publicKey message signature

/-- A provider implements the cryptosystem. -/
structure PqLatticeProvider.Implements
    (provider : PqLatticeProvider)
    (system : LatticeSystem) : Prop where
  kemGenerates :
    ∀ algorithm seed coins keys,
      provider.kemGenerateKeyPair algorithm seed coins = .ok keys →
      system.KemKeys algorithm keys.1 keys.2
  encapsulates :
    ∀ algorithm publicKey nonce coins enc,
      provider.kemEncapsulate algorithm publicKey nonce coins =
        .ok enc →
      system.Encapsulates algorithm publicKey enc.1 enc.2
  decapsulates :
    ∀ algorithm publicKey secretKey ciphertext,
      system.KemKeys algorithm publicKey secretKey →
      ciphertext.length = system.declared.ciphertextBytes algorithm →
      provider.kemDecapsulate algorithm secretKey ciphertext =
        .ok (system.decapsulate algorithm secretKey ciphertext)
  generates :
    ∀ algorithm coins keys,
      provider.dsaGenerateKeyPair algorithm coins = .ok keys →
      system.SignatureKeys algorithm keys.1 keys.2
  generatesSeeded :
    ∀ algorithm seed,
      seed.length = 32 →
      (provider.dsaGenerateKeyPairSeeded algorithm seed).toOption =
        system.seededSignatureKeys algorithm seed
  signs :
    ∀ algorithm publicKey secretKey message context preHash coins
        signature,
      system.SignatureKeys algorithm publicKey secretKey →
      provider.dsaSign algorithm secretKey message context preHash
          coins =
        .ok signature →
      system.verifiesWith algorithm publicKey message signature
          (context.getD []) preHash =
        true
  verifies :
    ∀ algorithm publicKey message signature context preHash,
      provider.dsaVerify algorithm publicKey message signature context
          preHash =
          .ok true ↔
        system.verifiesWith algorithm publicKey message signature
            (context.getD []) preHash =
          true

/-- AWS-LC computes the cryptosystem, with keys from seeds. -/
structure NativeMemory.NativeLibraries.ComputeLattice
    (libraries : NativeMemory.NativeLibraries)
    (system : LatticeSystem) : Prop where
  compute : libraries.ComputeKeys system.toCryptosystem
  seeded :
    ∀ algorithm seed,
      seed.length = 32 →
      libraries.pqdsa.seeded algorithm seed =
        system.seededSignatureKeys algorithm seed

/-- The providers that can be registered over a pure-Dart one. -/
inductive RegisteredLattice
    (system : LatticeSystem)
    (pureDart : PqLatticeProvider) :
    PqLatticeProvider →
    Prop where
  | pureDart : RegisteredLattice system pureDart pureDart
  | native
      {libraries : NativeMemory.NativeLibraries}
      {fallback : PqLatticeProvider}
      (compute : libraries.ComputeLattice system)
      (below : RegisteredLattice system pureDart fallback) :
      RegisteredLattice system pureDart
        (NativePqforgeLatticeProvider.provider libraries fallback)

section Endings

variable {Output Result : Type}

/-- A changed ending returned what the ending returned, changed. -/
theorem map_eq_ok
    {change : Output → Result}
    {ending : Except DartThrow Output}
    {result : Result}
    (returned : ending.map change = .ok result) :
    ∃ output, ending = .ok output ∧ change output = result := by
  cases ending with
  | error thrown =>
      cases returned
  | ok output =>
      cases returned
      exact ⟨output, rfl, rfl⟩

/-- A marshalled operation returns exactly where its primitive succeeds. -/
theorem NativeBackend.Marshalled.toOption_eq
    {primitive : Option Output}
    {operation : Operation Output}
    (marshalled : Marshalled primitive operation) :
    operation.ending.toOption = primitive := by
  cases produced : primitive with
  | none =>
      obtain ⟨exception, thrown⟩ := marshalled.throws produced
      rw [thrown]
      rfl
  | some output =>
      rw [marshalled.returns output produced]
      rfl

/-- Changing what a call returns commutes with forgetting what it throws. -/
theorem toOption_map
    (change : Output → Result)
    (ending : Except DartThrow Output) :
    (ending.map change).toOption = ending.toOption.map change := by
  cases ending with
  | error thrown =>
      rfl
  | ok output =>
      rfl

end Endings

namespace NativePqforgeLatticeProvider

variable {system : LatticeSystem}
variable {libraries : NativeMemory.NativeLibraries}
variable {fallback : PqLatticeProvider}

/-- Wrapping a provider that implements the cryptosystem keeps to it. -/
theorem provider_implements
    (compute : libraries.ComputeLattice system)
    (below : fallback.Implements system) :
    (provider libraries fallback).Implements system := by
  have native := NativeBackend.backend_implementsKeys compute.compute
  constructor
  case kemGenerates =>
    intro algorithm seed coins keys returned
    cases seed with
    | some seed =>
        exact below.kemGenerates algorithm (some seed) coins keys returned
    | none =>
        obtain ⟨kp, generated, rfl⟩ := map_eq_ok returned
        exact native.kemGenerate algorithm coins kp generated
  case encapsulates =>
    intro algorithm publicKey nonce coins enc returned
    cases nonce with
    | some nonce =>
        exact below.encapsulates algorithm publicKey (some nonce) coins
          enc returned
    | none =>
        obtain ⟨e, encapsulated, rfl⟩ := map_eq_ok returned
        exact native.kemEncapsulate algorithm publicKey coins e
          encapsulated
  case decapsulates =>
    exact native.kemDecapsulate
  case generates =>
    intro algorithm coins keys returned
    obtain ⟨kp, generated, rfl⟩ := map_eq_ok returned
    exact native.signGenerate algorithm coins kp generated
  case generatesSeeded =>
    intro algorithm seed length
    have marshalled :=
      (NativeBackend.sign_marshalled
        (compute.compute.declared ▸ compute.compute.pqdsaSizes)
        ).generateFromSeed algorithm seed
    show ((NativeBackend.signGenerateFromSeed _ _ _ _).ending.map
      _).toOption = _
    rw [toOption_map, marshalled.toOption_eq, Option.map_map,
      ← compute.seeded algorithm seed length]
    exact Option.map_id'
  case signs =>
    intro algorithm publicKey secretKey message context preHash coins
      signature keys returned
    cases variant : asksVariant context preHash with
    | true =>
        simp only [provider, variant, ↓reduceIte] at returned
        exact below.signs algorithm publicKey secretKey message context
          preHash coins signature keys returned
    | false =>
        obtain ⟨noContext, noPreHash⟩ := plain_of_asksVariant variant
        simp only [provider, variant, Bool.false_eq_true, ↓reduceIte]
          at returned
        rw [noContext, noPreHash, system.verifiesWith_plain]
        exact native.sign algorithm publicKey secretKey message coins
          signature keys returned
  case verifies =>
    intro algorithm publicKey message signature context preHash
    cases variant : asksVariant context preHash with
    | true =>
        simp only [provider, variant, ↓reduceIte]
        exact below.verifies algorithm publicKey message signature
          context preHash
    | false =>
        obtain ⟨noContext, noPreHash⟩ := plain_of_asksVariant variant
        simp only [provider, variant, Bool.false_eq_true, ↓reduceIte]
        rw [noContext, noPreHash, system.verifiesWith_plain]
        exact native.verify algorithm publicKey message signature

end NativePqforgeLatticeProvider

/-! ## Towers of providers -/

section Towers

variable {system : LatticeSystem}
variable {pureDart : PqLatticeProvider}

/-- Every provider over one that implements the cryptosystem implements it. -/
theorem RegisteredLattice.implements
    (bottom : pureDart.Implements system)
    {provider : PqLatticeProvider}
    (registered : RegisteredLattice system pureDart provider) :
    provider.Implements system := by
  induction registered with
  | pureDart =>
      exact bottom
  | native compute _ inductionHypothesis =>
      exact NativePqforgeLatticeProvider.provider_implements compute
        inductionHypothesis

/--
What AWS-LC cannot do is answered by the provider at the bottom: calls with a
seed or a nonce, a context or a pre-hash.
-/
structure PqLatticeProvider.DelegatesTo
    (provider pureDart : PqLatticeProvider) : Prop where
  seeded :
    ∀ algorithm seed coins,
      provider.kemGenerateKeyPair algorithm (some seed) coins =
        pureDart.kemGenerateKeyPair algorithm (some seed) coins
  withNonce :
    ∀ algorithm publicKey nonce coins,
      provider.kemEncapsulate algorithm publicKey (some nonce) coins =
        pureDart.kemEncapsulate algorithm publicKey (some nonce) coins
  signsVariant :
    ∀ algorithm secretKey message context preHash coins,
      NativePqforgeLatticeProvider.asksVariant context preHash = true →
      provider.dsaSign algorithm secretKey message context preHash
          coins =
        pureDart.dsaSign algorithm secretKey message context preHash
          coins
  verifiesVariant :
    ∀ algorithm publicKey message signature context preHash,
      NativePqforgeLatticeProvider.asksVariant context preHash = true →
      provider.dsaVerify algorithm publicKey message signature context
          preHash =
        pureDart.dsaVerify algorithm publicKey message signature context
          preHash

/-- Delegated calls reach the bottom of a tower of any height unchanged. -/
theorem RegisteredLattice.delegates
    {provider : PqLatticeProvider}
    (registered : RegisteredLattice system pureDart provider) :
    provider.DelegatesTo pureDart := by
  induction registered with
  | pureDart =>
      exact
        ⟨fun _ _ _ => rfl, fun _ _ _ _ => rfl,
          fun _ _ _ _ _ _ _ => rfl, fun _ _ _ _ _ _ _ => rfl⟩
  | native compute _ inductionHypothesis =>
      constructor
      case seeded =>
        exact inductionHypothesis.seeded
      case withNonce =>
        exact inductionHypothesis.withNonce
      case signsVariant =>
        intro algorithm secretKey message context preHash coins variant
        exact (if_pos variant).trans
          (inductionHypothesis.signsVariant algorithm secretKey message
            context preHash coins variant)
      case verifiesVariant =>
        intro algorithm publicKey message signature context preHash
          variant
        exact (if_pos variant).trans
          (inductionHypothesis.verifiesVariant algorithm publicKey
            message signature context preHash variant)

/--
A secret that one provider encapsulates to a key of another is the one that a
third decapsulates, as does the provider at the bottom, but for the ciphertexts
on which the KEM's decapsulation fails.
-/
def SecretsCross
    (system : LatticeSystem)
    (pureDart maker sender receiver : PqLatticeProvider) : Prop :=
  ∀ algorithm seed coins keys nonce sendCoins enc,
    maker.kemGenerateKeyPair algorithm seed coins = .ok keys →
    sender.kemEncapsulate algorithm keys.1 nonce sendCoins = .ok enc →
    receiver.kemDecapsulate algorithm keys.2 enc.1 =
        pureDart.kemDecapsulate algorithm keys.2 enc.1 ∧
      (receiver.kemDecapsulate algorithm keys.2 enc.1).isOk ∧
      (¬system.DecapsulationFails algorithm keys.2 enc.1 →
        receiver.kemDecapsulate algorithm keys.2 enc.1 = .ok enc.2)

/--
A signature of one provider under a key of another, also with a context or a
pre-hash, verifies on a third, and all accept the same signatures.
-/
def LatticeSignaturesCross
    (pureDart maker signer verifier : PqLatticeProvider) : Prop :=
  (∀ algorithm coins keys message context preHash signCoins signature,
    maker.dsaGenerateKeyPair algorithm coins = .ok keys →
    signer.dsaSign algorithm keys.2 message context preHash signCoins =
      .ok signature →
    verifier.dsaVerify algorithm keys.1 message signature context
        preHash =
      .ok true) ∧
  ∀ algorithm publicKey message signature context preHash,
    verifier.dsaVerify algorithm publicKey message signature context
        preHash =
        .ok true ↔
      pureDart.dsaVerify algorithm publicKey message signature context
          preHash =
        .ok true

/--
Providers registered over one pure-Dart provider are interchangeable: what
AWS-LC cannot do they answer as it does, keys from seeds are the same, and
secrets and signatures cross between any of them.
-/
theorem lattice_providers_interchangeable
    (bottom : pureDart.Implements system)
    {maker sender receiver : PqLatticeProvider}
    (makes : RegisteredLattice system pureDart maker)
    (sends : RegisteredLattice system pureDart sender)
    (receives : RegisteredLattice system pureDart receiver) :
    maker.DelegatesTo pureDart ∧
      (∀ algorithm seed,
        seed.length = 32 →
        (maker.dsaGenerateKeyPairSeeded algorithm seed).toOption =
          (pureDart.dsaGenerateKeyPairSeeded algorithm
            seed).toOption) ∧
      SecretsCross system pureDart maker sender receiver ∧
      LatticeSignaturesCross pureDart maker sender receiver := by
  have making := makes.implements bottom
  have sending := sends.implements bottom
  have receiving := receives.implements bottom
  refine ⟨makes.delegates, ?_, ?_, ?_, ?_⟩
  · intro algorithm seed length
    rw [making.generatesSeeded algorithm seed length,
      bottom.generatesSeeded algorithm seed length]
  · intro algorithm seed coins keys nonce sendCoins enc made encapsulated
    have keysMatch :=
      making.kemGenerates algorithm seed coins keys made
    have encapsulates :=
      sending.encapsulates algorithm keys.1 nonce sendCoins enc
        encapsulated
    have length := system.ciphertextLength encapsulates
    have here :=
      receiving.decapsulates algorithm keys.1 keys.2 enc.1 keysMatch
        length
    have below :=
      bottom.decapsulates algorithm keys.1 keys.2 enc.1 keysMatch length
    refine ⟨here.trans below.symm, ?_, fun decapsulates => ?_⟩
    · rw [here]
      rfl
    · rw [here, system.decapsulates keysMatch encapsulates decapsulates]
  · intro algorithm coins keys message context preHash signCoins
      signature made signed
    have keysMatch := making.generates algorithm coins keys made
    have valid :=
      sending.signs algorithm keys.1 keys.2 message context preHash
        signCoins signature keysMatch signed
    exact (receiving.verifies algorithm keys.1 message signature context
      preHash).mpr valid
  · intro algorithm publicKey message signature context preHash
    exact (receiving.verifies algorithm publicKey message signature
      context preHash).trans
      (bottom.verifies algorithm publicKey message signature context
        preHash).symm

end Towers

/-- The cryptosystem of zeros, with its variants. -/
def LatticeSystem.zeros : LatticeSystem where
  toCryptosystem := .zeros
  seededSignatureKeys := (AwsLcPqdsa.zeros .standard).seeded
  verifiesWith := fun algorithm publicKey message signature _ _ =>
    Cryptosystem.zeros.verifies algorithm publicKey message signature
  verifiesWith_plain := fun _ _ _ _ => rfl

/-- A pure-Dart provider with outputs of zeros. -/
def PqLatticeProvider.zeros : PqLatticeProvider where
  kemGenerateKeyPair := fun algorithm _ _ =>
    .ok
      (List.replicate
          (DeclaredSizes.standard.kemPublicKeyBytes algorithm) 0,
        List.replicate
          (DeclaredSizes.standard.kemSecretKeyBytes algorithm) 0)
  kemEncapsulate := fun algorithm _ _ _ =>
    .ok
      (List.replicate
          (DeclaredSizes.standard.ciphertextBytes algorithm) 0,
        List.replicate
          (DeclaredSizes.standard.sharedSecretBytes algorithm) 0)
  kemDecapsulate := fun algorithm secretKey ciphertext =>
    .ok (Cryptosystem.zeros.decapsulate algorithm secretKey ciphertext)
  dsaGenerateKeyPair := fun algorithm _ =>
    .ok
      (List.replicate
          (DeclaredSizes.standard.signPublicKeyBytes algorithm) 0,
        List.replicate
          (DeclaredSizes.standard.signSecretKeyBytes algorithm) 0)
  dsaGenerateKeyPairSeeded := fun algorithm seed =>
    match LatticeSystem.zeros.seededSignatureKeys algorithm seed with
    | some keys => .ok keys
    | none => .error (.argumentError "seed length")
  dsaSign := fun algorithm _ _ _ _ _ =>
    .ok (List.replicate
      (DeclaredSizes.standard.signatureBytes algorithm) 0)
  dsaVerify := fun algorithm publicKey message signature _ _ =>
    .ok (Cryptosystem.zeros.verifies algorithm publicKey message
      signature)

theorem PqLatticeProvider.zeros_implements :
    PqLatticeProvider.zeros.Implements .zeros where
  kemGenerates := by
    intro algorithm seed coins keys generated
    cases generated
    exact List.length_replicate
  encapsulates := by
    intro algorithm publicKey nonce coins enc encapsulated
    cases encapsulated
    exact ⟨rfl, rfl⟩
  decapsulates := fun _ _ _ _ _ _ => rfl
  generates := by
    intro algorithm coins keys generated
    cases generated
    exact ⟨List.length_replicate, List.length_replicate⟩
  generatesSeeded := by
    intro algorithm seed _
    simp only [zeros]
    split
    · rename_i keys seeded
      rw [seeded]
      rfl
    · rename_i refused
      rw [refused]
      rfl
  signs := by
    intro algorithm publicKey secretKey message context preHash coins
      signature keys signed
    cases signed
    simp only [LatticeSystem.zeros, Cryptosystem.zeros, keys.1,
      List.length_replicate, decide_true, Bool.and_true]
  verifies := by
    intro algorithm publicKey message signature context preHash
    simp only [zeros, LatticeSystem.zeros, Except.ok.injEq]

theorem NativeMemory.NativeLibraries.zeros_computeLattice :
    NativeMemory.NativeLibraries.zeros.ComputeLattice .zeros where
  compute := zeros_compute.toComputeKeys
  seeded := fun _ _ _ => rfl

/--
A signature with a context, made by a native provider over a native one, under a
key of the pure-Dart provider, verifies on a single native provider.
-/
theorem lattice_providers_interchangeable_of_zeros :
    let native := NativePqforgeLatticeProvider.provider .zeros .zeros
    let tower := NativePqforgeLatticeProvider.provider .zeros native
    tower.dsaSign .mlDsa65 (List.replicate 4032 0) [1] (some [7]) false
        [] =
      .ok (List.replicate 3309 0) ∧
    native.dsaVerify .mlDsa65 (List.replicate 1952 0) [1]
        (List.replicate 3309 0) (some [7]) false =
      .ok true := by
  intro native tower
  have compute := NativeMemory.NativeLibraries.zeros_computeLattice
  have single : RegisteredLattice .zeros .zeros native :=
    .native compute .pureDart
  have double : RegisteredLattice .zeros .zeros tower :=
    .native compute single
  have cross :=
    (lattice_providers_interchangeable
      PqLatticeProvider.zeros_implements .pureDart double
      single).2.2.2.1
  let keys : Bytes × Bytes :=
    (List.replicate 1952 0, List.replicate 4032 0)
  have signed :
      tower.dsaSign .mlDsa65 keys.2 [1] (some [7]) false [] =
        .ok (List.replicate 3309 0) :=
    rfl
  have verified := cross .mlDsa65 [] keys [1] (some [7]) false [] _ rfl
    signed
  exact ⟨signed, verified⟩

end PqForgeFfi
