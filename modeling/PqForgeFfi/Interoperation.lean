import PqForgeFfi.AeadBackends
import PqForgeFfi.BackendContract
import PqForgeFfi.Marshalling
import PqForgeFfi.Selector
import PqForgeFfi.StreamRoundTrip

namespace PqForgeFfi

open Segmentation

/-!
# Interoperation of processes

Every process resolves a backend of its own.  Where the libraries below them
compute one cryptosystem, each backend implements it, across the C boundary or
behind the guards of the fallback, and what one process makes another one
reads: envelopes, signatures, sealed messages and streams.
-/

/-! ## The cryptosystem, and what computes it -/

/--
What the standards define: the functions that all libraries compute.  A KEM
decapsulates what is encapsulated to its keys, but for the ciphertexts on which
its decapsulation fails.
-/
structure Cryptosystem where
  declared : DeclaredSizes
  KemKeys :
    PqKemAlgorithm →
      (publicKey secretKey : Bytes) →
      Prop
  Encapsulates :
    PqKemAlgorithm →
      (publicKey ciphertext sharedSecret : Bytes) →
      Prop
  decapsulate :
    PqKemAlgorithm →
      (secretKey ciphertext : Bytes) →
      Bytes
  DecapsulationFails :
    PqKemAlgorithm →
      (secretKey ciphertext : Bytes) →
      Prop
  ciphertextLength :
    ∀ {algorithm publicKey ciphertext sharedSecret},
      Encapsulates algorithm publicKey ciphertext sharedSecret →
      ciphertext.length = declared.ciphertextBytes algorithm
  decapsulates :
    ∀ {algorithm publicKey secretKey ciphertext sharedSecret},
      KemKeys algorithm publicKey secretKey →
      Encapsulates algorithm publicKey ciphertext sharedSecret →
      ¬DecapsulationFails algorithm secretKey ciphertext →
      decapsulate algorithm secretKey ciphertext = sharedSecret
  SignatureKeys :
    PqSignatureAlgorithm →
      (publicKey secretKey : Bytes) →
      Prop
  verifies :
    PqSignatureAlgorithm →
      (publicKey message signature : Bytes) →
      Bool
  aead :
    PqAeadAlgorithm →
      (key : Bytes) →
      Aead

/-- A sealed chunk is one tag longer under every key. -/
def Cryptosystem.AppendsTags (system : Cryptosystem) : Prop :=
  ∀ algorithm key,
    key.length = 32 →
    (system.aead algorithm key).AppendsTag

/-- A backend implements the KEMs and signatures of the cryptosystem. -/
structure FullBackend.ImplementsKeys
    (backend : FullBackend)
    (system : Cryptosystem) : Prop where
  kemGenerate :
    ∀ algorithm coins keys,
      backend.kemGenerate algorithm coins = .ok keys →
      system.KemKeys algorithm keys.publicKey keys.secretKey
  kemEncapsulate :
    ∀ algorithm publicKey coins enc,
      backend.kemEncapsulate algorithm publicKey coins = .ok enc →
      system.Encapsulates algorithm publicKey enc.ciphertext
        enc.sharedSecret
  kemDecapsulate :
    ∀ algorithm publicKey secretKey ciphertext,
      system.KemKeys algorithm publicKey secretKey →
      ciphertext.length = system.declared.ciphertextBytes algorithm →
      backend.kemDecapsulate algorithm secretKey ciphertext =
        .ok (system.decapsulate algorithm secretKey ciphertext)
  signGenerate :
    ∀ algorithm coins keys,
      backend.signGenerate algorithm coins = .ok keys →
      system.SignatureKeys algorithm keys.publicKey keys.secretKey
  sign :
    ∀ algorithm publicKey secretKey message coins signature,
      system.SignatureKeys algorithm publicKey secretKey →
      backend.sign algorithm secretKey message coins = .ok signature →
      system.verifies algorithm publicKey message signature = true
  verify :
    ∀ algorithm publicKey message signature,
      backend.verify algorithm publicKey message signature =
          .ok true ↔
        system.verifies algorithm publicKey message signature = true

/-- A backend implements the cryptosystem. -/
structure FullBackend.Implements
    (backend : FullBackend)
    (system : Cryptosystem) : Prop
    extends backend.ImplementsKeys system where
  aeadSeal :
    ∀ algorithm key,
      key.length = 32 →
      backend.SealsAs algorithm key (system.aead algorithm key)
  aeadOpen :
    ∀ algorithm key,
      key.length = 32 →
      backend.OpensSealed algorithm key (system.aead algorithm key)

/-- AWS-LC computes the KEMs and signatures of the cryptosystem. -/
structure NativeMemory.NativeLibraries.ComputeKeys
    (libraries : NativeMemory.NativeLibraries)
    (system : Cryptosystem) : Prop where
  declared : libraries.declared = system.declared
  kemSizes : libraries.kem.Sizes system.declared
  kemGenerates :
    ∀ algorithm coins publicKey secretKey,
      libraries.kem.keyPair algorithm coins =
        some (publicKey, secretKey) →
      system.KemKeys algorithm publicKey secretKey
  encapsulates :
    ∀ algorithm publicKey coins ciphertext sharedSecret,
      libraries.kem.encapsulateTo algorithm publicKey coins =
        some (ciphertext, sharedSecret) →
      system.Encapsulates algorithm publicKey ciphertext sharedSecret
  decapsulates :
    ∀ algorithm publicKey secretKey ciphertext,
      system.KemKeys algorithm publicKey secretKey →
      ciphertext.length = system.declared.ciphertextBytes algorithm →
      libraries.kem.decapsulateWith algorithm secretKey ciphertext =
        some (system.decapsulate algorithm secretKey ciphertext)
  pqdsaSizes : libraries.pqdsa.Sizes system.declared
  signGenerates :
    ∀ algorithm coins publicKey secretKey,
      libraries.pqdsa.generated algorithm coins =
        some (publicKey, secretKey) →
      system.SignatureKeys algorithm publicKey secretKey
  signs :
    ∀ algorithm publicKey secretKey message coins signature,
      system.SignatureKeys algorithm publicKey secretKey →
      libraries.pqdsa.signWith algorithm secretKey message coins =
        some signature →
      system.verifies algorithm publicKey message signature = true
  verifies :
    ∀ algorithm publicKey message signature,
      libraries.pqdsa.verify algorithm publicKey message signature =
        system.verifies algorithm publicKey message signature

/-- AWS-LC computes the cryptosystem. -/
structure NativeMemory.NativeLibraries.Compute
    (libraries : NativeMemory.NativeLibraries)
    (system : Cryptosystem) : Prop
    extends libraries.ComputeKeys system where
  aeadSizes : libraries.aead.Sizes
  seals :
    ∀ algorithm key,
      key.length = 32 →
      libraries.aead.SealsAs algorithm key (system.aead algorithm key)
  opens :
    ∀ algorithm key,
      key.length = 32 →
      libraries.aead.OpensSealed algorithm key
        (system.aead algorithm key)

namespace NativeBackend

variable {Output : Type}
variable {operation : Operation Output}

/-- A marshalled operation returned what its primitive produced. -/
theorem Marshalled.eq_some
    {primitive : Option Output}
    (marshalled : Marshalled primitive operation)
    {output : Output}
    (returned : operation.ending = .ok output) :
    primitive = some output := by
  cases produced : primitive with
  | none =>
      obtain ⟨exception, thrown⟩ := marshalled.throws produced
      rw [thrown] at returned
      cases returned
  | some other =>
      rw [marshalled.returns other produced] at returned
      cases returned
      rfl

/-- A marshalled operation with two outputs returned what was produced. -/
theorem Marshalled.eq_some_pair
    {primitive : Option (Bytes × Bytes)}
    {together : Bytes → Bytes → Output}
    (marshalled :
      Marshalled (primitive.map (Function.uncurry together)) operation)
    {output : Output}
    (returned : operation.ending = .ok output) :
    ∃ first second,
      primitive = some (first, second) ∧
        together first second = output := by
  obtain ⟨⟨first, second⟩, produced, same⟩ :=
    Option.map_eq_some_iff.mp (marshalled.eq_some returned)
  exact ⟨first, second, produced, same⟩

/-- Keys and signatures come through the C boundary as AWS-LC makes them. -/
theorem backend_implementsKeys
    {system : Cryptosystem}
    {libraries : NativeMemory.NativeLibraries}
    (compute : libraries.ComputeKeys system) :
    (NativeBackend.backend libraries).ImplementsKeys system := by
  have kem := kem_marshalled (compute.declared ▸ compute.kemSizes)
  have pqdsa := sign_marshalled (compute.declared ▸ compute.pqdsaSizes)
  constructor
  case kemGenerate =>
    intro algorithm coins keys returned
    obtain ⟨publicKey, secretKey, generated, rfl⟩ :=
      (kem.generate algorithm coins).eq_some_pair returned
    exact compute.kemGenerates algorithm coins publicKey secretKey
      generated
  case kemEncapsulate =>
    intro algorithm publicKey coins enc returned
    obtain ⟨ciphertext, sharedSecret, encapsulated, rfl⟩ :=
      (kem.encapsulate algorithm publicKey coins).eq_some_pair returned
    exact compute.encapsulates algorithm publicKey coins ciphertext
      sharedSecret encapsulated
  case kemDecapsulate =>
    intro algorithm publicKey secretKey ciphertext made length
    exact (kem.decapsulate algorithm secretKey ciphertext).returns _
      (compute.decapsulates algorithm publicKey secretKey ciphertext made
        length)
  case signGenerate =>
    intro algorithm coins keys returned
    obtain ⟨publicKey, secretKey, generated, rfl⟩ :=
      (pqdsa.generate algorithm coins).eq_some_pair returned
    exact compute.signGenerates algorithm coins publicKey secretKey
      generated
  case sign =>
    intro algorithm publicKey secretKey message coins signature keys
      returned
    exact compute.signs algorithm publicKey secretKey message coins
      signature keys
      ((pqdsa.sign algorithm secretKey message coins).eq_some returned)
  case verify =>
    intro algorithm publicKey message signature
    obtain ⟨verdict, returned, right⟩ :=
      NativeBackend.verify_verifies
    rw [← compute.verifies, ← right]
    exact ⟨fun accepted => Except.ok.inj (returned.symm.trans accepted),
      fun accepted => returned.trans (congrArg Except.ok accepted)⟩

/-- Across the C boundary the native backend implements what AWS-LC does. -/
theorem backend_implements
    {system : Cryptosystem}
    (appendsTags : system.AppendsTags)
    {libraries : NativeMemory.NativeLibraries}
    (compute : libraries.Compute system) :
    (NativeBackend.backend libraries).Implements system where
  toImplementsKeys := backend_implementsKeys compute.toComputeKeys
  aeadSeal := by
    intro algorithm key keyLength nonce chunk aad nonceLength
    exact aeadSeal_of_output compute.aeadSizes keyLength nonceLength
      (compute.seals algorithm key keyLength nonce aad chunk nonceLength)
      (appendsTags algorithm key keyLength nonce aad chunk nonceLength)
  aeadOpen := by
    intro algorithm key keyLength nonce chunk aad nonceLength
    exact aeadOpen_of_output compute.aeadSizes keyLength nonceLength
      (compute.opens algorithm key keyLength nonce aad chunk nonceLength)
      (appendsTags algorithm key keyLength nonce aad chunk
        nonceLength).symm

end NativeBackend

/-- `pqforge` and PointyCastle compute the cryptosystem. -/
structure FallbackBackend.AllLibraries.Compute
    (libraries : FallbackBackend.AllLibraries)
    (system : Cryptosystem) : Prop where
  kemGenerates :
    ∀ algorithm coins keys,
      libraries.kem.generateKeyPair algorithm coins = .ok keys →
      system.KemKeys algorithm keys.publicKey keys.secretKey
  encapsulates :
    ∀ algorithm publicKey coins enc,
      libraries.kem.encapsulate algorithm publicKey coins = .ok enc →
      system.Encapsulates algorithm publicKey enc.ciphertext
        enc.sharedSecret
  decapsulates :
    ∀ algorithm publicKey secretKey ciphertext,
      system.KemKeys algorithm publicKey secretKey →
      ciphertext.length = system.declared.ciphertextBytes algorithm →
      libraries.kem.decapsulate algorithm secretKey ciphertext =
        .ok (system.decapsulate algorithm secretKey ciphertext)
  signGenerates :
    ∀ algorithm coins keys,
      libraries.signature.generateKeyPair algorithm coins = .ok keys →
      system.SignatureKeys algorithm keys.publicKey keys.secretKey
  signs :
    ∀ algorithm publicKey secretKey message coins signature,
      system.SignatureKeys algorithm publicKey secretKey →
      libraries.signature.sign algorithm secretKey message coins =
        .ok signature →
      system.verifies algorithm publicKey message signature = true
  verifies :
    ∀ algorithm publicKey message signature,
      libraries.signature.verify algorithm publicKey message signature =
          .ok true ↔
        system.verifies algorithm publicKey message signature = true
  aesGcmEncrypts :
    ∀ key nonce plaintext aad,
      key.length = 32 →
      nonce.length = 12 →
      libraries.aead.aesGcmEncrypt key nonce plaintext aad =
        .ok ((system.aead .aes256Gcm key).sealUnder nonce aad plaintext)
  aesGcmDecrypts :
    ∀ key nonce plaintext aad,
      key.length = 32 →
      nonce.length = 12 →
      libraries.aead.aesGcmDecrypt key nonce
          ((system.aead .aes256Gcm key).sealUnder nonce aad plaintext)
          aad =
        .ok plaintext
  chachaInits :
    ∀ forEncryption key nonce aad,
      key.length = 32 →
      nonce.length = 12 →
      ∃ cipher,
        FallbackBackend.chacha libraries.aead.pointyCastle forEncryption
            key nonce aad =
          .ok cipher
  chachaSeals :
    ∀ key nonce plaintext aad cipher,
      key.length = 32 →
      nonce.length = 12 →
      FallbackBackend.chacha libraries.aead.pointyCastle true key nonce
          aad =
        .ok cipher →
      libraries.aead.pointyCastle.Produces cipher plaintext
        ((system.aead .chaCha20Poly1305 key).sealUnder nonce aad
          plaintext)
  chachaOpens :
    ∀ key nonce plaintext aad cipher,
      key.length = 32 →
      nonce.length = 12 →
      FallbackBackend.chacha libraries.aead.pointyCastle false key nonce
          aad =
        .ok cipher →
      libraries.aead.pointyCastle.Produces cipher
        ((system.aead .chaCha20Poly1305 key).sealUnder nonce aad
          plaintext)
        plaintext

namespace FallbackBackend

/-- What is guarded returns exactly what it returned. -/
theorem guard_eq_ok_iff
    {Result : Type}
    {body : Except DartThrow Result}
    {result : Result} :
    guard body = .ok result ↔ body = .ok result := by
  cases body with
  | ok answer =>
      exact Iff.rfl
  | error thrown =>
      exact iff_of_false nofun nofun

section Computed

variable {system : Cryptosystem}
variable {libraries : AllLibraries}

/-- The fallback seals as the AEADs of the cryptosystem. -/
theorem aeadSeal_of_compute
    (compute : libraries.Compute system)
    (algorithm : PqAeadAlgorithm)
    {key nonce : Bytes}
    (keyLength : key.length = 32)
    (nonceLength : nonce.length = 12)
    (plaintext aad : Bytes) :
    aeadSeal libraries.aead algorithm key nonce plaintext aad =
      .ok ((system.aead algorithm key).sealUnder nonce aad
        plaintext) := by
  cases algorithm with
  | aes256Gcm =>
      rw [aeadSeal, compute.aesGcmEncrypts key nonce plaintext aad
        keyLength nonceLength]
  | chaCha20Poly1305 =>
      obtain ⟨cipher, inits⟩ :=
        compute.chachaInits true key nonce aad keyLength nonceLength
      rw [aeadSeal, requireSizes_of_sizes _ keyLength nonceLength,
        ok_bind, inits, ok_bind]
      exact runAead_of_produces (compute.chachaSeals key nonce plaintext
        aad cipher keyLength nonceLength inits)

/-- The fallback opens what the AEADs of the cryptosystem seal. -/
theorem aeadOpen_of_compute
    (appendsTags : system.AppendsTags)
    (compute : libraries.Compute system)
    (algorithm : PqAeadAlgorithm)
    {key nonce : Bytes}
    (keyLength : key.length = 32)
    (nonceLength : nonce.length = 12)
    (plaintext aad : Bytes) :
    aeadOpen libraries.aead algorithm key nonce
        ((system.aead algorithm key).sealUnder nonce aad plaintext)
        aad =
      .ok plaintext := by
  cases algorithm with
  | aes256Gcm =>
      rw [aeadOpen, compute.aesGcmDecrypts key nonce plaintext aad
        keyLength nonceLength]
  | chaCha20Poly1305 =>
      obtain ⟨cipher, inits⟩ :=
        compute.chachaInits false key nonce aad keyLength nonceLength
      have length := appendsTags .chaCha20Poly1305 key keyLength nonce aad
        plaintext nonceLength
      have holdsTag :
          ¬((system.aead .chaCha20Poly1305 key).sealUnder nonce aad
              plaintext).length <
            PqAeadAlgorithm.chaCha20Poly1305.tagBytes := by
        rw [length, PqAeadAlgorithm.tagBytes_eq]
        exact Nat.not_lt.mpr (Nat.le_add_left 16 _)
      rw [aeadOpen, requireSizes_of_sizes _ keyLength nonceLength,
        ok_bind, if_neg holdsTag, inits, ok_bind,
        runAead_of_produces (compute.chachaOpens key nonce plaintext aad
          cipher keyLength nonceLength inits)]

/-- Keys and signatures pass the guards of the fallback unchanged. -/
theorem backend_implementsKeys
    (compute : libraries.Compute system) :
    (FallbackBackend.backend libraries).ImplementsKeys system := by
  constructor
  case kemGenerate =>
    intro algorithm coins keys returned
    exact compute.kemGenerates algorithm coins keys
      (guard_eq_ok_iff.mp returned)
  case kemEncapsulate =>
    intro algorithm publicKey coins enc returned
    exact compute.encapsulates algorithm publicKey coins enc
      (guard_eq_ok_iff.mp returned)
  case kemDecapsulate =>
    intro algorithm publicKey secretKey ciphertext made length
    exact guard_eq_ok_iff.mpr
      (compute.decapsulates algorithm publicKey secretKey ciphertext made
        length)
  case signGenerate =>
    intro algorithm coins keys returned
    exact compute.signGenerates algorithm coins keys
      (guard_eq_ok_iff.mp returned)
  case sign =>
    intro algorithm publicKey secretKey message coins signature keys
      returned
    exact compute.signs algorithm publicKey secretKey message coins
      signature keys (guard_eq_ok_iff.mp returned)
  case verify =>
    intro algorithm publicKey message signature
    exact guard_eq_ok_iff.trans
      (compute.verifies algorithm publicKey message signature)

/-- Behind its guards the fallback implements what its libraries do. -/
theorem backend_implements
    (appendsTags : system.AppendsTags)
    (compute : libraries.Compute system) :
    (FallbackBackend.backend libraries).Implements system where
  toImplementsKeys := backend_implementsKeys compute
  aeadSeal := by
    intro algorithm key keyLength nonce chunk aad nonceLength
    exact aeadSeal_of_compute compute algorithm keyLength nonceLength
      chunk aad
  aeadOpen := by
    intro algorithm key keyLength nonce chunk aad nonceLength
    exact aeadOpen_of_compute appendsTags compute algorithm keyLength
      nonceLength chunk aad

end Computed

end FallbackBackend

/-! ## What crosses between backends -/

section Crossing

variable (maker sealer opener : FullBackend)

/--
An envelope to a key of one backend, sealed by another, opens on a third, but
for the ciphertexts on which the KEM's decapsulation fails.
-/
def EnvelopesCross
    (system : Cryptosystem)
    (pqforge : PqForgeEnvelope.PqForgePackage) : Prop :=
  ∀ algorithm coins keys sealCoins salt nonce enc plaintext sealAad
      openAad,
    maker.kemGenerate algorithm coins = .ok keys →
    sealer.kemEncapsulate algorithm keys.publicKey sealCoins =
      .ok enc →
    ¬system.DecapsulationFails algorithm keys.secretKey
      enc.ciphertext →
    sealAad.getD [] = openAad.getD [] →
    ∃ envelope,
      (PqForgeEnvelope.seal pqforge sealer.toPqForgeBackend algorithm
          keys.publicKey plaintext sealAad
          ⟨sealCoins, .ok salt, .ok nonce⟩).outcome =
        .ok envelope ∧
      (PqForgeEnvelope.open pqforge opener.toPqForgeBackend
          keys.secretKey envelope openAad).outcome =
        .ok plaintext

/--
A signature under a key of one backend, made by another, verifies on a third,
and whatever else one accepts the other accepts as well.
-/
def SignaturesCross : Prop :=
  (∀ algorithm coins keys message signCoins signature,
    maker.signGenerate algorithm coins = .ok keys →
    sealer.sign algorithm keys.secretKey message signCoins =
      .ok signature →
    opener.verify algorithm keys.publicKey message signature =
      .ok true) ∧
  ∀ algorithm publicKey message signature,
    sealer.verify algorithm publicKey message signature = .ok true ↔
      opener.verify algorithm publicKey message signature = .ok true

/-- What one backend seals under a key another one opens. -/
def MessagesCross : Prop :=
  ∀ algorithm key nonce plaintext aad,
    key.length = 32 →
    nonce.length = 12 →
    ∃ frame,
      sealer.aeadSeal algorithm key nonce plaintext aad = .ok frame ∧
        opener.aeadOpen algorithm key nonce frame aad = .ok plaintext

/-- A stream that one backend seals another one opens, however it is cut. -/
def StreamsCross : Prop :=
  ∀ algorithm key chunkSize plainEvents cipherEvents sealAad openAad,
    key.length = 32 →
    0 < chunkSize →
    chunkSize + 16 ≤ 2 ^ 63 - 1 →
    (blocks chunkSize plainEvents.flatten).length ≤ 2 ^ 63 →
    sealAad.getD [] = openAad.getD [] →
    let sealing :=
      PqForgeStream.seal sealer.toPqForgeBackend plainEvents key algorithm
        sealAad (Int64.ofNat chunkSize)
    cipherEvents.flatten = (emitted sealing.log).flatten →
    let opening :=
      PqForgeStream.open opener.toPqForgeBackend cipherEvents key
        algorithm openAad (Int64.ofNat chunkSize)
    sealing.outcome = .ok () ∧
      opening.outcome = .ok () ∧
      (emitted opening.log).flatten = plainEvents.flatten

variable {maker sealer opener}
variable {system : Cryptosystem}

/-- Implementations of one cryptosystem undo each other's seals. -/
theorem messages_cross
    (seals : sealer.Implements system)
    (opens : opener.Implements system) :
    MessagesCross sealer opener := by
  intro algorithm key nonce plaintext aad keyLength nonceLength
  exact
    ⟨(system.aead algorithm key).sealUnder nonce aad plaintext,
      seals.aeadSeal algorithm key keyLength nonce plaintext aad
        nonceLength,
      opens.aeadOpen algorithm key keyLength nonce plaintext aad
        nonceLength⟩

/-- Implementations of one cryptosystem open each other's envelopes. -/
theorem envelopes_cross
    (makes : maker.Implements system)
    (seals : sealer.Implements system)
    (opens : opener.Implements system)
    {pqforge : PqForgeEnvelope.PqForgePackage}
    (sameSizes :
      pqforge.ciphertextBytes = system.declared.ciphertextBytes)
    (fits : ∀ algorithm, pqforge.ciphertextBytes algorithm < 2 ^ 32)
    (derives :
      ∀ ikm salt info,
        ∃ key,
          pqforge.hkdfSha256 ikm salt info 32 = .ok key ∧
            key.length = 32) :
    EnvelopesCross maker sealer opener system pqforge := by
  intro algorithm coins keys sealCoins salt nonce enc plaintext sealAad
    openAad made encapsulated decapsulates sameAad
  have keysMatch := makes.kemGenerate algorithm coins keys made
  have encapsulates :=
    seals.kemEncapsulate algorithm keys.publicKey sealCoins enc
      encapsulated
  have declared := system.ciphertextLength encapsulates
  have decapsulated :=
    opens.kemDecapsulate algorithm keys.publicKey keys.secretKey
      enc.ciphertext keysMatch declared
  rw [system.decapsulates keysMatch encapsulates decapsulates]
    at decapsulated
  have undoes : PqForgeEnvelope.Undoes opener.toPqForgeBackend
      sealer.toPqForgeBackend := fun key nonce message aad =>
    messages_cross seals opens .aes256Gcm key nonce message aad
  exact PqForgeEnvelope.envelope_round_trip salt nonce encapsulated
    decapsulated (sameSizes ▸ declared) (fits algorithm) derives undoes
    plaintext sameAad

/-- Implementations of one cryptosystem accept each other's signatures. -/
theorem signatures_cross
    (makes : maker.Implements system)
    (signs : sealer.Implements system)
    (verifies : opener.Implements system) :
    SignaturesCross maker sealer opener := by
  constructor
  · intro algorithm coins keys message signCoins signature made signed
    have keysMatch := makes.signGenerate algorithm coins keys made
    exact (verifies.verify algorithm keys.publicKey message signature).mpr
      (signs.sign algorithm keys.publicKey keys.secretKey message
        signCoins signature keysMatch signed)
  · intro algorithm publicKey message signature
    exact (signs.verify algorithm publicKey message signature).trans
      (verifies.verify algorithm publicKey message signature).symm

/-- Implementations of one cryptosystem open each other's streams. -/
theorem streams_cross
    (appendsTags : system.AppendsTags)
    (seals : sealer.Implements system)
    (opens : opener.Implements system) :
    StreamsCross sealer opener := by
  intro algorithm key chunkSize plainEvents cipherEvents sealAad openAad
    keyLength positive limited few sameAad sealing cuts opening
  obtain ⟨sealedOk, framed⟩ :=
    PqForgeStream.seal_frames (seals.aeadSeal algorithm key keyLength)
      positive (by omega) plainEvents few sealAad rfl
  rw [framed] at cuts
  obtain ⟨openedOk, chunks⟩ :=
    PqForgeStream.open_frames (appendsTags algorithm key keyLength)
      (opens.aeadOpen algorithm key keyLength) positive limited few cuts
      openAad sameAad.symm
  refine ⟨sealedOk, openedOk, ?_⟩
  rw [chunks, blocks_flatten]

end Crossing

/--
What the backends of the processes stand on: AWS-LC in each build of the native
library, the Dart packages, and any backends that were installed by hand.
-/
structure Installation (Build Other : Type) where
  native : Build → NativeMemory.NativeLibraries
  fallback : FallbackBackend.AllLibraries
  other : Other → FullBackend

section Processes

variable {Build Other : Type}

/-- The operations of the backend that an object of `PqForge` holds. -/
def Installation.backend
    (installation : Installation Build Other)
    (pqforge : PqForge Build Other) :
    FullBackend :=
  match pqforge.backend with
  | .native library =>
      NativeBackend.backend (installation.native library.build)
  | .fallback =>
      FallbackBackend.backend installation.fallback
  | .other backend =>
      installation.other backend

/-- All of it computes the cryptosystem. -/
structure Installation.Compute
    (installation : Installation Build Other)
    (system : Cryptosystem) : Prop where
  native : ∀ build, (installation.native build).Compute system
  fallback : installation.fallback.Compute system
  other : ∀ backend, (installation.other backend).Implements system

/-- Whatever backend a process resolved implements the cryptosystem. -/
theorem Installation.backend_implements
    {system : Cryptosystem}
    (appendsTags : system.AppendsTags)
    {installation : Installation Build Other}
    (compute : installation.Compute system)
    (pqforge : PqForge Build Other) :
    (installation.backend pqforge).Implements system := by
  rw [Installation.backend]
  cases pqforge.backend with
  | native library =>
      exact NativeBackend.backend_implements appendsTags
        (compute.native library.build)
  | fallback =>
      exact FallbackBackend.backend_implements appendsTags
        compute.fallback
  | other backend =>
      exact compute.other backend

/--
Whichever backends three processes resolved, what is made for the keys of one
and sealed or signed in another is read in the third: envelopes, signatures,
sealed messages and streams.
-/
theorem processes_interoperate
    {system : Cryptosystem}
    (appendsTags : system.AppendsTags)
    {installation : Installation Build Other}
    (compute : installation.Compute system)
    {package : PqForgeEnvelope.PqForgePackage}
    (sameSizes :
      package.ciphertextBytes = system.declared.ciphertextBytes)
    (fits : ∀ algorithm, package.ciphertextBytes algorithm < 2 ^ 32)
    (derives :
      ∀ ikm salt info,
        ∃ key,
          package.hkdfSha256 ikm salt info 32 = .ok key ∧
            key.length = 32)
    (maker sealer opener : PqForge Build Other) :
    let made := installation.backend maker
    let sealing := installation.backend sealer
    let opening := installation.backend opener
    EnvelopesCross made sealing opening system package ∧
      SignaturesCross made sealing opening ∧
      MessagesCross sealing opening ∧
      StreamsCross sealing opening := by
  intro made sealing opening
  have makes : made.Implements system :=
    installation.backend_implements appendsTags compute maker
  have seals : sealing.Implements system :=
    installation.backend_implements appendsTags compute sealer
  have opens : opening.Implements system :=
    installation.backend_implements appendsTags compute opener
  exact
    ⟨envelopes_cross makes seals opens sameSizes fits derives,
      signatures_cross makes seals opens, messages_cross seals opens,
      streams_cross appendsTags seals opens⟩

end Processes

/-- A cryptosystem of zeros, with the lengths of the standards. -/
def Cryptosystem.zeros : Cryptosystem where
  declared := .standard
  KemKeys := fun algorithm _ secretKey =>
    secretKey.length = DeclaredSizes.standard.kemSecretKeyBytes algorithm
  Encapsulates := fun algorithm _ ciphertext sharedSecret =>
    ciphertext =
        List.replicate
          (DeclaredSizes.standard.ciphertextBytes algorithm) 0 ∧
      sharedSecret =
        List.replicate
          (DeclaredSizes.standard.sharedSecretBytes algorithm) 0
  decapsulate := fun algorithm _ _ =>
    List.replicate (DeclaredSizes.standard.sharedSecretBytes algorithm) 0
  DecapsulationFails := fun _ _ _ => False
  ciphertextLength := by
    rintro algorithm publicKey _ _ ⟨rfl, _⟩
    exact List.length_replicate
  decapsulates := by
    rintro algorithm publicKey secretKey _ _ _ ⟨_, rfl⟩ _
    rfl
  SignatureKeys := fun algorithm publicKey secretKey =>
    publicKey.length =
        DeclaredSizes.standard.signPublicKeyBytes algorithm ∧
      secretKey.length =
        DeclaredSizes.standard.signSecretKeyBytes algorithm
  verifies := fun algorithm publicKey _ signature =>
    publicKey.length =
        DeclaredSizes.standard.signPublicKeyBytes algorithm &&
      signature.length = DeclaredSizes.standard.signatureBytes algorithm
  aead := fun _ _ => taggedAead

/-- AWS-LC with outputs of zeros. -/
def NativeMemory.NativeLibraries.zeros :
    NativeMemory.NativeLibraries where
  kem := .zeros .standard
  pqdsa := .zeros .standard
  aead := taggedAead.aws
  classical := .zeros
  ed25519 := { verify := fun _ _ _ => true }
  declared := .standard

/-- The Dart packages with outputs of zeros. -/
def FallbackBackend.AllLibraries.zeros :
    FallbackBackend.AllLibraries where
  kem := {
    generateKeyPair := fun algorithm _ => .ok {
      publicKey :=
        List.replicate
          (DeclaredSizes.standard.kemPublicKeyBytes algorithm) 0
      secretKey :=
        List.replicate
          (DeclaredSizes.standard.kemSecretKeyBytes algorithm) 0 }
    encapsulate := fun algorithm _ _ => .ok {
      ciphertext :=
        List.replicate
          (DeclaredSizes.standard.ciphertextBytes algorithm) 0
      sharedSecret :=
        List.replicate
          (DeclaredSizes.standard.sharedSecretBytes algorithm) 0 }
    decapsulate := fun algorithm secretKey ciphertext =>
      .ok (Cryptosystem.zeros.decapsulate algorithm secretKey
        ciphertext) }
  signature := {
    generateKeyPair := fun algorithm _ => .ok {
      publicKey :=
        List.replicate
          (DeclaredSizes.standard.signPublicKeyBytes algorithm) 0
      secretKey :=
        List.replicate
          (DeclaredSizes.standard.signSecretKeyBytes algorithm) 0 }
    sign := fun algorithm _ _ _ =>
      .ok (List.replicate
        (DeclaredSizes.standard.signatureBytes algorithm) 0)
    verify := fun algorithm publicKey message signature =>
      .ok (Cryptosystem.zeros.verifies algorithm publicKey message
        signature) }
  aead := taggedAead.libraries

theorem NativeMemory.NativeLibraries.zeros_compute :
    NativeMemory.NativeLibraries.zeros.Compute .zeros where
  declared := rfl
  kemSizes := AwsLcKem.zeros_sizes .standard
  kemGenerates := by
    intro algorithm coins publicKey secretKey generated
    exact ((AwsLcKem.zeros_sizes .standard).keyPair algorithm coins
      publicKey secretKey generated).2
  encapsulates := by
    intro algorithm publicKey coins ciphertext sharedSecret encapsulated
    obtain ⟨ek, made, produced⟩ :=
      Option.bind_eq_some_iff.mp encapsulated
    obtain ⟨rfl, _⟩ := algorithmFor_eq_some made
    cases produced
    exact ⟨rfl, rfl⟩
  decapsulates := by
    intro algorithm publicKey secretKey ciphertext made length
    refine Option.bind_eq_some_iff.mpr ⟨algorithm, if_pos made, ?_⟩
    exact if_pos length
  pqdsaSizes := AwsLcPqdsa.zeros_sizes .standard
  signGenerates := by
    intro algorithm coins publicKey secretKey generated
    exact (AwsLcPqdsa.zeros_sizes .standard).generated algorithm coins
      publicKey secretKey generated
  signs := by
    intro algorithm publicKey secretKey message coins signature keys
      signed
    have length := (AwsLcPqdsa.zeros_sizes .standard).signature algorithm
      secretKey message coins signature signed
    simp only [Cryptosystem.zeros, keys.1, length, decide_true,
      Bool.and_true]
  verifies := fun _ _ _ _ => rfl
  aeadSizes := taggedAead.aws_sizes
  seals := fun algorithm key _ => taggedAead.aws_sealsAs algorithm key
  opens := fun algorithm key _ =>
    taggedAead_tidy.toCorrect.aws_opensSealed algorithm key

/-- What is sealed in the examples can hold a tag. -/
theorem sealedZeros_holdsTag
    {nonce : Bytes}
    (aad plaintext : Bytes)
    (nonceLength : nonce.length = 12) :
    16 ≤ (taggedAead.sealUnder nonce aad plaintext).length := by
  rw [taggedAead_tidy.appendsTag nonce aad plaintext nonceLength]
  exact Nat.le_add_left 16 _

theorem FallbackBackend.AllLibraries.zeros_compute :
    FallbackBackend.AllLibraries.zeros.Compute .zeros where
  kemGenerates := by
    intro algorithm coins keys generated
    cases generated
    exact List.length_replicate
  encapsulates := by
    intro algorithm publicKey coins enc encapsulated
    cases encapsulated
    exact ⟨rfl, rfl⟩
  decapsulates := fun _ _ _ _ _ _ => rfl
  signGenerates := by
    intro algorithm coins keys generated
    cases generated
    exact ⟨List.length_replicate, List.length_replicate⟩
  signs := by
    intro algorithm publicKey secretKey message coins signature keys
      signed
    cases signed
    simp only [Cryptosystem.zeros, keys.1, List.length_replicate,
      decide_true, Bool.and_true]
  verifies := by
    intro algorithm publicKey message signature
    simp only [zeros, Except.ok.injEq]
  aesGcmEncrypts := by
    intro key nonce plaintext aad keyLength nonceLength
    exact if_pos ⟨keyLength, nonceLength⟩
  aesGcmDecrypts := by
    intro key nonce plaintext aad keyLength nonceLength
    exact taggedAead.libraries_opensAs.aesGcmAccepts key nonce _ aad
      plaintext keyLength nonceLength
      (sealedZeros_holdsTag aad plaintext nonceLength)
      (taggedAead_tidy.opens nonce aad plaintext nonceLength)
  chachaInits := fun _ _ _ _ _ _ => ⟨_, rfl⟩
  chachaSeals := by
    intro key nonce plaintext aad cipher _ _ inits
    cases inits
    refine
      ⟨_, _, _,
        (List.replicate (plaintext.length + 16) 0).drop
          (0 + (taggedAead.sealUnder nonce aad plaintext).length),
        _, rfl, ?_, Nat.zero_add _⟩
    simp only [zeros, Aead.libraries, Aead.pointyCastle, ↓reduceIte,
      List.nil_append, ByteOrder.overwrite, List.take_zero,
      Cryptosystem.zeros]
  chachaOpens := by
    intro key nonce plaintext aad cipher keyLength nonceLength inits
    exact taggedAead.libraries_opensAs.chachaAccepts key nonce _ aad
      plaintext cipher keyLength nonceLength
      (sealedZeros_holdsTag aad plaintext nonceLength)
      inits (taggedAead_tidy.opens nonce aad plaintext nonceLength)

/-- One build of the native library, and the Dart packages. -/
def Installation.zeros : Installation Unit Empty where
  native := fun _ => .zeros
  fallback := .zeros
  other := Empty.elim

theorem Installation.zeros_compute :
    Installation.zeros.Compute .zeros where
  native := fun _ => NativeMemory.NativeLibraries.zeros_compute
  fallback := FallbackBackend.AllLibraries.zeros_compute
  other := nofun

/--
A byte for a key that the native backend made, sealed by the fallback and opened
natively again.
-/
theorem processes_interoperate_of_zeros :
    let core := pqforgeCore () (.ok (List.replicate 32 0))
    let native := Installation.zeros.backend ⟨0, .native core⟩
    let fallback := Installation.zeros.backend ⟨0, .fallback⟩
    ∃ envelope,
      (PqForgeEnvelope.seal PqForgeEnvelope.paddingPackage
          fallback.toPqForgeBackend .mlKem512 (List.replicate 800 0) [1]
          none PqForgeEnvelope.zeroRandomness).outcome =
        .ok envelope ∧
      (PqForgeEnvelope.open PqForgeEnvelope.paddingPackage
          native.toPqForgeBackend (List.replicate 1632 0) envelope
          (some [])).outcome =
        .ok [1] := by
  intro core native fallback
  have appendsTags : Cryptosystem.zeros.AppendsTags :=
    fun _ _ _ => taggedAead_tidy.appendsTag
  have sameSizes :
      PqForgeEnvelope.paddingPackage.ciphertextBytes =
        Cryptosystem.zeros.declared.ciphertextBytes := by
    funext algorithm
    cases algorithm <;> rfl
  have fits : ∀ algorithm,
      PqForgeEnvelope.paddingPackage.ciphertextBytes algorithm <
        2 ^ 32 := by
    intro algorithm
    cases algorithm <;> decide
  have cross :=
    (processes_interoperate appendsTags Installation.zeros_compute
      sameSizes fits PqForgeEnvelope.paddingPackage_derives ⟨0, .native core⟩ ⟨0, .fallback⟩
      ⟨0, .native core⟩).1
  let keys : PqKeyPair := {
    publicKey := List.replicate 800 0
    secretKey := List.replicate 1632 0 }
  have made : native.kemGenerate .mlKem512 [] = .ok keys := by
    have marshalled :=
      NativeBackend.kem_marshalled (AwsLcKem.zeros_sizes .standard)
    simp only [native, Installation.backend, NativeBackend.backend]
    exact (marshalled.generate .mlKem512 []).returns _ rfl
  have encapsulated :
      fallback.kemEncapsulate .mlKem512 (List.replicate 800 0) [] =
        .ok {
          ciphertext := List.replicate 768 0
          sharedSecret := List.replicate 32 0 } :=
    rfl
  exact cross .mlKem512 [] keys [] PqForgeEnvelope.zeroSalt
    PqForgeEnvelope.zeroNonce _ [1] none (some []) made encapsulated id rfl

end PqForgeFfi
