import PqForgeFfi.EnvelopeRuns
import PqForgeFfi.MemoryRuns
import PqForgeFfi.Verification

namespace PqForgeFfi

open Segmentation

/-!
# The contract of the backend interface

Every method of `PqForgeBackend` is to return a value or to throw an exception
of the package.  The native backend keeps to that, and the fallback does except
where its AEAD libraries throw something that no handler around a seal expects.
What the package builds on them keeps to it as well, but for an envelope whose
draws or key derivation throw.
-/

/--
The operations of `PqForgeBackend`.  What the random ones draw is an argument
here.
-/
structure FullBackend extends PqForgeBackend where
  kemGenerate :
    PqKemAlgorithm →
      (coins : Bytes) →
      Except DartThrow PqKeyPair
  signGenerate :
    PqSignatureAlgorithm →
      (coins : Bytes) →
      Except DartThrow PqKeyPair
  sign :
    PqSignatureAlgorithm →
      (secretKey message coins : Bytes) →
      Except DartThrow Bytes
  verify :
    PqSignatureAlgorithm →
      (publicKey message signature : Bytes) →
      Except DartThrow Bool

/-- `NativeBackend`. -/
def NativeBackend.backend
    (libraries : NativeMemory.NativeLibraries) :
    FullBackend where
  kemGenerate := fun algorithm coins =>
    (kemGenerate libraries.kem libraries.declared coins algorithm).ending
  kemEncapsulate := fun algorithm publicKey coins =>
    (kemEncapsulate libraries.kem libraries.declared coins algorithm
      publicKey).ending
  kemDecapsulate := fun algorithm secretKey ciphertext =>
    (kemDecapsulate libraries.kem libraries.declared algorithm secretKey
      ciphertext).ending
  signGenerate := fun algorithm coins =>
    (signGenerate libraries.pqdsa libraries.declared coins
      algorithm).ending
  sign := fun algorithm secretKey message coins =>
    (sign libraries.pqdsa libraries.declared coins algorithm secretKey
      message).ending
  verify := verify libraries.pqdsa
  aeadSeal := aeadSeal libraries.aead
  aeadOpen := aeadOpen libraries.aead

/-- `PqKemPrimitives` of the `pqforge` package. -/
structure PqKemPrimitives where
  generateKeyPair :
    PqKemAlgorithm →
      (coins : Bytes) →
      Except DartThrow PqKeyPair
  encapsulate :
    PqKemAlgorithm →
      (publicKey coins : Bytes) →
      Except DartThrow PqKemEncapsulation
  decapsulate :
    PqKemAlgorithm →
      (secretKey ciphertext : Bytes) →
      Except DartThrow Bytes

/-- The rest of `PqSignaturePrimitives`. -/
structure PqSigningPrimitives extends PqSignaturePrimitives where
  generateKeyPair :
    PqSignatureAlgorithm →
      (coins : Bytes) →
      Except DartThrow PqKeyPair
  sign :
    PqSignatureAlgorithm →
      (secretKey message coins : Bytes) →
      Except DartThrow Bytes

namespace FallbackBackend

/-- All that the fallback calls. -/
structure AllLibraries where
  kem : PqKemPrimitives
  signature : PqSigningPrimitives
  aead : Libraries

/-- `kemGenerate`. -/
def kemGenerate
    (library : PqKemPrimitives)
    (algorithm : PqKemAlgorithm)
    (coins : Bytes) :
    Except DartThrow PqKeyPair :=
  guard (library.generateKeyPair algorithm coins)

/-- `kemEncapsulate`. -/
def kemEncapsulate
    (library : PqKemPrimitives)
    (algorithm : PqKemAlgorithm)
    (publicKey coins : Bytes) :
    Except DartThrow PqKemEncapsulation :=
  guard (library.encapsulate algorithm publicKey coins)

/-- `kemDecapsulate`. -/
def kemDecapsulate
    (library : PqKemPrimitives)
    (algorithm : PqKemAlgorithm)
    (secretKey ciphertext : Bytes) :
    Except DartThrow Bytes :=
  guard (library.decapsulate algorithm secretKey ciphertext)

/-- `signGenerate`. -/
def signGenerate
    (library : PqSigningPrimitives)
    (algorithm : PqSignatureAlgorithm)
    (coins : Bytes) :
    Except DartThrow PqKeyPair :=
  guard (library.generateKeyPair algorithm coins)

/-- `sign`. -/
def sign
    (library : PqSigningPrimitives)
    (algorithm : PqSignatureAlgorithm)
    (secretKey message coins : Bytes) :
    Except DartThrow Bytes :=
  guard (library.sign algorithm secretKey message coins)

/-- `FallbackBackend`. -/
def backend (libraries : AllLibraries) : FullBackend where
  kemGenerate := kemGenerate libraries.kem
  kemEncapsulate := kemEncapsulate libraries.kem
  kemDecapsulate := kemDecapsulate libraries.kem
  signGenerate := signGenerate libraries.signature
  sign := sign libraries.signature
  verify := verify libraries.signature.toPqSignaturePrimitives
  aeadSeal := aeadSeal libraries.aead
  aeadOpen := aeadOpen libraries.aead

end FallbackBackend

/-! ## Calls of the package -/

/-- A call of `PqForge`: one of its pass-throughs, or of the envelope. -/
inductive PackageCall where
  | generateKemKeyPair
      (algorithm : PqKemAlgorithm)
      (coins : Bytes)
  | encapsulate
      (algorithm : PqKemAlgorithm)
      (publicKey coins : Bytes)
  | decapsulate
      (algorithm : PqKemAlgorithm)
      (secretKey ciphertext : Bytes)
  | generateSignatureKeyPair
      (algorithm : PqSignatureAlgorithm)
      (coins : Bytes)
  | sign
      (algorithm : PqSignatureAlgorithm)
      (secretKey message coins : Bytes)
  | verify
      (algorithm : PqSignatureAlgorithm)
      (publicKey message signature : Bytes)
  | aeadSeal
      (algorithm : PqAeadAlgorithm)
      (key nonce plaintext aad : Bytes)
  | aeadOpen
      (algorithm : PqAeadAlgorithm)
      (key nonce ciphertext aad : Bytes)
  | sealEnvelope
      (kemAlgorithm : PqKemAlgorithm)
      (recipientPublicKey plaintext : Bytes)
      (aad : Option Bytes)
      (random : PqForgeEnvelope.Randomness)
  | openEnvelope
      (recipientSecretKey envelope : Bytes)
      (aad : Option Bytes)

/-- What a call of `PqForge` returns. -/
inductive PackageAnswer where
  | keyPair (keys : PqKeyPair)
  | encapsulation (encapsulation : PqKemEncapsulation)
  | bytes (bytes : Bytes)
  | verdict (valid : Bool)
  deriving Repr, DecidableEq

/-- How a call of `PqForge` over a backend ends. -/
def PackageCall.ending
    (pqforge : PqForgeEnvelope.PqForgePackage)
    (backend : FullBackend) :
    PackageCall → Except DartThrow PackageAnswer
  | .generateKemKeyPair algorithm coins =>
      (backend.kemGenerate algorithm coins).map .keyPair
  | .encapsulate algorithm publicKey coins =>
      (backend.kemEncapsulate algorithm publicKey coins).map
        .encapsulation
  | .decapsulate algorithm secretKey ciphertext =>
      (backend.kemDecapsulate algorithm secretKey ciphertext).map .bytes
  | .generateSignatureKeyPair algorithm coins =>
      (backend.signGenerate algorithm coins).map .keyPair
  | .sign algorithm secretKey message coins =>
      (backend.sign algorithm secretKey message coins).map .bytes
  | .verify algorithm publicKey message signature =>
      (backend.verify algorithm publicKey message signature).map
        .verdict
  | .aeadSeal algorithm key nonce plaintext aad =>
      (backend.aeadSeal algorithm key nonce plaintext aad).map .bytes
  | .aeadOpen algorithm key nonce ciphertext aad =>
      (backend.aeadOpen algorithm key nonce ciphertext aad).map .bytes
  | .sealEnvelope kemAlgorithm recipientPublicKey plaintext aad random =>
      (PqForgeEnvelope.seal pqforge backend.toPqForgeBackend kemAlgorithm
        recipientPublicKey plaintext aad random).outcome.map .bytes
  | .openEnvelope recipientSecretKey envelope aad =>
      (PqForgeEnvelope.open pqforge backend.toPqForgeBackend
        recipientSecretKey envelope aad).outcome.map .bytes

/-- A call ended with a value or an exception of the package. -/
def InTaxonomy
    {Answer : Type}
    (ending : Except DartThrow Answer) : Prop :=
  ∀ thrown,
    ending = .error thrown →
    ∃ exception, thrown = .ffi exception

/-- A call of `PqForge` makes an AEAD seal with these arguments. -/
def PackageCall.Seals
    (pqforge : PqForgeEnvelope.PqForgePackage)
    (backend : FullBackend)
    (algorithm : PqAeadAlgorithm)
    (key nonce plaintext aad : Bytes) :
    PackageCall → Prop
  | .aeadSeal asked askedKey askedNonce askedPlaintext askedAad =>
      (algorithm, key, nonce, plaintext, aad) =
        (asked, askedKey, askedNonce, askedPlaintext, askedAad)
  | .sealEnvelope kemAlgorithm recipientPublicKey message extra random =>
      ∃ enc prepared header,
        backend.kemEncapsulate kemAlgorithm recipientPublicKey
            random.coins =
          .ok enc ∧
        PqForgeEnvelope.prepare pqforge random enc.sharedSecret =
          .ok prepared ∧
        PqForgeEnvelope.encodeHeader kemAlgorithm prepared.salt.val
            prepared.nonce.val enc.ciphertext =
          .ok header ∧
        (algorithm, key, nonce, plaintext, aad) =
          (.aes256Gcm, prepared.key, prepared.nonce.val, message,
            header ++ extra.getD [])
  | _ => False

/--
The `pqforge` package throws past an envelope, outside the taxonomy: where
`seal` draws its salt and nonce or derives its key, or where `open` derives its
own.
-/
def PackageCall.PackageEscapes
    (pqforge : PqForgeEnvelope.PqForgePackage)
    (backend : FullBackend) :
    PackageCall → Prop
  | .sealEnvelope kemAlgorithm recipientPublicKey _ _ random =>
      ∃ enc,
        backend.kemEncapsulate kemAlgorithm recipientPublicKey
            random.coins =
          .ok enc ∧
        ¬InTaxonomy
          (PqForgeEnvelope.prepare pqforge random enc.sharedSecret)
  | .openEnvelope recipientSecretKey envelope _ =>
      ∃ parsed sharedSecret,
        PqForgeEnvelope.decode pqforge envelope = .ok parsed ∧
        backend.kemDecapsulate parsed.kemAlgorithm recipientSecretKey
            parsed.kemCiphertext =
          .ok sharedSecret ∧
        ¬InTaxonomy
          (PqForgeEnvelope.envelopeKey pqforge sharedSecret parsed.salt)
  | _ => False

/-- A library throws past every handler around a seal of the fallback. -/
def FallbackBackend.SealEscapes
    (libraries : Libraries)
    (algorithm : PqAeadAlgorithm)
    (key nonce plaintext aad : Bytes) : Prop :=
  ∃ thrown,
    (∀ exception, thrown ≠ .ffi exception) ∧
      match algorithm with
      | .aes256Gcm =>
          libraries.aesGcmEncrypt key nonce plaintext aad =
              .error thrown ∧
            thrown.isArgumentError = false
      | .chaCha20Poly1305 =>
          key.length = 32 ∧
            nonce.length = 12 ∧
            (chacha libraries.pointyCastle true key nonce aad =
                .error thrown ∨
              ∃ cipher,
                chacha libraries.pointyCastle true key nonce aad =
                    .ok cipher ∧
                  (runAead libraries.pointyCastle cipher
                      plaintext).result =
                    .error thrown)

/-- All operations of a backend but its seals end in the taxonomy. -/
structure FullBackend.Typed (backend : FullBackend) : Prop where
  kemGenerate :
    ∀ algorithm coins, InTaxonomy (backend.kemGenerate algorithm coins)
  kemEncapsulate :
    ∀ algorithm publicKey coins,
      InTaxonomy (backend.kemEncapsulate algorithm publicKey coins)
  kemDecapsulate :
    ∀ algorithm secretKey ciphertext,
      InTaxonomy (backend.kemDecapsulate algorithm secretKey ciphertext)
  signGenerate :
    ∀ algorithm coins, InTaxonomy (backend.signGenerate algorithm coins)
  sign :
    ∀ algorithm secretKey message coins,
      InTaxonomy (backend.sign algorithm secretKey message coins)
  verify :
    ∀ algorithm publicKey message signature,
      InTaxonomy (backend.verify algorithm publicKey message signature)
  aeadOpen :
    ∀ algorithm key nonce ciphertext aad,
      InTaxonomy (backend.aeadOpen algorithm key nonce ciphertext aad)

section Taxonomy

variable {Answer Result : Type}

theorem InTaxonomy.ok (answer : Answer) :
    InTaxonomy (.ok answer) := by
  intro thrown failed
  cases failed

theorem InTaxonomy.thrown (exception : PqForgeFfiException) :
    InTaxonomy (.error (.ffi exception) : Except DartThrow Answer) := by
  intro thrown failed
  cases failed
  exact ⟨exception, rfl⟩

/-- What a call returns does not matter to what it throws. -/
theorem InTaxonomy.map_iff
    (change : Answer → Result)
    {ending : Except DartThrow Answer} :
    InTaxonomy (ending.map change) ↔ InTaxonomy ending := by
  cases ending with
  | ok answer =>
      exact iff_of_true (.ok _) (.ok _)
  | error thrown =>
      constructor
      · intro inTaxonomy other failed
        cases failed
        exact inTaxonomy thrown rfl
      · intro inTaxonomy other failed
        cases failed
        exact inTaxonomy thrown rfl

/-- Everything that `_guard` lets out is of the package. -/
theorem FallbackBackend.guard_inTaxonomy
    (body : Except DartThrow Answer) :
    InTaxonomy (guard body) := by
  cases body with
  | ok answer =>
      exact .ok answer
  | error thrown =>
      exact .thrown (guardThrow thrown)

/-- A native call throws nothing but what `_throwStatus` throws. -/
theorem NativeBackend.returned_inTaxonomy
    (call : Int × CallerOutput)
    (op : String) :
    InTaxonomy (returned call op).ending := by
  rw [returned]
  split
  · exact .thrown _
  · exact .ok _

/--
A native call with two outputs throws nothing but what `_throwStatus` does.
-/
theorem NativeBackend.returnedBoth_inTaxonomy
    (together : Bytes → Bytes → Answer)
    (call : Int × CallerOutput × CallerOutput)
    (op : String) :
    InTaxonomy (returnedBoth together call op).ending := by
  rw [returnedBoth]
  split
  · exact .thrown _
  · exact .ok _

/-- The native backend keeps to the taxonomy. -/
theorem NativeBackend.backend_typed
    (libraries : NativeMemory.NativeLibraries) :
    (NativeBackend.backend libraries).Typed where
  kemGenerate := fun _ _ => returnedBoth_inTaxonomy _ _ _
  kemEncapsulate := fun _ _ _ => returnedBoth_inTaxonomy _ _ _
  kemDecapsulate := fun _ _ _ => returned_inTaxonomy _ _
  signGenerate := fun _ _ => returnedBoth_inTaxonomy _ _ _
  sign := fun _ _ _ _ => returned_inTaxonomy _ _
  verify := fun _ _ _ _ => .ok _
  aeadOpen := by
    intro algorithm key nonce ciphertext aad
    show InTaxonomy
      (NativeBackend.aeadOpen libraries.aead algorithm key nonce
        ciphertext aad)
    rw [← aeadOpenOperation_ending]
    exact returned_inTaxonomy _ _

/-- The native backend's seals keep to the taxonomy. -/
theorem NativeBackend.aeadSeal_inTaxonomy
    (libraries : NativeMemory.NativeLibraries)
    (algorithm : PqAeadAlgorithm)
    (key nonce plaintext aad : Bytes) :
    InTaxonomy
      ((NativeBackend.backend libraries).aeadSeal algorithm key nonce
        plaintext aad) := by
  show InTaxonomy
    (NativeBackend.aeadSeal libraries.aead algorithm key nonce plaintext
      aad)
  rw [← aeadSealOperation_ending]
  exact returned_inTaxonomy _ _

/-- Whatever the libraries do, an open of the fallback ends in the taxonomy. -/
theorem FallbackBackend.aeadOpen_inTaxonomy
    (libraries : Libraries)
    (algorithm : PqAeadAlgorithm)
    (key nonce ciphertext aad : Bytes) :
    InTaxonomy (aeadOpen libraries algorithm key nonce ciphertext aad) := by
  cases algorithm with
  | aes256Gcm =>
      rw [aeadOpen]
      split
      · exact .ok _
      · split
        · exact .thrown _
        · exact .thrown _
  | chaCha20Poly1305 =>
      by_cases sizes : key.length = 32 ∧ nonce.length = 12
      · rw [aeadOpen, requireSizes_of_sizes _ sizes.1 sizes.2, ok_bind]
        split
        · exact .thrown _
        · dsimp only
          split
          · exact .ok _
          · exact .thrown _
      · obtain ⟨message, refused⟩ :=
          requireSizes_of_wrong .chaCha20Poly1305 sizes
        rw [aeadOpen, refused]
        exact .thrown _

/-- The fallback keeps to the taxonomy but for its seals. -/
theorem FallbackBackend.backend_typed
    (libraries : AllLibraries) :
    (FallbackBackend.backend libraries).Typed where
  kemGenerate := fun _ _ => guard_inTaxonomy _
  kemEncapsulate := fun _ _ _ => guard_inTaxonomy _
  kemDecapsulate := fun _ _ _ => guard_inTaxonomy _
  signGenerate := fun _ _ => guard_inTaxonomy _
  sign := fun _ _ _ _ => guard_inTaxonomy _
  verify := fun _ _ _ _ => guard_inTaxonomy _
  aeadOpen := aeadOpen_inTaxonomy libraries.aead

/-- What leaves the taxonomy was thrown and is not of the package. -/
theorem not_inTaxonomy_iff
    (ending : Except DartThrow Answer) :
    ¬InTaxonomy ending ↔
      ∃ thrown,
        (∀ exception, thrown ≠ .ffi exception) ∧
          ending = .error thrown := by
  constructor
  · intro outside
    simp only [InTaxonomy, not_forall, not_exists] at outside
    obtain ⟨thrown, failed, foreign⟩ := outside
    exact ⟨thrown, foreign, failed⟩
  · rintro ⟨thrown, foreign, failed⟩ inTaxonomy
    obtain ⟨exception, typed⟩ := inTaxonomy thrown failed
    exact foreign exception typed

/-- A seal of AES-GCM lets through what is no `ArgumentError`. -/
theorem FallbackBackend.aesSeal_eq_error_iff
    (libraries : Libraries)
    (key nonce plaintext aad : Bytes)
    {thrown : DartThrow}
    (foreign : ∀ exception, thrown ≠ .ffi exception) :
    aeadSeal libraries .aes256Gcm key nonce plaintext aad =
        .error thrown ↔
      libraries.aesGcmEncrypt key nonce plaintext aad = .error thrown ∧
        thrown.isArgumentError = false := by
  rw [aeadSeal]
  cases libraries.aesGcmEncrypt key nonce plaintext aad with
  | ok ciphertext =>
      simp only [reduceCtorEq, false_and]
  | error inner =>
      dsimp only
      split
      · rename_i argument
        constructor
        · intro failed
          cases failed
          exact (foreign _ rfl).elim
        · rintro ⟨same, notArgument⟩
          cases same
          rw [argument] at notArgument
          cases notArgument
      · rename_i notArgument
        constructor
        · intro failed
          cases failed
          exact ⟨rfl, Bool.eq_false_iff.mpr notArgument⟩
        · rintro ⟨same, _⟩
          exact same

/-- A seal of ChaCha20-Poly1305 lets through all that PointyCastle throws. -/
theorem FallbackBackend.chachaSeal_eq_error_iff
    (libraries : Libraries)
    (key nonce plaintext aad : Bytes)
    {thrown : DartThrow}
    (foreign : ∀ exception, thrown ≠ .ffi exception) :
    aeadSeal libraries .chaCha20Poly1305 key nonce plaintext aad =
        .error thrown ↔
      key.length = 32 ∧
        nonce.length = 12 ∧
        (chacha libraries.pointyCastle true key nonce aad =
            .error thrown ∨
          ∃ cipher,
            chacha libraries.pointyCastle true key nonce aad =
                .ok cipher ∧
              (runAead libraries.pointyCastle cipher plaintext).result =
                .error thrown) := by
  by_cases sizes : key.length = 32 ∧ nonce.length = 12
  · obtain ⟨keyLength, nonceLength⟩ := sizes
    rw [aeadSeal, requireSizes_of_sizes _ keyLength nonceLength, ok_bind]
    constructor
    · intro failed
      exact ⟨keyLength, nonceLength, except_bind_eq_error failed⟩
    · rintro ⟨-, -, failed | ⟨cipher, made, failed⟩⟩
      · rw [failed]
        rfl
      · rw [made, ok_bind, failed]
  · obtain ⟨message, refused⟩ :=
      requireSizes_of_wrong .chaCha20Poly1305 sizes
    rw [aeadSeal, refused]
    constructor
    · intro failed
      cases failed
      exact (foreign _ rfl).elim
    · rintro ⟨keyLength, nonceLength, _⟩
      exact (sizes ⟨keyLength, nonceLength⟩).elim

/--
A seal of the fallback stays in the taxonomy unless a library throws past it.
-/
theorem FallbackBackend.aeadSeal_inTaxonomy_iff
    (libraries : Libraries)
    (algorithm : PqAeadAlgorithm)
    (key nonce plaintext aad : Bytes) :
    InTaxonomy (aeadSeal libraries algorithm key nonce plaintext aad) ↔
      ¬SealEscapes libraries algorithm key nonce plaintext aad := by
  refine Iff.trans not_not.symm (not_congr ?_)
  rw [not_inTaxonomy_iff, SealEscapes]
  refine exists_congr fun thrown => and_congr_right fun foreign => ?_
  cases algorithm with
  | aes256Gcm =>
      exact aesSeal_eq_error_iff libraries key nonce plaintext aad foreign
  | chaCha20Poly1305 =>
      exact chachaSeal_eq_error_iff libraries key nonce plaintext aad
        foreign

/-- Behind its preparation a `seal` of the envelope ends as its AEAD call. -/
theorem PqForgeEnvelope.seal_outcome
    (pqforge : PqForgePackage)
    (backend : PqForgeBackend)
    {kemAlgorithm : PqKemAlgorithm}
    {publicKey : Bytes}
    {random : Randomness}
    {enc : PqKemEncapsulation}
    (encapsulated :
      backend.kemEncapsulate kemAlgorithm publicKey random.coins =
        .ok enc)
    {prepared : Prepared}
    (isPrepared :
      prepare pqforge random enc.sharedSecret = .ok prepared)
    (plaintext : Bytes)
    (aad : Option Bytes) :
    ∃ header,
      encodeHeader kemAlgorithm prepared.salt.val prepared.nonce.val
          enc.ciphertext =
        .ok header ∧
      («seal» pqforge backend kemAlgorithm publicKey plaintext aad
          random).outcome =
        (backend.aeadSeal .aes256Gcm prepared.key prepared.nonce.val
          plaintext (header ++ aad.getD [])).map (header ++ ·) := by
  let measured : PqForgePackage :=
    { pqforge with
      ciphertextBytes := fun _ => enc.ciphertext.length }
  have declared :
      enc.ciphertext.length = measured.ciphertextBytes kemAlgorithm := rfl
  let header := sealedHeader measured kemAlgorithm prepared declared
  have measuredPrepared :
      prepare measured random enc.sharedSecret = .ok prepared :=
    isPrepared
  have measuredSeal :=
    seal_eq encapsulated measuredPrepared declared plaintext aad
  have sealedSo :
      «seal» pqforge backend kemAlgorithm publicKey plaintext aad random =
        aeadCall backend.aeadSeal prepared.key prepared.nonce.val
            plaintext (header.bytes ++ aad.getD []) >>=
          fun frame => .done (header.bytes ++ frame) :=
    measuredSeal
  have called := aeadCall_outcome backend.aeadSeal prepared.key
    prepared.nonce.val plaintext (header.bytes ++ aad.getD [])
  refine ⟨header.bytes, encodeHeader_eq header, ?_⟩
  rw [sealedSo]
  cases answer :
      backend.aeadSeal .aes256Gcm prepared.key prepared.nonce.val
        plaintext (header.bytes ++ aad.getD []) with
  | ok frame =>
      rw [Trace.bind_of_ok (called.trans answer)]
      rfl
  | error thrown =>
      rw [Trace.bind_of_error (called.trans answer)]
      rfl

/-- A `seal` of the envelope throws what its draws or its derivation throw. -/
theorem PqForgeEnvelope.seal_of_unprepared
    {pqforge : PqForgePackage}
    {backend : PqForgeBackend}
    {kemAlgorithm : PqKemAlgorithm}
    {publicKey : Bytes}
    {random : Randomness}
    {enc : PqKemEncapsulation}
    (encapsulated :
      backend.kemEncapsulate kemAlgorithm publicKey random.coins =
        .ok enc)
    {thrown : DartThrow}
    (failed : prepare pqforge random enc.sharedSecret = .error thrown)
    (plaintext : Bytes)
    (aad : Option Bytes) :
    («seal» pqforge backend kemAlgorithm publicKey plaintext aad
        random).outcome =
      .error thrown := by
  let measured : PqForgePackage :=
    { pqforge with
      ciphertextBytes := fun _ => enc.ciphertext.length }
  have declared :
      enc.ciphertext.length = measured.ciphertextBytes kemAlgorithm := rfl
  have measuredFailed :
      prepare measured random enc.sharedSecret = .error thrown := failed
  have measuredSeal :=
    seal_eq_prepare encapsulated declared plaintext aad
  rw [measuredFailed, Trace.ofExcept_error, Trace.fail_bind]
    at measuredSeal
  exact congrArg Trace.outcome measuredSeal

/--
A `seal` of the envelope ends in the taxonomy exactly if its preparation and its
AEAD call do.
-/
theorem PqForgeEnvelope.seal_inTaxonomy_iff
    {pqforge : PqForgePackage}
    {backend : FullBackend}
    (typed : backend.Typed)
    (kemAlgorithm : PqKemAlgorithm)
    (publicKey plaintext : Bytes)
    (aad : Option Bytes)
    (random : Randomness) :
    InTaxonomy
        («seal» pqforge backend.toPqForgeBackend kemAlgorithm publicKey
          plaintext aad random).outcome ↔
      ∀ enc,
        backend.kemEncapsulate kemAlgorithm publicKey random.coins =
          .ok enc →
        InTaxonomy (prepare pqforge random enc.sharedSecret) ∧
          ∀ prepared header,
            prepare pqforge random enc.sharedSecret = .ok prepared →
            encodeHeader kemAlgorithm prepared.salt.val
                prepared.nonce.val enc.ciphertext =
              .ok header →
            InTaxonomy
              (backend.aeadSeal .aes256Gcm prepared.key
                prepared.nonce.val plaintext
                (header ++ aad.getD [])) := by
  cases encapsulated :
      backend.kemEncapsulate kemAlgorithm publicKey random.coins with
  | error thrown =>
      obtain ⟨exception, rfl⟩ :=
        typed.kemEncapsulate kemAlgorithm publicKey random.coins thrown
          encapsulated
      rw [seal_of_error encapsulated]
      refine iff_of_true (.thrown exception) ?_
      intro enc returned
      cases returned
  | ok enc =>
      cases isPrepared : prepare pqforge random enc.sharedSecret with
      | error thrown =>
          rw [seal_of_unprepared encapsulated isPrepared]
          constructor
          · rintro inTaxonomy _ ⟨⟩
            rw [isPrepared]
            refine ⟨fun other failed => ?_, ?_⟩
            · cases failed
              exact inTaxonomy thrown rfl
            · intro prepared header returned
              cases returned
          · intro inTaxonomy other failed
            cases failed
            exact (inTaxonomy enc rfl).1 thrown isPrepared
      | ok prepared =>
          obtain ⟨header, encoded, ends⟩ :=
            seal_outcome pqforge backend.toPqForgeBackend encapsulated
              isPrepared plaintext aad
          rw [ends, InTaxonomy.map_iff]
          constructor
          · rintro inTaxonomy _ ⟨⟩
            rw [isPrepared]
            refine ⟨.ok prepared, ?_⟩
            rintro _ other ⟨⟩ encodedToo
            rw [encoded] at encodedToo
            cases encodedToo
            exact inTaxonomy
          · intro inTaxonomy
            exact (inTaxonomy enc rfl).2 prepared header isPrepared
              encoded

/-- Opening an envelope ends in the taxonomy exactly if its derivation does. -/
theorem PqForgeEnvelope.open_inTaxonomy_iff
    (pqforge : PqForgePackage)
    {backend : FullBackend}
    (typed : backend.Typed)
    (secretKey envelope : Bytes)
    (aad : Option Bytes) :
    InTaxonomy
        («open» pqforge backend.toPqForgeBackend secretKey envelope
          aad).outcome ↔
      ∀ parsed sharedSecret,
        decode pqforge envelope = .ok parsed →
        backend.kemDecapsulate parsed.kemAlgorithm secretKey
            parsed.kemCiphertext =
          .ok sharedSecret →
        InTaxonomy (envelopeKey pqforge sharedSecret parsed.salt) := by
  rcases decode_cases pqforge envelope with
      ⟨message, refused⟩ | ⟨header, tail, fits, rfl⟩
  · rw [«open», refused]
    refine iff_of_true (.thrown _) ?_
    intro parsed sharedSecret decoded
    cases decoded
  · have decoded := decode_bytes fits tail
    cases decapsulated :
        backend.kemDecapsulate header.kemAlgorithm secretKey
          header.kemCiphertext with
    | error thrown =>
        obtain ⟨exception, rfl⟩ :=
          typed.kemDecapsulate header.kemAlgorithm secretKey
            header.kemCiphertext thrown decapsulated
        rw [«open», decoded, Trace.ofExcept_ok, Trace.done_bind]
        simp only [EnvelopeFormat.Header.bytes, ParsedEnvelope.ofHeader,
          decapsulated]
        refine iff_of_true (.thrown exception) ?_
        rintro _ sharedSecret ⟨⟩ returned
        cases decapsulated.symm.trans returned
    | ok sharedSecret =>
        rw [open_eq fits decapsulated]
        cases derived :
            envelopeKey pqforge sharedSecret header.salt with
        | error thrown =>
            constructor
            · intro inTaxonomy parsed other sameDecoded returned
              cases decoded.symm.trans sameDecoded
              cases decapsulated.symm.trans returned
              intro failure failed
              cases derived.symm.trans failed
              exact inTaxonomy thrown rfl
            · intro inTaxonomy failure failed
              cases failed
              exact inTaxonomy _ sharedSecret decoded decapsulated
                thrown derived
        | ok key =>
            rw [Trace.ofExcept_ok, Trace.done_bind, aeadCall_outcome]
            refine iff_of_true (typed.aeadOpen _ _ _ _ _) ?_
            intro parsed other sameDecoded returned
            cases decoded.symm.trans sameDecoded
            cases decapsulated.symm.trans returned
            intro failure failed
            cases derived.symm.trans failed

/-! ## Every call -/

/-- A call leaves the taxonomy only through the package or through a seal. -/
theorem PackageCall.inTaxonomy_iff
    (pqforge : PqForgeEnvelope.PqForgePackage)
    {backend : FullBackend}
    (typed : backend.Typed)
    (call : PackageCall) :
    InTaxonomy (call.ending pqforge backend) ↔
      ¬call.PackageEscapes pqforge backend ∧
        ∀ algorithm key nonce plaintext aad,
          call.Seals pqforge backend algorithm key nonce plaintext aad →
          InTaxonomy
            (backend.aeadSeal algorithm key nonce plaintext aad) := by
  cases call with
  | aeadSeal algorithm key nonce plaintext aad =>
      rw [ending, InTaxonomy.map_iff]
      constructor
      · intro inTaxonomy
        refine ⟨id, ?_⟩
        rintro _ _ _ _ _ ⟨⟩
        exact inTaxonomy
      · intro inTaxonomy
        exact inTaxonomy.2 algorithm key nonce plaintext aad rfl
  | sealEnvelope kemAlgorithm publicKey plaintext aad random =>
      rw [ending, InTaxonomy.map_iff,
        PqForgeEnvelope.seal_inTaxonomy_iff typed]
      constructor
      · intro inTaxonomy
        refine ⟨?_, ?_⟩
        · rintro ⟨enc, encapsulated, escapes⟩
          exact escapes (inTaxonomy enc encapsulated).1
        · rintro _ _ _ _ _
            ⟨enc, prepared, header, encapsulated, isPrepared, encoded, ⟨⟩⟩
          exact (inTaxonomy enc encapsulated).2 prepared header
            isPrepared encoded
      · rintro ⟨stays, inTaxonomy⟩ enc encapsulated
        refine ⟨?_, ?_⟩
        · exact not_not.mp fun escapes =>
            stays ⟨enc, encapsulated, escapes⟩
        · intro prepared header isPrepared encoded
          exact inTaxonomy _ _ _ _ _
            ⟨enc, prepared, header, encapsulated, isPrepared, encoded,
              rfl⟩
  | openEnvelope secretKey envelope aad =>
      rw [ending, InTaxonomy.map_iff,
        PqForgeEnvelope.open_inTaxonomy_iff pqforge typed]
      constructor
      · intro inTaxonomy
        refine ⟨?_, nofun⟩
        rintro ⟨parsed, sharedSecret, decoded, decapsulated, escapes⟩
        exact escapes (inTaxonomy parsed sharedSecret decoded
          decapsulated)
      · rintro ⟨stays, _⟩ parsed sharedSecret decoded decapsulated
        exact not_not.mp fun escapes =>
          stays ⟨parsed, sharedSecret, decoded, decapsulated, escapes⟩
  | generateKemKeyPair algorithm coins =>
      rw [ending, InTaxonomy.map_iff]
      exact iff_of_true (typed.kemGenerate _ _) ⟨id, nofun⟩
  | encapsulate algorithm publicKey coins =>
      rw [ending, InTaxonomy.map_iff]
      exact iff_of_true (typed.kemEncapsulate _ _ _) ⟨id, nofun⟩
  | decapsulate algorithm secretKey ciphertext =>
      rw [ending, InTaxonomy.map_iff]
      exact iff_of_true (typed.kemDecapsulate _ _ _) ⟨id, nofun⟩
  | generateSignatureKeyPair algorithm coins =>
      rw [ending, InTaxonomy.map_iff]
      exact iff_of_true (typed.signGenerate _ _) ⟨id, nofun⟩
  | sign algorithm secretKey message coins =>
      rw [ending, InTaxonomy.map_iff]
      exact iff_of_true (typed.sign _ _ _ _) ⟨id, nofun⟩
  | verify algorithm publicKey message signature =>
      rw [ending, InTaxonomy.map_iff]
      exact iff_of_true (typed.verify _ _ _ _) ⟨id, nofun⟩
  | aeadOpen algorithm key nonce ciphertext aad =>
      rw [ending, InTaxonomy.map_iff]
      exact iff_of_true (typed.aeadOpen _ _ _ _ _) ⟨id, nofun⟩

end Taxonomy

/--
Whatever the libraries below do, a call of `PqForge` over the native backend
returns or throws an exception of the package, unless the `pqforge` package
throws past an envelope's draws or key derivation.  Over the fallback it does so
exactly unless that happens, or a library throws on a seal something that the
fallback's handlers let through.
-/
theorem calls_end_in_taxonomy
    (pqforge : PqForgeEnvelope.PqForgePackage)
    (native : NativeMemory.NativeLibraries)
    (fallback : FallbackBackend.AllLibraries)
    (call : PackageCall) :
    (InTaxonomy (call.ending pqforge (NativeBackend.backend native)) ↔
        ¬call.PackageEscapes pqforge (NativeBackend.backend native)) ∧
      (InTaxonomy
          (call.ending pqforge (FallbackBackend.backend fallback)) ↔
        ¬call.PackageEscapes pqforge
            (FallbackBackend.backend fallback) ∧
          ¬∃ algorithm key nonce plaintext aad,
            call.Seals pqforge (FallbackBackend.backend fallback)
                algorithm key nonce plaintext aad ∧
              FallbackBackend.SealEscapes fallback.aead algorithm key
                nonce plaintext aad) := by
  constructor
  · rw [call.inTaxonomy_iff pqforge (NativeBackend.backend_typed native)]
    refine and_iff_left ?_
    intro algorithm key nonce plaintext aad _
    exact NativeBackend.aeadSeal_inTaxonomy native algorithm key nonce
      plaintext aad
  · rw [call.inTaxonomy_iff pqforge
      (FallbackBackend.backend_typed fallback)]
    refine and_congr_right fun _ => ?_
    push Not
    refine forall_congr' fun algorithm => forall_congr' fun key =>
      forall_congr' fun nonce => forall_congr' fun plaintext =>
      forall_congr' fun aad => imp_congr_right fun _ => ?_
    exact FallbackBackend.aeadSeal_inTaxonomy_iff fallback.aead algorithm
      key nonce plaintext aad

end PqForgeFfi
