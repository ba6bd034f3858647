import PqForgeFfi.AeadContract
import PqForgeFfi.NativeOperations

namespace PqForgeFfi.NativeBackend

open NativeClassical

/-!
# Marshalling across the C boundary

Every operation returns exactly what its AWS-LC primitive produces for exactly
the bytes it was given, or throws.  No argument is lost on the way, also no
empty one, and no buffer is ever found missing or too small.
-/

/-- An operation is faithful to a primitive, and all or nothing. -/
structure Marshalled
    {Output : Type}
    (primitive : Option Output)
    (operation : Operation Output) : Prop where
  returns :
    ∀ output,
      primitive = some output →
      operation.ending = .ok output
  throws :
    primitive = none →
    ∃ exception, operation.ending = .error (.ffi exception)
  notNullArgument : operation.rc ≠ PqForgeStatus.nullArgument.code
  notBufferTooSmall : operation.rc ≠ PqForgeStatus.bufferTooSmall.code

namespace Marshalled

variable {Output : Type}

/-- Where the primitive fails, throwing the status of a refusal is faithful. -/
theorem thrown
    {exit : Exit}
    (refuses : exit.Refuses)
    (exception : PqForgeFfiException) :
    Marshalled (none : Option Output) {
      rc := exit.status.code
      ending := .error (.ffi exception) } where
  returns := by
    intro output same
    cases same
  throws := fun _ => ⟨exception, rfl⟩
  notNullArgument := mt PqForgeStatus.code_injective refuses.2.1
  notBufferTooSmall := mt PqForgeStatus.code_injective refuses.2.2

/-- Where it succeeds, returning its output is faithful. -/
theorem done (output : Output) :
    Marshalled (some output) {
      rc := PqForgeStatus.ok.code
      ending := .ok output } where
  returns := fun _ same => congrArg Except.ok (Option.some.inj same)
  throws := by
    intro same
    cases same
  notNullArgument := by
    intro same
    cases same
  notBufferTooSmall := by
    intro same
    cases same

end Marshalled

/-! ## From the exported closure to the Dart result -/

theorem calloc_given (outBytes : Nat) : (calloc outBytes).Given :=
  ⟨_, 0, rfl, rfl⟩

theorem allocated_given (outBytes : Nat) : (allocated outBytes).Given :=
  ⟨_, 0, rfl, rfl⟩

/-- The status of an exit that refuses is not taken for success. -/
theorem code_ne_of_refuses
    {exit : Exit}
    (refuses : exit.Refuses) :
    exit.status.code ≠ PqForgeErrorCode.ok.value := by
  rw [ok_value]
  exact mt PqForgeStatus.code_injective refuses.1

/-- One output that fits its buffer is marshalled. -/
theorem marshalled_returned
    {body : Except Exit Bytes}
    {primitive : Option Bytes}
    (computes : Computes body primitive)
    {caller : CallerOutput}
    (given : caller.Given)
    (fits :
      ∀ output, primitive = some output → output.length ≤ caller.cap)
    (op : String) :
    Marshalled primitive (returned (exportedOutput body caller) op) := by
  cases answered : primitive with
  | none =>
      obtain ⟨exit, failed, refuses⟩ := computes.refuses answered
      rw [failed, exportedOutput_error, returned]
      simp only [if_pos (code_ne_of_refuses refuses)]
      exact Marshalled.thrown refuses _
  | some output =>
      obtain ⟨bytes, previous, buffer, cell⟩ := given
      obtain ⟨succeeded, readBack⟩ :=
        exportedOutput_of_fits caller cell buffer (fits output answered)
      rw [computes.returns output answered, returned]
      simp only [succeeded, readBack]
      rw [ok_value, if_neg fun differs => differs rfl]
      exact Marshalled.done output

/-- Two outputs of the lengths of their buffers are marshalled. -/
theorem marshalled_returnedBoth
    {Output : Type}
    (together : Bytes → Bytes → Output)
    {body : Except Exit (Bytes × Bytes)}
    {primitive : Option (Bytes × Bytes)}
    (computes : Computes body primitive)
    {firstLen secondLen : Nat}
    (lengths :
      ∀ first second,
        primitive = some (first, second) →
        first.length = firstLen ∧ second.length = secondLen)
    (op : String) :
    Marshalled (primitive.map (Function.uncurry together))
      (returnedBoth together
        (exportedOutputs body (calloc firstLen) (calloc secondLen))
        op) := by
  cases answered : primitive with
  | none =>
      obtain ⟨exit, failed, refuses⟩ := computes.refuses answered
      rw [failed, exportedOutputs_error, returnedBoth]
      simp only [if_pos (code_ne_of_refuses refuses)]
      exact Marshalled.thrown refuses _
  | some outputs =>
      obtain ⟨firstLength, secondLength⟩ :=
        lengths outputs.1 outputs.2 answered
      obtain ⟨succeeded, firstRead, secondRead⟩ :=
        exportedOutputs_of_fits
          (calloc_given firstLen) (calloc_given secondLen)
          (Nat.le_of_eq firstLength) (Nat.le_of_eq secondLength)
      rw [computes.returns outputs answered, returnedBoth]
      simp only [succeeded, firstRead, secondRead]
      rw [ok_value, if_neg fun differs => differs rfl]
      exact Marshalled.done (together outputs.1 outputs.2)

/-! ## The operations -/

/-- ML-KEM is marshalled. -/
structure KemMarshalled
    (aws : AwsLcKem)
    (declared : DeclaredSizes) : Prop where
  generate :
    ∀ algorithm coins,
      Marshalled
        ((aws.keyPair algorithm coins).map
          (Function.uncurry PqKeyPair.mk))
        (kemGenerate aws declared coins algorithm)
  encapsulate :
    ∀ algorithm publicKey coins,
      Marshalled
        ((aws.encapsulateTo algorithm publicKey coins).map
          (Function.uncurry PqKemEncapsulation.mk))
        (kemEncapsulate aws declared coins algorithm publicKey)
  decapsulate :
    ∀ algorithm secretKey ciphertext,
      Marshalled
        (aws.decapsulateWith algorithm secretKey ciphertext)
        (kemDecapsulate aws declared algorithm secretKey ciphertext)

/-- ML-DSA is marshalled. -/
structure SignMarshalled
    (aws : AwsLcPqdsa)
    (declared : DeclaredSizes) : Prop where
  generate :
    ∀ algorithm coins,
      Marshalled
        ((aws.generated algorithm coins).map
          (Function.uncurry PqKeyPair.mk))
        (signGenerate aws declared coins algorithm)
  generateFromSeed :
    ∀ algorithm seed,
      Marshalled
        ((aws.seeded algorithm seed).map
          (Function.uncurry PqKeyPair.mk))
        (signGenerateFromSeed aws declared algorithm seed)
  sign :
    ∀ algorithm secretKey message coins,
      Marshalled
        (aws.signWith algorithm secretKey message coins)
        (sign aws declared coins algorithm secretKey message)

/-- The AEAD is marshalled. -/
structure AeadMarshalled (aws : AwsLc) : Prop where
  aeadSeal :
    ∀ algorithm key nonce plaintext aad,
      Marshalled
        (aws.sealWith algorithm key nonce plaintext aad)
        (aeadSealOperation aws algorithm key nonce plaintext aad)
  aeadOpen :
    ∀ algorithm key nonce ciphertext aad,
      Marshalled
        (aws.openWith algorithm key nonce ciphertext aad)
        (aeadOpenOperation aws algorithm key nonce ciphertext aad)

/--
X25519 and Ed25519 are marshalled on keys of 32 bytes, and refuse all others.
A seed, also an empty one, keeps the random generator out of a key generation.
-/
structure ClassicalMarshalled (aws : AwsLcClassical) : Prop where
  x25519Generate :
    ∀ rng seed,
      Marshalled
        (x25519Asked aws rng (seedArgument seed))
        (x25519Generate aws rng seed)
  x25519SharedSecret :
    ∀ secretKey remotePublicKey,
      Marshalled
        (ofKeyLength secretKey
          (ofKeyLength remotePublicKey
            (aws.x25519Agree secretKey remotePublicKey)))
        (x25519SharedSecret aws secretKey remotePublicKey)
  ed25519Generate :
    ∀ rng seed,
      Marshalled
        (ed25519Asked aws rng (seedArgument seed))
        (ed25519Generate aws rng seed)
  ed25519PublicFromSeed :
    ∀ seed,
      Marshalled
        (ofKeyLength seed (aws.ed25519Public seed))
        (ed25519PublicFromSeed aws seed)
  ed25519Sign :
    ∀ seed message,
      Marshalled
        (ofKeyLength seed (aws.ed25519SignWith seed message))
        (ed25519Sign aws seed message)
  x25519Seeded :
    ∀ seed rng other,
      NativeBackend.x25519Generate aws rng (some seed) =
        NativeBackend.x25519Generate aws other (some seed)
  ed25519Seeded :
    ∀ seed rng other,
      NativeBackend.ed25519Generate aws rng (some seed) =
        NativeBackend.ed25519Generate aws other (some seed)

theorem kem_marshalled
    {aws : AwsLcKem}
    {declared : DeclaredSizes}
    (sizes : aws.Sizes declared) :
    KemMarshalled aws declared where
  generate := fun algorithm coins =>
    marshalled_returnedBoth PqKeyPair.mk
      (NativeKem.keygenBody_computes aws algorithm coins)
      (sizes.keyPair algorithm coins) _
  encapsulate := fun algorithm publicKey coins =>
    marshalled_returnedBoth PqKemEncapsulation.mk
      (NativeKem.encapsulateBody_computes aws algorithm publicKey coins)
      (sizes.encapsulation algorithm publicKey coins) _
  decapsulate := fun algorithm secretKey ciphertext =>
    marshalled_returned
      (NativeKem.decapsulateBody_computes aws algorithm secretKey
        ciphertext)
      (calloc_given _)
      (fun sharedSecret decapsulated =>
        Nat.le_of_eq
          (sizes.sharedSecret algorithm secretKey ciphertext
            sharedSecret decapsulated))
      _

theorem sign_marshalled
    {aws : AwsLcPqdsa}
    {declared : DeclaredSizes}
    (sizes : aws.Sizes declared) :
    SignMarshalled aws declared where
  generate := fun algorithm coins =>
    marshalled_returnedBoth PqKeyPair.mk
      (NativeSign.keygenBody_computes aws algorithm coins)
      (sizes.generated algorithm coins) _
  generateFromSeed := fun algorithm seed =>
    marshalled_returnedBoth PqKeyPair.mk
      (NativeSign.keygenFromSeedBody_computes aws algorithm seed)
      (sizes.seeded algorithm seed) _
  sign := fun algorithm secretKey message coins =>
    marshalled_returned
      (NativeSign.signBody_computes aws algorithm secretKey message
        coins)
      (calloc_given _)
      (fun signature signed =>
        Nat.le_of_eq
          (sizes.signature algorithm secretKey message coins signature
            signed))
      _

theorem aead_marshalled
    {aws : AwsLc}
    (sizes : aws.OutputSizes) :
    AeadMarshalled aws where
  aeadSeal := by
    intro algorithm key nonce plaintext aad
    refine marshalled_returned
      (NativeAead.sealBody_computes aws algorithm key nonce plaintext
        aad)
      (allocated_given _) (fun output sealed => ?_) _
    have length := sizes.sealed _ _ _ _ _ _ sealed
    simp only [allocated, PqAeadAlgorithm.tagBytes_eq]
    exact Nat.le_of_eq length
  aeadOpen := by
    intro algorithm key nonce ciphertext aad
    refine marshalled_returned
      (NativeAead.openBody_computes sizes algorithm key nonce ciphertext
        aad)
      (allocated_given _) (fun output opened => ?_) _
    have length := sizes.opened _ _ _ _ _ _ opened
    simp only [allocated, PqAeadAlgorithm.tagBytes_eq]
    rw [if_pos (by omega)]
    omega

/-- A seed is read in place of the generator, whatever its length. -/
theorem secretOf_seeded
    (rng other : Rng)
    (rngFailed : String)
    (seedLen : Nat)
    (seed : Bytes) :
    secretOf rng rngFailed seedLen (toNative seed) =
      secretOf other rngFailed seedLen (toNative seed) :=
  rfl

theorem classical_marshalled
    {aws : AwsLcClassical}
    (sizes : aws.OutputSizes) :
    ClassicalMarshalled aws where
  x25519Generate := by
    intro rng seed
    have marshalled :=
      marshalled_returnedBoth Prod.mk
        (x25519KeygenBody_computes aws rng (seedArgument seed))
        (fun _ _ asked => x25519Asked_lengths sizes.toKeySizes asked)
        "X25519 keygen"
    rwa [Function.uncurry_def, Option.map_id'] at marshalled
  x25519SharedSecret := fun secretKey remotePublicKey =>
    marshalled_returned
      (x25519EcdhBody_computes aws secretKey remotePublicKey)
      (calloc_given 32)
      (fun shared agreed => by
        obtain ⟨privateKey, _, agreed⟩ := Option.bind_eq_some_iff.mp
          (eq_some_of_ofKeyLength (eq_some_of_ofKeyLength agreed))
        exact Nat.le_of_eq (sizes.agreed _ _ _ agreed))
      _
  ed25519Generate := by
    intro rng seed
    have marshalled :=
      marshalled_returnedBoth Prod.mk
        (ed25519KeygenBody_computes aws rng (seedArgument seed))
        (fun _ _ asked => ed25519Asked_lengths sizes.toKeySizes asked)
        "Ed25519 keygen"
    rwa [Function.uncurry_def, Option.map_id'] at marshalled
  ed25519PublicFromSeed := fun seed =>
    marshalled_returned
      (ed25519PublicFromSeedBody_computes aws seed)
      (calloc_given 32)
      (fun publicKey derived => by
        obtain ⟨keyPair, _, same⟩ :=
          Option.bind_eq_some_iff.mp (eq_some_of_ofKeyLength derived)
        cases same
        exact Nat.le_of_eq (sizes.ed25519PublicKey keyPair))
      _
  ed25519Sign := fun seed message =>
    marshalled_returned
      (ed25519SignBody_computes aws seed message)
      (calloc_given 64)
      (fun signature signed => by
        obtain ⟨keyPair, _, same⟩ :=
          Option.bind_eq_some_iff.mp (eq_some_of_ofKeyLength signed)
        cases same
        exact Nat.le_of_eq (sizes.signature keyPair message))
      _
  x25519Seeded := by
    intro seed rng other
    simp only [x25519Generate, classicalKeygen, seedArgument,
      pqforgeX25519Keygen, x25519KeygenBody,
      secretOf_seeded rng other]
  ed25519Seeded := by
    intro seed rng other
    simp only [ed25519Generate, classicalKeygen, seedArgument,
      pqforgeEd25519Keygen, ed25519KeygenBody,
      secretOf_seeded rng other]

/--
Every operation of the native backend, composed with its exported function, is
marshalled faithfully for all arguments when the outputs of AWS-LC have the
declared sizes; of X25519 and Ed25519 that holds for keys of 32 bytes, and all
other keys are refused.
-/
theorem operations_marshalled
    {kem : AwsLcKem}
    {pqdsa : AwsLcPqdsa}
    {aead : AwsLc}
    {classical : AwsLcClassical}
    {declared : DeclaredSizes}
    (kemSizes : kem.Sizes declared)
    (pqdsaSizes : pqdsa.Sizes declared)
    (aeadSizes : aead.OutputSizes)
    (classicalSizes : classical.OutputSizes) :
    KemMarshalled kem declared ∧
      SignMarshalled pqdsa declared ∧
      AeadMarshalled aead ∧
      ClassicalMarshalled classical :=
  ⟨kem_marshalled kemSizes, sign_marshalled pqdsaSizes,
    aead_marshalled aeadSizes, classical_marshalled classicalSizes⟩

/--
An ML-KEM-512 key pair, a sealed message of no bytes, and an empty X25519 seed,
which is refused though the generator would answer.
-/
theorem operations_marshalled_of_zeros :
    (kemGenerate (.zeros .standard) .standard [] .mlKem512).ending =
        .ok ⟨List.replicate 800 0, List.replicate 1632 0⟩ ∧
      (aeadSealOperation taggedAead.aws .aes256Gcm
          (List.replicate 32 7) (List.replicate 12 9) [] []).ending =
        .ok (nonceTag (List.replicate 12 9)) ∧
      ∃ exception,
        (x25519Generate .zeros
            (fun count =>
              some ⟨List.replicate count 5, List.length_replicate⟩)
            (some [])).ending =
          .error (.ffi exception) :=
  have marshalled :=
    operations_marshalled
      (AwsLcKem.zeros_sizes .standard)
      (AwsLcPqdsa.zeros_sizes .standard)
      taggedAead_tidy.aws_outputSizes
      AwsLcClassical.zeros_sizes
  ⟨(marshalled.1.generate .mlKem512 []).returns _ rfl,
    (marshalled.2.2.1.aeadSeal .aes256Gcm (List.replicate 32 7)
      (List.replicate 12 9) [] []).returns _ rfl,
    (marshalled.2.2.2.x25519Generate _ (some [])).throws rfl⟩

/-- How the encoding of an X25519 public key starts, before its 32 bytes. -/
def encodedKeyStart : Bytes :=
  [0x30, 0x2a, 0x30, 0x05, 0x06, 0x03, 0x2b, 0x65, 0x6e, 0x03, 0x21, 0x00]

/-- A library that agrees on keys with a bare peer and with an encoded one. -/
def readsEncodedPeers : AwsLcClassical where
  PrivateKey := Unit
  Ed25519KeyPair := Unit
  fromPrivateKey := AwsLcClassical.zeros.fromPrivateKey
  computePublicKey := AwsLcClassical.zeros.computePublicKey
  agree := fun _ peer =>
    if peer.take 12 = encodedKeyStart then
      zerosFor peer 44 32
    else
      zerosFor peer 32 32
  fromSeedUnchecked := AwsLcClassical.zeros.fromSeedUnchecked
  ed25519PublicKey := AwsLcClassical.zeros.ed25519PublicKey
  ed25519Sign := AwsLcClassical.zeros.ed25519Sign

theorem readsEncodedPeers_sizes : readsEncodedPeers.OutputSizes where
  publicKey := AwsLcClassical.zeros_sizes.publicKey
  agreed := by
    intro privateKey peer shared agreed
    simp only [readsEncodedPeers] at agreed
    split at agreed
    · exact (zerosFor_eq_some agreed).2
    · exact (zerosFor_eq_some agreed).2
  ed25519PublicKey := AwsLcClassical.zeros_sizes.ed25519PublicKey
  signature := AwsLcClassical.zeros_sizes.signature

/--
The library agrees with an encoded peer of 44 bytes, and the exported function
refuses it.
-/
theorem x25519SharedSecret_refuses_encoded_peer :
    let secretKey : Bytes := List.replicate 32 7
    let peer : Bytes := encodedKeyStart ++ List.replicate 32 9
    readsEncodedPeers.OutputSizes ∧
      readsEncodedPeers.x25519Agree secretKey peer =
        some (List.replicate 32 0) ∧
      (∃ exception,
        (x25519SharedSecret readsEncodedPeers secretKey peer).ending =
          .error (.ffi exception)) ∧
      ¬ Marshalled (readsEncodedPeers.x25519Agree secretKey peer)
        (x25519SharedSecret readsEncodedPeers secretKey peer) := by
  intro secretKey peer
  have agreed :
      readsEncodedPeers.x25519Agree secretKey peer =
        some (List.replicate 32 0) := by
    decide
  have refused : ∃ exception,
      (x25519SharedSecret readsEncodedPeers secretKey peer).ending =
        .error (.ffi exception) :=
    ((classical_marshalled readsEncodedPeers_sizes).x25519SharedSecret
      secretKey peer).throws (by decide)
  refine ⟨readsEncodedPeers_sizes, agreed, refused, fun marshalled => ?_⟩
  obtain ⟨exception, threw⟩ := refused
  have returned := marshalled.returns _ agreed
  rw [threw] at returned
  cases returned

end PqForgeFfi.NativeBackend
