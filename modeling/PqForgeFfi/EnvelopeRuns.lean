import PqForgeFfi.AeadContract
import PqForgeFfi.EnvelopeCodec

namespace PqForgeFfi.PqForgeEnvelope

open Segmentation EnvelopeFormat

/-!
# Envelopes between two parties

Sealing makes one AEAD call whose associated data is the header and the
caller's data, and opening makes one with what it parsed.  An envelope is
therefore read back by any backend that undoes the first one's operations, and
against an ideal AEAD nothing but honest envelopes is accepted, since the
header in the associated data is self-delimiting.
-/

/-- The associated data is the header and what the caller passed, if anything. -/
theorem authData_eq
    (header : Bytes)
    (aad : Option Bytes) :
    authData header aad = .ok (header ++ aad.getD []) := by
  cases aad with
  | none =>
      exact congrArg Except.ok (List.append_nil header).symm
  | some aad =>
      cases aad with
      | nil =>
          exact congrArg Except.ok (List.append_nil header).symm
      | cons byte more =>
          exact setRange_setRange header (byte :: more)

/-- An AEAD call ends as the operation does. -/
theorem aeadCall_outcome
    (operation :
      PqAeadAlgorithm →
        (key nonce input aad : Bytes) →
        Except DartThrow Bytes)
    (key nonce input associated : Bytes) :
    (aeadCall operation key nonce input associated).outcome =
      operation .aes256Gcm key nonce input associated := by
  rw [aeadCall, Trace.bind_of_ok rfl]
  rfl

/-- An AEAD call is recorded with its arguments and its output. -/
theorem aeadCall_log
    (operation :
      PqAeadAlgorithm →
        (key nonce input aad : Bytes) →
        Except DartThrow Bytes)
    (key nonce input associated : Bytes) :
    (aeadCall operation key nonce input associated).log =
      [{
        algorithm := .aes256Gcm
        key := key
        nonce := nonce
        associated := associated
        input := input
        output :=
          (operation .aes256Gcm key nonce input
            associated).toOption }] := by
  rw [aeadCall, Trace.bind_of_ok rfl]
  rfl

/-- The AEAD key of a shared secret and a salt. -/
def envelopeKey
    (pqforge : PqForgePackage)
    (sharedSecret salt : Bytes) :
    Except DartThrow Bytes :=
  pqforge.hkdfSha256 sharedSecret salt info
    PqAeadAlgorithm.aes256Gcm.keyBytes

/-- What a `seal` has before it writes its header. -/
structure Prepared where
  salt : Salt
  nonce : Nonce
  key : Bytes

/-- The draws of a `seal` behind its encapsulation, and the key that it derives. -/
def prepare
    (pqforge : PqForgePackage)
    (random : Randomness)
    (sharedSecret : Bytes) :
    Except DartThrow Prepared := do
  let salt ← random.salt
  let nonce ← random.nonce
  let key ← envelopeKey pqforge sharedSecret salt.val
  return { salt, nonce, key }

/-- The header that `seal` writes. -/
def sealedHeader
    (pqforge : PqForgePackage)
    (kemAlgorithm : PqKemAlgorithm)
    (prepared : Prepared)
    {ciphertext : Bytes}
    (declared :
      ciphertext.length = pqforge.ciphertextBytes kemAlgorithm) :
    Header pqforge.ciphertextBytes where
  kemAlgorithm := kemAlgorithm
  salt := prepared.salt.val
  nonce := prepared.nonce.val
  kemCiphertext := ciphertext
  saltLength := prepared.salt.property
  nonceLength := prepared.nonce.property
  declared := declared

section Runs

variable {pqforge : PqForgePackage}
variable {backend : PqForgeBackend}
variable {kemAlgorithm : PqKemAlgorithm}
variable {publicKey : Bytes}
variable {random : Randomness}
variable {enc : PqKemEncapsulation}

/-- `seal` encapsulates, prepares, and makes one AEAD call over its header. -/
theorem seal_eq_prepare
    (encapsulated :
      backend.kemEncapsulate kemAlgorithm publicKey random.coins =
        .ok enc)
    (declared :
      enc.ciphertext.length = pqforge.ciphertextBytes kemAlgorithm)
    (plaintext : Bytes)
    (aad : Option Bytes) :
    «seal» pqforge backend kemAlgorithm publicKey plaintext aad random =
      Trace.ofExcept (prepare pqforge random enc.sharedSecret) >>=
        fun prepared =>
          let header :=
            (sealedHeader pqforge kemAlgorithm prepared declared).bytes
          aeadCall backend.aeadSeal prepared.key prepared.nonce.val
              plaintext (header ++ aad.getD []) >>=
            fun frame => .done (header ++ frame) := by
  have encoded : ∀ prepared,
      encodeHeader kemAlgorithm prepared.salt.val prepared.nonce.val
          enc.ciphertext =
        .ok
          (sealedHeader pqforge kemAlgorithm prepared declared).bytes :=
    fun prepared =>
      encodeHeader_eq
        (sealedHeader pqforge kemAlgorithm prepared declared)
  have written : ∀ header frame : Bytes,
      (Trace.ofExcept
          (setRange (List.replicate (header.length + frame.length) 0) 0
            header.length header) >>= fun out =>
        Trace.ofExcept
          (setRange out header.length (header.length + frame.length)
            frame)) =
        (.done (header ++ frame) : Trace AeadCall DartThrow Bytes) := by
    intro header frame
    rw [← Trace.ofExcept_bind, setRange_setRange, Trace.ofExcept_ok]
  rw [«seal», encapsulated, Trace.ofExcept_ok, Trace.done_bind, prepare]
  cases random.salt with
  | error thrown =>
      rfl
  | ok salt =>
      cases random.nonce with
      | error thrown =>
          rfl
      | ok nonce =>
          simp only [Trace.ofExcept_ok, Trace.done_bind, ok_bind,
            envelopeKey]
          cases pqforge.hkdfSha256 enc.sharedSecret salt.val info
              PqAeadAlgorithm.aes256Gcm.keyBytes with
          | error thrown =>
              rfl
          | ok key =>
              have encodedHere := encoded { salt, nonce, key }
              simp only [Trace.ofExcept_ok, Trace.done_bind, ok_bind,
                encodedHere, authData_eq, written]
              rfl

/-- Behind its preparation, `seal` is one AEAD call and a header before it. -/
theorem seal_eq
    {prepared : Prepared}
    (encapsulated :
      backend.kemEncapsulate kemAlgorithm publicKey random.coins =
        .ok enc)
    (isPrepared :
      prepare pqforge random enc.sharedSecret = .ok prepared)
    (declared :
      enc.ciphertext.length = pqforge.ciphertextBytes kemAlgorithm)
    (plaintext : Bytes)
    (aad : Option Bytes) :
    «seal» pqforge backend kemAlgorithm publicKey plaintext aad random =
      aeadCall backend.aeadSeal prepared.key prepared.nonce.val plaintext
          ((sealedHeader pqforge kemAlgorithm prepared
            declared).bytes ++ aad.getD []) >>= fun frame =>
        .done
          ((sealedHeader pqforge kemAlgorithm prepared
            declared).bytes ++ frame) := by
  rw [seal_eq_prepare encapsulated declared, isPrepared,
    Trace.ofExcept_ok, Trace.done_bind]

/-- A `seal` whose AEAD call returns writes the header and what it returned. -/
theorem seal_of_sealed
    {prepared : Prepared}
    (encapsulated :
      backend.kemEncapsulate kemAlgorithm publicKey random.coins =
        .ok enc)
    (isPrepared :
      prepare pqforge random enc.sharedSecret = .ok prepared)
    (declared :
      enc.ciphertext.length = pqforge.ciphertextBytes kemAlgorithm)
    {plaintext frame : Bytes}
    {aad : Option Bytes}
    (returned :
      backend.aeadSeal .aes256Gcm prepared.key prepared.nonce.val
          plaintext
          ((sealedHeader pqforge kemAlgorithm prepared
            declared).bytes ++ aad.getD []) =
        .ok frame) :
    «seal» pqforge backend kemAlgorithm publicKey plaintext aad random =
      ⟨[{
          algorithm := .aes256Gcm
          key := prepared.key
          nonce := prepared.nonce.val
          associated :=
            (sealedHeader pqforge kemAlgorithm prepared
              declared).bytes ++ aad.getD []
          input := plaintext
          output := some frame }],
        .ok
          ((sealedHeader pqforge kemAlgorithm prepared
            declared).bytes ++ frame)⟩ := by
  rw [seal_eq encapsulated isPrepared declared,
    Trace.bind_of_ok ((aeadCall_outcome _ _ _ _ _).trans returned),
    aeadCall_log, returned]
  rfl

/-- A `seal` whose encapsulation throws makes no AEAD call. -/
theorem seal_of_error
    {thrown : DartThrow}
    (failed :
      backend.kemEncapsulate kemAlgorithm publicKey random.coins =
        .error thrown)
    (plaintext : Bytes)
    (aad : Option Bytes) :
    «seal» pqforge backend kemAlgorithm publicKey plaintext aad random =
      .fail thrown := by
  rw [«seal», failed, Trace.ofExcept_error, Trace.fail_bind]

/-- Behind the decapsulation, `open` derives its key and makes one AEAD call. -/
theorem open_eq
    {header : Header pqforge.ciphertextBytes}
    (fits : FitsField header)
    {secretKey sharedSecret : Bytes}
    (decapsulated :
      backend.kemDecapsulate header.kemAlgorithm secretKey
          header.kemCiphertext =
        .ok sharedSecret)
    (tail : Bytes)
    (aad : Option Bytes) :
    «open» pqforge backend secretKey (header.bytes ++ tail) aad =
      Trace.ofExcept (envelopeKey pqforge sharedSecret header.salt) >>=
        fun key =>
          aeadCall backend.aeadOpen key header.nonce tail
            (header.bytes ++ aad.getD []) := by
  rw [«open», decode_bytes fits tail, Trace.ofExcept_ok,
    Trace.done_bind]
  show (Trace.ofExcept (backend.kemDecapsulate header.kemAlgorithm
    secretKey header.kemCiphertext) >>= _) = _
  rw [decapsulated, Trace.ofExcept_ok, Trace.done_bind, authData_eq]
  rfl

/-- An `open` that returned decapsulated what it parsed and opened the rest. -/
theorem open_eq_ok
    {secretKey envelope plaintext : Bytes}
    {aad : Option Bytes}
    (opened :
      («open» pqforge backend secretKey envelope aad).outcome =
        .ok plaintext) :
    ∃ (header : Header pqforge.ciphertextBytes) (key tail : Bytes),
      envelope = header.bytes ++ tail ∧
        backend.aeadOpen .aes256Gcm key header.nonce tail
            (header.bytes ++ aad.getD []) =
          .ok plaintext := by
  rcases decode_cases pqforge envelope with
      ⟨message, refused⟩ | ⟨header, tail, fits, rfl⟩
  · rw [«open», refused] at opened
    cases opened
  · cases decapsulated :
        backend.kemDecapsulate header.kemAlgorithm secretKey
          header.kemCiphertext with
    | error thrown =>
        rw [«open», decode_bytes fits tail, Trace.ofExcept_ok,
          Trace.done_bind] at opened
        simp only [ParsedEnvelope.ofHeader, decapsulated] at opened
        cases opened
    | ok sharedSecret =>
        rw [open_eq fits decapsulated] at opened
        cases derived :
            envelopeKey pqforge sharedSecret header.salt with
        | error thrown =>
            rw [derived] at opened
            cases opened
        | ok key =>
            refine ⟨header, key, tail, rfl, ?_⟩
            rwa [derived, Trace.ofExcept_ok, Trace.done_bind,
              aeadCall_outcome] at opened

end Runs

/-! ## Round trip -/

section RoundTrip

variable {pqforge : PqForgePackage}
variable {kemAlgorithm : PqKemAlgorithm}

/--
For keys and nonces of the right sizes the one backend seals, and the other
opens the result to what was sealed.
-/
def Undoes (opener sealer : PqForgeBackend) : Prop :=
  ∀ key nonce plaintext aad,
    key.length = 32 →
    nonce.length = 12 →
    ∃ frame,
      sealer.aeadSeal .aes256Gcm key nonce plaintext aad = .ok frame ∧
        opener.aeadOpen .aes256Gcm key nonce frame aad = .ok plaintext

/--
What one backend sealed to a public key another one opens with the secret key,
when its KEM and AEAD undo those of the first, whether an empty caller's aad is
passed or left out.
-/
theorem envelope_round_trip
    {sealer opener : PqForgeBackend}
    {publicKey secretKey coins : Bytes}
    (salt : Salt)
    (nonce : Nonce)
    {enc : PqKemEncapsulation}
    (encapsulated :
      sealer.kemEncapsulate kemAlgorithm publicKey coins = .ok enc)
    (decapsulated :
      opener.kemDecapsulate kemAlgorithm secretKey enc.ciphertext =
        .ok enc.sharedSecret)
    (declared :
      enc.ciphertext.length = pqforge.ciphertextBytes kemAlgorithm)
    (fits : pqforge.ciphertextBytes kemAlgorithm < 2 ^ 32)
    (derives :
      ∀ ikm salt info,
        ∃ key,
          pqforge.hkdfSha256 ikm salt info 32 = .ok key ∧
            key.length = 32)
    (undoes : Undoes opener sealer)
    (plaintext : Bytes)
    {sealAad openAad : Option Bytes}
    (sameAad : sealAad.getD [] = openAad.getD []) :
    ∃ envelope,
      («seal» pqforge sealer kemAlgorithm publicKey plaintext sealAad
          ⟨coins, .ok salt, .ok nonce⟩).outcome = .ok envelope ∧
        («open» pqforge opener secretKey envelope openAad).outcome =
          .ok plaintext := by
  obtain ⟨key, derived, keyLength⟩ :=
    derives enc.sharedSecret salt.val info
  have isDerived :
      envelopeKey pqforge enc.sharedSecret salt.val = .ok key := derived
  have isPrepared :
      prepare pqforge ⟨coins, .ok salt, .ok nonce⟩ enc.sharedSecret =
        .ok { salt, nonce, key } := by
    simp only [prepare, ok_bind, isDerived]
    rfl
  let header :=
    sealedHeader pqforge kemAlgorithm { salt, nonce, key } declared
  have headerFits : FitsField header := fits
  obtain ⟨frame, sealed, opened⟩ :=
    undoes key nonce.val plaintext (header.bytes ++ sealAad.getD [])
      keyLength nonce.property
  refine ⟨header.bytes ++ frame, ?_, ?_⟩
  · rw [seal_of_sealed encapsulated isPrepared declared sealed]
  · rw [open_eq headerFits decapsulated]
    show (Trace.ofExcept
      (envelopeKey pqforge enc.sharedSecret salt.val) >>= _).outcome = _
    rw [isDerived, Trace.ofExcept_ok, Trace.done_bind, aeadCall_outcome,
      ← sameAad]
    exact opened

end RoundTrip

/-- ML-KEM's ciphertext lengths, and a derivation that pads its secret. -/
def paddingPackage : PqForgePackage where
  ciphertextBytes := fun algorithm =>
    match algorithm with
    | .mlKem512 => 768
    | .mlKem768 => 1088
    | .mlKem1024 => 1568
  hkdfSha256 := fun ikm _ _ outputBytes =>
    .ok ((ikm ++ List.replicate outputBytes 0).take outputBytes)

/-- The padding derivation returns keys of the length that is asked for. -/
theorem paddingPackage_derives
    (ikm salt info : Bytes) :
    ∃ key,
      paddingPackage.hkdfSha256 ikm salt info 32 = .ok key ∧
        key.length = 32 := by
  refine ⟨_, rfl, ?_⟩
  rw [List.length_take, List.length_append, List.length_replicate]
  omega

/-- A backend with a KEM whose public and secret keys are the shared secret. -/
def openSecretBackend : PqForgeBackend where
  kemEncapsulate := fun algorithm publicKey _ => .ok {
    ciphertext :=
      List.replicate (paddingPackage.ciphertextBytes algorithm) 0
    sharedSecret := publicKey }
  kemDecapsulate := fun _ secretKey _ => .ok secretKey
  aeadSeal := taggedAead.backend.aeadSeal
  aeadOpen := taggedAead.backend.aeadOpen

theorem openSecretBackend_undoes :
    Undoes openSecretBackend openSecretBackend := by
  intro key nonce plaintext aad _ nonceLength
  exact
    ⟨taggedAead.sealUnder nonce aad plaintext, rfl,
      taggedAead_tidy.toCorrect.backend_opensSealed .aes256Gcm key nonce
        plaintext aad nonceLength⟩

/-- The salt of the examples. -/
def zeroSalt : Salt :=
  ⟨List.replicate 16 0, rfl⟩

/-- The nonce of the examples. -/
def zeroNonce : Nonce :=
  ⟨List.replicate 12 0, rfl⟩

/-- What a call draws in the examples. -/
def zeroRandomness : Randomness where
  coins := []
  salt := .ok zeroSalt
  nonce := .ok zeroNonce

/-- An empty plaintext, sealed without an aad and opened with an empty one. -/
theorem envelope_round_trip_of_empty :
    ∃ envelope,
      («seal» paddingPackage openSecretBackend .mlKem768 [1, 2] [] none
          zeroRandomness).outcome = .ok envelope ∧
        («open» paddingPackage openSecretBackend [1, 2] envelope
          (some [])).outcome = .ok [] :=
  envelope_round_trip zeroSalt zeroNonce rfl rfl List.length_replicate
    (by decide) paddingPackage_derives openSecretBackend_undoes [] rfl

/-! ## Authenticity -/

/-- One call of `seal`, with the backend that it was made on. -/
structure SealCall where
  backend : PqForgeBackend
  kemAlgorithm : PqKemAlgorithm
  recipientPublicKey : Bytes
  plaintext : Bytes
  aad : Option Bytes
  random : Randomness

namespace SealCall

/-- What the call did. -/
def run
    (pqforge : PqForgePackage)
    (call : SealCall) :
    Trace AeadCall DartThrow Bytes :=
  PqForgeEnvelope.«seal» pqforge call.backend call.kemAlgorithm
    call.recipientPublicKey call.plaintext call.aad call.random

/-- The KEM ciphertext of the call has the length its algorithm declares. -/
def Declared
    (pqforge : PqForgePackage)
    (call : SealCall) : Prop :=
  ∀ enc,
    call.backend.kemEncapsulate call.kemAlgorithm
        call.recipientPublicKey call.random.coins =
      .ok enc →
    enc.ciphertext.length = pqforge.ciphertextBytes call.kemAlgorithm

/-- A recorded AEAD call that returned belongs to a `seal` that returned. -/
theorem run_of_recorded
    {pqforge : PqForgePackage}
    {call : SealCall}
    (declared : call.Declared pqforge)
    {recorded : AeadCall}
    (member : recorded ∈ (call.run pqforge).log)
    {frame : Bytes}
    (output : recorded.output = some frame) :
    ∃ header : Header pqforge.ciphertextBytes,
      (call.run pqforge).outcome = .ok (header.bytes ++ frame) ∧
        recorded.nonce = header.nonce ∧
        recorded.associated = header.bytes ++ call.aad.getD [] ∧
        recorded.input = call.plaintext := by
  cases encapsulated :
      call.backend.kemEncapsulate call.kemAlgorithm
        call.recipientPublicKey call.random.coins with
  | error thrown =>
      rw [run, seal_of_error encapsulated] at member
      cases member
  | ok enc =>
      have isDeclared := declared enc encapsulated
      cases isPrepared : prepare pqforge call.random enc.sharedSecret with
      | error thrown =>
          rw [run, seal_eq_prepare encapsulated isDeclared, isPrepared]
            at member
          cases member
      | ok prepared =>
          cases answer :
              call.backend.aeadSeal .aes256Gcm prepared.key
                prepared.nonce.val call.plaintext
                ((sealedHeader pqforge call.kemAlgorithm prepared
                  isDeclared).bytes ++ call.aad.getD []) with
          | error thrown =>
              rw [run, seal_eq encapsulated isPrepared isDeclared,
                Trace.bind_of_error
                  ((aeadCall_outcome _ _ _ _ _).trans answer),
                aeadCall_log, answer, List.mem_singleton] at member
              rw [member] at output
              cases output
          | ok returned =>
              rw [run, seal_of_sealed encapsulated isPrepared isDeclared
                answer] at member ⊢
              obtain rfl := List.mem_singleton.mp member
              obtain rfl : returned = frame := Option.some.inj output
              exact ⟨sealedHeader pqforge call.kemAlgorithm prepared
                isDeclared, rfl, rfl, rfl, rfl⟩

end SealCall

/--
Against an ideal AEAD an envelope that opens is one that a `seal` call
returned, for the same caller's aad, and it opens to that call's plaintext.
-/
theorem open_accepts_only_sealed
    {pqforge : PqForgePackage}
    {calls : List SealCall}
    (declared : ∀ call ∈ calls, call.Declared pqforge)
    {backend : PqForgeBackend}
    (ideal :
      ∀ key,
        backend.IdealUnder .aes256Gcm key
          (calls.flatMap fun call => (call.run pqforge).log))
    {secretKey envelope plaintext : Bytes}
    {aad : Option Bytes}
    (opened :
      («open» pqforge backend secretKey envelope aad).outcome =
        .ok plaintext) :
    ∃ call ∈ calls,
      (call.run pqforge).outcome = .ok envelope ∧
        call.aad.getD [] = aad.getD [] ∧
        call.plaintext = plaintext := by
  obtain ⟨header, key, tail, rfl, answered⟩ := open_eq_ok opened
  have recorded := ideal _ _ _ _ _ answered
  obtain ⟨call, member, inLog⟩ := List.mem_flatMap.mp recorded
  obtain ⟨honest, returned, _, associated, input⟩ :=
    SealCall.run_of_recorded (declared call member) inLog rfl
  obtain ⟨sameHeader, sameAad⟩ := Header.append_injective associated
  subst sameHeader
  exact ⟨call, member, returned, sameAad.symm, input.symm⟩

/-- One honest call, for the examples. -/
def honestCall : SealCall where
  backend := openSecretBackend
  kemAlgorithm := .mlKem512
  recipientPublicKey := [1, 2]
  plaintext := [7]
  aad := some [9]
  random := zeroRandomness

/-- What its encapsulation returns. -/
def honestEncapsulation : PqKemEncapsulation where
  ciphertext :=
    List.replicate (paddingPackage.ciphertextBytes .mlKem512) 0
  sharedSecret := [1, 2]

theorem honestCall_encapsulated :
    honestCall.backend.kemEncapsulate honestCall.kemAlgorithm
        honestCall.recipientPublicKey honestCall.random.coins =
      .ok honestEncapsulation :=
  rfl

theorem honestCall_declared : honestCall.Declared paddingPackage := by
  intro enc encapsulated
  cases encapsulated
  exact List.length_replicate

/-- What the honest call draws and derives. -/
def honestPrepared : Prepared where
  salt := zeroSalt
  nonce := zeroNonce
  key := ([1, 2] ++ List.replicate 32 0 : Bytes).take 32

/-- The header of the honest call's envelope. -/
def honestHeader : Header paddingPackage.ciphertextBytes :=
  sealedHeader paddingPackage honestCall.kemAlgorithm honestPrepared
    (honestCall_declared honestEncapsulation honestCall_encapsulated)

/-- What the honest call's AEAD call returns. -/
def honestFrame : Bytes :=
  taggedAead.sealUnder zeroNonce.val
    (honestHeader.bytes ++ honestCall.aad.getD []) honestCall.plaintext

/-- The AEAD call that the honest call makes. -/
def honestRecord : AeadCall where
  algorithm := .aes256Gcm
  key := honestPrepared.key
  nonce := honestHeader.nonce
  associated := honestHeader.bytes ++ (some [9]).getD []
  input := [7]
  output := some honestFrame

theorem honestCall_log :
    (honestCall.run paddingPackage).log = [honestRecord] := by
  have declared :=
    honestCall_declared honestEncapsulation honestCall_encapsulated
  have isPrepared :
      prepare paddingPackage honestCall.random
          honestEncapsulation.sharedSecret =
        .ok honestPrepared :=
    rfl
  have answered :
      honestCall.backend.aeadSeal .aes256Gcm honestRecord.key
          honestRecord.nonce honestCall.plaintext
          (honestHeader.bytes ++ honestCall.aad.getD []) =
        .ok honestFrame :=
    rfl
  rw [SealCall.run,
    seal_of_sealed honestCall_encapsulated isPrepared declared answered]
  rfl

/-- A backend that opens what the honest call sealed, and nothing else. -/
def honestOpener : PqForgeBackend where
  kemEncapsulate := openSecretBackend.kemEncapsulate
  kemDecapsulate := openSecretBackend.kemDecapsulate
  aeadSeal := openSecretBackend.aeadSeal
  aeadOpen := (replayBackend [honestRecord]).aeadOpen

theorem honestOpener_idealUnder (key : Bytes) :
    honestOpener.IdealUnder .aes256Gcm key
      ([honestCall].flatMap fun call =>
        (call.run paddingPackage).log) := by
  rw [List.flatMap_singleton, honestCall_log]
  exact replayBackend_idealUnder [honestRecord] .aes256Gcm key

theorem honestOpener_opens :
    («open» paddingPackage honestOpener [1, 2]
        (honestHeader.bytes ++ honestFrame) (some [9])).outcome =
      .ok [7] := by
  have fits : FitsField honestHeader := by
    show (768 : Nat) < 2 ^ 32
    omega
  have derived :
      envelopeKey paddingPackage [1, 2] honestHeader.salt =
        .ok honestPrepared.key :=
    rfl
  rw [open_eq fits rfl, derived, Trace.ofExcept_ok, Trace.done_bind,
    aeadCall_outcome]
  have sameOpener :
      honestOpener.aeadOpen = (replayBackend [honestRecord]).aeadOpen :=
    rfl
  rw [sameOpener, honestRecord, replayBackend_opens]

/-- The honest call's envelope is accepted, and is the honest call's. -/
theorem open_accepts_only_sealed_of_honest :
    ∃ envelope,
      («open» paddingPackage honestOpener [1, 2] envelope
          (some [9])).outcome = .ok [7] ∧
        ∃ call ∈ [honestCall],
          (call.run paddingPackage).outcome = .ok envelope ∧
            call.aad.getD [] = (some [9]).getD [] ∧
            call.plaintext = [7] := by
  refine
    ⟨honestHeader.bytes ++ honestFrame, honestOpener_opens,
      open_accepts_only_sealed ?_ honestOpener_idealUnder
        honestOpener_opens⟩
  intro call member
  rw [List.mem_singleton] at member
  subst member
  exact honestCall_declared

end PqForgeFfi.PqForgeEnvelope
