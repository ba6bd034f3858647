import PqForgeFfi.FallbackBackend
import PqForgeFfi.NativeBackend

namespace PqForgeFfi

/-!
# The AEAD of the two backends

Both backends against one AEAD: how an open ends on each of them, for keys,
nonces and ciphertexts of any lengths, and when the two end alike.  Where the
lengths are right both meet the contract that the streams rely on.
-/

/-- Opening gives the frame without its tag. -/
def Aead.RemovesTag (aead : Aead) : Prop :=
  ∀ nonce aad frame chunk,
    nonce.length = 12 →
    16 ≤ frame.length →
    aead.openUnder nonce aad frame = some chunk →
    chunk.length + 16 = frame.length

/-- An AEAD that opens only what it seals removes the tag it appended. -/
theorem Aead.Tidy.removesTag
    {aead : Aead}
    (tidy : aead.Tidy) :
    aead.RemovesTag := by
  intro nonce aad frame chunk nonceLength _ opened
  rw [tidy.sealed nonce aad frame chunk nonceLength opened]
  exact (tidy.appendsTag nonce aad chunk nonceLength).symm

namespace FallbackBackend

/-- The fallback's libraries open like an AEAD under each key. -/
structure Libraries.OpensAs
    (libraries : Libraries)
    (aeads : PqAeadAlgorithm → (key : Bytes) → Aead) : Prop where
  aesGcmSizes :
    ∀ key nonce ciphertext aad,
      ¬(key.length = 32 ∧ nonce.length = 12) →
      ∃ thrown,
        libraries.aesGcmDecrypt key nonce ciphertext aad =
            .error thrown ∧
          thrown.isArgumentError = true
  aesGcmAccepts :
    ∀ key nonce ciphertext aad plaintext,
      key.length = 32 →
      nonce.length = 12 →
      16 ≤ ciphertext.length →
      (aeads .aes256Gcm key).openUnder nonce aad ciphertext =
        some plaintext →
      libraries.aesGcmDecrypt key nonce ciphertext aad = .ok plaintext
  aesGcmRefuses :
    ∀ key nonce ciphertext aad,
      key.length = 32 →
      nonce.length = 12 →
      16 ≤ ciphertext.length →
      (aeads .aes256Gcm key).openUnder nonce aad ciphertext = none →
      ∃ thrown,
        libraries.aesGcmDecrypt key nonce ciphertext aad =
          .error thrown
  chachaInits :
    ∀ key nonce aad,
      key.length = 32 →
      nonce.length = 12 →
      ∃ cipher,
        chacha libraries.pointyCastle false key nonce aad = .ok cipher
  chachaAccepts :
    ∀ key nonce ciphertext aad plaintext cipher,
      key.length = 32 →
      nonce.length = 12 →
      16 ≤ ciphertext.length →
      chacha libraries.pointyCastle false key nonce aad = .ok cipher →
      (aeads .chaCha20Poly1305 key).openUnder nonce aad ciphertext =
        some plaintext →
      libraries.pointyCastle.Produces cipher ciphertext plaintext
  chachaRefuses :
    ∀ key nonce ciphertext aad cipher,
      key.length = 32 →
      nonce.length = 12 →
      16 ≤ ciphertext.length →
      chacha libraries.pointyCastle false key nonce aad = .ok cipher →
      (aeads .chaCha20Poly1305 key).openUnder nonce aad ciphertext =
        none →
      libraries.pointyCastle.Throws cipher ciphertext

end FallbackBackend

/-- AWS-LC, `pqforge` and PointyCastle open like one AEAD under each key. -/
structure SameAead
    (aws : AwsLc)
    (libraries : FallbackBackend.Libraries)
    (aeads : PqAeadAlgorithm → (key : Bytes) → Aead) : Prop where
  sizes : aws.Sizes
  native :
    ∀ algorithm key,
      key.length = 32 →
      aws.OpensAs algorithm key (aeads algorithm key)
  fallback : libraries.OpensAs aeads
  removesTag :
    ∀ algorithm key,
      key.length = 32 →
      (aeads algorithm key).RemovesTag

/-- A cipher that holds its input back until the end. -/
structure HeldCipher where
  forEncryption : Bool
  nonce : Bytes
  aad : Bytes
  held : Bytes

namespace Aead

/-- The ciphers of an AEAD, which do their work in `doFinal`. -/
def pointyCastle (aead : Aead) : FallbackBackend.PointyCastle where
  Cipher := HeldCipher
  chaCha20Poly1305 := fun forEncryption _ _ nonce aad =>
    .ok { forEncryption, nonce, aad, held := [] }
  getOutputSize := fun cipher len =>
    if cipher.forEncryption then len + 16 else len - 16
  processBytes := fun cipher data out =>
    ⟨out, .ok ({ cipher with held := cipher.held ++ data }, 0)⟩
  doFinal := fun cipher out outOff =>
    let output :=
      if cipher.forEncryption then
        some (aead.sealUnder cipher.nonce cipher.aad cipher.held)
      else
        aead.openUnder cipher.nonce cipher.aad cipher.held
    match output with
    | some output =>
        ⟨ByteOrder.overwrite out outOff output, .ok output.length⟩
    | none =>
        ⟨out, .error (.argumentError "mac check failed")⟩

/-- Libraries that compute an AEAD for keys and nonces of its sizes. -/
def libraries (aead : Aead) : FallbackBackend.Libraries where
  aesGcmEncrypt := fun key nonce plaintext aad =>
    if key.length = 32 ∧ nonce.length = 12 then
      .ok (aead.sealUnder nonce aad plaintext)
    else
      .error (.argumentError "wrong key or nonce length")
  aesGcmDecrypt := fun key nonce ciphertext aad =>
    if key.length = 32 ∧ nonce.length = 12 then
      if ciphertext.length < 16 then
        .error (.other "input data too short")
      else
        match aead.openUnder nonce aad ciphertext with
        | some plaintext => .ok plaintext
        | none => .error (.other "mac check in GCM failed")
    else
      .error (.argumentError "wrong key or nonce length")
  pointyCastle := aead.pointyCastle

theorem libraries_opensAs (aead : Aead) :
    aead.libraries.OpensAs fun _ _ => aead where
  aesGcmSizes := by
    intro key nonce ciphertext aad wrong
    exact ⟨_, if_neg wrong, rfl⟩
  aesGcmAccepts := by
    intro key nonce ciphertext aad plaintext keyLength nonceLength
      holdsTag opened
    simp only [libraries, keyLength, nonceLength, and_self, ↓reduceIte,
      Nat.not_lt.mpr holdsTag, opened]
  aesGcmRefuses := by
    intro key nonce ciphertext aad keyLength nonceLength holdsTag
      refused
    simp only [libraries, keyLength, nonceLength, and_self, ↓reduceIte,
      Nat.not_lt.mpr holdsTag, refused]
    exact ⟨_, rfl⟩
  chachaInits := by
    intro key nonce aad _ _
    exact ⟨_, rfl⟩
  chachaAccepts := by
    intro key nonce ciphertext aad plaintext cipher _ _ _ inits opened
    cases inits
    refine
      ⟨_, _, _,
        (List.replicate (ciphertext.length - 16) 0).drop
          (0 + plaintext.length),
        plaintext.length, rfl, ?_, Nat.zero_add _⟩
    simp only [libraries, pointyCastle, Bool.false_eq_true, ↓reduceIte,
      List.nil_append, opened, ByteOrder.overwrite, List.take_zero]
  chachaRefuses := by
    intro key nonce ciphertext aad cipher _ _ _ inits refused
    cases inits
    refine .inr ⟨_, _, .argumentError "mac check failed", rfl, ?_⟩
    simp only [libraries, pointyCastle, Bool.false_eq_true, ↓reduceIte,
      List.nil_append, refused]

/-- An AEAD's implementations on both sides are the same AEAD. -/
theorem Tidy.sameAead
    {aead : Aead}
    (tidy : aead.Tidy) :
    SameAead aead.aws aead.libraries fun _ _ => aead where
  sizes := aead.aws_sizes
  native := fun algorithm key _ => aead.aws_opensAs algorithm key
  fallback := aead.libraries_opensAs
  removesTag := fun _ _ _ => tidy.removesTag

end Aead

/-! ## How an operation ends -/

/-- An operation returned these bytes, or threw one of this subclass. -/
inductive EndsAs :
    Except DartThrow Bytes →
    Except PqForgeFfiExceptionClass Bytes →
    Prop where
  | returned (bytes : Bytes) :
      EndsAs (.ok bytes) (.ok bytes)
  | thrown (exception : PqForgeFfiException) :
      EndsAs (.error (.ffi exception)) (.error exception.runtimeType)

/--
Both operations returned the same bytes, or both threw the same subclass of
`PqForgeFfiException`.
-/
def EndAlike (first second : Except DartThrow Bytes) : Prop :=
  ∃ ending, EndsAs first ending ∧ EndsAs second ending

namespace EndsAs

variable {operation other : Except DartThrow Bytes}
variable {ending otherEnding : Except PqForgeFfiExceptionClass Bytes}

/-- An operation ends in one way. -/
theorem unique
    (ends : EndsAs operation ending)
    (endsToo : EndsAs operation otherEnding) :
    ending = otherEnding := by
  cases ends with
  | returned bytes =>
      cases endsToo
      rfl
  | thrown exception =>
      cases endsToo
      rfl

/-- Two operations end alike when their endings are the same. -/
theorem endAlike_iff
    (ends : EndsAs operation ending)
    (otherEnds : EndsAs other otherEnding) :
    EndAlike operation other ↔ ending = otherEnding := by
  constructor
  · rintro ⟨common, first, second⟩
    rw [ends.unique first, otherEnds.unique second]
  · intro same
    subst same
    exact ⟨ending, ends, otherEnds⟩

/-- An operation whose ending is bytes returned them. -/
theorem eq_ok
    {bytes : Bytes}
    (ends : EndsAs operation (.ok bytes)) :
    operation = .ok bytes := by
  cases ends
  rfl

/-- Only a `VerificationFailedException` ends as one. -/
theorem verificationFailed
    (ends : EndsAs operation (.error .verificationFailed)) :
    ∃ message,
      operation = .error (.ffi (.verificationFailed message)) := by
  generalize wanted :
    (.error .verificationFailed :
      Except PqForgeFfiExceptionClass Bytes) = verdict at ends
  cases ends with
  | returned bytes =>
      cases wanted
  | thrown exception =>
      cases exception <;> first | exact ⟨_, rfl⟩ | cases wanted

end EndsAs

/-- How opening ends where nothing is wrong but perhaps the tag. -/
def openEnding
    (aead : Aead)
    (nonce aad ciphertext : Bytes) :
    Except PqForgeFfiExceptionClass Bytes :=
  match aead.openUnder nonce aad ciphertext with
  | some plaintext => .ok plaintext
  | none => .error .verificationFailed

/-- Where only the tag can be wrong, an exception is one of verification. -/
theorem openEnding_ne
    (aead : Aead)
    (nonce aad ciphertext : Bytes)
    {wrong : PqForgeFfiExceptionClass}
    (other : wrong ≠ .verificationFailed) :
    openEnding aead nonce aad ciphertext ≠ .error wrong := by
  intro same
  rw [openEnding] at same
  split at same
  · cases same
  · exact other (Except.error.inj same).symm

/-- How the AES branch of the fallback ends on what `aesGcmDecrypt` does. -/
def aesEnding :
    Except DartThrow Bytes →
      Except PqForgeFfiExceptionClass Bytes
  | .ok plaintext => .ok plaintext
  | .error thrown =>
      if thrown.isArgumentError then
        .error .invalidKey
      else
        .error .verificationFailed

/--
The AES branch of the fallback never says that a ciphertext is too short.
-/
theorem aesEnding_ne (decrypted : Except DartThrow Bytes) :
    aesEnding decrypted ≠ .error .invalidCiphertext := by
  intro same
  cases decrypted with
  | ok plaintext =>
      cases same
  | error thrown =>
      rw [aesEnding] at same
      split at same <;> cases same

section Backends

variable {aws : AwsLc}
variable {libraries : FallbackBackend.Libraries}
variable {aeads : PqAeadAlgorithm → (key : Bytes) → Aead}

/-- The native backend looks at the ciphertext's length before the others. -/
theorem NativeBackend.aeadOpen_endsAs
    (same : SameAead aws libraries aeads)
    (algorithm : PqAeadAlgorithm)
    (key nonce ciphertext aad : Bytes) :
    EndsAs (aeadOpen aws algorithm key nonce ciphertext aad)
      (if ciphertext.length < 16 then
        .error .invalidCiphertext
      else if key.length = 32 ∧ nonce.length = 12 then
        openEnding (aeads algorithm key) nonce aad ciphertext
      else
        .error .invalidKey) := by
  by_cases short : ciphertext.length < 16
  · rw [if_pos short, aeadOpen_of_short short]
    exact .thrown _
  · rw [if_neg short]
    have holdsTag := Nat.not_lt.mp short
    by_cases right : key.length = 32 ∧ nonce.length = 12
    · rw [if_pos right, openEnding]
      obtain ⟨keyLength, nonceLength⟩ := right
      have opens := same.native algorithm key keyLength nonce aad
        ciphertext nonceLength holdsTag
      cases opened :
          (aeads algorithm key).openUnder nonce aad ciphertext with
      | none =>
          rw [aeadOpen_of_refusal same.sizes keyLength nonceLength
            holdsTag (opens.trans opened)]
          exact .thrown _
      | some plaintext =>
          rw [aeadOpen_of_output same.sizes keyLength nonceLength
            (opens.trans opened)
            (same.removesTag algorithm key keyLength nonce aad
              ciphertext plaintext nonceLength holdsTag opened)]
          exact .returned _
    · rw [if_neg right, aeadOpen_of_sizes same.sizes holdsTag right]
      exact .thrown _

/-- The fallback's ChaCha branch looks at the key and the nonce first. -/
theorem FallbackBackend.aeadOpen_chacha_endsAs
    (opensAs : libraries.OpensAs aeads)
    (key nonce ciphertext aad : Bytes) :
    EndsAs
      (aeadOpen libraries .chaCha20Poly1305 key nonce ciphertext aad)
      (if key.length = 32 ∧ nonce.length = 12 then
        if ciphertext.length < 16 then
          .error .invalidCiphertext
        else
          openEnding (aeads .chaCha20Poly1305 key) nonce aad ciphertext
      else
        .error .invalidKey) := by
  by_cases right : key.length = 32 ∧ nonce.length = 12
  · rw [if_pos right]
    obtain ⟨keyLength, nonceLength⟩ := right
    simp only [aeadOpen,
      requireSizes_of_sizes .chaCha20Poly1305 keyLength nonceLength,
      ok_bind, PqAeadAlgorithm.tagBytes_eq]
    split
    · exact .thrown _
    · rename_i long
      have holdsTag := Nat.not_lt.mp long
      obtain ⟨cipher, inits⟩ :=
        opensAs.chachaInits key nonce aad keyLength nonceLength
      rw [inits, ok_bind, openEnding]
      cases opened :
          (aeads .chaCha20Poly1305 key).openUnder nonce aad
            ciphertext with
      | none =>
          obtain ⟨thrown, failed⟩ :=
            runAead_of_throws (opensAs.chachaRefuses key nonce
              ciphertext aad cipher keyLength nonceLength holdsTag inits
              opened)
          rw [failed]
          exact .thrown _
      | some plaintext =>
          rw [runAead_of_produces (opensAs.chachaAccepts key nonce
            ciphertext aad plaintext cipher keyLength nonceLength
            holdsTag inits opened)]
          exact .returned _
  · rw [if_neg right]
    obtain ⟨message, thrown⟩ :=
      requireSizes_of_wrong .chaCha20Poly1305 right
    simp only [aeadOpen, thrown]
    exact .thrown _

/-- The fallback's AES branch goes by what `aesGcmDecrypt` does alone. -/
theorem FallbackBackend.aeadOpen_aes_endsAs
    (libraries : Libraries)
    (key nonce ciphertext aad : Bytes) :
    EndsAs (aeadOpen libraries .aes256Gcm key nonce ciphertext aad)
      (aesEnding
        (libraries.aesGcmDecrypt key nonce ciphertext aad)) := by
  rw [aeadOpen]
  cases libraries.aesGcmDecrypt key nonce ciphertext aad with
  | ok plaintext =>
      exact .returned plaintext
  | error thrown =>
      show EndsAs
        (if thrown.isArgumentError then _ else _)
        (if thrown.isArgumentError then _ else _)
      split
      · exact .thrown _
      · exact .thrown _

/-! ## When the backends end alike -/

/--
`aesGcmDecrypt` refuses a ciphertext under a key and a nonce of the right
lengths by an `ArgumentError`, which the AES branch takes for a bad length.
-/
def FallbackBackend.Libraries.RefusesByArgument
    (libraries : Libraries)
    (key nonce ciphertext aad : Bytes) : Prop :=
  key.length = 32 ∧ nonce.length = 12 ∧
    ∃ thrown,
      libraries.aesGcmDecrypt key nonce ciphertext aad =
          .error thrown ∧
        thrown.isArgumentError = true

/--
Where no refusal is taken for a bad length, the AES branch ends as its AEAD.
-/
theorem aesEnding_eq_openEnding
    (opensAs : libraries.OpensAs aeads)
    {key nonce ciphertext aad : Bytes}
    (keyLength : key.length = 32)
    (nonceLength : nonce.length = 12)
    (holdsTag : 16 ≤ ciphertext.length)
    (never : ¬ libraries.RefusesByArgument key nonce ciphertext aad) :
    aesEnding (libraries.aesGcmDecrypt key nonce ciphertext aad) =
      openEnding (aeads .aes256Gcm key) nonce aad ciphertext := by
  cases opened :
      (aeads .aes256Gcm key).openUnder nonce aad ciphertext with
  | some plaintext =>
      rw [opensAs.aesGcmAccepts key nonce ciphertext aad plaintext
        keyLength nonceLength holdsTag opened, openEnding, opened]
      rfl
  | none =>
      obtain ⟨thrown, refused⟩ := opensAs.aesGcmRefuses key nonce
        ciphertext aad keyLength nonceLength holdsTag opened
      have notArgument : ¬ thrown.isArgumentError = true :=
        fun argument => never
          ⟨keyLength, nonceLength, thrown, refused, argument⟩
      rw [refused, aesEnding, if_neg notArgument, openEnding, opened]

/-- With ChaCha20-Poly1305 only a short ciphertext shows the checks' order. -/
theorem chacha_endAlike_iff
    (same : SameAead aws libraries aeads)
    (key nonce ciphertext aad : Bytes) :
    EndAlike
        (NativeBackend.aeadOpen aws .chaCha20Poly1305 key nonce ciphertext
          aad)
        (FallbackBackend.aeadOpen libraries .chaCha20Poly1305 key nonce
          ciphertext aad) ↔
      (ciphertext.length < 16 →
        key.length = 32 ∧ nonce.length = 12) := by
  rw [(NativeBackend.aeadOpen_endsAs same _ _ _ _ _).endAlike_iff
    (FallbackBackend.aeadOpen_chacha_endsAs same.fallback _ _ _ _)]
  by_cases short : ciphertext.length < 16
  · rw [if_pos short, if_pos short]
    by_cases right : key.length = 32 ∧ nonce.length = 12
    · rw [if_pos right]
      exact iff_of_true rfl fun _ => right
    · rw [if_neg right]
      exact iff_of_false (fun ends => by cases ends)
        fun holds => right (holds short)
  · rw [if_neg short, if_neg short]
    exact iff_of_true rfl fun isShort => (short isShort).elim

/-- With AES-256-GCM the backends never end alike on a short ciphertext. -/
theorem aes_endAlike_iff
    (same : SameAead aws libraries aeads)
    (key nonce ciphertext aad : Bytes) :
    EndAlike
        (NativeBackend.aeadOpen aws .aes256Gcm key nonce ciphertext aad)
        (FallbackBackend.aeadOpen libraries .aes256Gcm key nonce
          ciphertext aad) ↔
      16 ≤ ciphertext.length ∧
        ¬ libraries.RefusesByArgument key nonce ciphertext aad := by
  rw [(NativeBackend.aeadOpen_endsAs same _ _ _ _ _).endAlike_iff
    (FallbackBackend.aeadOpen_aes_endsAs libraries _ _ _ _)]
  by_cases short : ciphertext.length < 16
  · rw [if_pos short]
    exact iff_of_false (aesEnding_ne _).symm
      fun holds => Nat.not_lt.mpr holds.1 short
  · have holdsTag := Nat.not_lt.mp short
    rw [if_neg short, and_iff_right holdsTag]
    by_cases right : key.length = 32 ∧ nonce.length = 12
    · rw [if_pos right]
      obtain ⟨keyLength, nonceLength⟩ := right
      constructor
      · rintro ends ⟨_, _, thrown, refused, argument⟩
        rw [refused, aesEnding, if_pos argument] at ends
        exact openEnding_ne _ _ _ _ (fun kind => by cases kind) ends
      · intro never
        exact (aesEnding_eq_openEnding same.fallback keyLength
          nonceLength holdsTag never).symm
    · rw [if_neg right]
      obtain ⟨thrown, refused, argument⟩ :=
        same.fallback.aesGcmSizes key nonce ciphertext aad right
      simp only [refused, aesEnding, argument, ↓reduceIte, true_iff]
      rintro ⟨keyLength, nonceLength, _⟩
      exact right ⟨keyLength, nonceLength⟩

/--
The backends end alike but for two kinds of input: a ciphertext that cannot
hold a tag, unless the algorithm is ChaCha20-Poly1305 and the key and the nonce
have the right lengths; and one that `pqforge` refuses by an `ArgumentError`
although they do.
-/
theorem aeadOpen_endAlike_iff
    (same : SameAead aws libraries aeads)
    (algorithm : PqAeadAlgorithm)
    (key nonce ciphertext aad : Bytes) :
    EndAlike
        (NativeBackend.aeadOpen aws algorithm key nonce ciphertext aad)
        (FallbackBackend.aeadOpen libraries algorithm key nonce
          ciphertext aad) ↔
      (ciphertext.length < 16 →
        algorithm = .chaCha20Poly1305 ∧ key.length = 32 ∧
          nonce.length = 12) ∧
      (algorithm = .aes256Gcm →
        16 ≤ ciphertext.length →
        ¬ libraries.RefusesByArgument key nonce ciphertext aad) := by
  cases algorithm with
  | aes256Gcm =>
      rw [aes_endAlike_iff same]
      simp only [reduceCtorEq, false_and, imp_false, Nat.not_lt,
        forall_const]
      constructor
      · rintro ⟨holdsTag, never⟩
        exact ⟨holdsTag, fun _ => never⟩
      · rintro ⟨holdsTag, never⟩
        exact ⟨holdsTag, never holdsTag⟩
  | chaCha20Poly1305 =>
      rw [chacha_endAlike_iff same]
      simp only [true_and, reduceCtorEq, false_implies, and_true]

end Backends

/-- A short key and a short nonce are reported alike, with room for a tag. -/
theorem aeadOpen_endAlike_on_short_key :
    EndAlike
      (NativeBackend.aeadOpen taggedAead.aws .aes256Gcm [1] []
        (List.replicate 16 0) [])
      (FallbackBackend.aeadOpen taggedAead.libraries .aes256Gcm [1] []
        (List.replicate 16 0) []) := by
  refine (aeadOpen_endAlike_iff taggedAead_tidy.sameAead .aes256Gcm [1] []
    (List.replicate 16 0) []).mpr ⟨?_, ?_⟩
  · intro short
    exact absurd short (by decide)
  · rintro _ _ ⟨keyLength, _⟩
    exact absurd keyLength (by decide)

/--
An empty ciphertext under a key and a nonce of the right lengths, with
AES-256-GCM: the native backend calls it an invalid ciphertext, the fallback a
failed verification.
-/
theorem backends_report_empty_ciphertext_differently :
    let key : Bytes := List.replicate 32 7
    let nonce : Bytes := List.replicate 12 3
    (SameAead taggedAead.aws taggedAead.libraries fun _ _ => taggedAead) ∧
      EndsAs
        (NativeBackend.aeadOpen taggedAead.aws .aes256Gcm key nonce [] [])
        (.error .invalidCiphertext) ∧
      EndsAs
        (FallbackBackend.aeadOpen taggedAead.libraries .aes256Gcm key nonce
          [] [])
        (.error .verificationFailed) ∧
      ¬ EndAlike
        (NativeBackend.aeadOpen taggedAead.aws .aes256Gcm key nonce [] [])
        (FallbackBackend.aeadOpen taggedAead.libraries .aes256Gcm key nonce
          [] []) := by
  intro key nonce
  have native := NativeBackend.aeadOpen_endsAs taggedAead_tidy.sameAead
    .aes256Gcm key nonce [] []
  have fallback := FallbackBackend.aeadOpen_aes_endsAs
    taggedAead.libraries key nonce [] []
  refine ⟨taggedAead_tidy.sameAead, native, fallback, ?_⟩
  rw [native.endAlike_iff fallback]
  exact fun same => by cases same

section Contract

variable {aws : AwsLc}
variable {libraries : FallbackBackend.Libraries}
variable {aeads : PqAeadAlgorithm → (key : Bytes) → Aead}
variable {backend : PqForgeBackend}
variable {algorithm : PqAeadAlgorithm}
variable {key : Bytes}

/-- A backend that ends like its AEAD, given room for a tag, opens as it. -/
theorem PqForgeBackend.opensAs_of_endsAs
    {aead : Aead}
    (ends :
      ∀ nonce frame aad,
        nonce.length = 12 →
        16 ≤ frame.length →
        EndsAs (backend.aeadOpen algorithm key nonce frame aad)
          (openEnding aead nonce aad frame)) :
    backend.OpensAs algorithm key aead where
  accepts := by
    intro nonce frame aad chunk nonceLength holdsTag opened
    have ending := ends nonce frame aad nonceLength holdsTag
    rw [openEnding, opened] at ending
    exact ending.eq_ok
  refuses := by
    intro nonce frame aad nonceLength holdsTag refused
    have ending := ends nonce frame aad nonceLength holdsTag
    rw [openEnding, refused] at ending
    exact ending.verificationFailed

/-- The native backend opens frames as the AEAD. -/
theorem NativeBackend.opensAs
    (same : SameAead aws libraries aeads)
    (isNative : backend.aeadOpen = aeadOpen aws)
    (keyLength : key.length = 32) :
    backend.OpensAs algorithm key (aeads algorithm key) := by
  refine PqForgeBackend.opensAs_of_endsAs ?_
  intro nonce frame aad nonceLength holdsTag
  have ends := aeadOpen_endsAs same algorithm key nonce frame aad
  rwa [if_neg (Nat.not_lt.mpr holdsTag),
    if_pos ⟨keyLength, nonceLength⟩, ← isNative] at ends

/--
The fallback opens as its AEADs, unless a refusal is taken for a bad length.
-/
theorem FallbackBackend.opensAs
    (opens : libraries.OpensAs aeads)
    (isFallback : backend.aeadOpen = aeadOpen libraries)
    (keyLength : key.length = 32)
    (never :
      algorithm = .aes256Gcm →
      ∀ nonce frame aad,
        ¬ libraries.RefusesByArgument key nonce frame aad) :
    backend.OpensAs algorithm key (aeads algorithm key) := by
  refine PqForgeBackend.opensAs_of_endsAs ?_
  intro nonce frame aad nonceLength holdsTag
  rw [isFallback]
  cases algorithm with
  | aes256Gcm =>
      rw [← aesEnding_eq_openEnding opens keyLength nonceLength holdsTag
        (never rfl nonce frame aad)]
      exact aeadOpen_aes_endsAs libraries key nonce frame aad
  | chaCha20Poly1305 =>
      have ends := aeadOpen_chacha_endsAs opens key nonce frame aad
      rwa [if_pos ⟨keyLength, nonceLength⟩,
        if_neg (Nat.not_lt.mpr holdsTag)] at ends

end Contract

end PqForgeFfi
