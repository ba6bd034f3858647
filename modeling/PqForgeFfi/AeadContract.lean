import PqForgeFfi.AwsLc
import PqForgeFfi.Backend

namespace PqForgeFfi

/-!
# The AEAD contract

What the stream and the envelope rely on in an AEAD, in terms of one abstract
AEAD under one key, and what it means that a Dart backend or the native
library computes it.  `taggedAead` is an AEAD to evaluate with; it hides
nothing and has the lengths and the laws of a real one.
-/

/-- An AEAD under one key: sealing, and opening of what it accepts. -/
structure Aead where
  sealUnder : (nonce aad chunk : Bytes) → Bytes
  openUnder : (nonce aad frame : Bytes) → Option Bytes

namespace Aead

/-- A sealed chunk is one tag longer than the chunk. -/
def AppendsTag (aead : Aead) : Prop :=
  ∀ nonce aad chunk,
    nonce.length = 12 →
    (aead.sealUnder nonce aad chunk).length = chunk.length + 16

/-- Opening undoes sealing, and a sealed chunk is one tag longer. -/
structure Correct (aead : Aead) : Prop where
  opens :
    ∀ nonce aad chunk,
      nonce.length = 12 →
      aead.openUnder nonce aad (aead.sealUnder nonce aad chunk) =
        some chunk
  appendsTag : aead.AppendsTag

/-- Opening accepts exactly what sealing the opened chunk gives. -/
structure Tidy (aead : Aead) : Prop extends aead.Correct where
  sealed :
    ∀ nonce aad frame chunk,
      nonce.length = 12 →
      aead.openUnder nonce aad frame = some chunk →
      frame = aead.sealUnder nonce aad chunk

end Aead

namespace PqForgeBackend

/-- The backend seals like the AEAD. -/
def SealsAs
    (backend : PqForgeBackend)
    (algorithm : PqAeadAlgorithm)
    (key : Bytes)
    (aead : Aead) : Prop :=
  ∀ nonce chunk aad,
    nonce.length = 12 →
    backend.aeadSeal algorithm key nonce chunk aad =
      .ok (aead.sealUnder nonce aad chunk)

/-- The backend opens what the AEAD seals. -/
def OpensSealed
    (backend : PqForgeBackend)
    (algorithm : PqAeadAlgorithm)
    (key : Bytes)
    (aead : Aead) : Prop :=
  ∀ nonce chunk aad,
    nonce.length = 12 →
    backend.aeadOpen algorithm key nonce
        (aead.sealUnder nonce aad chunk) aad =
      .ok chunk

/--
On frames that can hold a tag the backend opens like the AEAD, and throws a
`VerificationFailedException` for a frame that the AEAD refuses.
-/
structure OpensAs
    (backend : PqForgeBackend)
    (algorithm : PqAeadAlgorithm)
    (key : Bytes)
    (aead : Aead) : Prop where
  accepts :
    ∀ nonce frame aad chunk,
      nonce.length = 12 →
      16 ≤ frame.length →
      aead.openUnder nonce aad frame = some chunk →
      backend.aeadOpen algorithm key nonce frame aad = .ok chunk
  refuses :
    ∀ nonce frame aad,
      nonce.length = 12 →
      16 ≤ frame.length →
      aead.openUnder nonce aad frame = none →
      ∃ message,
        backend.aeadOpen algorithm key nonce frame aad =
          .error (.ffi (.verificationFailed message))

/--
The backend is ideal under a key: it opens only what one of the recorded calls
sealed, under that call's nonce and associated data, to that call's input.
-/
def IdealUnder
    (backend : PqForgeBackend)
    (algorithm : PqAeadAlgorithm)
    (key : Bytes)
    (calls : List AeadCall) : Prop :=
  ∀ nonce frame aad chunk,
    backend.aeadOpen algorithm key nonce frame aad = .ok chunk →
    { algorithm, key, nonce,
      associated := aad, input := chunk, output := some frame } ∈ calls

end PqForgeBackend

namespace AwsLc

/-- The library seals like the AEAD. -/
def SealsAs
    (aws : AwsLc)
    (algorithm : PqAeadAlgorithm)
    (key : Bytes)
    (aead : Aead) : Prop :=
  ∀ nonce aad chunk,
    nonce.length = 12 →
    aws.sealInPlaceAppendTag algorithm key nonce aad chunk =
      some (aead.sealUnder nonce aad chunk)

/-- The library opens what the AEAD seals. -/
def OpensSealed
    (aws : AwsLc)
    (algorithm : PqAeadAlgorithm)
    (key : Bytes)
    (aead : Aead) : Prop :=
  ∀ nonce aad chunk,
    nonce.length = 12 →
    aws.openInPlace algorithm key nonce aad
        (aead.sealUnder nonce aad chunk) =
      some chunk

/-- On frames that can hold a tag the library opens like the AEAD. -/
def OpensAs
    (aws : AwsLc)
    (algorithm : PqAeadAlgorithm)
    (key : Bytes)
    (aead : Aead) : Prop :=
  ∀ nonce aad frame,
    nonce.length = 12 →
    16 ≤ frame.length →
    aws.openInPlace algorithm key nonce aad frame =
      aead.openUnder nonce aad frame

end AwsLc

/-! ## Implementations of an AEAD -/

namespace Aead

/-- A backend that computes the AEAD, whatever the key, and has no KEM. -/
def backend (aead : Aead) : PqForgeBackend where
  kemEncapsulate := fun _ _ _ => .error (.other "no KEM")
  kemDecapsulate := fun _ _ _ => .error (.other "no KEM")
  aeadSeal := fun _ _ nonce plaintext aad =>
    .ok (aead.sealUnder nonce aad plaintext)
  aeadOpen := fun _ _ nonce ciphertext aad =>
    match aead.openUnder nonce aad ciphertext with
    | some plaintext => .ok plaintext
    | none => .error (.ffi (.verificationFailed "tag mismatch"))

/-- A library that computes the AEAD for keys and nonces of its sizes. -/
def aws (aead : Aead) : AwsLc where
  unboundKey := fun _ key => key.length == 32
  assumeUnique := fun nonce => nonce.length == 12
  sealInPlaceAppendTag := fun _ _ nonce aad plaintext =>
    some (aead.sealUnder nonce aad plaintext)
  openInPlace := fun _ _ nonce aad ciphertext =>
    aead.openUnder nonce aad ciphertext

theorem backend_sealsAs
    (aead : Aead)
    (algorithm : PqAeadAlgorithm)
    (key : Bytes) :
    aead.backend.SealsAs algorithm key aead :=
  fun _ _ _ _ => rfl

theorem backend_opensAs
    (aead : Aead)
    (algorithm : PqAeadAlgorithm)
    (key : Bytes) :
    aead.backend.OpensAs algorithm key aead where
  accepts := by
    intro nonce frame aad chunk _ _ opened
    simp only [backend, opened]
  refuses := by
    intro nonce frame aad _ _ refused
    exact ⟨"tag mismatch", by simp only [backend, refused]⟩

theorem aws_sizes (aead : Aead) : aead.aws.Sizes where
  key := fun _ key => by simp [aws]
  nonce := fun nonce => by simp [aws]

/-- What the library seals or opens has a nonce of the right length. -/
theorem aws_nonce_length
    (aead : Aead)
    {Output : Type}
    {nonce : Bytes}
    {next : Bytes → Option Output}
    {output : Output}
    (produced :
      aead.aws.tryAssumeUniqueForKey nonce >>= next = some output) :
    nonce.length = 12 ∧ next nonce = some output := by
  by_cases length : nonce.length = 12
  · rw [aead.aws_sizes.tryAssumeUniqueForKey length] at produced
    exact ⟨length, produced⟩
  · rw [aead.aws_sizes.tryAssumeUniqueForKey_none length] at produced
    cases produced

/-- The library of a tidy AEAD appends a tag and takes it off. -/
theorem Tidy.aws_outputSizes
    {aead : Aead}
    (tidy : aead.Tidy) :
    aead.aws.OutputSizes where
  sealed := by
    intro algorithm key nonce plaintext aad output sealed
    obtain ⟨sealing, _, sealed⟩ := Option.bind_eq_some_iff.mp sealed
    obtain ⟨nonceLength, sealed⟩ := aead.aws_nonce_length sealed
    cases sealed
    exact tidy.appendsTag nonce aad plaintext nonceLength
  opened := by
    intro algorithm key nonce ciphertext aad output opened
    obtain ⟨opening, _, opened⟩ := Option.bind_eq_some_iff.mp opened
    obtain ⟨nonceLength, opened⟩ := aead.aws_nonce_length opened
    rw [tidy.sealed nonce aad ciphertext output nonceLength opened]
    exact (tidy.appendsTag nonce aad output nonceLength).symm

theorem aws_sealsAs
    (aead : Aead)
    (algorithm : PqAeadAlgorithm)
    (key : Bytes) :
    aead.aws.SealsAs algorithm key aead :=
  fun _ _ _ _ => rfl

theorem aws_opensAs
    (aead : Aead)
    (algorithm : PqAeadAlgorithm)
    (key : Bytes) :
    aead.aws.OpensAs algorithm key aead :=
  fun _ _ _ _ _ => rfl

end Aead

namespace Aead

/-- A backend that computes a correct AEAD opens what it seals. -/
theorem Correct.backend_opensSealed
    {aead : Aead}
    (correct : aead.Correct)
    (algorithm : PqAeadAlgorithm)
    (key : Bytes) :
    aead.backend.OpensSealed algorithm key aead := by
  intro nonce chunk aad nonceLength
  simp only [backend, correct.opens nonce aad chunk nonceLength]

/-- A library that computes a correct AEAD opens what it seals. -/
theorem Correct.aws_opensSealed
    {aead : Aead}
    (correct : aead.Correct)
    (algorithm : PqAeadAlgorithm)
    (key : Bytes) :
    aead.aws.OpensSealed algorithm key aead :=
  fun nonce aad chunk nonceLength =>
    correct.opens nonce aad chunk nonceLength

end Aead

/-! ## An ideal backend -/

/-- The recorded call that sealed a frame under given arguments. -/
def sealedBy
    (calls : List AeadCall)
    (algorithm : PqAeadAlgorithm)
    (key nonce frame aad : Bytes) :
    Option AeadCall :=
  calls.find? fun call =>
    call == {
      algorithm, key, nonce
      associated := aad
      input := call.input
      output := some frame }

/-- A backend that opens by looking its frames up in the recorded calls. -/
def replayBackend (calls : List AeadCall) : PqForgeBackend where
  kemEncapsulate := fun _ _ _ => .error (.other "no KEM")
  kemDecapsulate := fun _ _ _ => .error (.other "no KEM")
  aeadSeal := fun _ _ _ _ _ => .error (.other "opens only")
  aeadOpen := fun algorithm key nonce ciphertext aad =>
    match sealedBy calls algorithm key nonce ciphertext aad with
    | some call => .ok call.input
    | none => .error (.ffi (.verificationFailed "tag mismatch"))

/-- A backend that replays some calls is ideal under every key. -/
theorem replayBackend_idealUnder
    (calls : List AeadCall)
    (algorithm : PqAeadAlgorithm)
    (key : Bytes) :
    (replayBackend calls).IdealUnder algorithm key calls := by
  intro nonce frame aad chunk opened
  simp only [replayBackend] at opened
  cases found : sealedBy calls algorithm key nonce frame aad with
  | none =>
      rw [found] at opened
      cases opened
  | some call =>
      rw [found] at opened
      obtain rfl : call.input = chunk := by
        simpa using opened
      rw [sealedBy] at found
      have selected := List.find?_some found
      have shape := eq_of_beq selected
      rw [← shape]
      exact List.mem_of_find?_eq_some found

/-- The only recorded call is found again. -/
theorem replayBackend_opens
    (algorithm : PqAeadAlgorithm)
    (key nonce aad input frame : Bytes) :
    (replayBackend [{
        algorithm, key, nonce, input
        associated := aad
        output := some frame }]).aeadOpen algorithm key nonce frame aad =
      .ok input := by
  simp only [replayBackend, sealedBy, List.find?_cons,
    beq_self_eq_true]

/-- Sixteen bytes that repeat the nonce. -/
def nonceTag (nonce : Bytes) : Bytes :=
  (nonce ++ List.replicate 16 0).take 16

theorem length_nonceTag (nonce : Bytes) :
    (nonceTag nonce).length = 16 := by
  rw [nonceTag, List.length_take, List.length_append,
    List.length_replicate]
  omega

/-- The chunk itself, followed by a tag that repeats the nonce. -/
def taggedAead : Aead where
  sealUnder := fun nonce _ chunk => chunk ++ nonceTag nonce
  openUnder := fun nonce _ frame =>
    if frame.drop (frame.length - 16) = nonceTag nonce then
      some (frame.take (frame.length - 16))
    else
      none

theorem taggedAead_tidy : taggedAead.Tidy where
  opens := by
    intro nonce aad chunk _
    have front : (chunk ++ nonceTag nonce).length - 16 = chunk.length := by
      rw [List.length_append, length_nonceTag, Nat.add_sub_cancel]
    simp only [taggedAead, front, List.drop_left, List.take_left,
      if_pos]
  appendsTag := by
    intro nonce aad chunk _
    simp only [taggedAead, List.length_append, length_nonceTag]
  sealed := by
    intro nonce aad frame chunk _ opened
    simp only [taggedAead] at opened
    split at opened
    · rename_i tagged
      cases opened
      simp only [taggedAead]
      rw [← tagged, List.take_append_drop]
    · cases opened

end PqForgeFfi
