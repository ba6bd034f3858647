import PqForgeFfi.StreamRoundTrip

namespace PqForgeFfi

open Segmentation

/-!
# Authenticity of the Dart stream

Against an ideal AEAD an opener can only walk along the frames of the one
stream that was sealed: each AEAD call it gets answered is the one recorded at
its own position, since positions and flags have nonces of their own.  It
therefore releases a prefix of the sealed chunks, and completes only on the
sealed stream itself.
-/

namespace PqForgeStream

/-- The AEAD call that `seal` makes at a position. -/
def sealCall
    (call : StreamCall)
    (position : Nat)
    (last : Bool)
    (chunk : Bytes) :
    AeadCall where
  algorithm := call.algorithm
  key := call.key
  nonce := positionNonce position last
  associated := call.ad
  input := chunk
  output :=
    (call.backend.aeadSeal call.algorithm call.key
      (positionNonce position last) chunk call.ad).toOption

/-- The frame that the backend returns at a position. -/
def sealFrame
    (call : StreamCall)
    (position : Nat)
    (last : Bool)
    (chunk : Bytes) :
    Bytes :=
  (sealCall call position last chunk).output.getD []

/-- At every position `seal` makes its one AEAD call. -/
theorem sealAct_aeadCalls
    (call : StreamCall)
    (position : Nat)
    (last : Bool)
    (chunk : Bytes) :
    aeadCalls (sealAct call position last chunk).log =
      [sealCall call position last chunk] := by
  simp only [sealAct, yieldSeal, aeadCall, sealCall,
    PqAeadAlgorithm.nonceBytes_eq, positionNonce]
  cases call.backend.aeadSeal call.algorithm call.key
    (nonce (Int64.ofNat position) last 12) chunk call.ad <;> rfl

/-- Where `seal` goes on, it has handed on the frame of its position. -/
theorem sealAct_emitted
    {call : StreamCall}
    {position : Nat}
    {last : Bool}
    {chunk : Bytes}
    (returned : (sealAct call position last chunk).outcome = .ok ()) :
    emitted (sealAct call position last chunk).log =
      [sealFrame call position last chunk] := by
  have observed := sealAct_observe call position last chunk
  have outcome := congrArg Trace.outcome observed
  have log := congrArg Trace.log observed
  rw [Trace.observe_outcome, returned] at outcome
  refine log.trans ?_
  rw [sealFrame, sealCall]
  cases answer :
      call.backend.aeadSeal call.algorithm call.key
        (positionNonce position last) chunk call.ad with
  | ok frame =>
      rfl
  | error thrown =>
      rw [answer] at outcome
      cases outcome

/-- The calls of a `seal` that completed, one for each chunk. -/
theorem seal_aeadCalls
    {call : StreamCall}
    {chunks : List Bytes}
    (completed : (flaggedRun (sealAct call) 0 chunks).outcome = .ok ()) :
    aeadCalls (flaggedRun (sealAct call) 0 chunks).log =
      flaggedMap (sealCall call) 0 chunks :=
  flaggedRun_shows completed fun _ chunk _ _ =>
    sealAct_aeadCalls call _ _ chunk

/-- The frames of a `seal` that completed, one for each chunk. -/
theorem seal_emitted
    {call : StreamCall}
    {chunks : List Bytes}
    (completed : (flaggedRun (sealAct call) 0 chunks).outcome = .ok ()) :
    emitted (flaggedRun (sealAct call) 0 chunks).log =
      flaggedMap (sealFrame call) 0 chunks :=
  flaggedRun_shows completed fun _ _ _ returned =>
    sealAct_emitted returned

/-- A frame that `open` releases a chunk from was opened by the backend. -/
theorem openAt_eq_record
    {call : StreamCall}
    {position : Nat}
    {last : Bool}
    {frame chunk : Bytes}
    (released : openAt call position last frame = .record chunk) :
    call.backend.aeadOpen call.algorithm call.key
        (positionNonce position last) frame call.ad =
      .ok chunk := by
  by_cases long : last = true → 16 ≤ frame.length
  · rw [openAt_of_long call position long] at released
    cases answer :
        call.backend.aeadOpen call.algorithm call.key
          (positionNonce position last) frame call.ad with
    | ok opened =>
        rw [answer] at released
        have log := congrArg Trace.log released
        obtain rfl : opened = chunk := by
          simpa [handOn] using log
        rfl
    | error thrown =>
        rw [answer] at released
        have outcome := congrArg Trace.outcome released
        cases outcome
  · simp only [Classical.not_imp, Nat.not_le] at long
    obtain ⟨isLast, short⟩ := long
    subst isLast
    obtain ⟨message, refused⟩ := openAt_of_short call position short
    rw [refused] at released
    have outcome := congrArg Trace.outcome released
    cases outcome

/--
Up to `2^63` chunks, an opener over a backend that is ideal for the calls of
one sealing opens only the frame of that sealing at each position.
-/
theorem openAt_genuine
    {sealing opening : StreamCall}
    {chunks : List Bytes}
    (few : chunks.length < 2 ^ 63)
    (ideal :
      opening.backend.IdealUnder opening.algorithm opening.key
        (flaggedMap (sealCall sealing) 0 chunks)) :
    Genuine (openAt opening) chunks
      (flaggedMap (sealFrame sealing) 0 chunks) := by
  intro position inRange last frame chunk released
  have recorded := ideal _ _ _ _ (openAt_eq_record released)
  obtain ⟨index, found⟩ := List.mem_iff_getElem?.mp recorded
  rw [getElem?_flaggedMap, Nat.zero_add] at found
  obtain ⟨sealed, present, sameCall⟩ := Option.map_eq_some_iff.mp found
  obtain ⟨inBounds, _⟩ := List.getElem?_eq_some_iff.mp present
  have sameNonce :
      positionNonce index (decide (index + 1 = chunks.length)) =
        positionNonce position last :=
    congrArg AeadCall.nonce sameCall
  have sameInput : sealed = chunk :=
    congrArg AeadCall.input sameCall
  rw [positionNonce, positionNonce, nonce_of_lt (by omega),
    nonce_of_lt (by omega)] at sameNonce
  obtain ⟨rfl, rfl⟩ := StreamFormat.frameNonce_injective
    (by omega) (by omega) sameNonce
  subst sameInput
  refine ⟨present, ?_, decide_eq_true_iff⟩
  rw [getElem?_flaggedMap, present, Nat.zero_add, Option.map_some,
    sealFrame, sameCall]
  rfl

end PqForgeStream

/-- Every moment of a run has handed on a start of what the run hands on. -/
theorem emitted_of_earlier
    {moment log : List StreamEvent}
    (earlier : moment <+: log) :
    emitted moment <+: emitted log :=
  earlier.filterMap _

/-- The bytes of a start of a list of chunks are a start of its bytes. -/
theorem flatten_prefix
    {earlier chunks : List Bytes}
    (start : earlier <+: chunks) :
    earlier.flatten <+: chunks.flatten := by
  obtain ⟨later, shape⟩ := start
  rw [← shape, List.flatten_append]
  exact List.prefix_append _ _

/--
What an opener may show of a sealed stream: at every moment whole chunks of the
plaintext from its start, and all of it only for the sealed stream itself.
-/
structure ReleasesGenuinePrefix
    (plaintext received : Bytes)
    (sealRun openRun : Trace StreamEvent DartThrow Unit) : Prop where
  chunks :
    ∀ moment,
      moment <+: openRun.log →
      emitted moment <+: (aeadCalls sealRun.log).map AeadCall.input
  bytes :
    ∀ moment,
      moment <+: openRun.log →
      (emitted moment).flatten <+: plaintext
  complete :
    openRun.outcome = .ok () →
      received = (emitted sealRun.log).flatten ∧
        (emitted openRun.log).flatten = plaintext

section Authenticity

variable {algorithm : PqAeadAlgorithm}
variable {key : Bytes}

/-- A `seal` that completed had a positive chunk size. -/
theorem PqForgeStream.positive_of_seal_ok
    {backend : PqForgeBackend}
    {source : List Bytes}
    {aad : Option Bytes}
    {chunkSize : Int64}
    (completed :
      (PqForgeStream.«seal» backend source key algorithm aad
        chunkSize).outcome = .ok ()) :
    0 < chunkSize.toInt := by
  by_contra notPositive
  rw [PqForgeStream.«seal», dif_neg notPositive] at completed
  cases completed

/--
Against an ideal AEAD, an opener of any chunk size fed any bytes in any cuts
releases only whole chunks from the start of the one plaintext that was sealed,
and completes only on the sealed stream.
-/
theorem open_releases_genuine_prefix
    {sealBackend openBackend : PqForgeBackend}
    {source received : List Bytes}
    {sealAad openAad : Option Bytes}
    {chunkSize openChunkSize : Int64}
    (completed :
      (PqForgeStream.«seal» sealBackend source key algorithm sealAad
        chunkSize).outcome = .ok ())
    (few :
      (emitted
        (PqForgeStream.«seal» sealBackend source key algorithm sealAad
          chunkSize).log).length < 2 ^ 63)
    (ideal :
      openBackend.IdealUnder algorithm key
        (aeadCalls
          (PqForgeStream.«seal» sealBackend source key algorithm sealAad
            chunkSize).log))
    (positive : 0 < openChunkSize.toInt)
    (bounded : openChunkSize.toInt ≤ 2 ^ 63 - 17) :
    ReleasesGenuinePrefix source.flatten received.flatten
      (PqForgeStream.«seal» sealBackend source key algorithm sealAad
        chunkSize)
      (PqForgeStream.«open» openBackend received key algorithm openAad
        openChunkSize) := by
  let sealing : PqForgeStream.StreamCall := {
    backend := sealBackend
    key := key
    algorithm := algorithm
    ad := sealAad.getD []
    chunkSize := chunkSize
    positive := PqForgeStream.positive_of_seal_ok completed }
  let opening : PqForgeStream.StreamCall := {
    backend := openBackend
    key := key
    algorithm := algorithm
    ad := openAad.getD []
    chunkSize := openChunkSize
    positive := positive }
  have sealShape :=
    PqForgeStream.seal_eq_flaggedRun sealing sealAad rfl source
  rw [sealShape] at completed few ideal ⊢
  rw [PqForgeStream.seal_emitted completed, length_flaggedMap] at few
  rw [PqForgeStream.seal_aeadCalls completed] at ideal
  have boundedCall : opening.Bounded := bounded
  have observed :=
    PqForgeStream.open_observe boundedCall openAad rfl received
  have outcome := congrArg Trace.outcome observed
  have log := congrArg Trace.log observed
  obtain ⟨released, accepted⟩ := Genuine.flaggedRun
    (PqForgeStream.openAt_releases opening)
    (PqForgeStream.openAt_genuine few ideal)
    (length_flaggedMap _ _ _) 0 (Nat.zero_le _)
    (blocks opening.frameSize received.flatten)
  have chunksReleased : ∀ moment,
      moment <+:
        (PqForgeStream.«open» openBackend received key algorithm openAad
          openChunkSize).log →
      emitted moment <+: blocks sealing.size source.flatten := by
    intro moment earlier
    rw [← log, List.drop_zero] at released
    exact (emitted_of_earlier earlier).trans released
  refine ⟨?_, ?_, ?_⟩
  · intro moment earlier
    rw [PqForgeStream.seal_aeadCalls completed,
      map_flaggedMap fun _ _ _ => rfl]
    exact chunksReleased moment earlier
  · intro moment earlier
    have start := flatten_prefix (chunksReleased moment earlier)
    rwa [blocks_flatten] at start
  · intro opened
    rw [Trace.observe_outcome] at outcome
    obtain ⟨sameFrames, sameChunks⟩ :=
      accepted (outcome.symm.trans opened) (blocks_ne_nil _ _)
    refine ⟨?_, ?_⟩
    · rw [PqForgeStream.seal_emitted completed,
        ← blocks_flatten opening.frameSize received.flatten, sameFrames]
      rfl
    · have chunks := log.trans sameChunks
      rw [List.drop_zero] at chunks
      have joined := congrArg List.flatten chunks
      rwa [blocks_flatten] at joined

/--
The stream of three bytes in chunks of two, cut short after its first frame,
read with a chunk size of its own.
-/
theorem open_releases_genuine_prefix_of_three :
    let key : Bytes := List.replicate 32 7
    let sealRun :=
      PqForgeStream.«seal» taggedAead.backend [[1], [], [2, 3]] key
        .aes256Gcm (some [9]) (Int64.ofNat 2)
    let received : List Bytes :=
      [(emitted sealRun.log).flatten.take 18, []]
    ReleasesGenuinePrefix [1, 2, 3] received.flatten sealRun
      (PqForgeStream.«open» (replayBackend (aeadCalls sealRun.log))
        received key .aes256Gcm (some [9]) (Int64.ofNat 5)) := by
  have few : (blocks 2 ([1, 2, 3] : Bytes)).length ≤ 2 :=
    length_blocks_le (by decide)
      (show ([1, 2, 3] : Bytes).length ≤ (1 + 1) * 2 by decide)
  obtain ⟨completed, frames⟩ := PqForgeStream.seal_frames
    (taggedAead.backend_sealsAs .aes256Gcm (List.replicate 32 7))
    (show 0 < 2 by decide) (by decide) [[1], [], [2, 3]]
    (Nat.le_trans few (by decide)) (some [9]) rfl
  refine
    open_releases_genuine_prefix
      completed ?_ (replayBackend_idealUnder _ _ _) (by decide)
      (by decide)
  rw [frames, StreamFormat.length_frames]
  exact Nat.lt_of_le_of_lt few (by decide)

end Authenticity

end PqForgeFfi
