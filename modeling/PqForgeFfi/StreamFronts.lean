import PqForgeFfi.Segmentation.SharedFront
import PqForgeFfi.StreamRoundTrip

namespace PqForgeFfi

open Segmentation

/-!
# Openers along one sealed stream

Against an AEAD that opens the frames of one sealing and nothing else, both
openers walk along the front that the received frames share with the sealed
ones, and stop at the first frame that is not the one sealed there.
-/

/--
The AEAD opens what one sealing made of the chunks, under the nonces and the
associated data of that sealing, and nothing else.
-/
def Aead.OpensOnly
    (aead : Aead)
    (ad : Bytes)
    (chunks : List Bytes) : Prop :=
  ∀ nonce aad frame chunk,
    nonce.length = 12 →
    (aead.openUnder nonce aad frame = some chunk ↔
      aad = ad ∧
        ∃ position,
          chunks[position]? = some chunk ∧
            nonce =
              StreamFormat.frameNonce position
                (decide (position + 1 = chunks.length)) ∧
            frame = aead.sealUnder nonce ad chunk)

/-- The chunks of a sealing, each by its nonce and its frame. -/
def Aead.sealing
    (aead : Aead)
    (ad : Bytes)
    (chunks : List Bytes) : List ((Bytes × Bytes) × Bytes) :=
  flaggedMap
    (fun position last chunk =>
      let nonce := StreamFormat.frameNonce position last
      ((nonce, aead.sealUnder nonce ad chunk), chunk))
    0 chunks

/-- The AEAD, made to open one sealing only. -/
def Aead.restricted
    (aead : Aead)
    (ad : Bytes)
    (chunks : List Bytes) : Aead where
  sealUnder := aead.sealUnder
  openUnder := fun nonce aad frame =>
    if aad = ad then
      (aead.sealing ad chunks).lookup (nonce, frame)
    else
      none

/-- An AEAD that is made to open one sealing only still appends its tags. -/
theorem Aead.AppendsTag.restricted
    {aead : Aead}
    (appendsTag : aead.AppendsTag)
    (ad : Bytes)
    (chunks : List Bytes) :
    (aead.restricted ad chunks).AppendsTag :=
  appendsTag

/-- A stream as one of the two sealers writes it. -/
inductive SealedStream
    (aead : Aead)
    (algorithm : PqAeadAlgorithm)
    (key ad : Bytes)
    (chunkSize : Nat)
    (plaintext : Bytes) :
    List Bytes → Prop where
  | dart
      {backend : PqForgeBackend}
      (seals : backend.SealsAs algorithm key aead)
      {source : List Bytes}
      (cuts : source.flatten = plaintext)
      {aad : Option Bytes}
      (associated : aad.getD [] = ad) :
      SealedStream aead algorithm key ad chunkSize plaintext
        (emitted
          (PqForgeStream.«seal» backend source key algorithm aad
            (Int64.ofNat chunkSize)).log)
  | native
      {aws : AwsLc}
      (sizes : aws.Sizes)
      (seals : aws.SealsAs algorithm key aead)
      {files : StreamFile.FileSystem}
      (call :
        StreamFile.FileCall files algorithm key ad
          (UInt64.ofNat chunkSize))
      (accepts : call.writer.Accepts)
      (serves : call.file.Serves plaintext) :
      SealedStream aead algorithm key ad chunkSize plaintext
        (emitted
          (StreamFile.pqforgeStreamSealFile aws files call.args).log)

/--
Both openers hand on the same pieces and stop at the same frame: at none, when
they succeed, or at one that is malformed or not authentic.
-/
structure OpenersStopAt
    (released : List Bytes)
    (stopped : Option Bytes)
    (dart : Trace StreamEvent DartThrow Unit)
    (native : StreamFile.NativeRun) : Prop where
  dartReleased : emitted dart.log = released
  nativeReleased : emitted native.log = released
  accepted :
    stopped = none →
    dart.outcome = .ok () ∧ native.code = PqForgeStatus.ok.code
  malformed :
    ∀ frame,
      stopped = some frame →
      frame.length < 16 →
      (∃ message,
          dart.outcome = .error (.ffi (.invalidCiphertext message))) ∧
        native.code = PqForgeStatus.invalidCiphertext.code
  unauthentic :
    ∀ frame,
      stopped = some frame →
      16 ≤ frame.length →
      (∃ message,
          dart.outcome = .error (.ffi (.verificationFailed message))) ∧
        native.code = PqForgeStatus.authFailed.code

/-! ## One frame -/

section Frames

variable {aead : Aead}
variable {ad aad : Bytes}
variable {chunks : List Bytes}

/-- A frame of the sealing is opened where it belongs. -/
theorem Aead.OpensOnly.opens
    (only : aead.OpensOnly ad chunks)
    {position : Nat}
    {chunk : Bytes}
    (present : chunks[position]? = some chunk) :
    let nonce :=
      StreamFormat.frameNonce position
        (decide (position + 1 = chunks.length))
    aead.openUnder nonce ad (aead.sealUnder nonce ad chunk) =
      some chunk :=
  (only _ _ _ _ (StreamFormat.length_frameNonce _ _)).mpr
    ⟨rfl, position, present, rfl, rfl⟩

/-- What is opened at a position is the frame of that position. -/
theorem Aead.OpensOnly.belongs
    (only : aead.OpensOnly ad chunks)
    (few : chunks.length < 2 ^ 64)
    {position : Nat}
    (inRange : position < 2 ^ 64)
    {last : Bool}
    {frame chunk : Bytes}
    (opened :
      aead.openUnder (StreamFormat.frameNonce position last) aad frame =
        some chunk) :
    aad = ad ∧
      chunks[position]? = some chunk ∧
      last = decide (position + 1 = chunks.length) ∧
      frame =
        aead.sealUnder (StreamFormat.frameNonce position last) ad
          chunk := by
  obtain ⟨sameAad, index, present, sameNonce, sameFrame⟩ :=
    (only _ _ _ _ (StreamFormat.length_frameNonce _ _)).mp opened
  obtain ⟨inBounds, _⟩ := List.getElem?_eq_some_iff.mp present
  obtain ⟨samePosition, sameFlag⟩ :=
    StreamFormat.frameNonce_injective inRange (by omega) sameNonce
  subst samePosition
  exact ⟨sameAad, present, sameFlag, sameFrame⟩

/-- A sealing holds the chunk of each position. -/
theorem Aead.mem_sealing_iff
    {aead : Aead}
    {nonce frame chunk : Bytes} :
    ((nonce, frame), chunk) ∈ aead.sealing ad chunks ↔
      ∃ position,
        chunks[position]? = some chunk ∧
          nonce =
            StreamFormat.frameNonce position
              (decide (position + 1 = chunks.length)) ∧
          frame = aead.sealUnder nonce ad chunk := by
  rw [List.mem_iff_getElem?, sealing]
  simp only [getElem?_flaggedMap, Nat.zero_add,
    Option.map_eq_some_iff, Prod.mk.injEq]
  constructor
  · rintro ⟨position, other, present, ⟨sameNonce, sameFrame⟩, same⟩
    subst same sameNonce
    exact ⟨position, present, rfl, sameFrame.symm⟩
  · rintro ⟨position, present, sameNonce, sameFrame⟩
    subst sameNonce
    exact ⟨position, chunk, present, ⟨rfl, sameFrame.symm⟩, rfl⟩

/-- The restricted AEAD opens that sealing and nothing else. -/
theorem Aead.restricted_opensOnly
    (aead : Aead)
    (few : chunks.length < 2 ^ 64) :
    (aead.restricted ad chunks).OpensOnly ad chunks := by
  have listed :
      ∀ {nonce frame chunk},
        (aead.sealing ad chunks).lookup (nonce, frame) = some chunk →
        ((nonce, frame), chunk) ∈ aead.sealing ad chunks := by
    intro nonce frame chunk found
    obtain ⟨earlier, later, shape, _⟩ :=
      List.lookup_eq_some_iff.mp found
    rw [shape]
    exact List.mem_append_right _ List.mem_cons_self
  intro nonce aad frame chunk nonceLength
  simp only [restricted]
  by_cases sameAad : aad = ad
  · rw [if_pos sameAad, and_iff_right sameAad, ← mem_sealing_iff]
    refine ⟨listed, fun member => ?_⟩
    cases found : (aead.sealing ad chunks).lookup (nonce, frame) with
    | none =>
        have missed := List.lookup_eq_none_iff.mp found _ member
        simp at missed
    | some other =>
        obtain ⟨position, present, sameNonce, _⟩ :=
          mem_sealing_iff.mp member
        obtain ⟨index, presentThere, otherNonce, _⟩ :=
          mem_sealing_iff.mp (listed found)
        obtain ⟨inBounds, _⟩ := List.getElem?_eq_some_iff.mp present
        obtain ⟨otherBounds, _⟩ :=
          List.getElem?_eq_some_iff.mp presentThere
        obtain ⟨rfl, _⟩ :=
          StreamFormat.frameNonce_injective (by omega) (by omega)
            (sameNonce.symm.trans otherNonce)
        exact presentThere.symm.trans present
  · rw [if_neg sameAad]
    exact
      iff_of_false (fun opened => by cases opened)
        fun genuine => sameAad genuine.1

end Frames

/-- An opener answers a frame as the AEAD does, and refuses short frames. -/
def AnswersAs
    {Refusal : Type}
    (aead : Aead)
    (aad : Bytes)
    (refuses : Bytes → Refusal → Prop)
    (openAt : Nat → Bool → Bytes → Trace Bytes Refusal Unit) : Prop :=
  ∀ position last frame,
    position < 2 ^ 63 →
    (last = false → 16 ≤ frame.length) →
    (∀ chunk,
      16 ≤ frame.length →
      aead.openUnder (StreamFormat.frameNonce position last) aad frame =
        some chunk →
      openAt position last frame = .record chunk) ∧
    ((16 ≤ frame.length →
        aead.openUnder (StreamFormat.frameNonce position last) aad frame =
          none) →
      ∃ refusal,
        refuses frame refusal ∧
          openAt position last frame = .fail refusal)

/-- How the Dart opener refuses a frame. -/
def PqForgeStream.Refuses
    (frame : Bytes)
    (thrown : DartThrow) : Prop :=
  if frame.length < 16 then
    ∃ message, thrown = .ffi (.invalidCiphertext message)
  else
    ∃ message, thrown = .ffi (.verificationFailed message)

/-- How the native opener refuses a frame. -/
def StreamFile.Refuses
    (frame : Bytes)
    (exit : Exit) : Prop :=
  exit =
    .returned
      (if frame.length < 16 then .invalidCiphertext else .authFailed)

section Answers

variable {aead : Aead}

/-- The Dart opener answers as its AEAD does. -/
theorem PqForgeStream.openAt_answersAs
    {call : StreamCall}
    (opens : call.backend.OpensAs call.algorithm call.key aead) :
    AnswersAs aead call.ad Refuses (openAt call) := by
  intro position last frame inRange long
  have nonceLength := StreamFormat.length_frameNonce position last
  have sameNonce :
      positionNonce position last =
        StreamFormat.frameNonce position last :=
    nonce_of_lt inRange last
  constructor
  · intro chunk enough opened
    rw [openAt_of_long call position fun _ => enough, sameNonce,
      opens.accepts _ _ _ _ nonceLength enough opened]
    rfl
  · intro refused
    by_cases short : frame.length < 16
    · have isLast : last = true := by
        by_contra notLast
        have := long (Bool.eq_false_iff.mpr notLast)
        omega
      subst isLast
      obtain ⟨message, failed⟩ := openAt_of_short call position short
      refine ⟨_, ?_, failed⟩
      rw [Refuses, if_pos short]
      exact ⟨message, rfl⟩
    · have enough := Nat.le_of_not_lt short
      obtain ⟨message, failed⟩ :=
        opens.refuses _ frame call.ad nonceLength enough (refused enough)
      refine ⟨.ffi (.verificationFailed message), ?_, ?_⟩
      · rw [Refuses, if_neg short]
        exact ⟨message, rfl⟩
      · rw [openAt_of_long call position fun _ => enough, sameNonce,
          failed]
        rfl

/-- The native opener answers as its AEAD does. -/
theorem StreamFile.openAt_answersAs
    {aws : AwsLc}
    (sizes : aws.Sizes)
    {job : StreamJob}
    (opens : aws.OpensAs job.key.algorithm job.key.key aead)
    (accepts : job.writer.Accepts) :
    AnswersAs aead job.ad Refuses (openAt aws job) := by
  intro position last frame inRange _
  have nonceLength := StreamFormat.length_frameNonce position last
  constructor
  · intro chunk enough opened
    rw [openAt, openAct_observe sizes accepts (by omega) last enough,
      opens _ _ _ nonceLength enough, opened]
    rfl
  · intro refused
    by_cases short : frame.length < 16
    · refine ⟨_, rfl, ?_⟩
      rw [openAt, openAct_of_short position last short, if_pos short]
      rfl
    · have enough := Nat.le_of_not_lt short
      refine ⟨_, rfl, ?_⟩
      rw [openAt, openAct_observe sizes accepts (by omega) last enough,
        opens _ _ _ nonceLength enough, refused enough, if_neg short]
      rfl

end Answers

/-! ## Whole streams -/

/-- The frames that blocks of a ciphertext share with the sealed ones. -/
def genuineFront
    (aad ad : Bytes)
    (received frames : List Bytes) : Nat :=
  if aad = ad then sharedFront received frames else 0

section Runs

variable {aead : Aead}
variable {ad aad : Bytes}
variable {Refusal : Type}
variable {refuses : Bytes → Refusal → Prop}
variable {openAt : Nat → Bool → Bytes → Trace Bytes Refusal Unit}

/-- Under the same associated data an opener opens along the sealed frames. -/
theorem AnswersAs.opensAlong
    (answers : AnswersAs aead ad refuses openAt)
    {chunks : List Bytes}
    (only : aead.OpensOnly ad chunks)
    (appendsTag : aead.AppendsTag)
    (few : chunks.length < 2 ^ 63)
    (openChunkSize : Nat)
    (bytes : Bytes) :
    OpensAlong openAt refuses 0 (blocks (openChunkSize + 16) bytes)
      ((StreamFormat.framesOf
        (fun nonce chunk => aead.sealUnder nonce ad chunk)
          chunks).zip chunks) := by
  intro index frame genuine present found last
  obtain ⟨genuineFrame, genuineChunk⟩ := genuine
  obtain ⟨frameHere, chunkHere⟩ := List.getElem?_zip_eq_some.mp found
  obtain ⟨inBounds, _⟩ := List.getElem?_eq_some_iff.mp chunkHere
  have lengths :
      ((StreamFormat.framesOf
        (fun nonce chunk => aead.sealUnder nonce ad chunk)
          chunks).zip chunks).length = chunks.length := by
    rw [List.length_zip, StreamFormat.framesOf, length_flaggedMap,
      Nat.min_self]
  have sealedHere :
      genuineFrame =
        aead.sealUnder
          (StreamFormat.frameNonce index
            (decide (index + 1 = chunks.length))) ad genuineChunk := by
    rw [StreamFormat.framesOf, getElem?_flaggedMap, chunkHere,
      Nat.zero_add] at frameHere
    exact (Option.some.inj frameHere).symm
  have long : last = false → 16 ≤ frame.length := by
    intro notLast
    have full := length_of_getElem?_blocks present
      (of_decide_eq_false notLast)
    omega
  obtain ⟨opens, rejects⟩ := answers index last frame (by omega) long
  rw [Nat.zero_add, lengths]
  split
  · rename_i belongs
    obtain ⟨sameFrame, sameFlag⟩ := belongs
    have opened := only.opens chunkHere
    dsimp only at opened
    rw [← sealedHere] at opened
    dsimp only at sameFrame
    refine opens genuineChunk ?_ ?_
    · rw [sameFrame, sealedHere,
        appendsTag _ _ _ (StreamFormat.length_frameNonce _ _)]
      exact Nat.le_add_left 16 _
    · rw [sameFrame, sameFlag]
      exact opened
  · rename_i foreign
    refine rejects fun _ => ?_
    rw [Option.eq_none_iff_forall_ne_some]
    intro chunk opened
    obtain ⟨_, here, sameFlag, sameFrame⟩ :=
      only.belongs (by omega) (by omega) opened
    obtain rfl : genuineChunk = chunk :=
      Option.some.inj (chunkHere.symm.trans here)
    refine foreign ⟨?_, sameFlag⟩
    rw [sameFrame, sealedHere, sameFlag]

/--
An opener releases the chunks of the frames that a ciphertext shares with the
sealed stream, and stops at the next frame.
-/
theorem AnswersAs.flaggedRun
    (answers : AnswersAs aead aad refuses openAt)
    {chunks : List Bytes}
    (someChunks : chunks ≠ [])
    (only : aead.OpensOnly ad chunks)
    (appendsTag : aead.AppendsTag)
    (few : chunks.length < 2 ^ 63)
    (openChunkSize : Nat)
    (bytes : Bytes) :
    let received := blocks (openChunkSize + 16) bytes
    let front :=
      genuineFront aad ad received
        (StreamFormat.framesOf
          (fun nonce chunk => aead.sealUnder nonce ad chunk) chunks)
    let run := Segmentation.flaggedRun openAt 0 received
    run.log = chunks.take front ∧
      StopsAt refuses received[front]? run.outcome := by
  intro received front run
  by_cases sameAad : aad = ad
  · subst sameAad
    have lengths :
        (StreamFormat.framesOf
          (fun nonce chunk => aead.sealUnder nonce aad chunk)
            chunks).length = chunks.length :=
      length_flaggedMap _ _ _
    have someKnown :
        (StreamFormat.framesOf
          (fun nonce chunk => aead.sealUnder nonce aad chunk)
            chunks).zip chunks ≠ [] := by
      rw [← List.length_pos_iff, List.length_zip, lengths, Nat.min_self]
      exact List.length_pos_iff.mpr someChunks
    have along :=
      (answers.opensAlong only appendsTag few openChunkSize
        bytes).flaggedRun someKnown
    rw [List.map_fst_zip (Nat.le_of_eq lengths),
      List.map_snd_zip (Nat.le_of_eq lengths.symm)] at along
    have sameFront :
        front =
          sharedFront received
            (StreamFormat.framesOf
              (fun nonce chunk => aead.sealUnder nonce aad chunk)
                chunks) :=
      if_pos rfl
    rw [sameFront]
    exact along
  · have nothing : front = 0 := if_neg sameAad
    obtain ⟨frame, rest, shape⟩ :=
      List.exists_cons_of_ne_nil (blocks_ne_nil (openChunkSize + 16) bytes)
    have present :
        (blocks (openChunkSize + 16) bytes)[0]? = some frame := by
      rw [shape]
      rfl
    have long :
        decide (1 = (frame :: rest).length) = false →
          16 ≤ frame.length := by
      intro notLast
      rw [← shape] at notLast
      have full := length_of_getElem?_blocks present
        (by simpa using of_decide_eq_false notLast)
      omega
    obtain ⟨_, rejects⟩ := answers 0 _ frame (by decide) long
    obtain ⟨refusal, refused, failed⟩ := rejects fun _ => by
      rw [Option.eq_none_iff_forall_ne_some]
      intro chunk opened
      exact sameAad
        (only.belongs (by omega) (by decide) opened).1
    have ran : run = .fail refusal := by
      show Segmentation.flaggedRun openAt 0 received = _
      rw [show received = frame :: rest from shape]
      exact flaggedRun_of_first failed
    have stopped : received[front]? = some frame := by
      rw [nothing]
      exact present
    rw [stopped, ran, nothing]
    exact ⟨rfl, refusal, refused, rfl⟩

end Runs

/-- Observed runs that stop at a frame are openers that stop there. -/
theorem OpenersStopAt.of_stops
    {dart : Trace StreamEvent DartThrow Unit}
    {native : StreamFile.NativeRun}
    {dartRun : Trace Bytes DartThrow Unit}
    {nativeRun : Trace Bytes Exit Unit}
    {released : List Bytes}
    {stopped : Option Bytes}
    (dartObserved : dart.observe StreamEvent.emitted? = dartRun)
    (nativeCode :
      native.code =
        (StreamFile.endStatus
          (nativeRun.outcome.map fun _ => PqForgeStatus.ok)).code)
    (nativeLog : emitted native.log = nativeRun.log)
    (dartFront : dartRun.log = released)
    (nativeFront : nativeRun.log = released)
    (dartStops :
      StopsAt PqForgeStream.Refuses stopped dartRun.outcome)
    (nativeStops :
      StopsAt StreamFile.Refuses stopped nativeRun.outcome) :
    OpenersStopAt released stopped dart native := by
  subst dartObserved
  rw [Trace.observe_outcome] at dartStops
  refine ⟨dartFront, nativeLog.trans nativeFront, ?_, ?_, ?_⟩
  · intro none
    subst none
    refine ⟨dartStops, ?_⟩
    rw [nativeCode, show nativeRun.outcome = .ok () from nativeStops]
    rfl
  · intro frame some short
    subst some
    obtain ⟨thrown, refused, ended⟩ := dartStops
    obtain ⟨exit, nativeRefused, nativeEnded⟩ := nativeStops
    rw [PqForgeStream.Refuses, if_pos short] at refused
    rw [StreamFile.Refuses, if_pos short] at nativeRefused
    obtain ⟨message, shape⟩ := refused
    subst shape nativeRefused
    refine ⟨⟨message, ended⟩, ?_⟩
    rw [nativeCode, nativeEnded]
    rfl
  · intro frame some enough
    subst some
    obtain ⟨thrown, refused, ended⟩ := dartStops
    obtain ⟨exit, nativeRefused, nativeEnded⟩ := nativeStops
    rw [PqForgeStream.Refuses, if_neg (Nat.not_lt_of_le enough)]
      at refused
    rw [StreamFile.Refuses, if_neg (Nat.not_lt_of_le enough)]
      at nativeRefused
    obtain ⟨message, shape⟩ := refused
    subst shape nativeRefused
    refine ⟨⟨message, ended⟩, ?_⟩
    rw [nativeCode, nativeEnded]
    rfl

section Sealed

variable {aead : Aead}
variable {algorithm : PqAeadAlgorithm}
variable {key ad : Bytes}
variable {chunkSize : Nat}
variable {plaintext : Bytes}

/-- Either sealer writes the frames of the format. -/
theorem SealedStream.eq_frames
    {frames : List Bytes}
    (positive : 0 < chunkSize)
    (small : chunkSize < 2 ^ 63)
    (few : (blocks chunkSize plaintext).length < 2 ^ 63)
    (sealed :
      SealedStream aead algorithm key ad chunkSize plaintext frames) :
    frames =
      StreamFormat.frames
        (fun nonce chunk => aead.sealUnder nonce ad chunk)
        chunkSize plaintext := by
  cases sealed with
  | dart seals cuts associated =>
      subst cuts
      exact
        (PqForgeStream.seal_frames seals positive small _
          (Nat.le_of_lt few) _ associated).2
  | native sizes seals call accepts serves =>
      exact
        (StreamFile.seal_frames sizes seals small call accepts serves
          (by omega)).2

/-- The blocks of a ciphertext as it arrives with an opening chunk size. -/
abbrev receivedFrames
    (openChunkSize : Nat)
    (ciphertext : Bytes) : List Bytes :=
  blocks (openChunkSize + 16) ciphertext

/--
Both openers release the chunks of the front that a ciphertext shares with the
sealed frames, and stop at the next frame.
-/
theorem openers_stopAt_front
    (appendsTag : aead.AppendsTag)
    (few : (blocks chunkSize plaintext).length < 2 ^ 63)
    (only : aead.OpensOnly ad (blocks chunkSize plaintext))
    {backend : PqForgeBackend}
    (dartOpens : backend.OpensAs algorithm key aead)
    {aws : AwsLc}
    (sizes : aws.Sizes)
    (nativeOpens : aws.OpensAs algorithm key aead)
    {openChunkSize : Nat}
    (positive : 0 < openChunkSize)
    (limited : openChunkSize + 16 ≤ 2 ^ 63 - 1)
    {ciphertext : Bytes}
    {source : List Bytes}
    (cuts : source.flatten = ciphertext)
    {openAd : Bytes}
    {aad : Option Bytes}
    (associated : aad.getD [] = openAd)
    {files : StreamFile.FileSystem}
    (call :
      StreamFile.FileCall files algorithm key openAd
        (UInt64.ofNat openChunkSize))
    (accepts : call.writer.Accepts)
    (serves : call.file.Serves ciphertext) :
    let received := receivedFrames openChunkSize ciphertext
    let front :=
      genuineFront openAd ad received
        (StreamFormat.frames
          (fun nonce chunk => aead.sealUnder nonce ad chunk)
          chunkSize plaintext)
    OpenersStopAt ((blocks chunkSize plaintext).take front)
      received[front]?
      (PqForgeStream.«open» backend source key algorithm aad
        (Int64.ofNat openChunkSize))
      (StreamFile.pqforgeStreamOpenFile aws files call.args) := by
  have value : (UInt64.ofNat openChunkSize).toNat = openChunkSize := by
    rw [UInt64.toNat_ofNat']
    omega
  have allocatable :
      (UInt64.ofNat openChunkSize).toNat + 16 ≤ isizeMax := by
    rw [value, isizeMax]
    omega
  have dartObserved := PqForgeStream.open_observe
    (PqForgeStream.StreamCall.bounded_ofNat backend algorithm key openAd
      positive limited)
    aad associated source
  rw [PqForgeStream.StreamCall.frameSize,
    PqForgeStream.StreamCall.size_ofNat, cuts] at dartObserved
  obtain ⟨nativeCode, nativeLog⟩ :=
    StreamFile.pqforgeStreamOpenFile_serving sizes call accepts serves
      allocatable
  rw [value] at nativeCode nativeLog
  have dartOpensCall :
      (PqForgeStream.StreamCall.ofNat backend algorithm key openAd
        positive (by omega)).backend.OpensAs algorithm key aead :=
    dartOpens
  have nativeOpensJob :
      aws.OpensAs call.job.key.algorithm call.job.key.key aead :=
    nativeOpens
  obtain ⟨dartFront, dartStops⟩ :=
    (PqForgeStream.openAt_answersAs dartOpensCall).flaggedRun
      (blocks_ne_nil _ _) only appendsTag few openChunkSize ciphertext
  obtain ⟨nativeFront, nativeStops⟩ :=
    (StreamFile.openAt_answersAs sizes nativeOpensJob accepts).flaggedRun
      (blocks_ne_nil _ _) only appendsTag few openChunkSize ciphertext
  exact
    .of_stops dartObserved nativeCode nativeLog dartFront nativeFront
      dartStops nativeStops

end Sealed

end PqForgeFfi
