import PqForgeFfi.AeadContract
import PqForgeFfi.DartFraming
import PqForgeFfi.FileCall

namespace PqForgeFfi

open Segmentation

/-!
# Runs over one AEAD

What both streams hand on, chunk by chunk, when their AEAD calls compute one
abstract AEAD.  The events that are not handed on are hidden, so the two
implementations become runs over the same blocks with the same images.
-/

/-- Hand on the answer of an AEAD call, or end with its error. -/
def handOn
    {Error : Type}
    (answer : Except Error Bytes) :
    Trace Bytes Error Unit :=
  match answer with
  | .ok piece => .record piece
  | .error error => .fail error

namespace PqForgeStream

/-- The byte loop writes into a buffer of fixed length. -/
theorem length_nonceLoop
    (nonce : Bytes)
    (room : Nat)
    (counter : Int) :
    (nonceLoop nonce room counter).length = nonce.length := by
  induction room generalizing nonce counter with
  | zero =>
      rfl
  | succ room inductionHypothesis =>
      rw [nonceLoop]
      split
      · rw [inductionHypothesis, List.length_set]
      · rfl

theorem length_nonce
    (counter : Int64)
    (last : Bool)
    (nonceBytes : Nat) :
    (nonce counter last nonceBytes).length = nonceBytes := by
  rw [nonce, List.length_set, length_nonceLoop, List.length_replicate]

/-- The nonce that the Dart stream uses at a position. -/
def positionNonce
    (position : Nat)
    (last : Bool) :
    Bytes :=
  nonce (Int64.ofNat position) last 12

@[simp] theorem length_positionNonce
    (position : Nat)
    (last : Bool) :
    (positionNonce position last).length = 12 :=
  length_nonce _ _ _

/-- What `seal` hands on at a position. -/
theorem sealAct_observe
    (call : StreamCall)
    (position : Nat)
    (last : Bool)
    (chunk : Bytes) :
    (sealAct call position last chunk).observe StreamEvent.emitted? =
      handOn
        (call.backend.aeadSeal call.algorithm call.key
          (positionNonce position last) chunk call.ad) := by
  simp only [sealAct, yieldSeal, aeadCall,
    PqAeadAlgorithm.nonceBytes_eq, positionNonce]
  cases call.backend.aeadSeal call.algorithm call.key
    (nonce (Int64.ofNat position) last 12) chunk call.ad <;> rfl

/-- What `open` hands on for a frame. -/
theorem yieldOpen_observe
    (call : StreamCall)
    (position : Nat)
    (last : Bool)
    (frame : Bytes) :
    (yieldOpen call frame (Int64.ofNat position) last).observe
        StreamEvent.emitted? =
      handOn
        (call.backend.aeadOpen call.algorithm call.key
          (positionNonce position last) frame call.ad) := by
  simp only [yieldOpen, aeadCall,
    PqAeadAlgorithm.nonceBytes_eq, positionNonce]
  cases call.backend.aeadOpen call.algorithm call.key
    (nonce (Int64.ofNat position) last 12) frame call.ad <;> rfl

/-- What `open` hands on at a position. -/
def openAt
    (call : StreamCall)
    (position : Nat)
    (last : Bool)
    (frame : Bytes) :
    Trace Bytes DartThrow Unit :=
  (openAct call position last frame).observe StreamEvent.emitted?

/-- A final frame that cannot hold a tag is refused as malformed. -/
theorem openAt_of_short
    (call : StreamCall)
    (position : Nat)
    {frame : Bytes}
    (short : frame.length < 16) :
    ∃ message,
      openAt call position true frame =
        .fail (.ffi (.invalidCiphertext message)) := by
  rw [openAt, openAct, if_pos rfl, openFinal]
  split
  · exact ⟨_, rfl⟩
  · rw [PqAeadAlgorithm.tagBytes_eq, if_pos short]
    exact ⟨_, rfl⟩

/-- Every other frame is handed to the backend. -/
theorem openAt_of_long
    (call : StreamCall)
    (position : Nat)
    {last : Bool}
    {frame : Bytes}
    (long : last = true → 16 ≤ frame.length) :
    openAt call position last frame =
      handOn
        (call.backend.aeadOpen call.algorithm call.key
          (positionNonce position last) frame call.ad) := by
  cases last with
  | false =>
      exact yieldOpen_observe call position false frame
  | true =>
      have enough := long rfl
      have nonempty : frame.isEmpty = false := by
        cases frame with
        | nil =>
            cases enough
        | cons byte more =>
            rfl
      have notShort :
          ¬ frame.length < call.algorithm.tagBytes := by
        rw [PqAeadAlgorithm.tagBytes_eq]
        omega
      rw [openAt, openAct, if_pos rfl, openFinal, nonempty]
      simp only [Bool.not_false, Bool.not_true, Bool.false_eq_true,
        ↓reduceIte, notShort]
      exact yieldOpen_observe call position true frame

/-- At every position `open` hands on one chunk or throws. -/
theorem openAt_releases (call : StreamCall) :
    ReleasesOrRefuses (openAt call) := by
  intro position last frame
  by_cases long : last = true → 16 ≤ frame.length
  · rw [openAt_of_long call position long]
    cases call.backend.aeadOpen call.algorithm call.key
        (positionNonce position last) frame call.ad with
    | ok chunk =>
        exact .inl ⟨chunk, rfl⟩
    | error thrown =>
        exact .inr ⟨thrown, rfl⟩
  · simp only [Classical.not_imp, Nat.not_le] at long
    obtain ⟨isLast, short⟩ := long
    subst isLast
    obtain ⟨message, refused⟩ := openAt_of_short call position short
    exact .inr ⟨_, refused⟩

/-- What `open` hands on, and how it ends. -/
theorem open_observe
    {call : StreamCall}
    (bounded : call.Bounded)
    (aad : Option Bytes)
    (associated : aad.getD [] = call.ad)
    (source : List Bytes) :
    («open» call.backend source call.key call.algorithm aad
        call.chunkSize).observe StreamEvent.emitted? =
      flaggedRun (openAt call) 0
        (blocks call.frameSize source.flatten) := by
  rw [open_eq_flaggedRun bounded aad associated source,
    observe_flaggedRun]
  rfl

/-- The frame of a chunk at a position. -/
def frameAt
    (aead : Aead)
    (ad : Bytes)
    (position : Nat)
    (last : Bool)
    (chunk : Bytes) :
    Bytes :=
  aead.sealUnder (positionNonce position last) ad chunk

/-- What `seal` hands on, and that it completes. -/
theorem seal_observe
    {call : StreamCall}
    {aead : Aead}
    (seals : call.backend.SealsAs call.algorithm call.key aead)
    (aad : Option Bytes)
    (associated : aad.getD [] = call.ad)
    (source : List Bytes) :
    («seal» call.backend source call.key call.algorithm aad
        call.chunkSize).observe StreamEvent.emitted? =
      ⟨flaggedMap (frameAt aead call.ad) 0
        (blocks call.size source.flatten), .ok ()⟩ := by
  rw [seal_eq_flaggedRun call aad associated source,
    observe_flaggedRun]
  refine flaggedRun_record fun index _ flag chunk _ => ?_
  rw [sealAct_observe, seals _ _ _ (length_positionNonce _ _)]
  rfl

/-- The call with a given chunk size. -/
def StreamCall.ofNat
    (backend : PqForgeBackend)
    (algorithm : PqAeadAlgorithm)
    (key ad : Bytes)
    {chunkSize : Nat}
    (positive : 0 < chunkSize)
    (small : chunkSize < 2 ^ 63) :
    StreamCall where
  backend := backend
  key := key
  algorithm := algorithm
  ad := ad
  chunkSize := Int64.ofNat chunkSize
  positive := by
    rw [Int64.toInt_ofNat_of_lt small]
    omega

@[simp] theorem StreamCall.size_ofNat
    (backend : PqForgeBackend)
    (algorithm : PqAeadAlgorithm)
    (key ad : Bytes)
    {chunkSize : Nat}
    (positive : 0 < chunkSize)
    (small : chunkSize < 2 ^ 63) :
    (ofNat backend algorithm key ad positive small).size =
      chunkSize := by
  show (Int64.ofNat chunkSize).toInt.toNat = chunkSize
  rw [Int64.toInt_ofNat_of_lt small, Int.toNat_natCast]

/-- The frame size of such a call is an `int` for all but the largest chunks. -/
theorem StreamCall.bounded_ofNat
    (backend : PqForgeBackend)
    (algorithm : PqAeadAlgorithm)
    (key ad : Bytes)
    {chunkSize : Nat}
    (positive : 0 < chunkSize)
    (limited : chunkSize + 16 ≤ 2 ^ 63 - 1) :
    (ofNat backend algorithm key ad positive (by omega)).Bounded := by
  show (Int64.ofNat chunkSize).toInt ≤ 2 ^ 63 - 17
  rw [Int64.toInt_ofNat_of_lt (by omega)]
  omega

/-- Up to `2^63` frames, the frames are those of the format. -/
theorem flaggedMap_frameAt
    (aead : Aead)
    (ad : Bytes)
    {chunkSize : Nat}
    {plaintext : Bytes}
    (few : (blocks chunkSize plaintext).length ≤ 2 ^ 63) :
    flaggedMap (frameAt aead ad) 0 (blocks chunkSize plaintext) =
      StreamFormat.frames
        (fun nonce chunk => aead.sealUnder nonce ad chunk)
        chunkSize plaintext := by
  refine flaggedMap_congr fun index chunk present => ?_
  obtain ⟨inBounds, _⟩ := List.getElem?_eq_some_iff.mp present
  rw [frameAt, positionNonce, nonce_of_lt (by omega)]

end PqForgeStream

namespace StreamFile

/-- What one AEAD call followed by a write hands on. -/
theorem aeadCall_writeAll_observe
    {writer : BufWriter}
    (accepts : writer.Accepts)
    (key : LessSafeKey)
    (operation :
      PqAeadAlgorithm →
        (key nonce aad input : Bytes) →
        Option Bytes)
    (nonce aad input : Bytes)
    (failure : PqForgeError)
    (counter : UInt64) :
    (aeadCall key operation nonce aad input failure >>= fun output =>
        writeAll writer counter output).observe StreamEvent.emitted? =
      match operation key.algorithm key.key nonce aad input with
      | some output => .record output
      | none => .fail failure := by
  simp only [aeadCall, writeAll, accepts.writeAll]
  cases operation key.algorithm key.key nonce aad input <;> rfl

/-- Before the counter overflows it is stepped. -/
theorem nextCounter_of_lt
    {position : Nat}
    (inRange : position + 1 < 2 ^ 64) :
    nextCounter (UInt64.ofNat position) =
      .done (UInt64.ofNat position + 1) := by
  have value : (UInt64.ofNat position).toNat = position := by
    rw [UInt64.toNat_ofNat']
    omega
  rw [nextCounter, value, if_pos inRange]

/-- A counter that was stepped had room. -/
theorem nextCounter_returned
    {position : Nat}
    {next : UInt64}
    (inRange : position < 2 ^ 64)
    (returned :
      (nextCounter (UInt64.ofNat position)).outcome = .ok next) :
    position + 1 < 2 ^ 64 := by
  have value : (UInt64.ofNat position).toNat = position := by
    rw [UInt64.toNat_ofNat']
    omega
  by_contra noRoom
  rw [nextCounter, value, if_neg noRoom] at returned
  cases returned

/-- An AEAD call and a write that returned hand on the output of the call. -/
theorem aeadCall_writeAll_returned
    {writer : BufWriter}
    {key : LessSafeKey}
    {operation :
      PqAeadAlgorithm →
        (key nonce aad input : Bytes) →
        Option Bytes}
    {nonce aad input : Bytes}
    {failure : PqForgeError}
    {counter : UInt64}
    (returned :
      (aeadCall key operation nonce aad input failure >>= fun output =>
          writeAll writer counter output).outcome = .ok ()) :
    ∃ output,
      operation key.algorithm key.key nonce aad input = some output ∧
        (aeadCall key operation nonce aad input failure >>= fun output =>
            writeAll writer counter output).log =
          [.aead {
              algorithm := key.algorithm
              key := key.key
              nonce := nonce
              associated := aad
              input := input
              output := some output },
            .emit output] := by
  cases answer : operation key.algorithm key.key nonce aad input with
  | none =>
      simp only [aeadCall, answer] at returned
      cases returned
  | some output =>
      refine ⟨output, rfl, ?_⟩
      simp only [aeadCall, answer, writeAll]
      cases (writer.writeAll counter.toNat).mapError PqForgeError.io <;>
        rfl

/-- The AEAD call of an act at a position. -/
def actCall
    (job : StreamJob)
    (position : Nat)
    (last : Bool)
    (input output : Bytes) :
    AeadCall where
  algorithm := job.key.algorithm
  key := job.key.key
  nonce := StreamFormat.frameNonce position last
  associated := job.ad
  input := input
  output := some output

/-- What an act that returned has recorded: its AEAD call and its piece. -/
def actLog
    (job : StreamJob)
    (position : Nat)
    (last : Bool)
    (input output : Bytes) :
    List StreamEvent :=
  [.aead (actCall job position last input output), .emit output]

section Acts

variable {aws : AwsLc}
variable {job : StreamJob}
variable {aead : Aead}

/-- What the sealing loop hands on at a position. -/
theorem sealAct_observe
    (sizes : aws.Sizes)
    (accepts : job.writer.Accepts)
    (seals : aws.SealsAs job.key.algorithm job.key.key aead)
    {position : Nat}
    (inRange : position + 1 < 2 ^ 64)
    (last : Bool)
    (chunk : Bytes) :
    (sealAct aws job position last chunk).observe StreamEvent.emitted? =
      .record
        (aead.sealUnder (StreamFormat.frameNonce position last)
          job.ad chunk) := by
  have nonceLength := StreamFormat.length_frameNonce position last
  rw [sealAct, nextCounter_of_lt inRange, sealFrame,
    streamNonce_ofNat (by omega),
    sizes.tryAssumeUniqueForKey nonceLength, Trace.observe_bind,
    Trace.observe_mapError]
  dsimp only
  rw [aeadCall_writeAll_observe accepts, seals _ _ _ nonceLength]
  rfl

/-- A frame that cannot hold a tag is refused as malformed. -/
theorem openAct_of_short
    (position : Nat)
    (last : Bool)
    {frame : Bytes}
    (short : frame.length < 16) :
    openAct aws job position last frame =
      .fail (.returned .invalidCiphertext) := by
  rw [openAct, tagLen, if_pos short]

/-- Hand on what the library opened, or end with `AuthFailed`. -/
def handOnOpened (answer : Option Bytes) : Trace Bytes Exit Unit :=
  match answer with
  | some chunk => .record chunk
  | none => .fail (.returned .authFailed)

/-- What the opening loop hands on for every other frame. -/
theorem openAct_observe
    (sizes : aws.Sizes)
    (accepts : job.writer.Accepts)
    {position : Nat}
    (inRange : position + 1 < 2 ^ 64)
    (last : Bool)
    {frame : Bytes}
    (long : 16 ≤ frame.length) :
    (openAct aws job position last frame).observe StreamEvent.emitted? =
      handOnOpened
        (aws.openInPlace job.key.algorithm job.key.key
          (StreamFormat.frameNonce position last) job.ad frame) := by
  have nonceLength := StreamFormat.length_frameNonce position last
  rw [openAct, tagLen, if_neg (Nat.not_lt_of_le long),
    nextCounter_of_lt inRange, openFrame,
    streamNonce_ofNat (by omega),
    sizes.tryAssumeUniqueForKey nonceLength, Trace.observe_bind,
    Trace.observe_mapError]
  dsimp only
  rw [aeadCall_writeAll_observe accepts]
  cases aws.openInPlace job.key.algorithm job.key.key
    (StreamFormat.frameNonce position last) job.ad frame <;> rfl

/-- What the sealing loop hands on for a list of chunks. -/
theorem flaggedRun_sealAct_observe
    (sizes : aws.Sizes)
    (accepts : job.writer.Accepts)
    (seals : aws.SealsAs job.key.algorithm job.key.key aead)
    {chunks : List Bytes}
    (few : chunks.length < 2 ^ 64) :
    (flaggedRun (sealAct aws job) 0 chunks).observe
        StreamEvent.emitted? =
      ⟨flaggedMap
        (fun position last chunk =>
          aead.sealUnder (StreamFormat.frameNonce position last)
            job.ad chunk)
        0 chunks, .ok ()⟩ := by
  rw [observe_flaggedRun]
  refine flaggedRun_record fun index inBounds flag chunk _ => ?_
  exact sealAct_observe sizes accepts seals (by omega) flag chunk

/-- A call with the counter behind it that returned shows the call's output. -/
theorem counted_returned
    {position : Nat}
    (inRange : position < 2 ^ 64)
    {change : PqForgeError → Exit}
    {call : Trace StreamEvent PqForgeError Unit}
    (returned :
      (call.mapError change >>= fun _ =>
        (nextCounter (UInt64.ofNat position)).mapError Exit.failed >>=
          fun _ => Trace.done ()).outcome = .ok ()) :
    position + 1 < 2 ^ 64 ∧
      call.outcome = .ok () ∧
      (call.mapError change >>= fun _ =>
        (nextCounter (UInt64.ofNat position)).mapError Exit.failed >>=
          fun _ => Trace.done ()).log = call.log := by
  obtain ⟨_, called, counted, joined⟩ := Trace.bind_eq_ok returned
  obtain ⟨_, stepped, _, counterLog⟩ := Trace.bind_eq_ok counted
  refine
    ⟨nextCounter_returned inRange (mapError_eq_ok stepped),
      mapError_eq_ok called, ?_⟩
  rw [joined, counterLog, Trace.mapError_log, Trace.mapError_log,
    nextCounter_log]
  exact List.append_nil call.log

/-- A sealing act that returned has recorded what the library sealed. -/
theorem sealAct_returned
    (sizes : aws.Sizes)
    {position : Nat}
    (inRange : position < 2 ^ 64)
    {last : Bool}
    {chunk : Bytes}
    (returned : (sealAct aws job position last chunk).outcome = .ok ()) :
    position + 1 < 2 ^ 64 ∧
      ∃ frame,
        aws.sealInPlaceAppendTag job.key.algorithm job.key.key
            (StreamFormat.frameNonce position last) job.ad chunk =
          some frame ∧
        (sealAct aws job position last chunk).log =
          actLog job position last chunk frame := by
  have nonceLength := StreamFormat.length_frameNonce position last
  obtain ⟨room, called, log⟩ := counted_returned inRange returned
  refine ⟨room, ?_⟩
  rw [sealAct, log]
  rw [sealFrame, streamNonce_ofNat inRange,
    sizes.tryAssumeUniqueForKey nonceLength] at called ⊢
  exact aeadCall_writeAll_returned called

/-- An opening act that returned has recorded what the library opened. -/
theorem openAct_returned
    (sizes : aws.Sizes)
    {position : Nat}
    (inRange : position < 2 ^ 64)
    {last : Bool}
    {frame : Bytes}
    (returned : (openAct aws job position last frame).outcome = .ok ()) :
    position + 1 < 2 ^ 64 ∧
      16 ≤ frame.length ∧
      ∃ chunk,
        aws.openInPlace job.key.algorithm job.key.key
            (StreamFormat.frameNonce position last) job.ad frame =
          some chunk ∧
        (openAct aws job position last frame).log =
          actLog job position last frame chunk := by
  have nonceLength := StreamFormat.length_frameNonce position last
  by_cases short : frame.length < 16
  · rw [openAct_of_short position last short] at returned
    cases returned
  · have long : ¬ frame.length < tagLen := short
    rw [openAct, if_neg long] at returned ⊢
    obtain ⟨room, called, log⟩ := counted_returned inRange returned
    refine ⟨room, by omega, ?_⟩
    rw [log]
    rw [openFrame, streamNonce_ofNat inRange,
      sizes.tryAssumeUniqueForKey nonceLength] at called ⊢
    exact aeadCall_writeAll_returned called

/-- A run whose acts all step the counter is shorter than `2^64` acts. -/
theorem length_lt_of_counted
    {act : Nat → Bool → Bytes → Trace StreamEvent Exit Unit}
    (counts :
      ∀ position last item,
        position < 2 ^ 64 →
        (act position last item).outcome = .ok () →
        position + 1 < 2 ^ 64)
    {items : List Bytes}
    (returned : (flaggedRun act 0 items).outcome = .ok ()) :
    items.length < 2 ^ 64 := by
  by_contra many
  have inBounds : 2 ^ 64 - 1 < items.length := by
    omega
  have here := (flaggedRun_eq_ok returned).2 (2 ^ 64 - 1)
    items[2 ^ 64 - 1] (List.getElem?_eq_getElem inBounds)
  rw [Nat.zero_add] at here
  exact absurd (counts _ _ _ (by decide) here) (by decide)

end Acts

section Runs

variable {aws : AwsLc}
variable {files : FileSystem}
variable {algorithm : PqAeadAlgorithm}
variable {key ad : Bytes}
variable {chunkSize : UInt64}
variable {aead : Aead}

/-- Hiding the reads, then all but the pieces, shows the pieces. -/
theorem observe_emitted_produced
    {Error Result : Type}
    (trace : Trace StreamEvent Error Result) :
    (trace.observe StreamEvent.produced?).observe StreamEvent.emitted? =
      trace.observe StreamEvent.emitted? :=
  Trace.ext (emitted_produced trace.log) rfl

/-- A writer that never fails is flushed. -/
theorem flush_of_accepts
    {writer : BufWriter}
    (accepts : writer.Accepts) :
    flush writer = .done .ok := by
  rw [flush, accepts.flush]
  rfl

/-- What sealing hands on of the blocks that it finds, and its status. -/
theorem pqforgeStreamSealFile_found
    (sizes : aws.Sizes)
    (seals : aws.SealsAs algorithm key aead)
    (call : FileCall files algorithm key ad chunkSize)
    (accepts : call.writer.Accepts)
    (allocatable : chunkSize.toNat ≤ isizeMax)
    {blocksRead : List Bytes}
    (found :
      readBlocks chunkSize.toNat (File.deliveries call.file) =
        .ok blocksRead)
    (few : (sealedChunks blocksRead).length < 2 ^ 64) :
    (pqforgeStreamSealFile aws files call.args).code =
        PqForgeStatus.ok.code ∧
      emitted (pqforgeStreamSealFile aws files call.args).log =
        StreamFormat.framesOf
          (fun nonce chunk => aead.sealUnder nonce ad chunk)
          (sealedChunks blocksRead) := by
  have foundByJob :
      readBlocks chunkSize.toNat
          (ScheduledRead.deliveries call.job.reader) =
        .ok blocksRead := found
  have flushed : flush call.job.writer = .done .ok :=
    flush_of_accepts accepts
  have observed :
      (sealBody aws call.job chunkSize.toNat).observe
          StreamEvent.emitted? =
        ⟨StreamFormat.framesOf
            (fun nonce chunk => aead.sealUnder nonce ad chunk)
            (sealedChunks blocksRead), .ok .ok⟩ := by
    rw [← observe_emitted_produced,
      sealBody_observe aws allocatable foundByJob,
      observe_emitted_produced, flushed, Trace.observe_bind,
      flaggedRun_sealAct_observe sizes accepts seals few]
    exact Trace.bind_done_const _ _
  have outcome := congrArg Trace.outcome observed
  have log := congrArg Trace.log observed
  rw [Trace.observe_outcome] at outcome
  rw [pqforgeStreamSealFile_eq sizes call, exported_code, outcome]
  exact ⟨rfl, log⟩

/-- What sealing a file that serves bytes hands on, and its status. -/
theorem pqforgeStreamSealFile_serving
    (sizes : aws.Sizes)
    (seals : aws.SealsAs algorithm key aead)
    (call : FileCall files algorithm key ad chunkSize)
    (accepts : call.writer.Accepts)
    {bytes : Bytes}
    (serves : call.file.Serves bytes)
    (allocatable : chunkSize.toNat ≤ isizeMax)
    (few : (blocks chunkSize.toNat bytes).length < 2 ^ 64) :
    (pqforgeStreamSealFile aws files call.args).code =
        PqForgeStatus.ok.code ∧
      emitted (pqforgeStreamSealFile aws files call.args).log =
        StreamFormat.frames
          (fun nonce chunk => aead.sealUnder nonce ad chunk)
          chunkSize.toNat bytes := by
  have positive : 0 < chunkSize.toNat :=
    Nat.pos_of_ne_zero fun isZero =>
      call.positive (UInt64.toNat_inj.mp isZero)
  have chunks := sealedChunks_serving chunkSize.toNat bytes
  have run := pqforgeStreamSealFile_found sizes seals call accepts
    allocatable (readBlocks_serving serves positive) (by rwa [chunks])
  rwa [chunks] at run

/-- What the opening loop hands on at a position. -/
def openAt
    (aws : AwsLc)
    (job : StreamJob)
    (position : Nat)
    (last : Bool)
    (frame : Bytes) :
    Trace Bytes Exit Unit :=
  (openAct aws job position last frame).observe StreamEvent.emitted?

/-- The frame size of a call, unless it wraps. -/
theorem cipherChunk_toNat
    (small : chunkSize.toNat + 16 < 2 ^ 64) :
    (chunkSize + UInt64.ofNat tagLen).toNat = chunkSize.toNat + 16 := by
  have tag : (UInt64.ofNat tagLen).toNat = 16 := rfl
  rw [UInt64.toNat_add, tag, Nat.mod_eq_of_lt small]

/-- Opening a file that fails within its bytes fails. -/
theorem pqforgeStreamOpenFile_of_failing
    (sizes : aws.Sizes)
    (call : FileCall files algorithm key ad chunkSize)
    (allocatable : chunkSize.toNat + 16 ≤ isizeMax)
    {bytes : Bytes}
    (fails : call.file.FailsWithin bytes) :
    (pqforgeStreamOpenFile aws files call.args).code ≠
      PqForgeStatus.ok.code := by
  have small : chunkSize.toNat + 16 < 2 ^ 64 := by
    rw [isizeMax] at allocatable
    omega
  rw [pqforgeStreamOpenFile_eq sizes call, cipherChunk_toNat small]
  intro returnsOk
  have completed :=
    exported_eq_ok (openBody_failsAs aws call.job _) returnsOk
  obtain ⟨reason, failed⟩ :=
    readBlocks_failing fails (Nat.succ_pos (chunkSize.toNat + 15))
  exact openBody_of_error allocatable failed .ok completed

/-- What opening a file that serves bytes hands on, and its status. -/
theorem pqforgeStreamOpenFile_serving
    (sizes : aws.Sizes)
    (call : FileCall files algorithm key ad chunkSize)
    (accepts : call.writer.Accepts)
    {bytes : Bytes}
    (serves : call.file.Serves bytes)
    (allocatable : chunkSize.toNat + 16 ≤ isizeMax) :
    (pqforgeStreamOpenFile aws files call.args).code =
        (endStatus
          ((flaggedRun (openAt aws call.job) 0
            (blocks (chunkSize.toNat + 16) bytes)).outcome.map
              fun _ => PqForgeStatus.ok)).code ∧
      emitted (pqforgeStreamOpenFile aws files call.args).log =
        (flaggedRun (openAt aws call.job) 0
          (blocks (chunkSize.toNat + 16) bytes)).log := by
  have small : chunkSize.toNat + 16 < 2 ^ 64 := by
    rw [isizeMax] at allocatable
    omega
  have long : tagLen ≤ chunkSize.toNat + 16 :=
    Nat.le_add_left 16 _
  have observed :
      (openBody aws call.job (chunkSize.toNat + 16)).observe
          StreamEvent.emitted? =
        (flaggedRun (openAt aws call.job) 0
          (blocks (chunkSize.toNat + 16) bytes) >>=
            fun _ => .done PqForgeStatus.ok) := by
    rw [← observe_emitted_produced,
      openBody_serving aws call serves long allocatable,
      observe_emitted_produced, flush_of_accepts accepts,
      Trace.observe_bind, observe_flaggedRun]
    rfl
  rw [Trace.bind_done_const] at observed
  have outcome := congrArg Trace.outcome observed
  have log := congrArg Trace.log observed
  rw [Trace.observe_outcome] at outcome
  rw [pqforgeStreamOpenFile_eq sizes call, exported_code,
    cipherChunk_toNat small, outcome]
  exact ⟨rfl, log⟩

end Runs

end StreamFile

end PqForgeFfi
