import PqForgeFfi.StreamFile

namespace PqForgeFfi.StreamFile

open Segmentation ByteOrder

/-!
# What the native file stream does, whatever the reads

The loops of the exported functions read one block ahead of the one they
treat.  Whatever the lengths of the reads, what they do besides reading is a
run over the blocks that `readBlocks` finds in what the file delivers.
-/

/-- `stream_nonce` is the nonce of the format. -/
theorem streamNonce_ofNat
    {position : Nat}
    (inRange : position < 2 ^ 64)
    (last : Bool) :
    streamNonce (UInt64.ofNat position) last =
      StreamFormat.frameNonce position last := by
  have value : (UInt64.ofNat position).toNat = position := by
    rw [UInt64.toNat_ofNat']
    omega
  have blank : List.replicate 12 (0 : UInt8) =
      List.replicate 3 0 ++ List.replicate 9 0 := rfl
  have written := overwrite_replicate (List.replicate 3 (0 : UInt8))
    (bigEndian 8 position) 0 9
  rw [List.length_replicate, length_bigEndian] at written
  rw [streamNonce, value, blank]
  rw [written, StreamFormat.frameNonce,
    List.set_append_right _ _ (by simp)]
  simp

/-- Counters and flags have nonces of their own. -/
theorem streamNonce_injective
    {first second : UInt64}
    {firstLast secondLast : Bool}
    (same : streamNonce first firstLast = streamNonce second secondLast) :
    first = second ∧ firstLast = secondLast := by
  rw [← UInt64.ofNat_toNat (x := first),
    ← UInt64.ofNat_toNat (x := second),
    streamNonce_ofNat first.toNat_lt,
    streamNonce_ofNat second.toNat_lt] at same
  obtain ⟨sameCounter, sameFlag⟩ := StreamFormat.frameNonce_injective
    first.toNat_lt second.toNat_lt same
  exact ⟨UInt64.toNat_inj.mp sameCounter, sameFlag⟩

/-- `next_counter` steps from one position to the next. -/
theorem nextCounter_bind
    {Result : Type}
    (position : Nat)
    (next : UInt64 → Trace StreamEvent Exit Result) :
    ((nextCounter (UInt64.ofNat position)).mapError Exit.failed >>= next) =
      (nextCounter (UInt64.ofNat position)).mapError Exit.failed >>=
        fun _ => next (UInt64.ofNat (position + 1)) := by
  rw [nextCounter]
  by_cases room : (UInt64.ofNat position).toNat + 1 < 2 ^ 64
  · rw [if_pos room, UInt64.ofNat_add]
    rfl
  · rw [if_neg room]
    rfl

/-! ## Sealing -/

/-- What the loop does with the chunk at a position. -/
def sealAct
    (aws : AwsLc)
    (job : StreamJob)
    (position : Nat)
    (last : Bool)
    (chunk : Bytes) :
    Trace StreamEvent Exit Unit :=
  (sealFrame aws job.writer job.key chunk (UInt64.ofNat position) last
      job.ad).mapError Exit.failed >>= fun _ =>
    (nextCounter (UInt64.ofNat position)).mapError Exit.failed >>=
      fun _ => Trace.done ()

/-- The counter is no event. -/
theorem nextCounter_log (counter : UInt64) :
    (nextCounter counter).log = [] := by
  rw [nextCounter]
  split <;> rfl

/-- An AEAD call reads nothing. -/
theorem aeadCall_silent
    (key : LessSafeKey)
    (operation :
      PqAeadAlgorithm →
        (key nonce aad input : Bytes) →
        Option Bytes)
    (nonce aad input : Bytes)
    (failure : PqForgeError) :
    (aeadCall key operation nonce aad input failure).log.filterMap
      StreamEvent.bytesRead? = [] := by
  refine Trace.silent_bind rfl fun _ => ?_
  split <;> rfl

/-- Sealing a frame reads nothing. -/
theorem sealFrame_silent
    (aws : AwsLc)
    (writer : BufWriter)
    (key : LessSafeKey)
    (chunk : Bytes)
    (counter : UInt64)
    (last : Bool)
    (aad : Bytes) :
    (sealFrame aws writer key chunk counter last aad).log.filterMap
      StreamEvent.bytesRead? = [] := by
  rw [sealFrame]
  split
  · rfl
  · exact Trace.silent_bind (aeadCall_silent _ _ _ _ _ _)
      fun _ => Trace.silent_bind rfl fun _ => rfl

/-- Opening a frame reads nothing. -/
theorem openFrame_silent
    (aws : AwsLc)
    (writer : BufWriter)
    (key : LessSafeKey)
    (frame : Bytes)
    (counter : UInt64)
    (last : Bool)
    (aad : Bytes) :
    (openFrame aws writer key frame counter last aad).log.filterMap
      StreamEvent.bytesRead? = [] := by
  rw [openFrame]
  split
  · rfl
  · exact Trace.silent_bind (aeadCall_silent _ _ _ _ _ _)
      fun _ => Trace.silent_bind rfl fun _ => rfl

/-- Treating a chunk reads nothing. -/
theorem sealAct_silent
    (aws : AwsLc)
    (job : StreamJob)
    (position : Nat)
    (last : Bool)
    (chunk : Bytes) :
    (sealAct aws job position last chunk).log.filterMap
      StreamEvent.bytesRead? = [] := by
  refine Trace.silent_bind ?_ fun _ => Trace.silent_bind ?_ fun _ => rfl
  · exact sealFrame_silent aws job.writer job.key chunk _ last job.ad
  · rw [Trace.mapError_log, nextCounter_log]
    rfl

theorem sealAct_bytesRead
    (aws : AwsLc)
    (job : StreamJob)
    (position : Nat)
    (last : Bool)
    (chunk : Bytes) :
    bytesRead (sealAct aws job position last chunk).log = [] := by
  rw [bytesRead, sealAct_silent]
  rfl

/-- One turn of the loop, once the block behind the chunk has been read. -/
theorem sealLoop_step
    {aws : AwsLc}
    {job : StreamJob}
    {size position : Nat}
    {reader left : BufReader}
    {next : Option Bytes}
    (chunk : Bytes)
    (returned : (readBlock reader size).outcome = .ok (next, left)) :
    sealLoop aws job size reader (some chunk) (UInt64.ofNat position) =
      (sealAct aws job position next.isNone chunk >>= fun _ =>
        if next.isNone then
          Trace.done ()
        else
          sealLoop aws job size left next
            (UInt64.ofNat (position + 1))).behind
        (readBlock reader size).log := by
  rw [sealLoop, Trace.andThen_of_ok returned]
  dsimp only
  rw [nextCounter_bind]
  simp only [sealAct, Trace.bind_assoc, Trace.done_bind, dite_eq_ite]

/-- Where a reading fails, so does the loop. -/
theorem sealLoop_of_error
    {aws : AwsLc}
    {job : StreamJob}
    {size : Nat}
    (allocatable : size ≤ isizeMax)
    {reader : BufReader}
    {reason : String}
    (failed : readBlocks size (ScheduledRead.deliveries reader) = .error reason)
    (chunk : Bytes)
    (position : Nat) :
    (sealLoop aws job size reader (some chunk)
      (UInt64.ofNat position)).outcome ≠ .ok () := by
  intro returned
  rcases readBlock_of_failing allocatable failed with
      ⟨exit, stopped⟩ | ⟨block, left, outcome, failedLater⟩
  · rw [sealLoop, Trace.andThen_of_error stopped] at returned
    cases returned
  · rw [sealLoop_step chunk outcome] at returned
    obtain ⟨_, _, looped, _⟩ := Trace.bind_eq_ok returned
    have shorter := readBlock_lt outcome
    exact sealLoop_of_error allocatable failedLater block
      (position + 1) looped
termination_by (ScheduledRead.deliveries reader).length

/-- Besides reading, the loop is the run over the chunk and the blocks. -/
theorem sealLoop_observe
    {aws : AwsLc}
    {job : StreamJob}
    {size : Nat}
    (allocatable : size ≤ isizeMax)
    {reader : BufReader}
    {rest : List Bytes}
    (found : readBlocks size (ScheduledRead.deliveries reader) = .ok rest)
    (chunk : Bytes)
    (position : Nat) :
    (sealLoop aws job size reader (some chunk)
        (UInt64.ofNat position)).observe StreamEvent.produced? =
      (flaggedRun (sealAct aws job) position (chunk :: rest)).observe
        StreamEvent.produced? := by
  induction rest generalizing reader chunk position with
  | nil =>
      obtain ⟨left, outcome, silent, _⟩ :=
        readBlock_of_found_nil allocatable found
      rw [sealLoop_step chunk outcome, Trace.observe_behind silent]
      simp only [flaggedRun, Option.isNone_none, ↓reduceIte,
        Trace.bind_done_unit]
  | cons block later inductionHypothesis =>
      obtain ⟨left, outcome, foundLater, silent, _⟩ :=
        readBlock_of_found_cons allocatable found
      rw [sealLoop_step chunk outcome, Trace.observe_behind silent,
        flaggedRun, Trace.observe_bind, Trace.observe_bind]
      simp only [Option.isNone_some, Bool.false_eq_true, ↓reduceIte,
        inductionHypothesis foundLater block (position + 1)]

/-- A loop that returned has read the blocks that it found. -/
theorem sealLoop_bytesRead
    {aws : AwsLc}
    {job : StreamJob}
    {size : Nat}
    (allocatable : size ≤ isizeMax)
    {reader : BufReader}
    {rest : List Bytes}
    (found : readBlocks size (ScheduledRead.deliveries reader) = .ok rest)
    (chunk : Bytes)
    (position : Nat)
    (returned :
      (sealLoop aws job size reader (some chunk)
        (UInt64.ofNat position)).outcome = .ok ()) :
    bytesRead
        (sealLoop aws job size reader (some chunk)
          (UInt64.ofNat position)).log =
      rest.flatten := by
  induction rest generalizing reader chunk position with
  | nil =>
      obtain ⟨left, outcome, _, served⟩ :=
        readBlock_of_found_nil allocatable found
      rw [sealLoop_step chunk outcome]
      simp [served, sealAct_bytesRead]
  | cons block later inductionHypothesis =>
      obtain ⟨left, outcome, foundLater, _, served⟩ :=
        readBlock_of_found_cons allocatable found
      rw [sealLoop_step chunk outcome] at returned ⊢
      obtain ⟨_, _, looped, joined⟩ := Trace.bind_eq_ok returned
      have laterReads :=
        inductionHypothesis foundLater block (position + 1) looped
      rw [Trace.behind_log, bytesRead_append, joined,
        bytesRead_append, served, sealAct_bytesRead]
      exact congrArg (block ++ ·) laterReads

/-- Flushing the writer is no event. -/
theorem flush_log (writer : BufWriter) :
    (flush writer).log = [] := by
  rw [flush]
  cases writer.flush <;> rfl

/-- The chunks that are sealed: an empty one if no block was read. -/
def sealedChunks (chunks : List Bytes) : List Bytes :=
  if chunks = [] then [[]] else chunks

/-- Sealing the empty final frame of an empty input. -/
theorem sealAct_first
    (aws : AwsLc)
    (job : StreamJob)
    (last : Bool)
    (chunk : Bytes) :
    sealAct aws job 0 last chunk =
      (sealFrame aws job.writer job.key chunk 0 last
        job.ad).mapError Exit.failed := by
  have room : (UInt64.ofNat 0).toNat + 1 < 2 ^ 64 := by
    decide
  have first : nextCounter (UInt64.ofNat 0) =
      Trace.done (UInt64.ofNat 0 + 1) := by
    rw [nextCounter, if_pos room]
  rw [sealAct, first]
  exact Trace.bind_done_unit _

/-- The body after a first block that was `None`. -/
theorem sealBody_of_none
    {aws : AwsLc}
    {job : StreamJob}
    {size : Nat}
    {reader : BufReader}
    (returned :
      (readBlock job.reader size).outcome = .ok (none, reader)) :
    sealBody aws job size =
      (sealAct aws job 0 true [] >>= fun _ => flush job.writer).behind
        (readBlock job.reader size).log := by
  rw [sealBody, Trace.bind_of_ok returned, sealAct_first]
  rfl

/-- The body after a first block. -/
theorem sealBody_of_some
    {aws : AwsLc}
    {job : StreamJob}
    {size : Nat}
    {reader : BufReader}
    {block : Bytes}
    (returned :
      (readBlock job.reader size).outcome = .ok (some block, reader)) :
    sealBody aws job size =
      (sealLoop aws job size reader (some block) (UInt64.ofNat 0) >>=
        fun _ => flush job.writer).behind
          (readBlock job.reader size).log := by
  rw [sealBody, Trace.bind_of_ok returned]
  rfl

/-- Besides reading, the body seals the blocks that it finds. -/
theorem sealBody_observe
    (aws : AwsLc)
    {job : StreamJob}
    {size : Nat}
    (allocatable : size ≤ isizeMax)
    {chunks : List Bytes}
    (found :
      readBlocks size (ScheduledRead.deliveries job.reader) =
        .ok chunks) :
    (sealBody aws job size).observe StreamEvent.produced? =
      (flaggedRun (sealAct aws job) 0 (sealedChunks chunks) >>=
        fun _ => flush job.writer).observe StreamEvent.produced? := by
  cases chunks with
  | nil =>
      obtain ⟨left, outcome, silent, _⟩ :=
        readBlock_of_found_nil allocatable found
      rw [sealBody_of_none outcome, Trace.observe_behind silent]
      rfl
  | cons block later =>
      obtain ⟨left, outcome, foundLater, silent, _⟩ :=
        readBlock_of_found_cons allocatable found
      rw [sealBody_of_some outcome, Trace.observe_behind silent,
        Trace.observe_bind, Trace.observe_bind,
        sealLoop_observe allocatable foundLater]
      rfl

/-- Where a reading fails, so does the body. -/
theorem sealBody_of_error
    {aws : AwsLc}
    {job : StreamJob}
    {size : Nat}
    (allocatable : size ≤ isizeMax)
    {reason : String}
    (failed :
      readBlocks size (ScheduledRead.deliveries job.reader) =
        .error reason)
    (status : PqForgeStatus) :
    (sealBody aws job size).outcome ≠ .ok status := by
  intro returned
  rcases readBlock_of_failing allocatable failed with
      ⟨exit, stopped⟩ | ⟨block, left, outcome, failedLater⟩
  · rw [sealBody, Trace.bind_of_error stopped] at returned
    cases returned
  · rw [sealBody_of_some outcome] at returned
    obtain ⟨_, looped, _, _⟩ := Trace.bind_eq_ok returned
    exact sealLoop_of_error allocatable failedLater block 0 looped

/-- A body that returned has read the blocks that it found. -/
theorem sealBody_bytesRead
    {aws : AwsLc}
    {job : StreamJob}
    {size : Nat}
    (allocatable : size ≤ isizeMax)
    {chunks : List Bytes}
    (found :
      readBlocks size (ScheduledRead.deliveries job.reader) =
        .ok chunks)
    {status : PqForgeStatus}
    (returned : (sealBody aws job size).outcome = .ok status) :
    bytesRead (sealBody aws job size).log = chunks.flatten := by
  cases chunks with
  | nil =>
      obtain ⟨left, outcome, _, served⟩ :=
        readBlock_of_found_nil allocatable found
      rw [sealBody_of_none outcome] at returned ⊢
      obtain ⟨_, _, _, joined⟩ := Trace.bind_eq_ok returned
      rw [Trace.behind_log, bytesRead_append, served, joined,
        bytesRead_append, flush_log, sealAct_bytesRead]
      rfl
  | cons block later =>
      obtain ⟨left, outcome, foundLater, _, served⟩ :=
        readBlock_of_found_cons allocatable found
      rw [sealBody_of_some outcome] at returned ⊢
      obtain ⟨_, looped, _, joined⟩ := Trace.bind_eq_ok returned
      have laterReads :=
        sealLoop_bytesRead allocatable foundLater block 0 looped
      rw [Trace.behind_log, bytesRead_append, served, joined,
        bytesRead_append, flush_log, laterReads]
      simp [bytesRead]

/-- A size that no `Vec` can have makes the body panic. -/
theorem sealBody_of_huge
    (aws : AwsLc)
    (job : StreamJob)
    {size : Nat}
    (huge : isizeMax < size) :
    sealBody aws job size =
      Trace.fail (.panicked "capacity overflow") := by
  rw [sealBody, readBlock_of_huge job.reader huge]
  rfl

/-- The sealing loop is left early with an error, or over its block size. -/
theorem sealLoop_failsAs
    (aws : AwsLc)
    (job : StreamJob)
    (size : Nat)
    (reader : BufReader)
    (chunk : Bytes)
    (counter : UInt64) :
    (sealLoop aws job size reader (some chunk) counter).FailsAs
      (StreamExit size) := by
  rw [sealLoop]
  refine .andThen (readBlock_failsAs reader size)
    fun next returned => ?_
  refine .bind (Trace.failsAs_mapError (streamExit_failed size) _)
    fun _ => ?_
  refine .bind (Trace.failsAs_mapError (streamExit_failed size) _)
    fun counter => ?_
  split
  · exact Trace.failsAs_done _
  · rename_i more
    obtain ⟨held, left⟩ := next
    cases held with
    | none =>
        exact (more rfl).elim
    | some block =>
        have := readBlock_lt returned
        exact sealLoop_failsAs aws job size left block counter
termination_by (ScheduledRead.deliveries reader).length

/-- Flushing fails with an error of the writer. -/
theorem flush_failsAs
    (writer : BufWriter)
    (size : Nat) :
    (flush writer).FailsAs (StreamExit size) := by
  rw [flush]
  cases writer.flush with
  | ok result =>
      exact Trace.failsAs_done _
  | error reason =>
      exact Trace.failsAs_fail (streamExit_failed size _)

/-- Sealing is left early with an error, or over its block size. -/
theorem sealBody_exits
    (aws : AwsLc)
    (job : StreamJob)
    (size : Nat) :
    (sealBody aws job size).FailsAs (StreamExit size) := by
  refine .bind (readBlock_failsAs job.reader size) fun next => ?_
  obtain ⟨held, reader⟩ := next
  cases held with
  | none =>
      exact .bind (Trace.failsAs_mapError (streamExit_failed size) _)
        fun _ => flush_failsAs job.writer size
  | some block =>
      exact .bind (sealLoop_failsAs aws job size reader block 0)
        fun _ => flush_failsAs job.writer size

/-- Sealing never fails with the status of a success. -/
theorem sealBody_failsAs
    (aws : AwsLc)
    (job : StreamJob)
    (size : Nat) :
    (sealBody aws job size).FailsAs Exit.IsFailure :=
  (sealBody_exits aws job size).mono fun _ exits => exits.1

/-! ## Opening -/

/-- What the loop does with the frame at a position. -/
def openAct
    (aws : AwsLc)
    (job : StreamJob)
    (position : Nat)
    (last : Bool)
    (frame : Bytes) :
    Trace StreamEvent Exit Unit :=
  if frame.length < tagLen then
    Trace.fail (.returned .invalidCiphertext)
  else
    (openFrame aws job.writer job.key frame (UInt64.ofNat position) last
        job.ad).mapError openExit >>= fun _ =>
      (nextCounter (UInt64.ofNat position)).mapError Exit.failed >>=
        fun _ => Trace.done ()

/-- Treating a frame reads nothing. -/
theorem openAct_silent
    (aws : AwsLc)
    (job : StreamJob)
    (position : Nat)
    (last : Bool)
    (frame : Bytes) :
    (openAct aws job position last frame).log.filterMap
      StreamEvent.bytesRead? = [] := by
  rw [openAct]
  split
  · rfl
  · refine Trace.silent_bind ?_ fun _ => Trace.silent_bind ?_ fun _ => rfl
    · exact openFrame_silent aws job.writer job.key frame _ last job.ad
    · rw [Trace.mapError_log, nextCounter_log]
      rfl

/-- One turn of the loop, once the block behind the frame has been read. -/
theorem openLoop_step
    {aws : AwsLc}
    {job : StreamJob}
    {cipherChunk position : Nat}
    {reader left : BufReader}
    {next : Option Bytes}
    {frame : Bytes}
    (long : tagLen ≤ frame.length)
    (returned :
      (readBlock reader cipherChunk).outcome = .ok (next, left)) :
    openLoop aws job cipherChunk reader (some frame)
        (UInt64.ofNat position) =
      (openAct aws job position
          (frame.length < cipherChunk || next.isNone) frame >>= fun _ =>
        if frame.length < cipherChunk || next.isNone then
          if next.isSome then
            Trace.fail (.returned .invalidCiphertext)
          else
            Trace.done ()
        else
          openLoop aws job cipherChunk left next
            (UInt64.ofNat (position + 1))).behind
        (readBlock reader cipherChunk).log := by
  rw [openLoop, if_neg (Nat.not_lt_of_le long),
    Trace.andThen_of_ok returned]
  dsimp only
  rw [nextCounter_bind]
  simp only [openAct, if_neg (Nat.not_lt_of_le long), Trace.bind_assoc,
    Trace.done_bind, dite_eq_ite]

/-- Where a reading fails, so does the loop. -/
theorem openLoop_of_error
    {aws : AwsLc}
    {job : StreamJob}
    {cipherChunk : Nat}
    (allocatable : cipherChunk ≤ isizeMax)
    {reader : BufReader}
    {reason : String}
    (failed :
      readBlocks cipherChunk (ScheduledRead.deliveries reader) =
        .error reason)
    (frame : Bytes)
    (position : Nat) :
    (openLoop aws job cipherChunk reader (some frame)
      (UInt64.ofNat position)).outcome ≠ .ok () := by
  intro returned
  by_cases short : frame.length < tagLen
  · rw [openLoop, if_pos short] at returned
    cases returned
  · rcases readBlock_of_failing allocatable failed with
        ⟨exit, stopped⟩ | ⟨block, left, outcome, failedLater⟩
    · rw [openLoop, if_neg short, Trace.andThen_of_error stopped]
        at returned
      cases returned
    · rw [openLoop_step (Nat.le_of_not_lt short) outcome] at returned
      obtain ⟨_, _, looped, _⟩ := Trace.bind_eq_ok returned
      split at looped
      · cases looped
      · have shorter := readBlock_lt outcome
        exact openLoop_of_error allocatable failedLater block
          (position + 1) looped
termination_by (ScheduledRead.deliveries reader).length

/--
Besides reading, the loop is the run over the frame and the blocks, as long as
every block but the last is full.
-/
theorem openLoop_observe
    {aws : AwsLc}
    {job : StreamJob}
    {cipherChunk : Nat}
    (allocatable : cipherChunk ≤ isizeMax)
    (long : tagLen ≤ cipherChunk)
    {reader : BufReader}
    {rest : List Bytes}
    (found :
      readBlocks cipherChunk (ScheduledRead.deliveries reader) =
        .ok rest)
    (frame : Bytes)
    (full :
      ∀ block ∈ (frame :: rest).dropLast, block.length = cipherChunk)
    (position : Nat) :
    (openLoop aws job cipherChunk reader (some frame)
        (UInt64.ofNat position)).observe StreamEvent.produced? =
      (flaggedRun (openAct aws job) position (frame :: rest)).observe
        StreamEvent.produced? := by
  induction rest generalizing reader frame position with
  | nil =>
      obtain ⟨left, outcome, silent, _⟩ :=
        readBlock_of_found_nil allocatable found
      by_cases short : frame.length < tagLen
      · rw [openLoop, if_pos short, flaggedRun, openAct,
          if_pos short]
      · rw [openLoop_step (Nat.le_of_not_lt short) outcome,
          Trace.observe_behind silent]
        simp [flaggedRun]
  | cons block later inductionHypothesis =>
      obtain ⟨left, outcome, foundLater, silent, _⟩ :=
        readBlock_of_found_cons allocatable found
      rw [List.dropLast_cons_of_ne_nil (List.cons_ne_nil block later)]
        at full
      have frameFull : frame.length = cipherChunk :=
        full frame List.mem_cons_self
      have notLast :
          (decide (frame.length < cipherChunk) ||
            (some block).isNone) = false := by
        simp [frameFull]
      rw [openLoop_step (by omega) outcome,
        Trace.observe_behind silent, notLast, flaggedRun,
        Trace.observe_bind, Trace.observe_bind]
      simp only [Bool.false_eq_true, ↓reduceIte,
        inductionHypothesis foundLater block
          (fun other member =>
            full other (List.mem_cons_of_mem frame member))
          (position + 1)]

/-- The body after a first block that was `None`. -/
theorem openBody_of_none
    {aws : AwsLc}
    {job : StreamJob}
    {cipherChunk : Nat}
    {reader : BufReader}
    (returned :
      (readBlock job.reader cipherChunk).outcome = .ok (none, reader)) :
    openBody aws job cipherChunk =
      (Trace.fail (.returned .invalidCiphertext)).behind
        (readBlock job.reader cipherChunk).log := by
  rw [openBody, Trace.bind_of_ok returned]
  rfl

/-- The body after a first block. -/
theorem openBody_of_some
    {aws : AwsLc}
    {job : StreamJob}
    {cipherChunk : Nat}
    {reader : BufReader}
    {block : Bytes}
    (returned :
      (readBlock job.reader cipherChunk).outcome =
        .ok (some block, reader)) :
    openBody aws job cipherChunk =
      (openLoop aws job cipherChunk reader (some block)
          (UInt64.ofNat 0) >>= fun _ => flush job.writer).behind
        (readBlock job.reader cipherChunk).log := by
  rw [openBody, Trace.bind_of_ok returned]
  rfl

/-- Besides reading, the body opens the blocks that it finds. -/
theorem openBody_observe
    {aws : AwsLc}
    {job : StreamJob}
    {cipherChunk : Nat}
    (allocatable : cipherChunk ≤ isizeMax)
    (long : tagLen ≤ cipherChunk)
    {frames : List Bytes}
    (found :
      readBlocks cipherChunk (ScheduledRead.deliveries job.reader) =
        .ok frames)
    (full : ∀ frame ∈ frames.dropLast, frame.length = cipherChunk) :
    (openBody aws job cipherChunk).observe StreamEvent.produced? =
      if frames = [] then
        Trace.fail (.returned .invalidCiphertext)
      else
        (flaggedRun (openAct aws job) 0 frames >>=
          fun _ => flush job.writer).observe StreamEvent.produced? := by
  cases frames with
  | nil =>
      obtain ⟨left, outcome, silent, _⟩ :=
        readBlock_of_found_nil allocatable found
      rw [if_pos rfl, openBody_of_none outcome,
        Trace.observe_behind silent]
      rfl
  | cons block later =>
      obtain ⟨left, outcome, foundLater, silent, _⟩ :=
        readBlock_of_found_cons allocatable found
      rw [if_neg (List.cons_ne_nil block later),
        openBody_of_some outcome, Trace.observe_behind silent,
        Trace.observe_bind, Trace.observe_bind,
        openLoop_observe allocatable long foundLater block full]

/-- Where a reading fails, so does the body. -/
theorem openBody_of_error
    {aws : AwsLc}
    {job : StreamJob}
    {cipherChunk : Nat}
    (allocatable : cipherChunk ≤ isizeMax)
    {reason : String}
    (failed :
      readBlocks cipherChunk (ScheduledRead.deliveries job.reader) =
        .error reason)
    (status : PqForgeStatus) :
    (openBody aws job cipherChunk).outcome ≠ .ok status := by
  intro returned
  rcases readBlock_of_failing allocatable failed with
      ⟨exit, stopped⟩ | ⟨block, left, outcome, failedLater⟩
  · rw [openBody, Trace.bind_of_error stopped] at returned
    cases returned
  · rw [openBody_of_some outcome] at returned
    obtain ⟨_, looped, _, _⟩ := Trace.bind_eq_ok returned
    exact openLoop_of_error allocatable failedLater block 0 looped

/-- The result of `open_frame` leaves the loop early as a failure. -/
theorem streamExit_openExit
    (size : Nat)
    (error : PqForgeError) :
    StreamExit size (openExit error) := by
  cases error with
  | authFailed =>
      exact streamExit_returned size (by decide)
  | _ =>
      exact streamExit_failed size _

/-- The opening loop is left early with a failure, or over its frame size. -/
theorem openLoop_failsAs
    (aws : AwsLc)
    (job : StreamJob)
    (cipherChunk : Nat)
    (reader : BufReader)
    (frame : Bytes)
    (counter : UInt64) :
    (openLoop aws job cipherChunk reader (some frame) counter).FailsAs
      (StreamExit cipherChunk) := by
  have refused :
      StreamExit cipherChunk (.returned .invalidCiphertext) :=
    streamExit_returned cipherChunk (by decide)
  rw [openLoop]
  split
  · exact Trace.failsAs_fail refused
  · refine .andThen (readBlock_failsAs reader cipherChunk)
      fun next returned => ?_
    refine .bind (Trace.failsAs_mapError (streamExit_openExit _) _)
      fun _ => ?_
    refine .bind (Trace.failsAs_mapError (streamExit_failed _) _)
      fun counter => ?_
    split
    · split
      · exact Trace.failsAs_fail refused
      · exact Trace.failsAs_done _
    · rename_i more
      obtain ⟨held, left⟩ := next
      cases held with
      | none =>
          exact (more (Bool.or_true _)).elim
      | some block =>
          have := readBlock_lt returned
          exact openLoop_failsAs aws job cipherChunk left block counter
termination_by (ScheduledRead.deliveries reader).length

/-- Opening is left early with a failure, or over its frame size. -/
theorem openBody_exits
    (aws : AwsLc)
    (job : StreamJob)
    (cipherChunk : Nat) :
    (openBody aws job cipherChunk).FailsAs
      (StreamExit cipherChunk) := by
  refine .bind (readBlock_failsAs job.reader cipherChunk)
    fun next => ?_
  obtain ⟨held, reader⟩ := next
  cases held with
  | none =>
      refine Trace.FailsAs.bind ?_
        fun _ => flush_failsAs job.writer cipherChunk
      exact Trace.failsAs_fail
        (streamExit_returned cipherChunk (by decide))
  | some block =>
      exact .bind (openLoop_failsAs aws job cipherChunk reader block 0)
        fun _ => flush_failsAs job.writer cipherChunk

/-- Opening never fails with the status of a success. -/
theorem openBody_failsAs
    (aws : AwsLc)
    (job : StreamJob)
    (cipherChunk : Nat) :
    (openBody aws job cipherChunk).FailsAs Exit.IsFailure :=
  (openBody_exits aws job cipherChunk).mono fun _ exits => exits.1

end PqForgeFfi.StreamFile
