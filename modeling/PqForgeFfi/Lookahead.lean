import PqForgeFfi.AeadContract
import PqForgeFfi.BlockReading
import PqForgeFfi.FileCall

namespace PqForgeFfi.StreamFile

open Segmentation

/-!
# The lookahead loops of the file stream

The loops hold one block back while they read the next one.  Over a reader
that serves its bytes they stop after as many reads as there are bytes and two
more, they never miss the held block, and no run of the opening loop comes to
its return for data behind the final frame.
-/

/-- Reading a block leaves less to read. -/
theorem length_drop_lt
    {bytes : Bytes}
    {size : Nat}
    (positive : 0 < size)
    (nonempty : bytes ≠ []) :
    (bytes.drop size).length < bytes.length := by
  have someBytes := List.length_pos_iff.mpr nonempty
  rw [List.length_drop]
  omega

/-- A short block is followed by nothing. -/
theorem drop_of_short_take
    {bytes : Bytes}
    {size : Nat}
    (short : (bytes.take size).length < size) :
    bytes.drop size = [] := by
  rw [List.length_take] at short
  exact List.drop_eq_nil_of_le (by omega)

/-! ## How often the loops read -/

/-- The reads that a loop may still make with these bytes left to read. -/
def readBudget (bytes : Bytes) : Nat :=
  bytes.length + if bytes = [] then 1 else 2

/-- Reading a block spends the part of the budget that it does not leave. -/
theorem readBudget_step
    {bytes : Bytes}
    {size calls : Nat}
    (bounded :
      calls ≤ min size bytes.length +
        (if bytes.length < size then 1 else 0))
    (nonempty : bytes ≠ []) :
    calls + readBudget (bytes.drop size) ≤ readBudget bytes := by
  have someBytes := List.length_pos_iff.mpr nonempty
  rw [readBudget, readBudget, if_neg nonempty, List.length_drop]
  by_cases covers : bytes.length ≤ size
  · rw [if_pos (List.drop_eq_nil_of_le covers)]
    split at bounded <;> omega
  · have more : bytes.drop size ≠ [] := by
      rw [← List.length_pos_iff, List.length_drop]
      omega
    rw [if_neg more]
    split at bounded <;> omega

/-- A reader with nothing left is read once. -/
theorem readBudget_nil
    {size calls : Nat}
    (bounded :
      calls ≤ min size ([] : Bytes).length +
        (if ([] : Bytes).length < size then 1 else 0)) :
    calls ≤ readBudget [] := by
  have one : readBudget [] = 1 := rfl
  rw [List.length_nil, Nat.min_zero] at bounded
  split at bounded <;> omega

/-- No budget is larger than the bytes and two. -/
theorem readBudget_le (bytes : Bytes) :
    readBudget bytes ≤ bytes.length + 2 := by
  rw [readBudget]
  split <;> omega

/-- A computation that only reads on with what follows it. -/
theorem readCalls_bind_le
    {First Second : Type}
    (first : Trace StreamEvent Exit First)
    (next : First → Trace StreamEvent Exit Second)
    {bound : Nat}
    (bounded : ∀ result, readCalls (next result).log ≤ bound) :
    readCalls (first >>= next).log ≤ readCalls first.log + bound := by
  cases ended : first.outcome with
  | error error =>
      rw [Trace.bind_of_error ended]
      exact Nat.le_add_right _ _
  | ok result =>
      rw [Trace.bind_of_ok ended, readCalls_append]
      exact Nat.add_le_add_left (bounded result) _

/-- One turn of a loop reads a block, and what follows it reads on. -/
theorem readCalls_turn_le
    {Result : Type}
    {act : Trace StreamEvent Exit Unit}
    (silent : act.log.filterMap StreamEvent.bytesRead? = [])
    {later : Trace StreamEvent Exit Result}
    {log : List StreamEvent}
    {bound total : Nat}
    (bounded : readCalls later.log ≤ bound)
    (spent : readCalls log + bound ≤ total) :
    readCalls ((act >>= fun _ => later).behind log).log ≤ total := by
  have turn := readCalls_bind_le act (fun _ => later) fun _ => bounded
  rw [readCalls_of_silent silent, Nat.zero_add] at turn
  calc
    readCalls ((act >>= fun _ => later).behind log).log =
        readCalls log + readCalls (act >>= fun _ => later).log := by
      rw [Trace.behind_log, readCalls_append]
    _ ≤ readCalls log + bound :=
      Nat.add_le_add_left turn _
    _ ≤ total := spent

section Calls

variable (aws : AwsLc)
variable (job : StreamJob)

/-- The sealing loop reads within the budget of what is left to read. -/
theorem sealLoop_readCalls
    {size : Nat}
    (positive : 0 < size)
    (allocatable : size ≤ isizeMax)
    {reader : BufReader}
    {bytes : Bytes}
    (serves : ServesBytes reader bytes)
    (chunk : Bytes)
    (position : Nat) :
    readCalls
        (sealLoop aws job size reader (some chunk)
          (UInt64.ofNat position)).log ≤
      readBudget bytes := by
  obtain ⟨⟨left, outcome, rest⟩, calls⟩ :=
    readBlock_of_serves serves positive allocatable
  by_cases isEmpty : bytes = []
  · subst isEmpty
    rw [sealLoop_step chunk outcome]
    exact readCalls_turn_le (sealAct_silent aws job position true chunk)
      (Nat.le_refl 0) (readBudget_nil calls)
  · have spent := readBudget_step calls isEmpty
    have fewer := length_drop_lt positive isEmpty
    have later :=
      sealLoop_readCalls positive allocatable rest
        (bytes.take size) (position + 1)
    rw [if_neg isEmpty] at outcome
    rw [sealLoop_step chunk outcome]
    exact readCalls_turn_le (sealAct_silent aws job position false chunk)
      later spent
termination_by bytes.length

/-- Flushing the writer reads nothing. -/
theorem readCalls_flush (writer : BufWriter) :
    readCalls (flush writer).log = 0 := by
  rw [flush_log]
  rfl

/-- Flushing the writer behind a loop adds no read. -/
theorem readCalls_flushed_le
    (loop : Trace StreamEvent Exit Unit)
    (writer : BufWriter) :
    readCalls (loop >>= fun _ => flush writer).log ≤
      readCalls loop.log :=
  readCalls_bind_le loop (fun _ => flush writer)
    fun _ => Nat.le_of_eq (readCalls_flush writer)

/-- Sealing reads at most as often as there are bytes and two times more. -/
theorem sealBody_readCalls
    {size : Nat}
    {bytes : Bytes}
    (serves : ServesBytes job.reader bytes) :
    readCalls (sealBody aws job size).log ≤ bytes.length + 2 := by
  refine Nat.le_trans ?_ (readBudget_le bytes)
  have emptyFrame := sealAct_silent aws job 0 true []
  have flushes := Nat.le_of_eq (readCalls_flush job.writer)
  rcases Nat.eq_zero_or_pos size with rfl | positive
  · have outcome :
        (readBlock job.reader 0).outcome = .ok (none, job.reader) := by
      rw [readBlock_of_zero]
      rfl
    rw [sealBody_of_none outcome, readBlock_of_zero]
    exact readCalls_turn_le emptyFrame flushes (Nat.zero_le _)
  · by_cases huge : isizeMax < size
    · rw [sealBody_of_huge aws job huge]
      exact Nat.zero_le _
    · obtain ⟨⟨left, outcome, rest⟩, calls⟩ :=
        readBlock_of_serves serves positive (Nat.le_of_not_lt huge)
      by_cases isEmpty : bytes = []
      · subst isEmpty
        rw [sealBody_of_none outcome]
        exact readCalls_turn_le emptyFrame flushes (readBudget_nil calls)
      · have spent := readBudget_step calls isEmpty
        have later :=
          sealLoop_readCalls aws job positive
            (Nat.le_of_not_lt huge) rest (bytes.take size) 0
        rw [if_neg isEmpty] at outcome
        have flushed :=
          readCalls_flushed_le
            (sealLoop aws job size left (some (bytes.take size))
              (UInt64.ofNat 0)) job.writer
        rw [sealBody_of_some outcome, Trace.behind_log, readCalls_append]
        omega

/-- The opening loop reads within the budget of what is left to read. -/
theorem openLoop_readCalls
    {cipherChunk : Nat}
    (positive : 0 < cipherChunk)
    (allocatable : cipherChunk ≤ isizeMax)
    {reader : BufReader}
    {bytes : Bytes}
    (serves : ServesBytes reader bytes)
    (frame : Bytes)
    (position : Nat) :
    readCalls
        (openLoop aws job cipherChunk reader (some frame)
          (UInt64.ofNat position)).log ≤
      readBudget bytes := by
  by_cases short : frame.length < tagLen
  · rw [openLoop, if_pos short]
    exact Nat.zero_le _
  · have long := Nat.le_of_not_lt short
    obtain ⟨⟨left, outcome, rest⟩, calls⟩ :=
      readBlock_of_serves serves positive allocatable
    by_cases isEmpty : bytes = []
    · subst isEmpty
      rw [openLoop_step long outcome]
      have ended :
          (frame.length < cipherChunk || (none : Option Bytes).isNone) =
            true :=
        Bool.or_true _
      rw [if_pos rfl, ended]
      exact readCalls_turn_le
        (openAct_silent aws job position true frame)
        (Nat.le_refl 0) (readBudget_nil calls)
    · have spent := readBudget_step calls isEmpty
      have fewer := length_drop_lt positive isEmpty
      have later :=
        openLoop_readCalls positive allocatable rest
          (bytes.take cipherChunk) (position + 1)
      rw [if_neg isEmpty] at outcome
      rw [openLoop_step long outcome]
      refine readCalls_turn_le (openAct_silent aws job position _ frame)
        ?_ spent
      split
      · exact Nat.zero_le _
      · exact later
termination_by bytes.length

/-- Opening reads at most as often as there are bytes and two times more. -/
theorem openBody_readCalls
    {cipherChunk : Nat}
    {bytes : Bytes}
    (serves : ServesBytes job.reader bytes) :
    readCalls (openBody aws job cipherChunk).log ≤ bytes.length + 2 := by
  refine Nat.le_trans ?_ (readBudget_le bytes)
  rcases Nat.eq_zero_or_pos cipherChunk with rfl | positive
  · rw [openBody, readBlock_of_zero]
    exact Nat.zero_le _
  · by_cases huge : isizeMax < cipherChunk
    · rw [openBody, readBlock_of_huge job.reader huge]
      exact Nat.zero_le _
    · obtain ⟨⟨left, outcome, rest⟩, calls⟩ :=
        readBlock_of_serves serves positive (Nat.le_of_not_lt huge)
      by_cases isEmpty : bytes = []
      · subst isEmpty
        rw [openBody_of_none outcome, Trace.behind_log, readCalls_append]
        exact readBudget_nil calls
      · have spent := readBudget_step calls isEmpty
        have later :=
          openLoop_readCalls aws job positive
            (Nat.le_of_not_lt huge) rest (bytes.take cipherChunk) 0
        rw [if_neg isEmpty] at outcome
        have flushed :=
          readCalls_flushed_le
            (openLoop aws job cipherChunk left
              (some (bytes.take cipherChunk)) (UInt64.ofNat 0)) job.writer
        rw [openBody_of_some outcome, Trace.behind_log, readCalls_append]
        omega

end Calls

/--
The loop of `pqforge_stream_open_file` with `surplus` in the place of its
return for data after the final frame.
-/
def openLoopWith
    (surplus : Trace StreamEvent Exit Unit)
    (aws : AwsLc)
    (job : StreamJob)
    (cipherChunk : Nat)
    (reader : BufReader)
    (held : Option Bytes)
    (counter : UInt64) :
    Trace StreamEvent Exit Unit :=
  match held with
  | none =>
      Trace.fail (.panicked "held is Some in this loop")
  | some frame =>
      if frame.length < tagLen then
        Trace.fail (.returned .invalidCiphertext)
      else
        (readBlock reader cipherChunk).andThen fun next returned =>
          let last := frame.length < cipherChunk || next.1.isNone
          (openFrame aws job.writer job.key frame counter last
              job.ad).mapError openExit >>= fun _ =>
            (nextCounter counter).mapError Exit.failed >>= fun counter =>
              if more : last then
                if next.1.isSome then
                  surplus
                else
                  Trace.done ()
              else
                have : next.2.deliveries.length <
                    reader.deliveries.length :=
                  readBlock_next_lt returned fun isNone =>
                    more (by simp [last, isNone])
                openLoopWith surplus aws job cipherChunk next.2 next.1
                  counter
termination_by reader.deliveries.length

/-- With the return of the source in that place it is the loop of the source. -/
theorem openLoopWith_returned
    (aws : AwsLc)
    (job : StreamJob)
    (cipherChunk : Nat)
    (reader : BufReader)
    (held : Option Bytes)
    (counter : UInt64) :
    openLoopWith (Trace.fail (.returned .invalidCiphertext)) aws job
        cipherChunk reader held counter =
      openLoop aws job cipherChunk reader held counter := by
  cases held with
  | none =>
      rw [openLoopWith, openLoop]
  | some frame =>
      rw [openLoopWith, openLoop]
      split
      · rfl
      · congr 1
        funext next returned
        dsimp only
        congr 1
        funext _
        congr 1
        funext counter
        split
        · rfl
        · rename_i more
          have : (ScheduledRead.deliveries next.2).length <
              (ScheduledRead.deliveries reader).length :=
            readBlock_next_lt returned fun isNone =>
              more (by simp [isNone])
          exact openLoopWith_returned aws job cipherChunk next.2
            next.1 counter
termination_by (ScheduledRead.deliveries reader).length

/-- The body of `pqforge_stream_open_file` with that loop. -/
def openBodyWith
    (surplus : Trace StreamEvent Exit Unit)
    (aws : AwsLc)
    (job : StreamJob)
    (cipherChunk : Nat) :
    Trace StreamEvent Exit PqForgeStatus := do
  let (held, reader) ← readBlock job.reader cipherChunk
  if held.isNone then
    Trace.fail (.returned .invalidCiphertext)
  else
    openLoopWith surplus aws job cipherChunk reader held 0
  flush job.writer

/-- With the return of the source it is the body of the source. -/
theorem openBodyWith_returned
    (aws : AwsLc)
    (job : StreamJob)
    (cipherChunk : Nat) :
    openBodyWith (Trace.fail (.returned .invalidCiphertext)) aws job
        cipherChunk =
      openBody aws job cipherChunk := by
  rw [openBodyWith, openBody]
  congr 1
  funext next
  obtain ⟨held, reader⟩ := next
  dsimp only
  rw [openLoopWith_returned]

section Surplus

variable {aws : AwsLc}
variable {job : StreamJob}

/--
As long as a short held frame has nothing behind it, the loop is the same
whatever stands in the place of the return.  A full block is followed by what
is left, and a short one by nothing.
-/
theorem openLoopWith_unreached
    {cipherChunk : Nat}
    (positive : 0 < cipherChunk)
    (allocatable : cipherChunk ≤ isizeMax)
    {reader : BufReader}
    {bytes : Bytes}
    (serves : ServesBytes reader bytes)
    {frame : Bytes}
    (shortAtEnd : frame.length < cipherChunk → bytes = [])
    (counter : UInt64)
    (first second : Trace StreamEvent Exit Unit) :
    openLoopWith first aws job cipherChunk reader (some frame) counter =
      openLoopWith second aws job cipherChunk reader (some frame)
        counter := by
  rw [openLoopWith, openLoopWith]
  by_cases short : frame.length < tagLen
  · rw [if_pos short, if_pos short]
  · rw [if_neg short, if_neg short]
    obtain ⟨⟨left, outcome, rest⟩, -⟩ :=
      readBlock_of_serves serves positive allocatable
    rw [Trace.andThen_of_ok outcome, Trace.andThen_of_ok outcome]
    by_cases isEmpty : bytes = []
    · simp only [isEmpty, ↓reduceIte, Option.isNone_none, Bool.or_true,
        Option.isSome_none, Bool.false_eq_true, ↓reduceDIte]
    · have fewer : (bytes.drop cipherChunk).length < bytes.length := by
        have := List.length_pos_iff.mpr isEmpty
        rw [List.length_drop]
        omega
      have full : ¬ frame.length < cipherChunk :=
        fun short => isEmpty (shortAtEnd short)
      simp only [isEmpty, ↓reduceIte, Option.isNone_some, full,
        decide_false, Bool.or_false, Bool.false_eq_true, ↓reduceDIte]
      simp only [openLoopWith_unreached positive allocatable rest
        drop_of_short_take _ first second]
termination_by bytes.length

/-- The body is the same whatever stands in the place of the return. -/
theorem openBodyWith_unreached
    {cipherChunk : Nat}
    {bytes : Bytes}
    (serves : ServesBytes job.reader bytes)
    (first second : Trace StreamEvent Exit Unit) :
    openBodyWith first aws job cipherChunk =
      openBodyWith second aws job cipherChunk := by
  rw [openBodyWith, openBodyWith]
  rcases Nat.eq_zero_or_pos cipherChunk with rfl | positive
  · rw [readBlock_of_zero]
    rfl
  · by_cases huge : isizeMax < cipherChunk
    · rw [readBlock_of_huge job.reader huge]
      rfl
    · have allocatable := Nat.le_of_not_lt huge
      obtain ⟨⟨left, outcome, rest⟩, -⟩ :=
        readBlock_of_serves serves positive allocatable
      rw [Trace.bind_of_ok outcome, Trace.bind_of_ok outcome]
      by_cases isEmpty : bytes = []
      · rw [if_pos isEmpty]
        rfl
      · rw [if_neg isEmpty]
        dsimp only
        rw [openLoopWith_unreached positive allocatable rest
          drop_of_short_take 0 first second]

end Surplus

/-! ## The exported functions -/

/-- The closure of `pqforge_stream_seal_file`. -/
def sealClosure
    (aws : AwsLc)
    (files : FileSystem)
    (args : StreamArgs) :
    Trace StreamEvent Exit PqForgeStatus := do
  let job ← Trace.ofExcept (prepare aws files args)
  sealBody aws job args.chunkSize.toNat

/-- `cipher_chunk`, in the machine word of the source. -/
def StreamArgs.cipherChunk (args : StreamArgs) : UInt64 :=
  args.chunkSize + UInt64.ofNat tagLen

/-- The closure of `pqforge_stream_open_file`. -/
def openClosure
    (aws : AwsLc)
    (files : FileSystem)
    (args : StreamArgs) :
    Trace StreamEvent Exit PqForgeStatus := do
  let job ← Trace.ofExcept (prepare aws files args)
  openBody aws job args.cipherChunk.toNat

/--
The closure of `pqforge_stream_open_file` with `surplus` in the place of its
return for more data.
-/
def openClosureWith
    (surplus : Trace StreamEvent Exit Unit)
    (aws : AwsLc)
    (files : FileSystem)
    (args : StreamArgs) :
    Trace StreamEvent Exit PqForgeStatus := do
  let job ← Trace.ofExcept (prepare aws files args)
  openBodyWith surplus aws job args.cipherChunk.toNat

/-- The exported functions guard and finish these closures. -/
theorem exported_closures
    (aws : AwsLc)
    (files : FileSystem)
    (args : StreamArgs) :
    pqforgeStreamSealFile aws files args =
        exported (sealClosure aws files args) ∧
      pqforgeStreamOpenFile aws files args =
        exported (openClosure aws files args) :=
  ⟨rfl, rfl⟩

/-- A closure over blocks panics about a block that is too large at most. -/
theorem panics_of_exits
    {aws : AwsLc}
    {files : FileSystem}
    {args : StreamArgs}
    {body : StreamJob → Trace StreamEvent Exit PqForgeStatus}
    {size : Nat}
    (exits : ∀ job, (body job).FailsAs (StreamExit size))
    {message : String}
    (panics :
      (Trace.ofExcept (prepare aws files args) >>= body).outcome =
        .error (.panicked message)) :
    message = "capacity overflow" ∧ isizeMax < size := by
  have closure :
      (Trace.ofExcept (prepare aws files args) >>= body).FailsAs
        (StreamExit size) :=
    .bind (fun _ failed => prepare_exits failed size) exits
  exact (closure _ panics).2 message rfl

/--
`read_block` reads exactly the blocks that fit a `Vec`, and panics over the
others before it reads.  The closures of the exported functions panic over
such a block only, so neither `expect` of a held block does.  Over a reader
that serves its bytes they end after a bounded number of reads, and the
opening one never comes to its return for data after the final frame.
-/
theorem readBlock_and_lookahead :
    (∀ (Reader : Type) [Read Reader] (reader : Reader)
      (bytes : Bytes) (size : Nat),
      ServesBytes reader bytes →
        0 < size →
        (size ≤ isizeMax →
          ReadsBlock reader size bytes ∧
            readCalls (readBlock reader size).log ≤
              min size bytes.length + 1) ∧
          (isizeMax < size →
            readBlock reader size =
              Trace.fail (.panicked "capacity overflow"))) ∧
      (∀ (aws : AwsLc) (files : FileSystem) (args : StreamArgs)
        (message : String),
        ((sealClosure aws files args).outcome =
            .error (.panicked message) →
          message = "capacity overflow" ∧
            isizeMax < args.chunkSize.toNat) ∧
          ((openClosure aws files args).outcome =
              .error (.panicked message) →
            message = "capacity overflow" ∧
              isizeMax < args.cipherChunk.toNat)) ∧
      ∀ (aws : AwsLc) (files : FileSystem) (args : StreamArgs)
        (job : StreamJob) (bytes : Bytes),
        prepare aws files args = .ok job →
          ServesBytes job.reader bytes →
          readCalls (sealClosure aws files args).log ≤
              bytes.length + 2 ∧
            readCalls (openClosure aws files args).log ≤
              bytes.length + 2 ∧
            ∀ surplus : Trace StreamEvent Exit Unit,
              openClosureWith surplus aws files args =
                openClosure aws files args := by
  refine ⟨?_, ?_, ?_⟩
  · intro Reader _ reader bytes size serves positive
    refine ⟨?_, readBlock_of_huge reader⟩
    intro allocatable
    obtain ⟨reads, calls⟩ :=
      readBlock_of_serves serves positive allocatable
    refine ⟨reads, ?_⟩
    split at calls <;> omega
  · intro aws files args message
    exact ⟨panics_of_exits fun job => sealBody_exits aws job _,
      panics_of_exits fun job => openBody_exits aws job _⟩
  · intro aws files args job bytes passed serves
    rw [sealClosure, openClosure, passed, Trace.ofExcept_ok,
      Trace.done_bind, Trace.done_bind]
    refine ⟨sealBody_readCalls aws job serves,
      openBody_readCalls aws job serves, ?_⟩
    intro surplus
    rw [openClosureWith, passed, Trace.ofExcept_ok, Trace.done_bind,
      ← openBodyWith_returned]
    exact openBodyWith_unreached serves surplus _

/-- Three bytes in two reads: sealed in chunks of two, opened, and not at all. -/
theorem readBlock_and_lookahead_of_three :
    let file : File := [.ok [1, 2], .ok [3]]
    let call :=
      memoryCall file .aes256Gcm (List.replicate 32 7) [9] 2
        (by decide) (by decide)
    let tooLarge :=
      memoryCall file .aes256Gcm (List.replicate 32 7) [9]
        9223372036854775808 (by decide) (by decide)
    ReadsBlock (BufReader.withCapacity file) 2 [1, 2, 3] ∧
      readCalls
          (sealClosure taggedAead.aws (memoryFiles file) call.args).log ≤
        3 + 2 ∧
      openClosureWith (Trace.done ()) taggedAead.aws (memoryFiles file)
          call.args =
        openClosure taggedAead.aws (memoryFiles file) call.args ∧
      isizeMax < tooLarge.args.chunkSize.toNat := by
  have serves :
      ServesBytes (BufReader.withCapacity [.ok [1, 2], .ok [3]])
        [1, 2, 3] :=
    servesBytes_withCapacity ⟨[[1, 2], [3]], by decide, rfl, rfl⟩
  obtain ⟨block, closures, serving⟩ := readBlock_and_lookahead
  obtain ⟨reads, -⟩ := block BufReader _ _ 2 serves (by decide)
  obtain ⟨sealReads, -, unreached⟩ :=
    serving taggedAead.aws _ _ _ _
      (prepare_fileCall taggedAead.aws_sizes
        (memoryCall [.ok [1, 2], .ok [3]] .aes256Gcm
          (List.replicate 32 7) [9] 2 (by decide) (by decide)))
      serves
  refine ⟨(reads (by decide)).1, sealReads, unreached _, ?_⟩
  have panics := (closures taggedAead.aws
    (memoryFiles [.ok [1, 2], .ok [3]])
    (memoryCall [.ok [1, 2], .ok [3]] .aes256Gcm
      (List.replicate 32 7) [9] 9223372036854775808
      (by decide) (by decide)).args "capacity overflow").1
  refine (panics ?_).2
  rw [sealClosure, prepare_fileCall taggedAead.aws_sizes,
    Trace.ofExcept_ok, Trace.done_bind]
  exact congrArg Trace.outcome
    (sealBody_of_huge taggedAead.aws _ (by decide))

/-- With a size that fits no `Vec`, one byte is not read at all. -/
theorem readBlock_of_one_in_huge :
    ServesBytes (BufReader.withCapacity (File.whole [7])) [7] ∧
      (readBlock (BufReader.withCapacity (File.whole [7]))
          (2 ^ 63)).outcome =
        .error (.panicked "capacity overflow") ∧
      ¬ ReadsBlock (BufReader.withCapacity (File.whole [7]))
        (2 ^ 63) [7] := by
  have serves := servesBytes_withCapacity (File.serves_whole [7])
  have huge : isizeMax < 2 ^ 63 := by
    decide
  have panics :=
    readBlock_of_huge (BufReader.withCapacity (File.whole [7])) huge
  refine ⟨serves, ?_, ?_⟩
  · rw [panics]
    rfl
  · rw [readsBlock_iff serves (by decide)]
    exact Nat.not_le_of_lt huge

end PqForgeFfi.StreamFile
