import PqForgeFfi.FileFraming

namespace PqForgeFfi.StreamFile

open Segmentation

/-!
# Calls on files

A call that passes every check of the exported functions, and what it runs.
Calls that fail a check return that check's status before anything is read.
-/

/-- A call with the given parameters whose arguments pass and whose files open. -/
structure FileCall
    (files : FileSystem)
    (algorithm : PqAeadAlgorithm)
    (key ad : Bytes)
    (chunkSize : UInt64) where
  keyLength : key.length = 32
  positive : chunkSize ≠ 0
  aad : CSlice
  aadPassed : aad.isNull = true → aad.len = 0
  aadRead : readAad aad = ad
  inPtr : Bytes
  inPath : String
  inUtf8 : cstrPath inPtr = .ok inPath
  outPtr : Bytes
  outPath : String
  outUtf8 : cstrPath outPtr = .ok outPath
  file : File
  opens : files.openFile inPath = .ok file
  writer : BufWriter
  creates : files.createFile outPath = .ok writer

namespace FileCall

variable {files : FileSystem}
variable {algorithm : PqAeadAlgorithm}
variable {key ad : Bytes}
variable {chunkSize : UInt64}

/-- The arguments of the call. -/
def args
    (call : FileCall files algorithm key ad chunkSize) :
    StreamArgs where
  algId := algorithm.id
  key := .valid key
  aad := call.aad
  chunkSize := chunkSize
  inPath := some call.inPtr
  outPath := some call.outPtr

/-- What the checks leave to do. -/
def job
    (call : FileCall files algorithm key ad chunkSize) :
    StreamJob where
  key := { algorithm, key }
  ad := ad
  reader := BufReader.withCapacity call.file
  writer := call.writer

end FileCall

/-- The Dart-side ids are the ids of the native library. -/
@[simp] theorem aeadAlg_id (algorithm : PqAeadAlgorithm) :
    aeadAlg algorithm.id = some algorithm := by
  cases algorithm <;> rfl

/-- No other ids are known. -/
theorem aeadAlg_eq_some
    {algId : Int}
    {algorithm : PqAeadAlgorithm}
    (known : aeadAlg algId = some algorithm) :
    algId = algorithm.id := by
  match algId with
  | 0 =>
      cases known
      rfl
  | 1 =>
      cases known
      rfl
  | .ofNat (_ + 2) =>
      cases known
  | .negSucc _ =>
      cases known

section Checks

variable {aws : AwsLc}
variable {files : FileSystem}
variable {algorithm : PqAeadAlgorithm}
variable {key ad : Bytes}
variable {chunkSize : UInt64}

/-- A call on files passes the checks. -/
theorem prepare_fileCall
    (sizes : aws.Sizes)
    (call : FileCall files algorithm key ad chunkSize) :
    prepare aws files call.args = .ok call.job := by
  have aadValid :
      (call.aad.isNull && call.aad.len != 0) = false := by
    cases isNull : call.aad.isNull with
    | false =>
        rfl
    | true =>
        simp [call.aadPassed isNull]
  simp only [prepare, FileCall.args, aeadAlg_id, aadValid,
    Bool.false_eq_true, ↓reduceIte, call.positive, call.inUtf8,
    call.outUtf8, sizes.lessSafeKey algorithm call.keyLength,
    call.aadRead]
  simp only [Except.mapError, bind, Except.bind, call.opens,
    call.creates]
  rfl

/-- Only calls on files pass the checks. -/
theorem exists_fileCall
    (sizes : aws.Sizes)
    {args : StreamArgs}
    {job : StreamJob}
    (passed : prepare aws files args = .ok job) :
    ∃ algorithm key ad,
      ∃ call : FileCall files algorithm key ad args.chunkSize,
        call.args = args ∧ call.job = job := by
  obtain ⟨algId, keyArg, aad, chunkSize, inArg, outArg⟩ := args
  rw [prepare] at passed
  cases known : aeadAlg algId with
  | none =>
      simp [known] at passed
  | some algorithm =>
      obtain rfl := aeadAlg_eq_some known
      simp only [known] at passed
      split at passed
      · rename_i key inPtr outPtr
        split at passed
        · cases passed
        · rename_i aadValid
          split at passed
          · cases passed
          · rename_i positive
            obtain ⟨inPath, inUtf8, passed⟩ := except_bind_eq_ok passed
            obtain ⟨outPath, outUtf8, passed⟩ :=
              except_bind_eq_ok passed
            cases made : aws.lessSafeKey algorithm key with
            | none =>
                simp [made] at passed
            | some lessSafe =>
                rw [made] at passed
                obtain ⟨file, opens, passed⟩ := except_bind_eq_ok passed
                obtain ⟨writer, creates, passed⟩ :=
                  except_bind_eq_ok passed
                have keyLength : key.length = 32 := by
                  by_contra wrong
                  rw [sizes.lessSafeKey_none algorithm wrong] at made
                  cases made
                rw [sizes.lessSafeKey algorithm keyLength] at made
                cases made
                cases passed
                refine ⟨algorithm, key, readAad aad, ?_⟩
                refine ⟨{
                  keyLength, positive, aad, inPtr, inPath, outPtr,
                  outPath, file, writer
                  aadPassed := ?_
                  aadRead := rfl
                  inUtf8 := mapError_eq_ok inUtf8
                  outUtf8 := mapError_eq_ok outUtf8
                  opens := mapError_eq_ok opens
                  creates := mapError_eq_ok creates }, rfl, rfl⟩
                intro isNull
                simpa [isNull] using aadValid
      · cases passed

/-- The sealing run of a call on files. -/
theorem pqforgeStreamSealFile_eq
    (sizes : aws.Sizes)
    (call : FileCall files algorithm key ad chunkSize) :
    pqforgeStreamSealFile aws files call.args =
      exported (sealBody aws call.job chunkSize.toNat) := by
  rw [pqforgeStreamSealFile, prepare_fileCall sizes call,
    Trace.ofExcept_ok, Trace.done_bind]
  rfl

/-- The opening run of a call on files. -/
theorem pqforgeStreamOpenFile_eq
    (sizes : aws.Sizes)
    (call : FileCall files algorithm key ad chunkSize) :
    pqforgeStreamOpenFile aws files call.args =
      exported
        (openBody aws call.job
          (chunkSize + UInt64.ofNat tagLen).toNat) := by
  rw [pqforgeStreamOpenFile, prepare_fileCall sizes call,
    Trace.ofExcept_ok, Trace.done_bind]
  rfl

/-- Sealing with a size that no `Vec` can have panics. -/
theorem pqforgeStreamSealFile_of_huge
    (sizes : aws.Sizes)
    (call : FileCall files algorithm key ad chunkSize)
    (huge : isizeMax < chunkSize.toNat) :
    (pqforgeStreamSealFile aws files call.args).code =
      PqForgeStatus.internal.code := by
  rw [pqforgeStreamSealFile_eq sizes call,
    sealBody_of_huge aws call.job huge]
  rfl

end Checks

/-! ## Calls on files in memory -/

/-- A file system whose every file is the given one and takes what is written. -/
def memoryFiles (file : File) : FileSystem where
  openFile := fun _ => .ok file
  createFile := fun _ =>
    .ok { writeAll := fun _ => .ok (), flush := .ok () }

/-- The call that streams a file in memory. -/
def memoryCall
    (file : File)
    (algorithm : PqAeadAlgorithm)
    (key ad : Bytes)
    (chunkSize : UInt64)
    (keyLength : key.length = 32)
    (positive : chunkSize ≠ 0) :
    FileCall (memoryFiles file) algorithm key ad chunkSize where
  keyLength := keyLength
  positive := positive
  aad := .valid ad
  aadPassed := fun isNull => by cases isNull
  aadRead := by
    cases ad with
    | nil =>
        rfl
    | cons byte more =>
        rfl
  inPtr := []
  inPath := ""
  inUtf8 := by decide
  outPtr := []
  outPath := ""
  outUtf8 := by decide
  file := file
  opens := rfl
  writer := { writeAll := fun _ => .ok (), flush := .ok () }
  creates := rfl

/-- What is written to memory is accepted. -/
theorem memoryCall_accepts
    {file : File}
    {algorithm : PqAeadAlgorithm}
    {key ad : Bytes}
    {chunkSize : UInt64}
    (keyLength : key.length = 32)
    (positive : chunkSize ≠ 0) :
    (memoryCall file algorithm key ad chunkSize keyLength
      positive).writer.Accepts :=
  ⟨fun _ => rfl, rfl⟩

/-- The file in memory is the one that is read. -/
theorem memoryCall_serves
    {file : File}
    {algorithm : PqAeadAlgorithm}
    {key ad bytes : Bytes}
    {chunkSize : UInt64}
    (keyLength : key.length = 32)
    (positive : chunkSize ≠ 0)
    (serves : file.Serves bytes) :
    (memoryCall file algorithm key ad chunkSize keyLength
      positive).file.Serves bytes :=
  serves

/-! ## Status codes -/

/-- The status a body ends with. -/
def endStatus : Except Exit PqForgeStatus → PqForgeStatus
  | .ok status => status
  | .error exit => exit.status

/-- The code of an exported function is the status its body ends with. -/
theorem exported_code
    (body : Trace StreamEvent Exit PqForgeStatus) :
    (exported body).code = (endStatus body.outcome).code := by
  rw [exported]
  cases body.outcome with
  | ok status =>
      rfl
  | error exit =>
      exact finish_guard_error exit

/-- A body whose failures show returned when its code says so. -/
theorem exported_eq_ok
    {body : Trace StreamEvent Exit PqForgeStatus}
    (fails : body.FailsAs Exit.IsFailure)
    (returnsOk : (exported body).code = PqForgeStatus.ok.code) :
    body.outcome = .ok .ok := by
  rw [exported_code, PqForgeStatus.code_inj] at returnsOk
  cases ended : body.outcome with
  | ok status =>
      rw [ended] at returnsOk
      exact congrArg Except.ok returnsOk
  | error exit =>
      rw [ended] at returnsOk
      exact (fails exit ended returnsOk).elim

/-- A failed check leaves the closure with an error or another status. -/
theorem prepare_exits
    {aws : AwsLc}
    {files : FileSystem}
    {args : StreamArgs}
    {exit : Exit}
    (failed : prepare aws files args = .error exit)
    (size : Nat) :
    StreamExit size exit := by
  have returned
      {First : Type}
      {status : PqForgeStatus}
      (differs : status ≠ .ok) :
      (.error (.returned status) : Except Exit First) = .error exit →
        StreamExit size exit :=
    Exit.kind_of_returned (streamExit_returned size differs)
  have errors := streamExit_failed size
  rw [prepare] at failed
  split at failed
  · exact returned (by decide) failed
  · split at failed
    · split at failed
      · exact returned (by decide) failed
      · split at failed
        · exact returned (by decide) failed
        · rcases except_bind_eq_error failed with
              inPath | ⟨_, _, failed⟩
          · exact Exit.kind_of_mapError errors inPath
          rcases except_bind_eq_error failed with
              outPath | ⟨_, _, failed⟩
          · exact Exit.kind_of_mapError errors outPath
          split at failed
          · exact returned (by decide) failed
          · rcases except_bind_eq_error failed with
                file | ⟨_, _, failed⟩
            · exact Exit.kind_of_mapError (fun _ => errors _) file
            rcases except_bind_eq_error failed with
                writer | ⟨_, _, failed⟩
            · exact Exit.kind_of_mapError (fun _ => errors _) writer
            · cases failed
    · exact returned (by decide) failed

/-- A failed check is never reported as success. -/
theorem prepare_isFailure
    {aws : AwsLc}
    {files : FileSystem}
    {args : StreamArgs}
    {exit : Exit}
    (failed : prepare aws files args = .error exit) :
    exit.IsFailure :=
  (prepare_exits failed 0).1

/-- A function that starts with the checks returns `Ok` only behind them. -/
theorem prepared_of_ok
    {aws : AwsLc}
    {files : FileSystem}
    {args : StreamArgs}
    {body : StreamJob → Trace StreamEvent Exit PqForgeStatus}
    (returnsOk :
      (exported
        (Trace.ofExcept (prepare aws files args) >>= body)).code =
        PqForgeStatus.ok.code) :
    ∃ job, prepare aws files args = .ok job := by
  cases prepared : prepare aws files args with
  | error exit =>
      rw [prepared] at returnsOk
      cases exported_eq_ok
        (Trace.failsAs_fail (prepare_isFailure prepared)) returnsOk
  | ok job =>
      exact ⟨job, rfl⟩

section Serving

variable {aws : AwsLc}
variable {files : FileSystem}
variable {algorithm : PqAeadAlgorithm}
variable {key ad : Bytes}
variable {chunkSize : UInt64}

/-- The blocks of a file that serves bytes are the framing of them. -/
theorem readBlocks_serving
    {file : File}
    {bytes : Bytes}
    (serves : file.Serves bytes)
    {size : Nat}
    (positive : 0 < size) :
    readBlocks size
        (ScheduledRead.deliveries (BufReader.withCapacity file)) =
      .ok (if bytes = [] then [] else blocks size bytes) := by
  show readBlocks size (BufReader.withCapacity file).deliveries = _
  rw [deliveries_withCapacity, serves.deliveries,
    readBlocks_items positive]

/-- Reading the blocks of a file that fails within its bytes fails. -/
theorem readBlocks_failing
    {file : File}
    {bytes : Bytes}
    (fails : file.FailsWithin bytes)
    {size : Nat}
    (positive : 0 < size) :
    ∃ reason,
      readBlocks size
          (ScheduledRead.deliveries (BufReader.withCapacity file)) =
        .error reason := by
  obtain ⟨items, reason, later, delivers⟩ := fails.deliveries
  refine ⟨reason, ?_⟩
  show readBlocks size (BufReader.withCapacity file).deliveries = _
  rw [deliveries_withCapacity, delivers, readBlocks_failure positive]

/-- The chunks that are sealed of served bytes are their framing. -/
theorem sealedChunks_serving
    (size : Nat)
    (bytes : Bytes) :
    sealedChunks (if bytes = [] then [] else blocks size bytes) =
      blocks size bytes := by
  by_cases isEmpty : bytes = []
  · subst isEmpty
    rw [if_pos rfl, blocks_of_le (Nat.zero_le size)]
    rfl
  · rw [if_neg isEmpty, sealedChunks, if_neg (blocks_ne_nil size bytes)]

/-- Opening a file that serves bytes opens the framing of them. -/
theorem openBody_serving
    (aws : AwsLc)
    (call : FileCall files algorithm key ad chunkSize)
    {bytes : Bytes}
    (serves : call.file.Serves bytes)
    {cipherChunk : Nat}
    (long : tagLen ≤ cipherChunk)
    (allocatable : cipherChunk ≤ isizeMax) :
    (openBody aws call.job cipherChunk).observe StreamEvent.produced? =
      (flaggedRun (openAct aws call.job) 0 (blocks cipherChunk bytes) >>=
        fun _ => flush call.writer).observe StreamEvent.produced? := by
  have positive : 0 < cipherChunk := by
    rw [tagLen] at long
    omega
  have found := readBlocks_serving serves positive
  by_cases isEmpty : bytes = []
  · subst isEmpty
    rw [if_pos rfl] at found
    rw [openBody_observe allocatable long found (by simp), if_pos rfl,
      blocks_of_le (Nat.zero_le _)]
    rfl
  · rw [if_neg isEmpty] at found
    have full : ∀ frame ∈ (blocks cipherChunk bytes).dropLast,
        frame.length = cipherChunk := by
      rw [blocks, List.dropLast_concat]
      exact fun frame member => length_of_mem_cut member
    rw [openBody_observe allocatable long found full,
      if_neg (blocks_ne_nil _ _)]
    rfl

end Serving

end PqForgeFfi.StreamFile
