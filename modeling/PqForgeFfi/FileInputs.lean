import PqForgeFfi.FilePublication
import PqForgeFfi.SealedFiles
import PqForgeFfi.StreamCanonical

namespace PqForgeFfi.PqForgeFileCipher

open PathStrings PlainFiles Segmentation

/-!
# Native calls on a disk

The native functions of the library, run on the files of a disk.  A call opens
its input before it creates the temporary file, and reads only then; so where
the two are not one file, what it leaves is the sealing or the opening of its
input.
-/

/--
How the operating system answers a native call: whether it opens and creates,
how it serves the content of a file, and how much of the output it has been
given at the moments before the end.
-/
structure NativeFiles where
  openError : Option String
  createError : Option String
  reads : Bytes → File
  holds : ∀ content, (reads content).Holds content
  writer : StreamFile.BufWriter
  given : List Nat

/-- The file that a native call creates. -/
def createdFile
    {Place : Type}
    (names : FileNames Place)
    (args : StreamFile.StreamArgs) :
    Option Place :=
  args.outPath.bind fun ptr =>
    (StreamFile.cstrPath ptr).toOption.map names.place

namespace NativeFiles

variable {Place : Type}
variable [DecidableEq Place]

/--
The files of a native call.  Creating a file empties it before anything is
read, also where it is the one that was opened.
-/
def on
    (native : NativeFiles)
    (names : FileNames Place)
    (disk : Disk Place Bytes)
    (args : StreamFile.StreamArgs) :
    StreamFile.FileSystem where
  openFile := fun path =>
    match native.openError, disk (names.place path) with
    | some reason, _ =>
        .error reason
    | none, none =>
        .error "No such file or directory (os error 2)"
    | none, some content =>
        .ok (native.reads
          (if createdFile names args = some (names.place path) then
            []
          else
            content))
  createFile := fun _ =>
    match native.createError with
    | some reason => .error reason
    | none => .ok native.writer

/-- The contents that a native call gives to the file that it creates. -/
def contents
    (native : NativeFiles)
    (prepared : Except Exit StreamFile.StreamJob)
    (run : StreamFile.NativeRun) :
    List Bytes :=
  match prepared with
  | .error _ =>
      []
  | .ok _ =>
      let output := (emitted run.log).flatten
      [] :: native.given.map output.take ++
        if run.code = PqForgeErrorCode.ok.value then [output] else []

/-- What a native run on a disk comes to. -/
def outcome
    (native : NativeFiles)
    (prepared : Except Exit StreamFile.StreamJob)
    (run : StreamFile.NativeRun)
    (checked :
      run.code = PqForgeErrorCode.ok.value →
      ∃ job, prepared = .ok job) :
    NativeOutcome Bytes where
  contents := native.contents prepared run
  code := run.code
  finished := by
    intro returnedOk
    obtain ⟨job, passed⟩ := checked returnedOk
    subst passed
    exact List.cons_ne_nil _ _

/-- `pqforge_stream_seal_file` on a disk. -/
def sealFile
    (native : NativeFiles)
    (names : FileNames Place)
    (aws : AwsLc)
    (disk : Disk Place Bytes) :
    FileFn Bytes :=
  fun args =>
    let files := native.on names disk args
    native.outcome (StreamFile.prepare aws files args)
      (StreamFile.pqforgeStreamSealFile aws files args)
      StreamFile.prepared_of_ok

/-- `pqforge_stream_open_file` on a disk. -/
def openFile
    (native : NativeFiles)
    (names : FileNames Place)
    (aws : AwsLc)
    (disk : Disk Place Bytes) :
    FileFn Bytes :=
  fun args =>
    let files := native.on names disk args
    native.outcome (StreamFile.prepare aws files args)
      (StreamFile.pqforgeStreamOpenFile aws files args)
      StreamFile.prepared_of_ok

/-- A native run that returned `Ok` leaves everything that it wrote. -/
theorem outcome_output?
    {native : NativeFiles}
    {prepared : Except Exit StreamFile.StreamJob}
    {run : StreamFile.NativeRun}
    (checked :
      run.code = PqForgeErrorCode.ok.value →
      ∃ job, prepared = .ok job)
    (returnedOk : run.code = PqForgeErrorCode.ok.value) :
    (native.outcome prepared run checked).output? =
      some (emitted run.log).flatten := by
  obtain ⟨job, passed⟩ := checked returnedOk
  subst passed
  rw [NativeOutcome.output?]
  show (if run.code = PqForgeErrorCode.ok.value then
    (native.contents (.ok job) run).getLast? else none) = _
  rw [if_pos returnedOk, NativeFiles.contents, if_pos returnedOk]
  exact List.getLast?_concat

/-- A native run that failed a check has written nothing. -/
theorem outcome_of_error
    {native : NativeFiles}
    {prepared : Except Exit StreamFile.StreamJob}
    {run : StreamFile.NativeRun}
    (checked :
      run.code = PqForgeErrorCode.ok.value →
      ∃ job, prepared = .ok job)
    {exit : Exit}
    (failed : prepared = .error exit) :
    (native.outcome prepared run checked).code ≠
        PqForgeErrorCode.ok.value ∧
      (native.outcome prepared run checked).contents = [] := by
  subst failed
  refine ⟨fun returnedOk => ?_, rfl⟩
  obtain ⟨job, passed⟩ := checked returnedOk
  cases passed

end NativeFiles

section Calls

variable {aws : AwsLc}
variable {Place : Type}
variable [DecidableEq Place]
variable {names : FileNames Place}
variable {native : NativeFiles}
variable {disk : Disk Place Bytes}
variable {args : FileArgs}

/-- Native code reads a path without a NUL as the path that `File` uses. -/
theorem cstrPath_of_noNul
    {s : DartString}
    (noNul : NoNul s) :
    StreamFile.cstrPath (cStrFromPtr (cString s)) = .ok (filePath s) :=
  nativePath_of_noNul noNul

omit [DecidableEq Place] in
/-- A call creates the temporary file. -/
theorem createdFile_nativeArgs
    (noNul : NoNul args.outputPath) :
    createdFile names (nativeArgs args) = some (names.tmp args) := by
  rw [createdFile, nativeArgs, Option.bind_some,
    cstrPath_of_noNul (noNul_tmpPath noNul)]
  rfl

/-- The associated data of a call reaches native code unchanged. -/
theorem readAad_valid (ad : Bytes) :
    StreamFile.readAad (.valid ad) = ad := by
  cases ad with
  | nil =>
      rfl
  | cons byte more =>
      rfl

/-- The chunk size of a call reaches native code unchanged. -/
theorem toNat_chunkSize
    (positive : 0 < args.chunkSize.toInt) :
    args.chunkSize.toUInt64.toNat = args.chunkSize.toInt.toNat := by
  have nonnegative : 0 ≤ args.chunkSize := by
    rw [Int64.le_iff_toInt_le]
    exact Int.le_of_lt positive
  exact Int64.toNat_toUInt64_of_le nonnegative

/-- A `Vec` can hold a chunk of every call. -/
theorem chunkSize_le_isizeMax
    (positive : 0 < args.chunkSize.toInt) :
    args.chunkSize.toUInt64.toNat ≤ isizeMax := by
  have := args.chunkSize.toInt_lt
  rw [toNat_chunkSize positive, isizeMax]
  omega

/-- A native call that passes its checks has opened the input. -/
theorem exists_fileCall
    (sizes : aws.Sizes)
    (inputNoNul : NoNul args.inputPath)
    {job : StreamFile.StreamJob}
    (passed :
      StreamFile.prepare aws (native.on names disk (nativeArgs args))
        (nativeArgs args) = .ok job) :
    ∃ content,
      disk (names.input args) = some content ∧
        ∃ call :
            StreamFile.FileCall (native.on names disk (nativeArgs args))
              args.algorithm args.key (args.aad.getD [])
              args.chunkSize.toUInt64,
          call.args = nativeArgs args ∧
            call.file = native.reads
              (if createdFile names (nativeArgs args) =
                  some (names.input args) then
                []
              else
                content) := by
  obtain ⟨algorithm, key, ad, call, same, _⟩ :=
    StreamFile.exists_fileCall sizes passed
  have sameKnown : some algorithm = some args.algorithm := by
    rw [← StreamFile.aeadAlg_id, ← StreamFile.aeadAlg_id]
    exact congrArg
      (fun call => StreamFile.aeadAlg (StreamFile.StreamArgs.algId call))
      same
  obtain rfl := Option.some.inj sameKnown
  have sameKey := congrArg StreamFile.StreamArgs.key same
  obtain rfl : key = args.key := CSlice.valid.inj sameKey
  have sameAad : call.aad = .valid (args.aad.getD []) :=
    congrArg StreamFile.StreamArgs.aad same
  obtain rfl : ad = args.aad.getD [] := by
    rw [← call.aadRead, sameAad, readAad_valid]
  have samePath := congrArg StreamFile.StreamArgs.inPath same
  have sameInput : call.inPath = filePath args.inputPath := by
    have decoded := call.inUtf8
    rw [Option.some.inj samePath, cstrPath_of_noNul inputNoNul]
      at decoded
    exact (Except.ok.inj decoded).symm
  have opened := call.opens
  rw [sameInput] at opened
  simp only [NativeFiles.on] at opened
  split at opened
  · cases opened
  · cases opened
  · rename_i content noError found
    exact ⟨content, found, call, same, (Except.ok.inj opened).symm⟩

/-- Where the input is not the temporary file, its content is read. -/
theorem exists_fileCall_of_apart
    (sizes : aws.Sizes)
    (inputNoNul : NoNul args.inputPath)
    (outputNoNul : NoNul args.outputPath)
    (apart : names.input args ≠ names.tmp args)
    {job : StreamFile.StreamJob}
    (passed :
      StreamFile.prepare aws (native.on names disk (nativeArgs args))
        (nativeArgs args) = .ok job) :
    ∃ content,
      disk (names.input args) = some content ∧
        ∃ call :
            StreamFile.FileCall (native.on names disk (nativeArgs args))
              args.algorithm args.key (args.aad.getD [])
              args.chunkSize.toUInt64,
          call.args = nativeArgs args ∧
            call.file = native.reads content := by
  obtain ⟨content, found, call, same, opened⟩ :=
    exists_fileCall sizes inputNoNul passed
  have notCreated :
      createdFile names (nativeArgs args) ≠ some (names.input args) := by
    rw [createdFile_nativeArgs outputNoNul]
    exact fun isTmp => apart (Option.some.inj isTmp).symm
  rw [if_neg notCreated] at opened
  exact ⟨content, found, call, same, opened⟩

end Calls

/-- An operating system that refuses a native call nothing. -/
structure NativeFiles.Quiet (native : NativeFiles) : Prop where
  opens : native.openError = none
  creates : native.createError = none
  serves : ∀ content, (native.reads content).Serves content
  accepts : native.writer.Accepts

section Quiet

variable {Place : Type}
variable [DecidableEq Place]
variable {names : FileNames Place}
variable {native : NativeFiles}
variable {disk : Disk Place Bytes}
variable {args : FileArgs}

/-- A native call that nothing refuses comes to read its input. -/
theorem exists_quietCall
    (quiet : native.Quiet)
    (keyLength : args.key.length = 32)
    (inputNoNul : NoNul args.inputPath)
    (outputNoNul : NoNul args.outputPath)
    (positive : 0 < args.chunkSize.toInt)
    {content : Bytes}
    (found : disk (names.input args) = some content) :
    ∃ call :
        StreamFile.FileCall (native.on names disk (nativeArgs args))
          args.algorithm args.key (args.aad.getD [])
          args.chunkSize.toUInt64,
      call.args = nativeArgs args ∧
        call.file.Serves
          (if names.tmp args = names.input args then [] else content) ∧
        call.writer.Accepts := by
  have size := toNat_chunkSize positive
  refine ⟨{
    keyLength
    positive := by
      intro isZero
      rw [isZero] at size
      have : (0 : UInt64).toNat = 0 := rfl
      omega
    aad := .valid (args.aad.getD [])
    aadPassed := fun isNull => by cases isNull
    aadRead := readAad_valid _
    inPtr := cStrFromPtr (cString args.inputPath)
    inPath := filePath args.inputPath
    inUtf8 := cstrPath_of_noNul inputNoNul
    outPtr := cStrFromPtr (cString (tmpPath args.outputPath))
    outPath := filePath (tmpPath args.outputPath)
    outUtf8 := cstrPath_of_noNul (noNul_tmpPath outputNoNul)
    file := native.reads
      (if names.tmp args = names.input args then [] else content)
    opens := by
      have isInput :
          names.place (filePath args.inputPath) = names.input args := rfl
      simp only [NativeFiles.on, quiet.opens, isInput, found,
        createdFile_nativeArgs outputNoNul, Option.some.injEq]
    writer := native.writer
    creates := by
      simp only [NativeFiles.on, quiet.creates] }, rfl,
    quiet.serves _, quiet.accepts⟩

end Quiet

/-! ## What a call publishes -/

/-- The output is what the content seals to. -/
def IsSealing
    (aead : Aead)
    (args : FileArgs)
    (content output : Bytes) : Prop :=
  output =
    (StreamFormat.frames
      (fun nonce chunk =>
        aead.sealUnder nonce (args.aad.getD []) chunk)
      args.chunkSize.toInt.toNat content).flatten

/-- The content is a sealing that opens to the output. -/
def IsOpening
    (aead : Aead)
    (args : FileArgs)
    (content output : Bytes) : Prop :=
  let frames := blocks (args.chunkSize.toInt.toNat + 16) content
  aead.OpensAll StreamFormat.frameNonce (args.aad.getD []) frames ∧
    output =
      (flaggedMap
        (aead.openAt StreamFormat.frameNonce (args.aad.getD []))
        0 frames).flatten

/-- A content that a call can seal: not too long for the frame counter. -/
def CanSeal
    (args : FileArgs)
    (content : Bytes) : Prop :=
  args.key.length = 32 ∧
    (blocks args.chunkSize.toInt.toNat content).length < 2 ^ 64

/--
A content that a call can open: its frames can be allocated, are not too many
for the frame counter, hold a tag each, and open.
-/
def CanOpen
    (aead : Aead)
    (args : FileArgs)
    (content : Bytes) : Prop :=
  let frames := blocks (args.chunkSize.toInt.toNat + 16) content
  args.key.length = 32 ∧
    args.chunkSize.toInt + 16 ≤ 2 ^ 63 - 1 ∧
    frames.length < 2 ^ 64 ∧
    (∀ frame ∈ frames, 16 ≤ frame.length) ∧
    aead.OpensAll StreamFormat.frameNonce (args.aad.getD []) frames

/--
A native call that returned `Ok` on the input has left what its content is to
become, and the content was possible.
-/
def Transforms
    {Place : Type}
    (names : FileNames Place)
    (disk : Disk Place Bytes)
    (args : FileArgs)
    (Possible : Bytes → Prop)
    (BecomesOutput : Bytes → Bytes → Prop)
    (outcome : NativeOutcome Bytes) : Prop :=
  outcome.code = PqForgeErrorCode.ok.value →
  ∃ content output,
    disk (names.input args) = some content ∧
      outcome.output? = some output ∧
      Possible content ∧
      BecomesOutput content output

section Transforms

variable {Place : Type}
variable [DecidableEq Place]
variable {names : FileNames Place}
variable {aead : Aead}
variable {aws : AwsLc}
variable {disk : Disk Place Bytes}
variable {args : FileArgs}

/-- Sealing transforms an input that is not the temporary file. -/
theorem sealFile_transforms
    (sizes : aws.Sizes)
    (seals :
      args.key.length = 32 →
      aws.SealsAs args.algorithm args.key aead)
    (native : NativeFiles)
    (inputNoNul : NoNul args.inputPath)
    (outputNoNul : NoNul args.outputPath)
    (positive : 0 < args.chunkSize.toInt)
    (apart : names.input args ≠ names.tmp args) :
    Transforms names disk args (CanSeal args) (IsSealing aead args)
      (native.sealFile names aws disk (nativeArgs args)) := by
  intro returnedOk
  obtain ⟨job, passed⟩ := StreamFile.prepared_of_ok returnedOk
  obtain ⟨content, found, call, same, opened⟩ :=
    exists_fileCall_of_apart sizes inputNoNul outputNoNul apart passed
  have returnsOk :
      (StreamFile.pqforgeStreamSealFile aws
          (native.on names disk (nativeArgs args)) call.args).code =
        PqForgeStatus.ok.code := by
    rw [same]
    exact returnedOk
  obtain ⟨blocksRead, readBack, wrote⟩ :=
    StreamFile.sealFile_wrote sizes (seals call.keyLength) call returnsOk
  have size := toNat_chunkSize positive
  have sizePositive : 0 < args.chunkSize.toInt.toNat := by
    omega
  rw [opened, size] at readBack
  rcases native.holds content with serves | fails
  · have framing := StreamFile.readBlocks_serving serves sizePositive
    obtain rfl := Except.ok.inj (readBack.symm.trans framing)
    have few := wrote.few
    have pieces := wrote.pieces
    rw [StreamFile.sealedChunks_serving] at few
    rw [StreamFile.sealedChunks_serving, same] at pieces
    exact
      ⟨content, _, found,
        NativeFiles.outcome_output? StreamFile.prepared_of_ok returnedOk,
        ⟨call.keyLength, few⟩, congrArg List.flatten pieces⟩
  · obtain ⟨reason, failed⟩ :=
      StreamFile.readBlocks_failing fails sizePositive
    cases readBack.symm.trans failed

/-- Opening transforms an input that is not the temporary file. -/
theorem openFile_transforms
    (sizes : aws.Sizes)
    (opens :
      args.key.length = 32 →
      aws.OpensAs args.algorithm args.key aead)
    (native : NativeFiles)
    (inputNoNul : NoNul args.inputPath)
    (outputNoNul : NoNul args.outputPath)
    (positive : 0 < args.chunkSize.toInt)
    (apart : names.input args ≠ names.tmp args) :
    Transforms names disk args (CanOpen aead args) (IsOpening aead args)
      (native.openFile names aws disk (nativeArgs args)) := by
  intro returnedOk
  obtain ⟨job, passed⟩ := StreamFile.prepared_of_ok returnedOk
  obtain ⟨content, found, call, same, opened⟩ :=
    exists_fileCall_of_apart sizes inputNoNul outputNoNul apart passed
  have returnsOk :
      (StreamFile.pqforgeStreamOpenFile aws
          (native.on names disk (nativeArgs args)) call.args).code =
        PqForgeStatus.ok.code := by
    rw [same]
    exact returnedOk
  have size := toNat_chunkSize positive
  have fits := chunkSize_le_isizeMax positive
  have allocatable :
      args.chunkSize.toUInt64.toNat + 16 ≤ isizeMax := by
    by_contra huge
    have panicked := StreamFile.pqforgeStreamOpenFile_of_huge sizes call
      fits (Nat.lt_of_not_le huge)
    cases panicked.symm.trans returnsOk
  rcases native.holds content with serves | fails
  · rw [← opened] at serves
    have handedOn := StreamFile.open_accepted sizes
      (opens call.keyLength) allocatable call serves returnsOk
    rw [size, same] at handedOn
    rw [size, isizeMax] at allocatable
    exact
      ⟨content, _, found,
        NativeFiles.outcome_output? StreamFile.prepared_of_ok returnedOk,
        ⟨call.keyLength, by omega, handedOn.few, handedOn.long,
          handedOn.opens⟩,
        handedOn.opens, congrArg List.flatten handedOn.pieces⟩
  · rw [← opened] at fails
    exact
      (StreamFile.pqforgeStreamOpenFile_of_failing sizes call allocatable
        fails returnsOk).elim

/-- A call that nothing refuses seals a content that it can seal. -/
theorem sealFile_of_quiet
    (sizes : aws.Sizes)
    (seals :
      args.key.length = 32 →
      aws.SealsAs args.algorithm args.key aead)
    {native : NativeFiles}
    (quiet : native.Quiet)
    (inputNoNul : NoNul args.inputPath)
    (outputNoNul : NoNul args.outputPath)
    (positive : 0 < args.chunkSize.toInt)
    {content : Bytes}
    (found : disk (names.input args) = some content)
    {read : Bytes}
    (isRead :
      (if names.tmp args = names.input args then [] else content) = read)
    (possible : CanSeal args read) :
    (native.sealFile names aws disk (nativeArgs args)).code =
        PqForgeErrorCode.ok.value ∧
      ∃ output,
        (native.sealFile names aws disk (nativeArgs args)).output? =
            some output ∧
          IsSealing aead args read output := by
  obtain ⟨keyLength, few⟩ := possible
  obtain ⟨call, same, serves, accepts⟩ :=
    exists_quietCall quiet keyLength inputNoNul outputNoNul positive found
  have size := toNat_chunkSize positive
  rw [isRead] at serves
  obtain ⟨returnsOk, pieces⟩ :=
    StreamFile.pqforgeStreamSealFile_serving sizes (seals keyLength) call
      accepts serves (chunkSize_le_isizeMax positive) (by rwa [size])
  rw [same] at returnsOk pieces
  rw [size] at pieces
  exact
    ⟨returnsOk, _,
      NativeFiles.outcome_output? StreamFile.prepared_of_ok returnsOk,
      congrArg List.flatten pieces⟩

/-- A native call hands on frames that hold a tag and open. -/
theorem pqforgeStreamOpenFile_of_opensAll
    {key ad : Bytes}
    {algorithm : PqAeadAlgorithm}
    {chunkSize : UInt64}
    (sizes : aws.Sizes)
    (opens : aws.OpensAs algorithm key aead)
    {files : StreamFile.FileSystem}
    (call : StreamFile.FileCall files algorithm key ad chunkSize)
    (accepts : call.writer.Accepts)
    (allocatable : chunkSize.toNat + 16 ≤ isizeMax)
    {ciphertext : Bytes}
    (serves : call.file.Serves ciphertext)
    (few : (blocks (chunkSize.toNat + 16) ciphertext).length < 2 ^ 64)
    (long :
      ∀ frame ∈ blocks (chunkSize.toNat + 16) ciphertext,
        16 ≤ frame.length)
    (opensAll :
      aead.OpensAll StreamFormat.frameNonce ad
        (blocks (chunkSize.toNat + 16) ciphertext)) :
    (StreamFile.pqforgeStreamOpenFile aws files call.args).code =
      PqForgeStatus.ok.code := by
  have records :
      flaggedRun (StreamFile.openAt aws call.job) 0
          (blocks (chunkSize.toNat + 16) ciphertext) =
        ⟨flaggedMap (aead.openAt StreamFormat.frameNonce ad) 0
          (blocks (chunkSize.toNat + 16) ciphertext), .ok ()⟩ := by
    refine flaggedRun_of_records fun index frame present => ?_
    obtain ⟨inBounds, _⟩ := List.getElem?_eq_some_iff.mp present
    have isLong := long frame (List.mem_of_getElem? present)
    have nonceLength :=
      StreamFormat.length_frameNonce index
        (decide
          (index + 1 =
            (blocks (chunkSize.toNat + 16) ciphertext).length))
    have opened := opensAll index frame present
    rw [Nat.zero_add, StreamFile.openAt,
      StreamFile.openAct_observe sizes accepts (by omega) _ isLong]
    show StreamFile.handOnOpened
      (aws.openInPlace algorithm key _ ad frame) = _
    rw [opens _ _ _ nonceLength isLong, opened]
    rfl
  obtain ⟨ends, _⟩ :=
    StreamFile.pqforgeStreamOpenFile_serving sizes call accepts serves
      allocatable
  rw [ends, records]
  rfl

/-- A call that nothing refuses opens a content that it can open. -/
theorem openFile_returns_of_quiet
    (sizes : aws.Sizes)
    (opens :
      args.key.length = 32 →
      aws.OpensAs args.algorithm args.key aead)
    {native : NativeFiles}
    (quiet : native.Quiet)
    (inputNoNul : NoNul args.inputPath)
    (outputNoNul : NoNul args.outputPath)
    (positive : 0 < args.chunkSize.toInt)
    (apart : names.input args ≠ names.tmp args)
    {content : Bytes}
    (found : disk (names.input args) = some content)
    (possible : CanOpen aead args content) :
    (native.openFile names aws disk (nativeArgs args)).code =
      PqForgeErrorCode.ok.value := by
  obtain ⟨keyLength, limited, few, long, opensAll⟩ := possible
  obtain ⟨call, same, serves, accepts⟩ :=
    exists_quietCall quiet keyLength inputNoNul outputNoNul positive found
  have size := toNat_chunkSize positive
  rw [if_neg apart.symm] at serves
  have allocatable :
      args.chunkSize.toUInt64.toNat + 16 ≤ isizeMax := by
    rw [size, isizeMax]
    omega
  rw [← size] at few long opensAll
  have returnsOk :=
    pqforgeStreamOpenFile_of_opensAll sizes (opens keyLength) call accepts
      allocatable serves few long opensAll
  rw [same] at returnsOk
  exact returnsOk

end Transforms

end PqForgeFfi.PqForgeFileCipher
