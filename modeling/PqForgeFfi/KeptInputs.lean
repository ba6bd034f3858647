import PqForgeFfi.FileInputs

namespace PqForgeFfi.PqForgeFileCipher

open PathStrings PlainFiles Segmentation

/-!
# Inputs that a call keeps

A call clears its temporary file and replaces its output.  So it keeps the file
at its input path exactly when that is neither its temporary file nor an output
that it can replace, whatever the paths are spelled like.
-/

/--
A call keeps its input: the file there is as it was before, and a call that
returns has published what that file's content is to become.
-/
structure KeepsInput
    {Place : Type}
    [DecidableEq Place]
    (names : FileNames Place)
    (disk : Disk Place Bytes)
    (args : FileArgs)
    (BecomesOutput : Bytes → Bytes → Prop)
    (call : Trace (Effect Place Bytes) DartThrow Unit) : Prop where
  kept :
    after disk call.log (names.input args) = disk (names.input args)
  published :
    call.outcome = .ok () →
    ∃ content output,
      disk (names.input args) = some content ∧
        after disk call.log (names.output args) = some output ∧
        BecomesOutput content output

/--
A file at the input path is not the temporary file of the call, and if it is its
output then the call cannot replace it; or the call is refused.
-/
def InputApart
    {Place : Type}
    (names : FileNames Place)
    (disk : Disk Place Bytes)
    (args : FileArgs)
    (Possible : Bytes → Prop) : Prop :=
  0 < args.chunkSize.toInt →
  ∀ content,
    disk (names.input args) = some content →
    names.input args ≠ names.tmp args ∧
      (names.input args = names.output args → ¬Possible content)

/-- What is said of a native call about the input: it is read, not made. -/
structure ReadsInput
    {Place : Type}
    (names : FileNames Place)
    (disk : Disk Place Bytes)
    (args : FileArgs)
    (Possible : Bytes → Prop)
    (BecomesOutput : Bytes → Bytes → Prop)
    (outcome : NativeOutcome Bytes) : Prop where
  transforms :
    0 < args.chunkSize.toInt →
    names.input args ≠ names.tmp args →
    Transforms names disk args Possible BecomesOutput outcome
  missing :
    disk (names.input args) = none →
    outcome.code ≠ PqForgeErrorCode.ok.value ∧ outcome.contents = []

/-- An operating system that refuses nothing. -/
def quietFiles : NativeFiles where
  openError := none
  createError := none
  reads := File.whole
  holds := fun content => .inl (File.serves_whole content)
  writer := { writeAll := fun _ => .ok (), flush := .ok () }
  given := []

theorem quietFiles_quiet : quietFiles.Quiet where
  opens := rfl
  creates := rfl
  serves := File.serves_whole
  accepts := ⟨fun _ => rfl, rfl⟩

section Keeping

variable {Place : Type}
variable [DecidableEq Place]
variable {names : FileNames Place}
variable {disk : Disk Place Bytes}
variable {args : FileArgs}
variable {Possible : Bytes → Prop}
variable {BecomesOutput : Bytes → Bytes → Prop}

/-- Cleaning up makes no file. -/
theorem after_cleanUp_of_none
    (answers : FileAnswers)
    (tmp : Place)
    {file : Place}
    (missing : disk file = none) :
    after disk (cleanUp answers tmp) file = none := by
  by_cases isTmp : file = tmp
  · subst isTmp
    cases deletes : answers.deletes with
    | true =>
        exact after_cleanUp deletes disk []
    | false =>
        rw [cleanUp, deletes]
        exact missing
  · rw [after_of_not_touches disk (cleanUp_not_touches isTmp)]
    exact missing

/-- A call without a file at its input path makes none there. -/
theorem run_of_missing
    {fn : FileFn Bytes}
    (reads :
      ReadsInput names disk args Possible BecomesOutput
        (fn (nativeArgs args)))
    (outputNoNul : NoNul args.outputPath)
    (positive : 0 < args.chunkSize.toInt)
    (missing : disk (names.input args) = none)
    (answers : FileAnswers)
    (op : String) :
    KeepsInput names disk args BecomesOutput
      (run names fn answers args op) := by
  obtain ⟨failed, nothing⟩ := reads.missing missing
  rw [run_of_failure outputNoNul positive failed, writes, nothing]
  refine ⟨?_, fun returned => by cases returned⟩
  rw [missing]
  exact after_cleanUp_of_none answers (names.tmp args) missing

/-- A call leaves a file alone that is neither its temporary nor replaceable. -/
theorem run_keeps_file
    {fn : FileFn Bytes}
    (reads :
      ReadsInput names disk args Possible BecomesOutput
        (fn (nativeArgs args)))
    (outputNoNul : NoNul args.outputPath)
    (positive : 0 < args.chunkSize.toInt)
    {content : Bytes}
    (found : disk (names.input args) = some content)
    (notTmp : names.input args ≠ names.tmp args)
    (notReplaced :
      names.input args = names.output args → ¬Possible content)
    (answers : FileAnswers)
    (op : String) :
    after disk (run names fn answers args op).log (names.input args) =
      disk (names.input args) := by
  by_cases aliased : names.input args = names.output args
  · have failed :
        (fn (nativeArgs args)).code ≠ PqForgeErrorCode.ok.value := by
      intro returnedOk
      obtain ⟨other, _, isFound, _, possible, _⟩ :=
        reads.transforms positive notTmp returnedOk
      obtain rfl : content = other :=
        Option.some.inj (found.symm.trans isFound)
      exact notReplaced aliased possible
    rw [run_of_failure outputNoNul positive failed]
    exact after_of_not_touches disk (writes_cleanUp_not_touches notTmp)
  · exact
      after_of_not_touches disk
        (run_not_touches names fn answers outputNoNul op notTmp aliased)

/-- A call keeps an input that is apart. -/
theorem run_keepsInput
    {fn : FileFn Bytes}
    (reads :
      ReadsInput names disk args Possible BecomesOutput
        (fn (nativeArgs args)))
    (outputNoNul : NoNul args.outputPath)
    (apart : InputApart names disk args Possible)
    (answers : FileAnswers)
    (op : String) :
    KeepsInput names disk args BecomesOutput
      (run names fn answers args op) := by
  by_cases positive : 0 < args.chunkSize.toInt
  · cases found : disk (names.input args) with
    | none =>
        exact
          run_of_missing reads outputNoNul positive found answers op
    | some content =>
        obtain ⟨notTmp, notReplaced⟩ := apart positive content found
        refine
          ⟨run_keeps_file reads outputNoNul positive found notTmp
            notReplaced answers op, ?_⟩
        intro returned
        have atomic := run_atomic names fn answers outputNoNul op disk
        obtain ⟨_, returnedOk, _⟩ := atomic.returns.mp returned
        obtain ⟨output, isOutput, published, _⟩ :=
          atomic.published returned
        obtain ⟨input, transformed, isInput, isTransformed, _, becomes⟩ :=
          reads.transforms positive notTmp returnedOk
        obtain rfl : output = transformed :=
          Option.some.inj (isOutput.symm.trans isTransformed)
        exact ⟨input, output, isInput, published, becomes⟩
  · rw [run_of_nonpositive (Int.not_lt.mp positive)]
    exact ⟨rfl, fun returned => by cases returned⟩

/-- A call does not keep an input that is its temporary file. -/
theorem run_not_keepsInput_of_tmp
    (fn : FileFn Bytes)
    (outputNoNul : NoNul args.outputPath)
    (positive : 0 < args.chunkSize.toInt)
    {content : Bytes}
    (found : disk (names.input args) = some content)
    (isTmp : names.input args = names.tmp args)
    (op : String) :
    ¬KeepsInput names disk args BecomesOutput
      (run names fn ⟨none, true⟩ args op) := by
  intro keeps
  have gone :=
    @run_clears_tmpPath Place Bytes _ names ⟨none, true⟩ args fn rfl
      outputNoNul positive op disk
  rw [← isTmp, keeps.kept, found] at gone
  cases gone

/-- A call does not keep an input that is the output it replaces. -/
theorem run_not_keepsInput_of_output
    {fn : FileFn Bytes}
    (outputNoNul : NoNul args.outputPath)
    (positive : 0 < args.chunkSize.toInt)
    {content : Bytes}
    (found : disk (names.input args) = some content)
    (aliased : names.input args = names.output args)
    (returnedOk :
      (fn (nativeArgs args)).code = PqForgeErrorCode.ok.value)
    (changes : ∀ output, BecomesOutput content output → output ≠ content)
    (op : String) :
    ¬KeepsInput names disk args BecomesOutput
      (run names fn ⟨none, true⟩ args op) := by
  intro keeps
  have atomic := run_atomic names fn ⟨none, true⟩ outputNoNul op disk
  have returned := atomic.returns.mpr ⟨positive, returnedOk, rfl⟩
  obtain ⟨input, output, isInput, published, becomes⟩ :=
    keeps.published returned
  obtain rfl : content = input :=
    Option.some.inj (found.symm.trans isInput)
  rw [← aliased, keeps.kept, found] at published
  exact changes output becomes (Option.some.inj published).symm

/-- Calls keep their input, in any surroundings, exactly when it is apart. -/
theorem run_keepsInput_iff
    {fn : NativeFiles → FileFn Bytes}
    (reads :
      ∀ native,
        ReadsInput names disk args Possible BecomesOutput
          (fn native (nativeArgs args)))
    (succeeds :
      0 < args.chunkSize.toInt →
      names.input args ≠ names.tmp args →
      ∀ content,
        disk (names.input args) = some content →
        Possible content →
        (fn quietFiles (nativeArgs args)).code =
          PqForgeErrorCode.ok.value)
    (changes :
      ∀ content output,
        Possible content →
        BecomesOutput content output →
        output ≠ content)
    (outputNoNul : NoNul args.outputPath)
    (op : String) :
    (∀ native answers,
      KeepsInput names disk args BecomesOutput
        (run names (fn native) answers args op)) ↔
      InputApart names disk args Possible := by
  constructor
  · intro keeps positive content found
    have keepsQuietly := keeps quietFiles ⟨none, true⟩
    have notTmp : names.input args ≠ names.tmp args := fun isTmp =>
      run_not_keepsInput_of_tmp (fn quietFiles) outputNoNul positive found
        isTmp op keepsQuietly
    refine ⟨notTmp, fun aliased possible => ?_⟩
    exact
      run_not_keepsInput_of_output outputNoNul positive found aliased
        (succeeds positive notTmp content found possible)
        (fun output => changes content output possible) op keepsQuietly
  · intro apart native answers
    exact run_keepsInput (reads native) outputNoNul apart answers op

end Keeping

section Operations

variable {Place : Type}
variable [DecidableEq Place]
variable {names : FileNames Place}
variable {aead : Aead}
variable {aws : AwsLc}
variable {args : FileArgs}

/-- Without a file at the input path no check lets a call pass. -/
theorem prepare_of_missing
    (sizes : aws.Sizes)
    (native : NativeFiles)
    (inputNoNul : NoNul args.inputPath)
    {disk : Disk Place Bytes}
    (missing : disk (names.input args) = none) :
    ∃ exit,
      StreamFile.prepare aws (native.on names disk (nativeArgs args))
        (nativeArgs args) = .error exit := by
  cases prepared :
      StreamFile.prepare aws (native.on names disk (nativeArgs args))
        (nativeArgs args) with
  | error exit =>
      exact ⟨exit, rfl⟩
  | ok job =>
      obtain ⟨content, found, _⟩ :=
        exists_fileCall sizes inputNoNul prepared
      rw [missing] at found
      cases found

/-- A native call without a file at the input path fails before it writes. -/
theorem outcome_of_missing
    (sizes : aws.Sizes)
    (native : NativeFiles)
    (inputNoNul : NoNul args.inputPath)
    {disk : Disk Place Bytes}
    (missing : disk (names.input args) = none)
    {run : StreamFile.NativeRun}
    (checked :
      run.code = PqForgeErrorCode.ok.value →
      ∃ job,
        StreamFile.prepare aws (native.on names disk (nativeArgs args))
          (nativeArgs args) = .ok job) :
    (native.outcome _ run checked).code ≠ PqForgeErrorCode.ok.value ∧
      (native.outcome _ run checked).contents = [] := by
  obtain ⟨exit, failed⟩ :=
    prepare_of_missing sizes native inputNoNul missing
  exact NativeFiles.outcome_of_error checked failed

/-- What a library seals with a tag is sealed with a tag by its AEAD. -/
theorem appendsTag_of_outputSizes
    (sizes : aws.Sizes)
    (outputs : aws.OutputSizes)
    (keyLength : args.key.length = 32)
    (seals : aws.SealsAs args.algorithm args.key aead) :
    aead.AppendsTag := by
  intro nonce aad chunk nonceLength
  refine outputs.sealed args.algorithm args.key nonce chunk aad _ ?_
  rw [AwsLc.sealWith, sizes.lessSafeKey args.algorithm keyLength,
    Option.bind_eq_bind, Option.bind_some,
    sizes.tryAssumeUniqueForKey nonceLength]
  exact seals nonce aad chunk nonceLength

/-- What a library opens its AEAD opens, to one tag less. -/
theorem length_openUnder_of_outputSizes
    (sizes : aws.Sizes)
    (outputs : aws.OutputSizes)
    (keyLength : args.key.length = 32)
    (opens : aws.OpensAs args.algorithm args.key aead)
    {nonce aad frame chunk : Bytes}
    (nonceLength : nonce.length = 12)
    (long : 16 ≤ frame.length)
    (opened : aead.openUnder nonce aad frame = some chunk) :
    chunk.length + 16 = frame.length := by
  refine outputs.opened args.algorithm args.key nonce frame aad _ ?_
  rw [AwsLc.openWith, sizes.lessSafeKey args.algorithm keyLength,
    Option.bind_eq_bind, Option.bind_some,
    sizes.tryAssumeUniqueForKey nonceLength]
  exact (opens nonce aad frame nonceLength long).trans opened

/-- The sealing of a content is longer than it. -/
theorem isSealing_ne
    (appendsTag : aead.AppendsTag)
    {content output : Bytes}
    (sealing : IsSealing aead args content output) :
    output ≠ content := by
  intro same
  let sealAt := aead.sealAt StreamFormat.frameNonce (args.aad.getD [])
  have lengths :=
    @length_flatten_flaggedMap UInt8 UInt8 sealAt 0 16 0
      (blocks args.chunkSize.toInt.toNat content)
      fun index chunk _ =>
        appendsTag _ _ chunk (StreamFormat.length_frameNonce _ _)
  have some : 0 < (blocks args.chunkSize.toInt.toNat content).length :=
    List.length_pos_iff.mpr (blocks_ne_nil _ _)
  have sealed :
      output.length =
        (flaggedMap sealAt 0
          (blocks args.chunkSize.toInt.toNat content)).flatten.length :=
    congrArg List.length sealing
  rw [blocks_flatten] at lengths
  rw [same] at sealed
  omega

/-- The opening of a content is shorter than it. -/
theorem isOpening_ne
    (sizes : aws.Sizes)
    (outputs : aws.OutputSizes)
    (opens :
      args.key.length = 32 →
      aws.OpensAs args.algorithm args.key aead)
    {content output : Bytes}
    (possible : CanOpen aead args content)
    (opening : IsOpening aead args content output) :
    output ≠ content := by
  intro same
  obtain ⟨keyLength, _, _, long, opensAll⟩ := possible
  have lengths :=
    @length_flatten_flaggedMap UInt8 UInt8
      (aead.openAt StreamFormat.frameNonce (args.aad.getD [])) 0 0 16
      (blocks (args.chunkSize.toInt.toNat + 16) content)
      fun index frame present => by
        have opened := opensAll index frame present
        rw [Nat.zero_add]
        exact
          length_openUnder_of_outputSizes sizes outputs keyLength
            (opens keyLength) (StreamFormat.length_frameNonce _ _)
            (long frame (List.mem_of_getElem? present)) opened
  have some :
      0 < (blocks (args.chunkSize.toInt.toNat + 16) content).length :=
    List.length_pos_iff.mpr (blocks_ne_nil _ _)
  have opened := congrArg List.length opening.2
  rw [blocks_flatten] at lengths
  rw [same] at opened
  omega

/--
Sealing and opening keep the input, and publish its sealing or its opening,
in all surroundings exactly when the file at the input path is not the temporary
file and not an output that the call can replace, or no native call is made, or
there is no input.
-/
theorem keepsInput_iff
    (names : FileNames Place)
    (sizes : aws.Sizes)
    (outputs : aws.OutputSizes)
    (seals :
      args.key.length = 32 →
      aws.SealsAs args.algorithm args.key aead)
    (opens :
      args.key.length = 32 →
      aws.OpensAs args.algorithm args.key aead)
    (disk : Disk Place Bytes)
    (inputNoNul : NoNul args.inputPath)
    (outputNoNul : NoNul args.outputPath) :
    ((∀ (native : NativeFiles) (answers : FileAnswers),
        KeepsInput names disk args (IsSealing aead args)
          («seal» names (native.sealFile names aws disk) answers args)) ↔
      InputApart names disk args (CanSeal args)) ∧
      ((∀ (native : NativeFiles) (answers : FileAnswers),
          KeepsInput names disk args (IsOpening aead args)
            («open» names (native.openFile names aws disk) answers
              args)) ↔
        InputApart names disk args (CanOpen aead args)) := by
  constructor
  · refine
      @run_keepsInput_iff Place _ names disk args (CanSeal args)
        (IsSealing aead args)
        (fun native => native.sealFile names aws disk) ?_ ?_ ?_
        outputNoNul _
    · exact fun native =>
        ⟨sealFile_transforms sizes seals native inputNoNul outputNoNul,
          fun missing =>
            outcome_of_missing sizes native inputNoNul missing
              StreamFile.prepared_of_ok⟩
    · exact fun positive notTmp content found possible =>
        (sealFile_of_quiet sizes seals quietFiles_quiet inputNoNul
          outputNoNul positive found (if_neg notTmp.symm) possible).1
    · exact fun content output possible =>
        isSealing_ne
          (appendsTag_of_outputSizes sizes outputs possible.1
            (seals possible.1))
  · refine
      @run_keepsInput_iff Place _ names disk args (CanOpen aead args)
        (IsOpening aead args)
        (fun native => native.openFile names aws disk) ?_ ?_ ?_
        outputNoNul _
    · exact fun native =>
        ⟨openFile_transforms sizes opens native inputNoNul outputNoNul,
          fun missing =>
            outcome_of_missing sizes native inputNoNul missing
              StreamFile.prepared_of_ok⟩
    · exact fun positive notTmp content found possible =>
        openFile_returns_of_quiet sizes opens quietFiles_quiet inputNoNul
          outputNoNul positive notTmp found possible
    · exact fun content output possible =>
        isOpening_ne sizes outputs opens possible

end Operations

/-! ## An input that is the temporary file -/

/-- A disk with one file. -/
def oneFile
    {Place : Type}
    [DecidableEq Place]
    (file : Place)
    (content : Bytes) :
    Disk Place Bytes :=
  Function.update (fun _ => none) file (some content)

/-- The arguments of a call with a key of the right size. -/
def someArgs (inputPath : String) : FileArgs where
  inputPath := CodeUnits.encode inputPath.toList
  outputPath := CodeUnits.encode "out".toList
  key := List.replicate 32 7
  algorithm := .aes256Gcm
  aad := none
  chunkSize := 2

/-- A seal from one path to another keeps the input. -/
theorem keepsInput_iff_of_distinct :
    KeepsInput .spelled (oneFile "in" [1, 2, 3]) (someArgs "in")
      (IsSealing taggedAead (someArgs "in"))
      («seal» .spelled
        (quietFiles.sealFile .spelled taggedAead.aws
          (oneFile "in" [1, 2, 3]))
        ⟨none, true⟩ (someArgs "in")) := by
  have apart :
      InputApart .spelled (oneFile "in" [1, 2, 3]) (someArgs "in")
        (CanSeal (someArgs "in")) := by
    intro _ content _
    exact ⟨by decide, fun aliased => absurd aliased (by decide)⟩
  exact
    (keepsInput_iff .spelled taggedAead.aws_sizes
      taggedAead_tidy.aws_outputSizes
      (fun _ => taggedAead.aws_sealsAs .aes256Gcm (List.replicate 32 7))
      (fun _ => taggedAead.aws_opensAs .aes256Gcm (List.replicate 32 7))
      (oneFile "in" [1, 2, 3]) (by decide) (by decide)).1.mpr
      apart quietFiles ⟨none, true⟩

/--
A seal whose input has the name of its temporary file returns normally; the
input is gone, and the output is the sealing of nothing.
-/
theorem seal_discards_input :
    let args := someArgs "out.pqforge-tmp"
    let disk := oneFile "out.pqforge-tmp" [1, 2, 3]
    let call :=
      «seal» .spelled (quietFiles.sealFile .spelled taggedAead.aws disk)
        ⟨none, true⟩ args
    args.inputPath ≠ args.outputPath ∧
      call.outcome = .ok () ∧
      after disk call.log (FileNames.spelled.input args) = none ∧
      (∃ output,
        after disk call.log (FileNames.spelled.output args) =
            some output ∧
          IsSealing taggedAead args [] output) ∧
      ¬KeepsInput .spelled disk args (IsSealing taggedAead args)
        call := by
  intro args disk call
  have outputNoNul : NoNul args.outputPath := by
    decide
  have isTmp :
      FileNames.spelled.input args = FileNames.spelled.tmp args := by
    decide
  have found :
      disk (FileNames.spelled.input args) = some [1, 2, 3] := by
    decide
  have possible : CanSeal args [] := by
    refine ⟨by decide, ?_⟩
    rw [blocks_of_le (Nat.zero_le _)]
    decide
  obtain ⟨returnedOk, output, isOutput, sealsNothing⟩ :=
    sealFile_of_quiet taggedAead.aws_sizes
      (fun _ => taggedAead.aws_sealsAs .aes256Gcm (List.replicate 32 7))
      quietFiles_quiet (by decide) outputNoNul (by decide) found
      (if_pos isTmp.symm) possible
  have atomic :=
    run_atomic .spelled (quietFiles.sealFile .spelled taggedAead.aws disk)
      ⟨none, true⟩ outputNoNul "stream seal file" disk
  have returned : call.outcome = .ok () :=
    atomic.returns.mpr ⟨by decide, returnedOk, rfl⟩
  obtain ⟨published, isPublished, atOutput, gone⟩ :=
    atomic.published returned
  obtain rfl : output = published :=
    Option.some.inj (isOutput.symm.trans isPublished)
  rw [← isTmp] at gone
  refine
    ⟨by decide, returned, gone, ⟨output, atOutput, sealsNothing⟩, ?_⟩
  intro keeps
  have present := keeps.kept.symm.trans gone
  cases present

end PqForgeFfi.PqForgeFileCipher
