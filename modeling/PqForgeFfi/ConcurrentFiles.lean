import PqForgeFfi.FileRuns

namespace PqForgeFfi.PqForgeFileCipher

open PathStrings PlainFiles Segmentation

/-!
# Concurrent calls

Calls of the file cipher with different output files, whose steps come in any
order.  A call suspends between its native call, its rename and its clean-up, so
a schedule says which call goes on next; one that is never scheduled again was
killed.  What each call publishes comes from its own native call.
-/

/-- How far a call has come, with what it found at its input and produced. -/
inductive Progress where
  | called
  | produced (found : Option Bytes) (output : Bytes)
  | cleaning
  | returned (found : Option Bytes) (output : Bytes)
  | threw
  deriving Repr, DecidableEq

/-- The disk, and how far each call has come. -/
structure Concurrent (Place Call : Type) where
  disk : Disk Place Bytes
  progress : Call → Progress

namespace Concurrent

variable {Place Call : Type}

variable [DecidableEq Call]

/-- A call comes to a progress, and leaves a disk. -/
def enter
    (calls : Concurrent Place Call)
    (call : Call)
    (disk : Disk Place Bytes)
    (progress : Progress) :
    Concurrent Place Call where
  disk := disk
  progress := Function.update calls.progress call progress

@[simp] theorem enter_disk
    (calls : Concurrent Place Call)
    (call : Call)
    (disk : Disk Place Bytes)
    (progress : Progress) :
    (calls.enter call disk progress).disk = disk :=
  rfl

@[simp] theorem enter_progress_self
    (calls : Concurrent Place Call)
    (call : Call)
    (disk : Disk Place Bytes)
    (progress : Progress) :
    (calls.enter call disk progress).progress call = progress :=
  Function.update_self _ _ _

theorem enter_progress_of_ne
    {calls : Concurrent Place Call}
    {call other : Call}
    (differ : other ≠ call)
    (disk : Disk Place Bytes)
    (progress : Progress) :
    (calls.enter call disk progress).progress other =
      calls.progress other :=
  Function.update_of_ne differ _ _

variable [DecidableEq Place]

/-- The progress behind a native call that found this at the input. -/
def behindNative
    (found : Option Bytes)
    (outcome : NativeOutcome Bytes) : Progress :=
  match outcome.output? with
  | some output => .produced found output
  | none => .cleaning

/-- A call goes on to the next point where other calls can run. -/
def advance
    (names : FileNames Place)
    (aws : AwsLc)
    (requests : Call → FileRequest)
    (calls : Concurrent Place Call)
    (call : Call) :
    Concurrent Place Call :=
  let request := requests call
  let args := request.args
  match calls.progress call with
  | .called =>
      if args.chunkSize.toInt ≤ 0 then
        calls.enter call calls.disk .threw
      else
        let outcome := request.fn names aws calls.disk (nativeArgs args)
        calls.enter call
          (after calls.disk
            (nativeEffects names
              (cStrFromPtr (cString (tmpPath args.outputPath))) outcome))
          (behindNative (calls.disk (names.input args)) outcome)
  | .produced found output =>
      match request.answers.renameError with
      | none =>
          calls.enter call
            (after calls.disk
              [.rename (names.tmp args) (names.output args)])
            (.returned found output)
      | some _ =>
          calls.enter call calls.disk .cleaning
  | .cleaning =>
      calls.enter call
        (after calls.disk (cleanUp request.answers (names.tmp args)))
        .threw
  | .returned _ _ =>
      calls
  | .threw =>
      calls

/-- Where a schedule leads. -/
def scheduled
    (names : FileNames Place)
    (aws : AwsLc)
    (requests : Call → FileRequest)
    (calls : Concurrent Place Call)
    (schedule : List Call) :
    Concurrent Place Call :=
  schedule.foldl (advance names aws requests) calls

end Concurrent

section Names

variable {Place Call : Type}

/-- The temporary files of calls. -/
def Temporary
    (names : FileNames Place)
    (requests : Call → FileRequest)
    (file : Place) : Prop :=
  ∃ call, file = names.tmp (requests call).args

/--
No call names a temporary file, and no two have the same output file or the same
temporary one.
-/
structure CallsApart
    (names : FileNames Place)
    (requests : Call → FileRequest) : Prop where
  calls :
    ∀ call, NamesApart names (Temporary names requests) (requests call)
  outputs :
    ∀ call other,
      names.output (requests call).args =
        names.output (requests other).args →
      call = other
  temporaries :
    ∀ call other,
      names.tmp (requests call).args = names.tmp (requests other).args →
      call = other

end Names

section Provenance

variable {Place Call : Type}

/--
A call read this content: the file that was at its input from the beginning, or
the output of a call that had returned.
-/
def ReadContent
    (names : FileNames Place)
    (requests : Call → FileRequest)
    (start : Disk Place Bytes)
    (calls : Concurrent Place Call)
    (call : Call)
    (content : Bytes) : Prop :=
  start (names.input (requests call).args) = some content ∨
    ∃ writer found,
      names.output (requests writer).args =
          names.input (requests call).args ∧
        calls.progress writer = .returned found content

/--
The files of concurrent calls: the output of a call that returned is what its
own native call made of the content that it read, and every file that is neither
such an output nor a temporary one is as it was.
-/
structure Provenance
    (names : FileNames Place)
    (aead : PqAeadAlgorithm → Bytes → Aead)
    (requests : Call → FileRequest)
    (start : Disk Place Bytes)
    (calls : Concurrent Place Call) : Prop where
  outputs :
    ∀ call found output,
      calls.progress call = .returned found output →
      calls.disk (names.output (requests call).args) = some output
  made :
    ∀ call found output,
      calls.progress call = .returned found output →
      ∃ content,
        found = some content ∧
          (requests call).Becomes aead content output ∧
          ReadContent names requests start calls call content
  others :
    ∀ file,
      ¬Temporary names requests file →
      (∀ call found output,
        calls.progress call = .returned found output →
        names.output (requests call).args ≠ file) →
      calls.disk file = start file

/--
The files of concurrent calls, and of those that have produced an output but not
yet published it.
-/
structure Prepared
    (names : FileNames Place)
    (aead : PqAeadAlgorithm → Bytes → Aead)
    (requests : Call → FileRequest)
    (start : Disk Place Bytes)
    (calls : Concurrent Place Call) : Prop extends
    Provenance names aead requests start calls where
  temporary :
    ∀ call found output,
      calls.progress call = .produced found output →
      calls.disk (names.tmp (requests call).args) = some output
  making :
    ∀ call found output,
      calls.progress call = .produced found output →
      ∃ content,
        found = some content ∧
          (requests call).Becomes aead content output ∧
          ReadContent names requests start calls call content

end Provenance

/-! ## Steps -/

section Steps

variable {Place Call : Type}
variable [DecidableEq Call]
variable {names : FileNames Place}
variable {aws : AwsLc}
variable {aead : PqAeadAlgorithm → Bytes → Aead}
variable {requests : Call → FileRequest}
variable {start disk : Disk Place Bytes}
variable {calls : Concurrent Place Call}
variable {call : Call}

omit [DecidableEq Call] in
/-- What a call reads is an original content or the output of a call. -/
theorem Provenance.readContent
    (provenance : Provenance names aead requests start calls)
    (apart : CallsApart names requests)
    {content : Bytes}
    (found :
      calls.disk (names.input (requests call).args) = some content) :
    ReadContent names requests start calls call content := by
  by_cases written :
      ∃ writer, ∃ found output,
        calls.progress writer = .returned found output ∧
          names.output (requests writer).args =
            names.input (requests call).args
  · obtain ⟨writer, earlier, output, returned, same⟩ := written
    have holds := provenance.outputs writer earlier output returned
    rw [same, found] at holds
    obtain rfl := Option.some.inj holds
    exact .inr ⟨writer, earlier, same, returned⟩
  · refine .inl ?_
    rw [← provenance.others _ (apart.calls call).input ?_]
    · exact found
    · intro writer earlier output returned same
      exact written ⟨writer, earlier, output, returned, same⟩

/-- What a call has read stays read while other calls go on. -/
theorem ReadContent.enter
    {other : Call}
    {content : Bytes}
    (read : ReadContent names requests start calls other content)
    (unreturned :
      ∀ found output, calls.progress call ≠ .returned found output)
    (disk : Disk Place Bytes)
    (progress : Progress) :
    ReadContent names requests start (calls.enter call disk progress) other
      content := by
  rcases read with original | ⟨writer, found, same, returned⟩
  · exact .inl original
  · have differ : writer ≠ call := by
      rintro rfl
      exact unreturned found content returned
    refine .inr ⟨writer, found, same, ?_⟩
    rw [Concurrent.enter_progress_of_ne differ]
    exact returned

omit [DecidableEq Call] in
/-- No output is a temporary file. -/
theorem CallsApart.output_ne_tmp
    (apart : CallsApart names requests)
    (call other : Call) :
    names.output (requests call).args ≠
      names.tmp (requests other).args :=
  fun same => (apart.calls call).output ⟨other, same⟩

/--
A step of one call: it changes the call's own paths only, its output only by
publishing, and what the call then holds or publishes it has made.
-/
structure OwnStep
    (names : FileNames Place)
    (aead : PqAeadAlgorithm → Bytes → Aead)
    (requests : Call → FileRequest)
    (start : Disk Place Bytes)
    (calls : Concurrent Place Call)
    (call : Call)
    (disk : Disk Place Bytes)
    (progress : Progress) : Prop where
  unreturned :
    ∀ found output, calls.progress call ≠ .returned found output
  frame :
    ∀ file,
      file ≠ names.tmp (requests call).args →
      file ≠ names.output (requests call).args →
      disk file = calls.disk file
  spares :
    (∀ found output, progress ≠ .returned found output) →
    disk (names.output (requests call).args) =
      calls.disk (names.output (requests call).args)
  holds :
    ∀ found output,
      progress = .produced found output →
      disk (names.tmp (requests call).args) = some output
  publishes :
    ∀ found output,
      progress = .returned found output →
      disk (names.output (requests call).args) = some output
  makes :
    ∀ found output,
      progress = .produced found output ∨
        progress = .returned found output →
      ∃ content,
        found = some content ∧
          (requests call).Becomes aead content output ∧
          ReadContent names requests start calls call content

namespace OwnStep

variable {progress : Progress}
variable {found : Option Bytes}
variable {output : Bytes}

/-- Behind the step every call has made what it holds or has published. -/
theorem made
    (own : OwnStep names aead requests start calls call disk progress)
    (prepared : Prepared names aead requests start calls)
    {one : Call}
    (reached :
      (calls.enter call disk progress).progress one =
          .produced found output ∨
        (calls.enter call disk progress).progress one =
          .returned found output) :
    ∃ content,
      found = some content ∧
        (requests one).Becomes aead content output ∧
        ReadContent names requests start (calls.enter call disk progress) one
          content := by
  have before :
      ∃ content,
        found = some content ∧
          (requests one).Becomes aead content output ∧
          ReadContent names requests start calls one content := by
    by_cases isCall : one = call
    · subst isCall
      rw [Concurrent.enter_progress_self] at reached
      exact own.makes found output reached
    · rw [Concurrent.enter_progress_of_ne isCall] at reached
      rcases reached with produced | returned
      · exact prepared.making one found output produced
      · exact prepared.made one found output returned
  obtain ⟨content, isFound, becomes, read⟩ := before
  exact
    ⟨content, isFound, becomes, read.enter own.unreturned disk progress⟩

/-- Behind the step every output that has been published is there. -/
theorem outputs
    (own : OwnStep names aead requests start calls call disk progress)
    (prepared : Prepared names aead requests start calls)
    (apart : CallsApart names requests)
    {one : Call}
    (returned :
      (calls.enter call disk progress).progress one =
        .returned found output) :
    disk (names.output (requests one).args) = some output := by
  by_cases isCall : one = call
  · subst isCall
    rw [Concurrent.enter_progress_self] at returned
    exact own.publishes found output returned
  · rw [Concurrent.enter_progress_of_ne isCall] at returned
    rw [own.frame _ (apart.output_ne_tmp one call)]
    · exact prepared.outputs one found output returned
    · exact fun same => isCall (apart.outputs one call same)

/-- Behind the step every output that waits is in its temporary file. -/
theorem temporary
    (own : OwnStep names aead requests start calls call disk progress)
    (prepared : Prepared names aead requests start calls)
    (apart : CallsApart names requests)
    {one : Call}
    (produced :
      (calls.enter call disk progress).progress one =
        .produced found output) :
    disk (names.tmp (requests one).args) = some output := by
  by_cases isCall : one = call
  · subst isCall
    rw [Concurrent.enter_progress_self] at produced
    exact own.holds found output produced
  · rw [Concurrent.enter_progress_of_ne isCall] at produced
    rw [own.frame]
    · exact prepared.temporary one found output produced
    · intro same
      exact isCall (apart.temporaries one call same)
    · exact (apart.output_ne_tmp call one).symm

/-- Behind the step all other files are as they were in the beginning. -/
theorem others
    (own : OwnStep names aead requests start calls call disk progress)
    (prepared : Prepared names aead requests start calls)
    {file : Place}
    (notTemporary : ¬Temporary names requests file)
    (unwritten :
      ∀ one found output,
        (calls.enter call disk progress).progress one =
          .returned found output →
        names.output (requests one).args ≠ file) :
    disk file = start file := by
  have unwrittenBefore :
      ∀ one found output,
        calls.progress one = .returned found output →
        names.output (requests one).args ≠ file := by
    intro one found output returned
    have differ : one ≠ call := by
      rintro rfl
      exact own.unreturned found output returned
    apply unwritten one found output
    rw [Concurrent.enter_progress_of_ne differ]
    exact returned
  rw [← prepared.others file notTemporary unwrittenBefore]
  by_cases isOutput : file = names.output (requests call).args
  · rw [isOutput]
    apply own.spares
    intro found output isReturned
    apply unwritten call found output
    · rw [Concurrent.enter_progress_self]
      exact isReturned
    · exact isOutput.symm
  · apply own.frame file
    · rintro rfl
      exact notTemporary ⟨call, rfl⟩
    · exact isOutput

/-- The step keeps all files prepared. -/
theorem prepared
    (own : OwnStep names aead requests start calls call disk progress)
    (prepared : Prepared names aead requests start calls)
    (apart : CallsApart names requests) :
    Prepared names aead requests start (calls.enter call disk progress) where
  outputs := fun _ _ _ returned => own.outputs prepared apart returned
  made := fun _ _ _ returned => own.made prepared (.inr returned)
  others := fun _ notTemporary unwritten =>
    own.others prepared notTemporary unwritten
  temporary := fun _ _ _ produced =>
    own.temporary prepared apart produced
  making := fun _ _ _ produced => own.made prepared (.inl produced)

end OwnStep

variable [DecidableEq Place]

/-- A native call keeps all files prepared. -/
theorem Prepared.native
    (computes : Computes aws aead)
    (prepared : Prepared names aead requests start calls)
    (apart : CallsApart names requests)
    (isCalled : calls.progress call = .called)
    (positive : 0 < (requests call).args.chunkSize.toInt) :
    let args := (requests call).args
    let outcome :=
      (requests call).fn names aws calls.disk (nativeArgs args)
    Prepared names aead requests start
      (calls.enter call
        (after calls.disk
          (nativeEffects names
            (cStrFromPtr (cString (tmpPath args.outputPath))) outcome))
        (Concurrent.behindNative (calls.disk (names.input args))
          outcome)) := by
  intro args outcome
  have isApart := apart.calls call
  have unreturned :
      ∀ found output,
        calls.progress call ≠ .returned found output := by
    intro found output returned
    rw [isCalled] at returned
    cases returned
  have cases :
      ∀ found output,
        Concurrent.behindNative (calls.disk (names.input args)) outcome =
            .produced found output →
        outcome.output? = some output ∧
          found = calls.disk (names.input args) := by
    intro found output produced
    rw [Concurrent.behindNative] at produced
    split at produced
    · rename_i own isOutput
      cases produced
      exact ⟨isOutput, rfl⟩
    · cases produced
  have neverReturned :
      ∀ found output,
        Concurrent.behindNative (calls.disk (names.input args)) outcome ≠
          .returned found output := by
    intro found output returned
    rw [Concurrent.behindNative] at returned
    split at returned <;> cases returned
  rw [nativeEffects_eq isApart.outputNoNul]
  refine OwnStep.prepared ⟨unreturned, ?_, ?_, ?_, ?_, ?_⟩ prepared apart
  · intro file notTmp _
    exact after_of_not_touches calls.disk (writes_not_touches notTmp)
  · intro _
    exact
      after_of_not_touches calls.disk
        (writes_not_touches (names.tmp_ne isApart.outputNoNul).symm)
  · intro found output produced
    obtain ⟨isOutput, _⟩ := cases found output produced
    rw [NativeOutcome.output?] at isOutput
    split at isOutput
    · rw [writes, after_writes, isOutput]
      rfl
    · cases isOutput
  · intro found output returned
    exact (neverReturned found output returned).elim
  · intro found output reached
    rcases reached with produced | returned
    · obtain ⟨isOutput, isFound⟩ := cases found output produced
      have returnedOk :
          outcome.code = PqForgeErrorCode.ok.value := by
        rw [NativeOutcome.output?] at isOutput
        split at isOutput
        · assumption
        · cases isOutput
      obtain ⟨content, made, atInput, isMade, _, becomes⟩ :=
        (requests call).transforms computes isApart positive returnedOk
      obtain rfl : output = made :=
        Option.some.inj (isOutput.symm.trans isMade)
      exact
        ⟨content, isFound.trans atInput, becomes,
          prepared.readContent apart atInput⟩
    · exact (neverReturned found output returned).elim

/-- A rename keeps all files prepared. -/
theorem Prepared.rename
    (prepared : Prepared names aead requests start calls)
    (apart : CallsApart names requests)
    {found : Option Bytes}
    {output : Bytes}
    (produced : calls.progress call = .produced found output) :
    Prepared names aead requests start
      (calls.enter call
        (after calls.disk
          [.rename (names.tmp (requests call).args)
            (names.output (requests call).args)])
        (.returned found output)) := by
  obtain ⟨_, published⟩ :=
    after_rename (names.tmp_ne (apart.calls call).outputNoNul)
      (prepared.temporary call found output produced)
  refine OwnStep.prepared ⟨?_, ?_, ?_, ?_, ?_, ?_⟩ prepared apart
  · intro _ _ returned
    rw [produced] at returned
    cases returned
  · intro file notTmp notOutput
    apply after_of_not_touches calls.disk
    intro effect member
    obtain rfl := List.mem_singleton.mp member
    rintro (isTmp | isOutput)
    · exact notTmp isTmp
    · exact notOutput isOutput
  · intro unreturned
    exact (unreturned found output rfl).elim
  · intro _ _ isProduced
    cases isProduced
  · intro _ _ isReturned
    cases isReturned
    exact published
  · intro _ _ reached
    rcases reached with isProduced | isReturned
    · cases isProduced
    · cases isReturned
      exact prepared.making call found output produced

/-- A clean-up, or nothing at all, keeps all files prepared. -/
theorem Prepared.leave
    (prepared : Prepared names aead requests start calls)
    (apart : CallsApart names requests)
    (unreturned :
      ∀ found output, calls.progress call ≠ .returned found output)
    {log : List (Effect Place Bytes)}
    (tmpOnly :
      ∀ file,
        file ≠ names.tmp (requests call).args →
        ∀ effect ∈ log, ¬effect.Touches file)
    {progress : Progress}
    (idle :
      ∀ found output,
        progress ≠ .produced found output ∧
          progress ≠ .returned found output) :
    Prepared names aead requests start
      (calls.enter call (after calls.disk log) progress) := by
  refine OwnStep.prepared ⟨unreturned, ?_, ?_, ?_, ?_, ?_⟩ prepared apart
  · intro file notTmp _
    exact after_of_not_touches calls.disk (tmpOnly file notTmp)
  · intro _
    exact
      after_of_not_touches calls.disk
        (tmpOnly _ (names.tmp_ne (apart.calls call).outputNoNul).symm)
  · intro found output produced
    exact ((idle found output).1 produced).elim
  · intro found output returned
    exact ((idle found output).2 returned).elim
  · intro found output reached
    rcases reached with produced | returned
    · exact ((idle found output).1 produced).elim
    · exact ((idle found output).2 returned).elim

/-- Every step keeps all files prepared. -/
theorem Prepared.advance
    (computes : Computes aws aead)
    (prepared : Prepared names aead requests start calls)
    (apart : CallsApart names requests)
    (call : Call) :
    Prepared names aead requests start
      (calls.advance names aws requests call) := by
  cases reached : calls.progress call with
  | called =>
      have unreturned :
          ∀ found output,
            calls.progress call ≠ .returned found output := by
        simp [reached]
      simp only [Concurrent.advance, reached]
      by_cases positive : 0 < (requests call).args.chunkSize.toInt
      · rw [if_neg (Int.not_le.mpr positive)]
        exact prepared.native computes apart reached positive
      · rw [if_pos (Int.not_lt.mp positive)]
        exact
          @Prepared.leave Place Call _ names aead requests start calls
            call _ prepared apart unreturned []
            (fun _ _ _ member => by cases member) .threw (by simp)
  | produced found output =>
      have unreturned :
          ∀ found output,
            calls.progress call ≠ .returned found output := by
        simp [reached]
      simp only [Concurrent.advance, reached]
      cases (requests call).answers.renameError with
      | none =>
          exact prepared.rename apart reached
      | some text =>
          exact
            @Prepared.leave Place Call _ names aead requests start calls
              call _ prepared apart unreturned []
              (fun _ _ _ member => by cases member) .cleaning (by simp)
  | cleaning =>
      have unreturned :
          ∀ found output,
            calls.progress call ≠ .returned found output := by
        simp [reached]
      simp only [Concurrent.advance, reached]
      apply prepared.leave apart unreturned
      · exact fun file notTmp => cleanUp_not_touches notTmp
      · simp
  | returned found output =>
      simp only [Concurrent.advance, reached]
      exact prepared
  | threw =>
      simp only [Concurrent.advance, reached]
      exact prepared

end Steps

section Alone

variable {Place Call : Type}
variable [DecidableEq Place]
variable [DecidableEq Call]
variable {names : FileNames Place}
variable {aws : AwsLc}
variable {requests : Call → FileRequest}
variable {calls : Concurrent Place Call}
variable {call : Call}

/-- The steps of one call, taken one after the other, are that call. -/
theorem scheduled_alone
    (noNul : NoNul (requests call).args.outputPath)
    (isCalled : calls.progress call = .called) :
    let alone := (requests call).call names aws calls.disk
    let final := calls.scheduled names aws requests [call, call, call]
    final.disk = after calls.disk alone.log ∧
      ((∃ found output, final.progress call = .returned found output) ↔
        alone.outcome = .ok ()) := by
  obtain ⟨op, isRun⟩ := (requests call).call_eq names aws calls.disk
  intro alone final
  simp only [alone, final, isRun, Concurrent.scheduled, List.foldl_cons,
    List.foldl_nil]
  by_cases positive : 0 < (requests call).args.chunkSize.toInt
  · have first :
        calls.advance names aws requests call =
          calls.enter call
            (after calls.disk
              (writes
                ((requests call).fn names aws calls.disk
                  (nativeArgs (requests call).args))
                (names.tmp (requests call).args)))
            (Concurrent.behindNative
              (calls.disk (names.input (requests call).args))
              ((requests call).fn names aws calls.disk
                (nativeArgs (requests call).args))) := by
      simp only [Concurrent.advance, isCalled,
        if_neg (Int.not_le.mpr positive), nativeEffects_eq noNul]
    rw [first]
    by_cases returnedOk :
        ((requests call).fn names aws calls.disk
          (nativeArgs (requests call).args)).code =
          PqForgeErrorCode.ok.value
    · obtain ⟨output, isOutput, _⟩ :=
        NativeOutcome.exists_output returnedOk
      rw [run_of_ok noNul positive returnedOk]
      cases renames : (requests call).answers.renameError with
      | none =>
          rw [publish_of_rename renames]
          simp [Concurrent.advance, Concurrent.behindNative, isOutput,
            renames]
      | some text =>
          rw [publish_of_error renames]
          simp [Concurrent.advance, Concurrent.behindNative, isOutput,
            renames]
    · have nothing :
          ((requests call).fn names aws calls.disk
            (nativeArgs (requests call).args)).output? = none := by
        rw [NativeOutcome.output?, if_neg returnedOk]
      rw [run_of_failure noNul positive returnedOk]
      simp [Concurrent.advance, Concurrent.behindNative, nothing]
  · have nonpositive := Int.not_lt.mp positive
    rw [run_of_nonpositive nonpositive]
    simp [Concurrent.advance, isCalled, nonpositive]

end Alone

/-! ## Schedules -/

section Schedules

variable {Place Call : Type}
variable [DecidableEq Place]
variable [DecidableEq Call]
variable {names : FileNames Place}
variable {aws : AwsLc}
variable {aead : PqAeadAlgorithm → Bytes → Aead}
variable {requests : Call → FileRequest}

/-- Every schedule keeps all files prepared. -/
theorem Prepared.scheduled
    (computes : Computes aws aead)
    (apart : CallsApart names requests)
    {start : Disk Place Bytes}
    {calls : Concurrent Place Call}
    (prepared : Prepared names aead requests start calls)
    (schedule : List Call) :
    Prepared names aead requests start
      (calls.scheduled names aws requests schedule) := by
  induction schedule generalizing calls with
  | nil =>
      exact prepared
  | cons call rest inductionHypothesis =>
      exact
        inductionHypothesis (prepared.advance computes apart call)

end Schedules

end PqForgeFfi.PqForgeFileCipher
