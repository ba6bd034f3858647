import PqForgeFfi.FileCipher

namespace PqForgeFfi.PqForgeFileCipher

open PathStrings PlainFiles Segmentation

/-!
# Publication of one call

A call that is not refused writes to the temporary path only, until one rename
puts the complete output of a native call that returned `Ok` at the output
path.  Where there is no such rename, the output path is never touched.
-/

variable {Place Content : Type}

/-- The complete output of a native call that returned `Ok`. -/
def NativeOutcome.output?
    (outcome : NativeOutcome Content) :
    Option Content :=
  if outcome.code = PqForgeErrorCode.ok.value then
    outcome.contents.getLast?
  else
    none

/-- A native call that returned `Ok` has left its output behind. -/
theorem NativeOutcome.exists_output
    {outcome : NativeOutcome Content}
    (returnedOk : outcome.code = PqForgeErrorCode.ok.value) :
    ∃ output,
      outcome.output? = some output ∧
        outcome.contents.getLast? = some output := by
  have last :=
    List.getLast?_eq_some_getLast (outcome.finished returnedOk)
  refine ⟨_, ?_, last⟩
  rw [output?, if_pos returnedOk, last]

/-! ## The effects of a call -/

/-- The effects of the clean-up. -/
def cleanUp
    (answers : FileAnswers)
    (tmp : Place) :
    List (Effect Place Content) :=
  if answers.deletes then
    [.remove tmp]
  else
    []

/-- The writes of the native call. -/
def writes
    (outcome : NativeOutcome Content)
    (tmp : Place) :
    List (Effect Place Content) :=
  outcome.contents.map (.write tmp)

/-- The clean-up before an exception, as a trace. -/
theorem deleteQuiet_bind
    {Result : Type}
    (answers : FileAnswers)
    (tmp : Place)
    (thrown : DartThrow) :
    (deleteQuiet answers tmp >>= fun _ =>
        (Trace.fail thrown :
          Trace (Effect Place Content) DartThrow Result)) =
      ⟨cleanUp answers tmp, .error thrown⟩ := by
  rw [deleteQuiet, cleanUp]
  cases answers.deletes with
  | true =>
      rfl
  | false =>
      rfl

section Shapes

variable {names : FileNames Place}
variable {fn : FileFn Content}
variable {answers : FileAnswers}
variable {args : FileArgs}
variable {op : String}

/-- Without a positive chunk size nothing happens. -/
theorem run_of_nonpositive
    (nonpositive : args.chunkSize.toInt ≤ 0) :
    run names fn answers args op =
      .fail (PqForgeStream.chunkSizeError args.chunkSize) := by
  rw [run, if_pos nonpositive]

/-- The native call writes to the temporary file. -/
theorem nativeEffects_eq
    (noNul : NoNul args.outputPath)
    (outcome : NativeOutcome Content) :
    nativeEffects names
        (cStrFromPtr (cString (tmpPath args.outputPath))) outcome =
      writes outcome (names.tmp args) := by
  have obtained := nativePath_of_noNul (noNul_tmpPath noNul)
  rw [nativePath] at obtained
  rw [nativeEffects, obtained, writes]
  rfl

/-- A call whose native call fails cleans up and throws. -/
theorem run_of_failure
    (noNul : NoNul args.outputPath)
    (positive : 0 < args.chunkSize.toInt)
    (failed :
      (fn (nativeArgs args)).code ≠ PqForgeErrorCode.ok.value) :
    run names fn answers args op =
      ⟨writes (fn (nativeArgs args)) (names.tmp args) ++
          cleanUp answers (names.tmp args),
        .error (.ffi
          (throwStatus (fn (nativeArgs args)).code op))⟩ := by
  rw [run, if_neg (Int.not_le.mpr positive), callNative,
    nativeEffects_eq noNul, Trace.bind_of_ok rfl]
  dsimp only
  rw [if_pos failed, deleteQuiet_bind]

/-- A call whose native call returns `Ok` goes on to publish. -/
theorem run_of_ok
    (noNul : NoNul args.outputPath)
    (positive : 0 < args.chunkSize.toInt)
    (returnedOk :
      (fn (nativeArgs args)).code = PqForgeErrorCode.ok.value) :
    run names fn answers args op =
      (publish names answers args).behind
        (writes (fn (nativeArgs args)) (names.tmp args)) := by
  rw [run, if_neg (Int.not_le.mpr positive), callNative,
    nativeEffects_eq noNul, Trace.bind_of_ok rfl]
  dsimp only
  rw [if_neg fun differs => differs returnedOk]
  rfl

/-- Publishing renames, where that succeeds. -/
theorem publish_of_rename
    (renames : answers.renameError = none)
    (args : FileArgs) :
    @publish Place Content names answers args =
      ⟨[.rename (names.tmp args) (names.output args)], .ok ()⟩ := by
  rw [publish, renames]
  rfl

/-- Publishing cleans up and throws, where the rename fails. -/
theorem publish_of_error
    {text : String}
    (fails : answers.renameError = some text)
    (args : FileArgs) :
    @publish Place Content names answers args =
      ⟨cleanUp answers (names.tmp args), .error (.other text)⟩ := by
  rw [publish, fails]
  exact deleteQuiet_bind answers (names.tmp args) (.other text)

/--
All that a call can come to: it is refused, it cleans up behind its native
call and throws, or it publishes and returns.
-/
theorem run_cases
    (names : FileNames Place)
    (fn : FileFn Content)
    (answers : FileAnswers)
    (noNul : NoNul args.outputPath)
    (op : String) :
    (args.chunkSize.toInt ≤ 0 ∧
        ∃ thrown, run names fn answers args op = .fail thrown) ∨
      (0 < args.chunkSize.toInt ∧
        ¬((fn (nativeArgs args)).code = PqForgeErrorCode.ok.value ∧
          answers.renameError = none) ∧
        ∃ thrown,
          run names fn answers args op =
            ⟨writes (fn (nativeArgs args)) (names.tmp args) ++
                cleanUp answers (names.tmp args),
              .error thrown⟩) ∨
      (0 < args.chunkSize.toInt ∧
        (fn (nativeArgs args)).code = PqForgeErrorCode.ok.value ∧
        answers.renameError = none ∧
        run names fn answers args op =
          ⟨writes (fn (nativeArgs args)) (names.tmp args) ++
              [.rename (names.tmp args) (names.output args)],
            .ok ()⟩) := by
  by_cases positive : 0 < args.chunkSize.toInt
  · refine .inr ?_
    by_cases returnedOk :
        (fn (nativeArgs args)).code = PqForgeErrorCode.ok.value
    · rw [run_of_ok noNul positive returnedOk]
      cases renames : answers.renameError with
      | none =>
          rw [publish_of_rename renames]
          exact .inr ⟨positive, returnedOk, rfl, rfl⟩
      | some text =>
          rw [publish_of_error renames]
          refine .inl ⟨positive, ?_, _, rfl⟩
          rintro ⟨_, noError⟩
          cases noError
    · rw [run_of_failure noNul positive returnedOk]
      exact .inl ⟨positive, fun ends => returnedOk ends.1, _, rfl⟩
  · have nonpositive := Int.not_lt.mp positive
    exact .inl ⟨nonpositive, _, run_of_nonpositive nonpositive⟩

end Shapes

section Effects

variable {answers : FileAnswers}
variable {outcome : NativeOutcome Content}
variable {tmp file : Place}

/-- Writing touches the temporary file only. -/
theorem writes_not_touches
    (other : file ≠ tmp) :
    ∀ effect ∈ writes outcome tmp,
      ¬effect.Touches file := by
  intro effect member
  obtain ⟨content, _, isWrite⟩ := List.mem_map.mp member
  subst isWrite
  exact other

/-- Cleaning up touches the temporary file only. -/
theorem cleanUp_not_touches
    (other : file ≠ tmp) :
    ∀ effect ∈ @cleanUp Place Content answers tmp,
      ¬effect.Touches file := by
  intro effect member
  rw [cleanUp] at member
  split at member
  · obtain rfl := List.mem_singleton.mp member
    exact other
  · cases member

/-- Writing and cleaning up behind it touch the temporary file only. -/
theorem writes_cleanUp_not_touches
    (other : file ≠ tmp) :
    ∀ effect ∈ writes outcome tmp ++ cleanUp answers tmp,
      ¬effect.Touches file := by
  intro effect member
  rcases List.mem_append.mp member with written | cleaned
  · exact writes_not_touches other effect written
  · exact cleanUp_not_touches other effect cleaned

variable [DecidableEq Place]

/-- A clean-up that succeeds leaves no temporary file. -/
theorem after_cleanUp
    (deletes : answers.deletes = true)
    (disk : Disk Place Content)
    (earlier : List (Effect Place Content)) :
    after disk (earlier ++ cleanUp answers tmp) tmp = none := by
  rw [cleanUp, if_pos deletes, after_append]
  exact after_remove _ _

/-- The rename behind a native call that returned `Ok` moves its output. -/
theorem after_publish
    (differ : tmp ≠ file)
    (returnedOk : outcome.code = PqForgeErrorCode.ok.value)
    (disk : Disk Place Content) :
    ∃ output,
      outcome.output? = some output ∧
        after disk (writes outcome tmp ++ [.rename tmp file]) tmp =
          none ∧
        after disk (writes outcome tmp ++ [.rename tmp file]) file =
          some output := by
  obtain ⟨output, isOutput, last⟩ :=
    NativeOutcome.exists_output returnedOk
  have written :
      after disk (writes outcome tmp) tmp = some output := by
    rw [writes, after_writes, last]
    rfl
  rw [after_append]
  exact ⟨output, isOutput, after_rename differ written⟩

end Effects

/-! ## Atomic publication -/

/--
A call is atomic at its output: at every moment the file there is what it was
before or the complete output, and how the call ends says which.
-/
structure Atomic
    [DecidableEq Place]
    (names : FileNames Place)
    (disk : Disk Place Content)
    (answers : FileAnswers)
    (args : FileArgs)
    (outcome : NativeOutcome Content)
    (call : Trace (Effect Place Content) DartThrow Unit) : Prop where
  moments :
    ∀ earlier,
      earlier <+: call.log →
      after disk earlier (names.output args) = disk (names.output args) ∨
        ∃ output,
          outcome.output? = some output ∧
            after disk earlier (names.output args) = some output
  returns :
    call.outcome = .ok () ↔
      0 < args.chunkSize.toInt ∧
        outcome.code = PqForgeErrorCode.ok.value ∧
        answers.renameError = none
  published :
    call.outcome = .ok () →
    ∃ output,
      outcome.output? = some output ∧
        after disk call.log (names.output args) = some output ∧
        after disk call.log (names.tmp args) = none
  restored :
    call.outcome ≠ .ok () →
    after disk call.log (names.output args) = disk (names.output args)
  cleaned :
    call.outcome ≠ .ok () →
    0 < args.chunkSize.toInt →
    answers.deletes = true →
    after disk call.log (names.tmp args) = none
  untouched :
    args.chunkSize.toInt ≤ 0 →
    call.log = []

section Atomic

variable [DecidableEq Place]
variable {names : FileNames Place}
variable {answers : FileAnswers}
variable {args : FileArgs}
variable {outcome : NativeOutcome Content}

/-- A refused call is atomic. -/
theorem atomic_of_refused
    (disk : Disk Place Content)
    (nonpositive : args.chunkSize.toInt ≤ 0)
    (thrown : DartThrow) :
    Atomic names disk answers args outcome (.fail thrown) where
  moments := by
    intro earlier front
    obtain rfl := List.prefix_nil.mp front
    exact .inl rfl
  returns := by
    constructor
    · intro returned
      cases returned
    · rintro ⟨positive, _⟩
      omega
  published := by
    intro returned
    cases returned
  restored := fun _ => rfl
  cleaned := by
    intro _ positive
    omega
  untouched := fun _ => rfl

/-- A call that cleans up behind its native call and throws is atomic. -/
theorem atomic_of_cleanUp
    (noNul : NoNul args.outputPath)
    (disk : Disk Place Content)
    (positive : 0 < args.chunkSize.toInt)
    (notPublished :
      ¬(outcome.code = PqForgeErrorCode.ok.value ∧
        answers.renameError = none))
    (thrown : DartThrow) :
    Atomic names disk answers args outcome
      ⟨writes outcome (names.tmp args) ++
          cleanUp answers (names.tmp args),
        .error thrown⟩ := by
  have spares :
      ∀ effect ∈ writes outcome (names.tmp args) ++
          cleanUp answers (names.tmp args),
        ¬effect.Touches (names.output args) :=
    writes_cleanUp_not_touches (names.tmp_ne noNul).symm
  exact {
    moments := fun earlier front =>
      .inl (after_front_of_not_touches disk spares front)
    returns := by
      constructor
      · intro returned
        cases returned
      · rintro ⟨_, ends⟩
        exact (notPublished ends).elim
    published := by
      intro returned
      cases returned
    restored := fun _ => after_of_not_touches disk spares
    cleaned := fun _ _ deletes => after_cleanUp deletes disk _
    untouched := fun nonpositive =>
      absurd positive (Int.not_lt.mpr nonpositive) }

/-- A call that renames behind a native call that returned `Ok` is atomic. -/
theorem atomic_of_rename
    (noNul : NoNul args.outputPath)
    (disk : Disk Place Content)
    (positive : 0 < args.chunkSize.toInt)
    (returnedOk : outcome.code = PqForgeErrorCode.ok.value)
    (renames : answers.renameError = none) :
    Atomic names disk answers args outcome
      ⟨writes outcome (names.tmp args) ++
          [.rename (names.tmp args) (names.output args)],
        .ok ()⟩ := by
  obtain ⟨output, isOutput, tmpGone, published⟩ :=
    after_publish (names.tmp_ne noNul) returnedOk disk
  exact {
    moments := by
      intro earlier front
      rcases List.prefix_concat_iff.mp front with whole | before
      · subst whole
        exact .inr ⟨output, isOutput, published⟩
      · exact .inl (after_front_of_not_touches disk
          (writes_not_touches (names.tmp_ne noNul).symm) before)
    returns := ⟨fun _ => ⟨positive, returnedOk, renames⟩, fun _ => rfl⟩
    published := fun _ => ⟨output, isOutput, published, tmpGone⟩
    restored := fun thrown => (thrown rfl).elim
    cleaned := fun thrown => (thrown rfl).elim
    untouched := fun nonpositive =>
      absurd positive (Int.not_lt.mpr nonpositive) }

/-- Every call is atomic. -/
theorem run_atomic
    (names : FileNames Place)
    (fn : FileFn Content)
    (answers : FileAnswers)
    {args : FileArgs}
    (noNul : NoNul args.outputPath)
    (op : String)
    (disk : Disk Place Content) :
    Atomic names disk answers args (fn (nativeArgs args))
      (run names fn answers args op) := by
  rcases run_cases names fn answers noNul op with
      ⟨nonpositive, thrown, refused⟩ |
        ⟨positive, notPublished, thrown, cleaned⟩ |
        ⟨positive, returnedOk, renames, published⟩
  · rw [refused]
    exact atomic_of_refused disk nonpositive thrown
  · rw [cleaned]
    exact atomic_of_cleanUp noNul disk positive notPublished thrown
  · rw [published]
    exact atomic_of_rename noNul disk positive returnedOk renames

/-- With a clean-up that succeeds no call leaves its temporary file. -/
theorem run_clears_tmpPath
    (fn : FileFn Content)
    (deletes : answers.deletes = true)
    (noNul : NoNul args.outputPath)
    (positive : 0 < args.chunkSize.toInt)
    (op : String)
    (disk : Disk Place Content) :
    after disk (run names fn answers args op).log (names.tmp args) =
      none := by
  have atomic := run_atomic names fn answers noNul op disk
  by_cases returned : (run names fn answers args op).outcome = .ok ()
  · obtain ⟨_, _, _, gone⟩ := atomic.published returned
    exact gone
  · exact atomic.cleaned returned positive deletes

omit [DecidableEq Place] in
/-- A call touches the temporary file and the output file only. -/
theorem run_not_touches
    (names : FileNames Place)
    (fn : FileFn Content)
    (answers : FileAnswers)
    (noNul : NoNul args.outputPath)
    (op : String)
    {file : Place}
    (notTmp : file ≠ names.tmp args)
    (notOutput : file ≠ names.output args) :
    ∀ effect ∈ (run names fn answers args op).log,
      ¬effect.Touches file := by
  rcases run_cases names fn answers noNul op with
      ⟨_, thrown, refused⟩ |
        ⟨_, _, thrown, cleaned⟩ |
        ⟨_, _, _, published⟩
  · rw [refused]
    intro effect member
    cases member
  · rw [cleaned]
    exact writes_cleanUp_not_touches notTmp
  · rw [published]
    intro effect member
    rcases List.mem_append.mp member with written | renamed
    · exact writes_not_touches notTmp effect written
    · obtain rfl := List.mem_singleton.mp renamed
      rintro (isTmp | isOutput)
      · exact notTmp isTmp
      · exact notOutput isOutput

end Atomic

/--
Both operations publish atomically, whatever the native function does, however
the rename and the clean-up go, and from any disk.
-/
theorem publication_atomic
    [DecidableEq Place]
    (names : FileNames Place)
    (fn : FileFn Bytes)
    (answers : FileAnswers)
    (args : FileArgs)
    (noNul : NoNul args.outputPath)
    (disk : Disk Place Bytes) :
    Atomic names disk answers args (fn (nativeArgs args))
        («seal» names fn answers args) ∧
      Atomic names disk answers args (fn (nativeArgs args))
        («open» names fn answers args) :=
  ⟨run_atomic names fn answers noNul _ disk,
    run_atomic names fn answers noNul _ disk⟩

/-- A native function that fails after it has written a part. -/
def failingFn : FileFn Bytes :=
  fun _ => {
    contents := [[], [1, 2]]
    code := PqForgeStatus.authFailed.code
    finished := fun same => by cases same }

/-- The arguments of a call with an empty key. -/
def keylessArgs : FileArgs where
  inputPath := CodeUnits.encode "in".toList
  outputPath := CodeUnits.encode "out".toList
  key := []
  algorithm := .aes256Gcm
  aad := none
  chunkSize := 16

/-- A failed open leaves an output that was there before. -/
theorem publication_atomic_of_failure :
    after (fun path => if path = "out" then some [5] else none)
        («open» .spelled failingFn ⟨none, true⟩ keylessArgs).log
        (FileNames.spelled.output keylessArgs) =
      some [5] :=
  (publication_atomic .spelled failingFn ⟨none, true⟩ keylessArgs
      (by decide)
      fun path => if path = "out" then some [5] else none).2.restored
    fun returned => by cases returned

end PqForgeFfi.PqForgeFileCipher
