import PqForgeFfi.FilePublication
import PqForgeFfi.Transitions.Schedule

namespace PqForgeFfi.PqForgeFileCipher

open PathStrings PlainFiles Transitions

/-!
# Calls with one output path

Calls that have the same output path have the same temporary path.  The native
call of one of them can come between the native call and the rename of another
one, whose rename then publishes what it did not write.

A version of a file records who wrote it, which the code does not.
-/

/-- The file of an output path, and the temporary one beside it. -/
structure OutputFiles (Place : Type) where
  output : Place
  tmp : Place
  differ : tmp ≠ output

/-- The files of the output path of a call. -/
def FileNames.outputFiles
    {Place : Type}
    (names : FileNames Place)
    (args : FileArgs)
    (noNul : NoNul args.outputPath) :
    OutputFiles Place where
  output := names.output args
  tmp := names.tmp args
  differ := names.tmp_ne noNul

/-- A content of a file, and which native call wrote it. -/
structure FileVersion (Call : Type) where
  author : Option Call
  fromOk : Bool
  bytes : Bytes
  deriving Repr, DecidableEq

/-- How far a call has come, at the points where other code can run. -/
inductive Phase where
  | called
  | produced (own : Bytes)
  | cleaning
  | completed (own received : Bytes)
  | threw
  deriving Repr, DecidableEq

/-- The phase behind a native call, given its complete output if any. -/
def Phase.behind : Option Bytes → Phase
  | some own => .produced own
  | none => .cleaning

/-- The disk, and how far each call has come. -/
structure OpenCalls (Place Call : Type) where
  disk : Disk Place (FileVersion Call)
  phase : Call → Phase

/-- One step of one call, and how what it calls answers. -/
inductive CallStep (Call : Type) where
  | native (call : Call) (outcome : NativeOutcome Bytes)
  | rename (call : Call) (renames : Bool)
  | delete (call : Call) (deletes : Bool)

variable {Place Call : Type}

/-- The versions that a native call writes. -/
def NativeOutcome.versions
    (outcome : NativeOutcome Bytes)
    (call : Call) :
    NativeOutcome (FileVersion Call) where
  contents := outcome.contents.map fun bytes => {
    author := some call
    fromOk := outcome.code == PqForgeErrorCode.ok.value
    bytes := bytes }
  code := outcome.code
  finished := fun returnedOk isEmpty =>
    outcome.finished returnedOk (List.map_eq_nil_iff.mp isEmpty)

/-- The versions of a native call are by that call. -/
theorem NativeOutcome.mem_versions
    {call : Call}
    {outcome : NativeOutcome Bytes}
    {version : FileVersion Call}
    (member : version ∈ (outcome.versions call).contents) :
    version.author = some call := by
  obtain ⟨bytes, _, same⟩ := List.mem_map.mp member
  subst same
  rfl

/-- Behind a native call the temporary file is its last version, or as before. -/
theorem NativeOutcome.tmp_after_versions
    [DecidableEq Place]
    {tmp : Place}
    {call : Call}
    (disk : Disk Place (FileVersion Call))
    (outcome : NativeOutcome Bytes) :
    after disk (writes (outcome.versions call) tmp) tmp =
      (outcome.versions call).contents.getLast?.or (disk tmp) :=
  after_writes disk tmp _

/-- A native call that returned `Ok` has left its output, as its own. -/
theorem NativeOutcome.last_version
    {call : Call}
    {outcome : NativeOutcome Bytes}
    {own : Bytes}
    (isOutput : outcome.output? = some own) :
    (outcome.versions call).contents.getLast? =
      some { author := some call, fromOk := true, bytes := own } := by
  rw [NativeOutcome.output?] at isOutput
  split at isOutput
  · rename_i returnedOk
    simp only [NativeOutcome.versions, List.getLast?_map, isOutput,
      Option.map_some, returnedOk, beq_self_eq_true]
  · cases isOutput

/-- Another call's native step, which writes to the temporary file. -/
def CallStep.Disturbs
    (call : Call) :
    CallStep Call → Prop
  | .native other outcome => other ≠ call ∧ outcome.contents ≠ []
  | _ => False

/--
Between the native step of a call and its own rename no native step of another
call writes.
-/
def Undisturbed (steps : List (CallStep Call)) : Prop :=
  ∀ earlier call outcome between later,
    steps =
      earlier ++ .native call outcome ::
        (between ++ .rename call true :: later) →
    ∀ action ∈ between, ¬action.Disturbs call

namespace OpenCalls

variable [DecidableEq Call]

/-- A call enters its next phase. -/
def enter
    (calls : OpenCalls Place Call)
    (call : Call)
    (disk : Disk Place (FileVersion Call))
    (phase : Phase) :
    OpenCalls Place Call where
  disk := disk
  phase := Function.update calls.phase call phase

@[simp] theorem enter_disk
    (calls : OpenCalls Place Call)
    (call : Call)
    (disk : Disk Place (FileVersion Call))
    (phase : Phase) :
    (calls.enter call disk phase).disk = disk :=
  rfl

@[simp] theorem enter_phase_self
    {calls : OpenCalls Place Call}
    {call : Call}
    (disk : Disk Place (FileVersion Call))
    (phase : Phase) :
    (calls.enter call disk phase).phase call = phase :=
  Function.update_self _ _ _

theorem enter_phase_of_ne
    {calls : OpenCalls Place Call}
    {call other : Call}
    (differ : other ≠ call)
    (disk : Disk Place (FileVersion Call))
    (phase : Phase) :
    (calls.enter call disk phase).phase other = calls.phase other :=
  Function.update_of_ne differ _ _

/-- A call that entered a phase other than the one found is another one. -/
theorem ne_of_enter_phase
    {calls : OpenCalls Place Call}
    {call other : Call}
    {disk : Disk Place (FileVersion Call)}
    {entered phase : Phase}
    (found : (calls.enter call disk entered).phase other = phase)
    (differ : entered ≠ phase) :
    other ≠ call := by
  intro same
  subst same
  rw [enter_phase_self] at found
  exact differ found

variable [DecidableEq Place]

/-- A step of a call, where the call has come to it. -/
def step
    (files : OutputFiles Place)
    (calls : OpenCalls Place Call) :
    CallStep Call → Option (OpenCalls Place Call)
  | .native call outcome =>
      match calls.phase call with
      | .called =>
          some (calls.enter call
            (after calls.disk (writes (outcome.versions call) files.tmp))
            (Phase.behind outcome.output?))
      | _ =>
          none
  | .rename call renames =>
      match calls.phase call with
      | .produced own =>
          if renames then
            match calls.disk files.tmp with
            | none =>
                none
            | some version =>
                some (calls.enter call
                  (after calls.disk
                    [.rename files.tmp files.output])
                  (.completed own version.bytes))
          else
            some (calls.enter call calls.disk .cleaning)
      | _ =>
          none
  | .delete call deletes =>
      match calls.phase call with
      | .cleaning =>
          some (calls.enter call
            (after calls.disk (cleanUp ⟨none, deletes⟩ files.tmp))
            .threw)
      | _ =>
          none

/-- No call has begun, and no file is by one of them. -/
structure Fresh (calls : OpenCalls Place Call) : Prop where
  phase : ∀ call, calls.phase call = .called
  author :
    ∀ path version,
      calls.disk path = some version →
      version.author = none

/--
Nothing has been mixed up: the output path does not hold a part that a failed
native call left, and a call that completed published its own output.
-/
structure Unmixed
    (files : OutputFiles Place)
    (calls : OpenCalls Place Call) : Prop where
  output :
    ∀ version call,
      calls.disk files.output = some version →
      version.author = some call →
      version.fromOk = true
  completed :
    ∀ call own received,
      calls.phase call = .completed own received →
      received = own

/-- A rename moves a temporary file that its own call has written. -/
def RenamesOwn
    (files : OutputFiles Place)
    (calls : OpenCalls Place Call) :
    CallStep Call → Prop
  | .rename call true =>
      ∀ version ∈ calls.disk files.tmp,
        version.author = some call
  | _ => True

instance
    (files : OutputFiles Place)
    (calls : OpenCalls Place Call) :
    ∀ action, Decidable (calls.RenamesOwn files action)
  | .native _ _ => inferInstanceAs (Decidable True)
  | .rename _ true => inferInstanceAs (Decidable (∀ _ ∈ _, _))
  | .rename _ false => inferInstanceAs (Decidable True)
  | .delete _ _ => inferInstanceAs (Decidable True)

/-- Where nothing is mixed up, a temporary file is what its author produced. -/
structure Consistent
    (files : OutputFiles Place)
    (calls : OpenCalls Place Call) : Prop extends
    Unmixed files calls where
  temporary :
    ∀ version call own,
      calls.disk files.tmp = some version →
      version.author = some call →
      calls.phase call = .produced own →
      version.bytes = own ∧ version.fromOk = true

section Steps

variable {files : OutputFiles Place}
variable {calls next : OpenCalls Place Call}
variable {call : Call}

/-- What a native step does. -/
theorem step_native
    {outcome : NativeOutcome Bytes}
    (stepped :
      step files calls (.native call outcome) = some next) :
    calls.phase call = .called ∧
      next =
        calls.enter call
          (after calls.disk (writes (outcome.versions call) files.tmp))
          (Phase.behind outcome.output?) := by
  rw [step] at stepped
  split at stepped
  · rename_i isCalled
    exact ⟨isCalled, (Option.some.inj stepped).symm⟩
  · cases stepped

/-- What a rename does that succeeds. -/
theorem step_rename
    (stepped :
      step files calls (.rename call true) = some next) :
    ∃ own version,
      calls.phase call = .produced own ∧
        calls.disk files.tmp = some version ∧
        next =
          calls.enter call
            (after calls.disk
              [.rename files.tmp files.output])
            (.completed own version.bytes) := by
  rw [step] at stepped
  split at stepped
  · rename_i own produced
    rw [if_pos rfl] at stepped
    split at stepped
    · cases stepped
    · rename_i version found
      exact ⟨own, version, produced, found,
        (Option.some.inj stepped).symm⟩
  · cases stepped

/-- What a rename does that fails. -/
theorem step_rename_failure
    (stepped :
      step files calls (.rename call false) = some next) :
    next = calls.enter call calls.disk .cleaning := by
  rw [step] at stepped
  split at stepped
  · rw [if_neg Bool.false_ne_true] at stepped
    exact (Option.some.inj stepped).symm
  · cases stepped

/-- What a clean-up does. -/
theorem step_delete
    {deletes : Bool}
    (stepped :
      step files calls (.delete call deletes) = some next) :
    next =
      calls.enter call
        (after calls.disk (cleanUp ⟨none, deletes⟩ files.tmp))
        .threw := by
  rw [step] at stepped
  split at stepped
  · exact (Option.some.inj stepped).symm
  · cases stepped

/-- A native step mixes nothing up. -/
theorem Consistent.native
    (consistent : calls.Consistent files)
    {outcome : NativeOutcome Bytes}
    (stepped :
      step files calls (.native call outcome) = some next) :
    next.Consistent files := by
  obtain ⟨isCalled, same⟩ := step_native stepped
  subst same
  have untouched :
      after calls.disk (writes (outcome.versions call) files.tmp)
          files.output =
        calls.disk files.output :=
    after_of_not_touches calls.disk
      (writes_not_touches files.differ.symm)
  refine { output := ?_, completed := ?_, temporary := ?_ }
  · intro version author found
    rw [enter_disk, untouched] at found
    exact consistent.output version author found
  · intro other own received isCompleted
    have differ : other ≠ call := by
      refine ne_of_enter_phase isCompleted ?_
      cases outcome.output? <;> exact fun same => by cases same
    rw [enter_phase_of_ne differ] at isCompleted
    exact consistent.completed other own received isCompleted
  · intro version author own found isAuthor produced
    rw [enter_disk, NativeOutcome.tmp_after_versions] at found
    by_cases same : author = call
    · subst same
      rw [enter_phase_self] at produced
      cases isOutput : outcome.output? with
      | none =>
          rw [isOutput] at produced
          cases produced
      | some output =>
          rw [isOutput] at produced
          rw [NativeOutcome.last_version isOutput] at found
          cases produced
          cases found
          exact ⟨rfl, rfl⟩
    · rw [enter_phase_of_ne same] at produced
      cases last : (outcome.versions call).contents.getLast? with
      | none =>
          rw [last] at found
          exact consistent.temporary version author own found isAuthor
            produced
      | some written =>
          rw [last] at found
          cases found
          have byCall := NativeOutcome.mem_versions (List.mem_of_getLast? last)
          rw [isAuthor] at byCall
          exact (same (Option.some.inj byCall)).elim

/-- A rename mixes nothing up when it moves what its own call has written. -/
theorem Consistent.rename
    (consistent : calls.Consistent files)
    (renamesOwn : calls.RenamesOwn files (.rename call true))
    (stepped :
      step files calls (.rename call true) = some next) :
    next.Consistent files := by
  obtain ⟨own, version, produced, found, same⟩ := step_rename stepped
  subst same
  have isAuthor := renamesOwn version found
  obtain ⟨isOwn, fromOk⟩ :=
    consistent.temporary version call own found isAuthor produced
  obtain ⟨tmpGone, moved⟩ :=
    after_rename files.differ found
  refine { output := ?_, completed := ?_, temporary := ?_ }
  · intro published author here _
    rw [enter_disk, moved] at here
    cases here
    exact fromOk
  · intro other ownBytes received isCompleted
    by_cases same : other = call
    · subst same
      rw [enter_phase_self] at isCompleted
      cases isCompleted
      exact isOwn
    · rw [enter_phase_of_ne same] at isCompleted
      exact consistent.completed other ownBytes received isCompleted
  · intro left author ownBytes here
    rw [enter_disk, tmpGone] at here
    cases here

omit [DecidableEq Place] in
/-- A step that publishes nothing and produces nothing mixes nothing up. -/
theorem Consistent.enter
    (consistent : calls.Consistent files)
    {disk : Disk Place (FileVersion Call)}
    {phase : Phase}
    (notProduced : ∀ own, phase ≠ .produced own)
    (notCompleted : ∀ own received, phase ≠ .completed own received)
    (output : disk files.output = calls.disk files.output)
    (temporary :
      ∀ version,
        disk files.tmp = some version →
        calls.disk files.tmp = some version) :
    (calls.enter call disk phase).Consistent files where
  output := by
    intro version author found
    rw [enter_disk, output] at found
    exact consistent.output version author found
  completed := by
    intro other own received isCompleted
    have differ : other ≠ call :=
      ne_of_enter_phase isCompleted (notCompleted own received)
    rw [enter_phase_of_ne differ] at isCompleted
    exact consistent.completed other own received isCompleted
  temporary := by
    intro version author own found isAuthor produced
    have differ : author ≠ call :=
      ne_of_enter_phase produced (notProduced own)
    rw [enter_phase_of_ne differ] at produced
    exact consistent.temporary version author own
      (temporary version found) isAuthor produced

/-- A rename that fails mixes nothing up. -/
theorem Consistent.renameFailure
    (consistent : calls.Consistent files)
    (stepped :
      step files calls (.rename call false) = some next) :
    next.Consistent files := by
  have same := step_rename_failure stepped
  subst same
  refine consistent.enter ?_ ?_ rfl fun version found => found
  · intro own same
    cases same
  · intro own received same
    cases same

/-- A clean-up mixes nothing up. -/
theorem Consistent.delete
    (consistent : calls.Consistent files)
    {deletes : Bool}
    (stepped :
      step files calls (.delete call deletes) = some next) :
    next.Consistent files := by
  have same := step_delete stepped
  subst same
  refine consistent.enter ?_ ?_ ?_ ?_
  · intro own same
    cases same
  · intro own received same
    cases same
  · exact after_of_not_touches calls.disk
      (cleanUp_not_touches files.differ.symm)
  · intro version found
    cases deletes with
    | true =>
        rw [cleanUp, if_pos rfl, after_remove] at found
        cases found
    | false =>
        exact found

end Steps

/--
In every interleaving in which each rename moves what its own call has written,
nothing is mixed up.
-/
theorem unmixed_of_renames_own
    {files : OutputFiles Place}
    {start calls : OpenCalls Place Call}
    (fresh : start.Fresh)
    {steps : List (CallStep Call)}
    (renamesOwn :
      Along (step files) (RenamesOwn files) start steps)
    (reached :
      Transitions.run (step files) start steps = some calls) :
    calls.Unmixed files := by
  have begins : start.Consistent files := by
    refine { output := ?_, completed := ?_, temporary := ?_ }
    · intro version call found isAuthor
      rw [fresh.author files.output version found] at isAuthor
      cases isAuthor
    · intro call own received isCompleted
      rw [fresh.phase call] at isCompleted
      cases isCompleted
    · intro version call own _ _ produced
      rw [fresh.phase call] at produced
      cases produced
  have ends : calls.Consistent files := by
    refine run_invariant ?_ begins renamesOwn reached
    intro before action after consistent allowed stepped
    cases action with
    | native call outcome =>
        exact consistent.native stepped
    | rename call renames =>
        cases renames with
        | true =>
            exact consistent.rename allowed stepped
        | false =>
            exact consistent.renameFailure stepped
    | delete call deletes =>
        exact consistent.delete stepped
  exact ends.toUnmixed

section Schedules

variable {files : OutputFiles Place}
variable {start calls next : OpenCalls Place Call}
variable {call : Call}

/--
All that a step can do to the temporary file: the native step of a call that
has not begun writes there, and any other step leaves what is there or removes
it, and is one of a call that has begun.
-/
theorem step_cases
    {action : CallStep Call}
    (stepped : step files calls action = some next) :
    (∃ call outcome,
        action = .native call outcome ∧
          calls.phase call = .called ∧
          next =
            calls.enter call
              (after calls.disk (writes (outcome.versions call) files.tmp))
              (Phase.behind outcome.output?)) ∨
      (∀ call, ¬action.Disturbs call) ∧
        ∃ call disk phase,
          next = calls.enter call disk phase ∧
            phase ≠ .called ∧
            (∀ own, phase ≠ .produced own) ∧
            (disk files.tmp = calls.disk files.tmp ∨
              disk files.tmp = none) := by
  cases action with
  | native call outcome =>
      obtain ⟨isCalled, same⟩ := step_native stepped
      exact .inl ⟨call, outcome, rfl, isCalled, same⟩
  | rename call renames =>
      refine .inr ⟨fun _ => id, ?_⟩
      cases renames with
      | true =>
          obtain ⟨own, version, _, found, same⟩ := step_rename stepped
          exact
            ⟨call, _, _, same, by simp, by simp,
              .inr (after_rename files.differ found).1⟩
      | false =>
          exact
            ⟨call, _, _, step_rename_failure stepped, by simp, by simp,
              .inl rfl⟩
  | delete call deletes =>
      refine
        .inr ⟨fun _ => id, call, _, _, step_delete stepped, by simp,
          by simp, ?_⟩
      cases deletes with
      | true =>
          exact
            .inr
              (@after_cleanUp Place (FileVersion Call) ⟨none, true⟩
                files.tmp _ rfl calls.disk [])
      | false =>
          exact .inl rfl

/--
Every call that waits to rename has taken its native step, and if no other
native step has written since, the temporary file is its own or gone.
-/
def Recorded
    (files : OutputFiles Place)
    (earlier : List (CallStep Call))
    (calls : OpenCalls Place Call) : Prop :=
  ∀ call own,
    calls.phase call = .produced own →
    ∃ front outcome between,
      earlier = front ++ .native call outcome :: between ∧
        ((∀ action ∈ between, ¬action.Disturbs call) →
          ∀ version ∈ calls.disk files.tmp,
            version.author = some call)

omit [DecidableEq Place] [DecidableEq Call] in
/-- A step of another call keeps what is recorded of a call. -/
theorem Recorded.later
    {earlier : List (CallStep Call)}
    (recorded : Recorded files earlier calls)
    {own : Bytes}
    (produced : calls.phase call = .produced own)
    {action : CallStep Call}
    (spares :
      ¬action.Disturbs call →
      ∀ version ∈ next.disk files.tmp,
        version ∈ calls.disk files.tmp) :
    ∃ front outcome between,
      earlier ++ [action] = front ++ .native call outcome :: between ∧
        ((∀ later ∈ between, ¬later.Disturbs call) →
          ∀ version ∈ next.disk files.tmp,
            version.author = some call) := by
  obtain ⟨front, outcome, between, rfl, byCall⟩ :=
    recorded call own produced
  refine ⟨front, outcome, between ++ [action], by simp, ?_⟩
  intro undisturbed version found
  refine
    byCall (fun later member => undisturbed later (by simp [member]))
      version (spares (undisturbed action (by simp)) version found)

/-- Every step keeps what is recorded of the steps before it. -/
theorem Recorded.step
    {earlier : List (CallStep Call)}
    (recorded : Recorded files earlier calls)
    {action : CallStep Call}
    (stepped : OpenCalls.step files calls action = some next) :
    Recorded files (earlier ++ [action]) next := by
  intro call own produced
  rcases step_cases stepped with
      ⟨actor, outcome, rfl, _, rfl⟩ |
        ⟨_, actor, disk, phase, rfl, _, notProduced, tmp⟩
  · by_cases same : call = actor
    · subst same
      refine ⟨earlier, outcome, [], rfl, fun _ version found => ?_⟩
      rw [enter_phase_self] at produced
      cases isOutput : outcome.output? with
      | none =>
          rw [isOutput] at produced
          cases produced
      | some output =>
          rw [enter_disk, NativeOutcome.tmp_after_versions,
            NativeOutcome.last_version isOutput] at found
          cases found
          rfl
    · rw [enter_phase_of_ne same] at produced
      refine recorded.later produced fun spares version found => ?_
      have nothing : (outcome.versions actor).contents = [] := by
        by_contra written
        exact
          spares
            ⟨fun isCall => same isCall.symm,
              fun isEmpty => written (List.map_eq_nil_iff.mpr isEmpty)⟩
      rw [enter_disk, NativeOutcome.tmp_after_versions, nothing] at found
      exact found
  · have differ := ne_of_enter_phase produced (notProduced own)
    rw [enter_phase_of_ne differ] at produced
    refine recorded.later produced fun _ version found => ?_
    rw [enter_disk] at found
    rcases tmp with kept | gone
    · rwa [kept] at found
    · rw [gone] at found
      cases found

/-- In an undisturbed schedule every rename moves what its own call wrote. -/
theorem renamesOwn_of_undisturbed
    (fresh : start.Fresh)
    {steps : List (CallStep Call)}
    (undisturbed : Undisturbed steps)
    (reached :
      Transitions.run (step files) start steps = some calls) :
    Along (step files) (RenamesOwn files) start steps := by
  refine
    @along_of_history _ _ _ _ (Recorded files) steps ?_ ?_ [] steps start
      calls (List.nil_append steps).symm ?_ reached
  · exact fun _ _ _ _ recorded stepped => recorded.step stepped
  · intro earlier action later state next split recorded stepped
    cases action with
    | native call outcome =>
        trivial
    | delete call deletes =>
        trivial
    | rename call renames =>
        cases renames with
        | false =>
            trivial
        | true =>
            obtain ⟨own, _, produced, _⟩ := step_rename stepped
            obtain ⟨front, outcome, between, rfl, byCall⟩ :=
              recorded call own produced
            refine byCall (undisturbed front call outcome between later ?_)
            rw [split, List.append_assoc]
            rfl
  · intro call own produced
    rw [fresh.phase call] at produced
    cases produced

/--
The call has taken its native step, and what the temporary file holds, if
anything, is another one's.
-/
structure Superseded
    (files : OutputFiles Place)
    (call : Call)
    (calls : OpenCalls Place Call) : Prop where
  begun : calls.phase call ≠ .called
  foreign :
    ∀ version ∈ calls.disk files.tmp, version.author ≠ some call

/-- A call that has begun does not begin again. -/
theorem begun_step
    {action : CallStep Call}
    (begun : calls.phase call ≠ .called)
    (stepped : step files calls action = some next) :
    next.phase call ≠ .called := by
  rcases step_cases stepped with
      ⟨actor, outcome, rfl, isCalled, rfl⟩ |
        ⟨_, actor, disk, phase, rfl, notCalled, _⟩
  · have differ : call ≠ actor := by
      rintro rfl
      exact begun isCalled
    rwa [enter_phase_of_ne differ]
  · by_cases same : call = actor
    · rw [same, enter_phase_self]
      exact notCalled
    · rwa [enter_phase_of_ne same]

/-- A call whose temporary file is another one's does not get it back. -/
theorem Superseded.step
    {action : CallStep Call}
    (superseded : Superseded files call calls)
    (stepped : OpenCalls.step files calls action = some next) :
    Superseded files call next := by
  refine ⟨begun_step superseded.begun stepped, ?_⟩
  intro version found
  rcases step_cases stepped with
      ⟨actor, outcome, rfl, isCalled, rfl⟩ |
        ⟨_, actor, disk, phase, rfl, _, _, tmp⟩
  · rw [enter_disk, NativeOutcome.tmp_after_versions] at found
    cases last : (outcome.versions actor).contents.getLast? with
    | none =>
        rw [last] at found
        exact superseded.foreign version found
    | some written =>
        rw [last] at found
        cases found
        rw [NativeOutcome.mem_versions (List.mem_of_getLast? last)]
        intro same
        cases same
        exact superseded.begun isCalled
  · rw [enter_disk] at found
    rcases tmp with kept | gone
    · rw [kept] at found
      exact superseded.foreign version found
    · rw [gone] at found
      cases found

/-- A native step of another call that writes makes the file another one's. -/
theorem superseded_of_disturbs
    {action : CallStep Call}
    (begun : calls.phase call ≠ .called)
    (disturbs : action.Disturbs call)
    (stepped : step files calls action = some next) :
    Superseded files call next := by
  refine ⟨begun_step begun stepped, ?_⟩
  intro version found
  rcases step_cases stepped with
      ⟨actor, outcome, rfl, _, rfl⟩ | ⟨spares, _⟩
  · obtain ⟨differ, writes⟩ := disturbs
    rw [enter_disk, NativeOutcome.tmp_after_versions] at found
    cases last : (outcome.versions actor).contents.getLast? with
    | none =>
        rw [List.getLast?_eq_none_iff] at last
        exact (writes (List.map_eq_nil_iff.mp last)).elim
    | some written =>
        rw [last] at found
        cases found
        rw [NativeOutcome.mem_versions (List.mem_of_getLast? last)]
        exact fun same => differ (Option.some.inj same)
  · exact (spares call disturbs).elim

/-- What every step of a schedule keeps holds wherever the schedule leads. -/
theorem run_keeps
    {holds : OpenCalls Place Call → Prop}
    (keeps :
      ∀ before action after,
        holds before →
        step files before action = some after →
        holds after)
    (begins : holds start)
    {steps : List (CallStep Call)}
    (reached :
      Transitions.run (step files) start steps = some calls) :
    holds calls :=
  run_invariant
    (fun before action after here _ => keeps before action after here)
    begins (along_of_forall (fun _ _ => trivial) start steps) reached

/-- A schedule in which every rename moves what its call wrote is undisturbed. -/
theorem undisturbed_of_renamesOwn
    {steps : List (CallStep Call)}
    (renamesOwn :
      Along (step files) (RenamesOwn files) start steps)
    (reached :
      Transitions.run (step files) start steps = some calls) :
    Undisturbed steps := by
  rintro earlier call outcome between later rfl action member disturbs
  obtain ⟨front, back, rfl⟩ := List.append_of_mem member
  obtain ⟨before, first, reached⟩ := run_append reached
  have renamesOwn := renamesOwn.append first
  obtain ⟨behind, called, reached⟩ := run_cons reached
  have renamesOwn := renamesOwn.2 behind called
  obtain ⟨atRename, middle, reached⟩ := run_append reached
  have own := (renamesOwn.append middle).1
  obtain ⟨renamed, published, _⟩ := run_cons reached
  have begun : behind.phase call ≠ .called := by
    obtain ⟨_, rfl⟩ := step_native called
    rw [enter_phase_self]
    cases outcome.output? <;> exact fun same => by cases same
  have superseded : Superseded files call atRename := by
    obtain ⟨disturbed, frontRun, middle⟩ := run_append middle
    obtain ⟨lost, stepped, backRun⟩ := run_cons middle
    have stillBegun : disturbed.phase call ≠ .called :=
      run_keeps (fun _ _ _ here stepped => begun_step here stepped) begun
        frontRun
    exact
      run_keeps (fun _ _ _ here stepped => here.step stepped)
        (superseded_of_disturbs stillBegun disturbs stepped) backRun
  obtain ⟨_, version, _, found, _⟩ := step_rename published
  exact superseded.foreign version found (own version found)

/--
The schedules in which every rename moves what its own call wrote are those
that no other native step disturbs.
-/
theorem renamesOwn_iff_undisturbed
    (fresh : start.Fresh)
    {steps : List (CallStep Call)}
    (reached :
      Transitions.run (step files) start steps = some calls) :
    Along (step files) (RenamesOwn files) start steps ↔
      Undisturbed steps :=
  ⟨fun renamesOwn => undisturbed_of_renamesOwn renamesOwn reached,
    fun undisturbed =>
      renamesOwn_of_undisturbed fresh undisturbed reached⟩

end Schedules

/-! ## One call alone -/

/-- The steps of a call, given how what it calls answers. -/
def stepsOf
    (call : Call)
    (outcome : NativeOutcome Bytes)
    (answers : FileAnswers) :
    List (CallStep Call) :=
  .native call outcome ::
    if outcome.code = PqForgeErrorCode.ok.value then
      if answers.renameError = none then
        [.rename call true]
      else
        [.rename call false, .delete call answers.deletes]
    else
      [.delete call answers.deletes]

section Alone

variable {calls : OpenCalls Place Call}
variable {call : Call}
variable {outcome : NativeOutcome Bytes}
variable {answers : FileAnswers}
variable {args : FileArgs}

/-- The native step is possible where the call has not begun. -/
theorem step_native_of_called
    (isCalled : calls.phase call = .called)
    (files : OutputFiles Place) :
    step files calls (.native call outcome) =
      some (calls.enter call
        (after calls.disk (writes (outcome.versions call) files.tmp))
        (Phase.behind outcome.output?)) := by
  rw [step, isCalled]

/-- The clean-up is possible where the call has come to it. -/
theorem step_delete_of_cleaning
    (isCleaning : calls.phase call = .cleaning)
    (files : OutputFiles Place)
    (deletes : Bool) :
    step files calls (.delete call deletes) =
      some (calls.enter call
        (after calls.disk (cleanUp ⟨none, deletes⟩ files.tmp))
        .threw) := by
  rw [step, isCleaning]

/-- A rename that succeeds is possible where the temporary file is there. -/
theorem step_rename_of_produced
    {own : Bytes}
    (produced : calls.phase call = .produced own)
    {files : OutputFiles Place}
    {version : FileVersion Call}
    (found : calls.disk files.tmp = some version) :
    step files calls (.rename call true) =
      some (calls.enter call
        (after calls.disk [.rename files.tmp files.output])
        (.completed own version.bytes)) := by
  simp only [step, produced, found, ↓reduceIte]

/-- A rename can fail. -/
theorem step_rename_failure_of_produced
    {own : Bytes}
    (produced : calls.phase call = .produced own)
    (files : OutputFiles Place) :
    step files calls (.rename call false) =
      some (calls.enter call calls.disk .cleaning) := by
  simp only [step, produced, Bool.false_eq_true, ↓reduceIte]

/-- A native call that fails is cleaned up behind. -/
theorem stepsOf_of_failure
    (isCalled : calls.phase call = .called)
    (failed : outcome.code ≠ PqForgeErrorCode.ok.value)
    (files : OutputFiles Place) :
    ∃ final,
      Transitions.run (step files) calls
          (stepsOf call outcome answers) = some final ∧
        final.disk =
          after calls.disk
            (writes (outcome.versions call) files.tmp ++
              cleanUp answers files.tmp) ∧
        final.phase call = .threw := by
  have cleaning : Phase.behind outcome.output? = .cleaning := by
    rw [NativeOutcome.output?, if_neg failed, Phase.behind]
  have native :=
    @step_native_of_called Place Call _ _ calls call outcome isCalled files
  rw [cleaning] at native
  rw [stepsOf, if_neg failed, run_of_step native,
    run_of_step
      (step_delete_of_cleaning (enter_phase_self _ _) files
        answers.deletes)]
  refine ⟨_, rfl, ?_, enter_phase_self _ _⟩
  rw [after_append]
  rfl

section Produced

variable {output : Bytes}

/-- Behind a native call that returned `Ok` its output waits to be renamed. -/
theorem exists_native_of_output
    (isCalled : calls.phase call = .called)
    (isOutput : outcome.output? = some output)
    (files : OutputFiles Place) :
    ∃ middle,
      step files calls (.native call outcome) = some middle ∧
        middle.disk =
          after calls.disk
            (writes (outcome.versions call) files.tmp) ∧
        middle.phase call = .produced output ∧
        middle.disk files.tmp =
          some ⟨some call, true, output⟩ := by
  have native :=
    @step_native_of_called Place Call _ _ calls call outcome isCalled files
  rw [isOutput, Phase.behind] at native
  refine ⟨_, native, rfl, enter_phase_self _ _, ?_⟩
  rw [enter_disk, NativeOutcome.tmp_after_versions,
    NativeOutcome.last_version isOutput]
  rfl

/-- A rename that succeeds completes the call with its own output. -/
theorem stepsOf_of_rename
    (isCalled : calls.phase call = .called)
    (returnedOk : outcome.code = PqForgeErrorCode.ok.value)
    (isOutput : outcome.output? = some output)
    (renames : answers.renameError = none)
    (files : OutputFiles Place) :
    ∃ final,
      Transitions.run (step files) calls
          (stepsOf call outcome answers) = some final ∧
        final.disk =
          after calls.disk
            (writes (outcome.versions call) files.tmp ++
              [.rename files.tmp files.output]) ∧
        final.phase call = .completed output output := by
  obtain ⟨middle, native, disk, produced, found⟩ :=
    @exists_native_of_output Place Call _ _ calls call outcome output isCalled
      isOutput files
  rw [stepsOf, if_pos returnedOk, if_pos renames, run_of_step native,
    run_of_step (step_rename_of_produced produced found)]
  refine ⟨_, rfl, ?_, enter_phase_self _ _⟩
  rw [after_append, ← disk]
  rfl

/-- A rename that fails is cleaned up behind. -/
theorem stepsOf_of_rename_failure
    (isCalled : calls.phase call = .called)
    (returnedOk : outcome.code = PqForgeErrorCode.ok.value)
    (isOutput : outcome.output? = some output)
    {text : String}
    (fails : answers.renameError = some text)
    (files : OutputFiles Place) :
    ∃ final,
      Transitions.run (step files) calls
          (stepsOf call outcome answers) = some final ∧
        final.disk =
          after calls.disk
            (writes (outcome.versions call) files.tmp ++
              cleanUp answers files.tmp) ∧
        final.phase call = .threw := by
  obtain ⟨middle, native, disk, produced, _⟩ :=
    @exists_native_of_output Place Call _ _ calls call outcome output isCalled
      isOutput files
  have notRenamed : answers.renameError ≠ none := by
    rw [fails]
    exact Option.some_ne_none text
  rw [stepsOf, if_pos returnedOk, if_neg notRenamed, run_of_step native,
    run_of_step (step_rename_failure_of_produced produced files),
    run_of_step
      (step_delete_of_cleaning (enter_phase_self _ _) files
        answers.deletes)]
  refine ⟨_, rfl, ?_, enter_phase_self _ _⟩
  rw [after_append, ← disk]
  rfl

end Produced

/-- A call that does not publish is cleaned up behind. -/
theorem stepsOf_of_cleanUp
    (isCalled : calls.phase call = .called)
    (notPublished :
      ¬(outcome.code = PqForgeErrorCode.ok.value ∧
        answers.renameError = none))
    (files : OutputFiles Place) :
    ∃ final,
      Transitions.run (step files) calls
          (stepsOf call outcome answers) = some final ∧
        final.disk =
          after calls.disk
            (writes (outcome.versions call) files.tmp ++
              cleanUp answers files.tmp) ∧
        final.phase call = .threw := by
  by_cases returnedOk : outcome.code = PqForgeErrorCode.ok.value
  · obtain ⟨output, isOutput, _⟩ :=
      NativeOutcome.exists_output returnedOk
    cases fails : answers.renameError with
    | none =>
        exact (notPublished ⟨returnedOk, fails⟩).elim
    | some text =>
        exact stepsOf_of_rename_failure isCalled returnedOk isOutput
          fails files
  · exact stepsOf_of_failure isCalled returnedOk files

/-- A call that nothing interrupts does what the call does alone. -/
theorem stepsOf_eq_run
    (names : FileNames Place)
    (noNul : NoNul args.outputPath)
    (positive : 0 < args.chunkSize.toInt)
    (isCalled : calls.phase call = .called)
    (op : String) :
    let files := names.outputFiles args noNul
    let whole :=
      PqForgeFileCipher.run names (fun _ => outcome.versions call)
        answers args op
    ∃ final,
      Transitions.run (step files) calls
          (stepsOf call outcome answers) = some final ∧
        final.disk = after calls.disk whole.log ∧
        (whole.outcome = .ok () ↔
          ∃ own received,
            final.phase call = .completed own received) := by
  intro files whole
  rcases run_cases names (fun _ => outcome.versions call) answers noNul
      op with
      ⟨nonpositive, _⟩ |
        ⟨_, notPublished, thrown, cleaned⟩ |
        ⟨_, returnedOk, renames, published⟩
  · exact absurd positive (Int.not_lt.mpr nonpositive)
  · obtain ⟨final, reached, disk, phase⟩ :=
      stepsOf_of_cleanUp isCalled notPublished files
    rw [show whole = _ from cleaned]
    refine ⟨final, reached, disk, ?_, ?_⟩
    · intro returned
      cases returned
    · rintro ⟨own, received, completed⟩
      rw [phase] at completed
      cases completed
  · obtain ⟨output, isOutput, _⟩ :=
      @NativeOutcome.exists_output Bytes outcome returnedOk
    obtain ⟨final, reached, disk, phase⟩ :=
      stepsOf_of_rename isCalled returnedOk isOutput renames files
    rw [show whole = _ from published]
    exact
      ⟨final, reached, disk, fun _ => ⟨_, _, phase⟩, fun _ => rfl⟩

end Alone

section Undisturbed

variable {files : OutputFiles Place}
variable {start calls : OpenCalls Place Call}

/--
In every interleaving in which no native step of another call writes between a
call's native step and its rename, nothing is mixed up.
-/
theorem unmixed_of_undisturbed
    (fresh : start.Fresh)
    {steps : List (CallStep Call)}
    (undisturbed : Undisturbed steps)
    (reached :
      Transitions.run (step files) start steps = some calls) :
    calls.Unmixed files :=
  unmixed_of_renames_own fresh
    ((renamesOwn_iff_undisturbed fresh reached).mpr undisturbed) reached

end Undisturbed

/-- No call has begun, and there is no file. -/
def noFiles : OpenCalls String Bool where
  disk := fun _ => none
  phase := fun _ => .called

theorem noFiles_fresh : noFiles.Fresh where
  phase := fun _ => rfl
  author := by
    intro path version found
    cases found

/-- The files of the output path `out`. -/
def outFiles : OutputFiles String where
  output := "out"
  tmp := "out.pqforge-tmp"
  differ := by decide

/-- A native call that returned `Ok` and left one byte. -/
def okOutcome (byte : UInt8) : NativeOutcome Bytes where
  contents := [[], [byte]]
  code := PqForgeErrorCode.ok.value
  finished := fun _ same => by cases same

/-- A native call that failed and left one byte. -/
def failedOutcome (byte : UInt8) : NativeOutcome Bytes where
  contents := [[], [byte]]
  code := PqForgeErrorCode.authFailed.value
  finished := fun same => by cases same

/-- Two calls, the second of which begins behind the first one's rename. -/
def inTurn : List (CallStep Bool) :=
  [.native true (okOutcome 1), .rename true true,
    .native false (okOutcome 2), .rename false true]

/-- Two calls in turn publish the output of each. -/
theorem unmixed_of_undisturbed_of_two :
    ∃ calls : OpenCalls String Bool,
      Transitions.run (step outFiles) noFiles inTurn = some calls ∧
        calls.Unmixed outFiles :=
  have renamesOwn :
      Along (step outFiles) (RenamesOwn outFiles) noFiles inTurn := by
    decide
  ⟨_, rfl,
    unmixed_of_undisturbed noFiles_fresh
      (undisturbed_of_renamesOwn renamesOwn rfl) rfl⟩

/--
A call that fails between the native call and the rename of another one: the
other completes, and has published a part of what failed.
-/
theorem rename_publishes_failed_part :
    ∃ calls : OpenCalls String Bool,
      Transitions.run (step outFiles) noFiles
          [.native true (okOutcome 1), .native false (failedOutcome 9),
            .rename true true] =
        some calls ∧
      calls.phase true = .completed [1] [9] ∧
      calls.disk "out" = some ⟨some false, false, [9]⟩ ∧
      ¬calls.Unmixed outFiles := by
  refine ⟨_, rfl, rfl, rfl, ?_⟩
  intro unmixed
  cases unmixed.completed true [1] [9] rfl

end OpenCalls

end PqForgeFfi.PqForgeFileCipher
