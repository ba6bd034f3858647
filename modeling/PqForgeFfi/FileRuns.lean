import PqForgeFfi.KeptInputs
import PqForgeFfi.PlainFiles.Publication
import PqForgeFfi.Transitions.Machine

namespace PqForgeFfi.PqForgeFileCipher

open PathStrings PlainFiles Segmentation Transitions

/-!
# Runs of the file cipher

One call of the file cipher after the other, each on the disk that the calls
before it have left, and each perhaps killed at any of its moments.  Outside the
temporary paths such a run is one of a store of whole files, in which a call
replaces its output by the sealing or the opening of its input, or does nothing.
-/

/-! ## Requests -/

/-- The operations of the file cipher. -/
inductive FileOperation where
  | «seal»
  | «open»
  deriving Repr, DecidableEq

/--
A call, how the operating system answers it, and behind how many of its effects
the process is killed, if it is.
-/
structure FileRequest where
  operation : FileOperation
  args : FileArgs
  native : NativeFiles
  answers : FileAnswers
  killed : Option Nat

/-- How a request ends; a killed one does not. -/
abbrev FileEnding : Type :=
  Option (Except DartThrow Unit)

namespace FileRequest

variable {Place : Type}
variable [DecidableEq Place]

/-- The native function that a request calls. -/
def fn
    (names : FileNames Place)
    (aws : AwsLc)
    (disk : Disk Place Bytes)
    (request : FileRequest) :
    FileFn Bytes :=
  match request.operation with
  | .seal => request.native.sealFile names aws disk
  | .open => request.native.openFile names aws disk

/-- The call of a request. -/
def call
    (names : FileNames Place)
    (aws : AwsLc)
    (disk : Disk Place Bytes)
    (request : FileRequest) :
    Trace (Effect Place Bytes) DartThrow Unit :=
  match request.operation with
  | .seal =>
      «seal» names (request.native.sealFile names aws disk)
        request.answers request.args
  | .open =>
      «open» names (request.native.openFile names aws disk)
        request.answers request.args

/-- How a request ends, and the disk behind it. -/
def handle
    (names : FileNames Place)
    (aws : AwsLc)
    (disk : Disk Place Bytes)
    (request : FileRequest) :
    FileEnding × Disk Place Bytes :=
  let call := request.call names aws disk
  match request.killed with
  | none => (some call.outcome, after disk call.log)
  | some moment => (none, after disk (call.log.take moment))

/-- What the content of the input is to become. -/
def Becomes
    (aead : PqAeadAlgorithm → Bytes → Aead)
    (request : FileRequest) :
    Bytes → Bytes → Prop :=
  let algorithm := request.args.algorithm
  let key := request.args.key
  match request.operation with
  | .seal => IsSealing (aead algorithm key) request.args
  | .open => IsOpening (aead algorithm key) request.args

/-- What content of the input the request can take. -/
def Possible
    (aead : PqAeadAlgorithm → Bytes → Aead)
    (request : FileRequest) :
    Bytes → Prop :=
  match request.operation with
  | .seal => CanSeal request.args
  | .open =>
      CanOpen (aead request.args.algorithm request.args.key)
        request.args

end FileRequest

/-- The temporary files of requests. -/
def Scratch
    {Place : Type}
    (names : FileNames Place)
    (requests : List FileRequest)
    (file : Place) : Prop :=
  ∃ request ∈ requests, file = names.tmp request.args

instance
    {Place : Type}
    [DecidableEq Place]
    (names : FileNames Place)
    (requests : List FileRequest) :
    DecidablePred (Scratch names requests) :=
  fun file =>
    inferInstanceAs
      (Decidable (∃ request ∈ requests, file = names.tmp request.args))

/--
A request has its temporary file among the scratch files, neither its input nor
its output is one of them, and its paths have no NUL.
-/
structure NamesApart
    {Place : Type}
    (names : FileNames Place)
    (scratch : Place → Prop)
    (request : FileRequest) : Prop where
  inputNoNul : NoNul request.args.inputPath
  outputNoNul : NoNul request.args.outputPath
  tmp : scratch (names.tmp request.args)
  input : ¬scratch (names.input request.args)
  output : ¬scratch (names.output request.args)

/--
What a request may do to a store of whole files: replace its output by what its
input becomes, or nothing.  One that returned has done it, one that threw has
not, and of a killed one both are possible.
-/
inductive StoreStep
    {Place : Type}
    [DecidableEq Place]
    (names : FileNames Place)
    (aead : PqAeadAlgorithm → Bytes → Aead)
    (store : Disk Place Bytes)
    (request : FileRequest) :
    FileEnding → Disk Place Bytes → Prop where
  | returned
      {content output : Bytes}
      (found : store (names.input request.args) = some content)
      (becomes : request.Becomes aead content output) :
      StoreStep names aead store request (some (.ok ()))
        (published store (names.output request.args) output)
  | threw (thrown : DartThrow) :
      StoreStep names aead store request (some (.error thrown)) store
  | killedBefore :
      StoreStep names aead store request none store
  | killedBehind
      {content output : Bytes}
      (found : store (names.input request.args) = some content)
      (becomes : request.Becomes aead content output) :
      StoreStep names aead store request none
        (published store (names.output request.args) output)

/-- What a library is assumed to compute, under all keys of the right size. -/
structure Computes
    (aws : AwsLc)
    (aead : PqAeadAlgorithm → Bytes → Aead) : Prop where
  sizes : aws.Sizes
  seals :
    ∀ algorithm key,
      key.length = 32 →
      aws.SealsAs algorithm key (aead algorithm key)
  opens :
    ∀ algorithm key,
      key.length = 32 →
      aws.OpensAs algorithm key (aead algorithm key)

section Request

variable {Place : Type}
variable [DecidableEq Place]
variable {names : FileNames Place}
variable {aws : AwsLc}
variable {aead : PqAeadAlgorithm → Bytes → Aead}
variable {scratch : Place → Prop}
variable {request : FileRequest}
variable {disk store : Disk Place Bytes}

/-- Both operations are a run of their native function. -/
theorem FileRequest.call_eq
    (names : FileNames Place)
    (aws : AwsLc)
    (disk : Disk Place Bytes)
    (request : FileRequest) :
    ∃ op,
      request.call names aws disk =
        run names (request.fn names aws disk) request.answers
          request.args op := by
  obtain ⟨operation, _, _, _, _⟩ := request
  cases operation with
  | «seal» =>
      exact ⟨"stream seal file", rfl⟩
  | «open» =>
      exact ⟨"stream open file", rfl⟩

/-- The native function leaves what the input is to become. -/
theorem FileRequest.transforms
    (computes : Computes aws aead)
    (apart : NamesApart names scratch request)
    (positive : 0 < request.args.chunkSize.toInt) :
    Transforms names disk request.args (request.Possible aead)
      (request.Becomes aead)
      (request.fn names aws disk (nativeArgs request.args)) := by
  have notTmp :
      names.input request.args ≠ names.tmp request.args := by
    intro same
    exact apart.input (same ▸ apart.tmp)
  obtain ⟨operation, args, native, _, _⟩ := request
  cases operation with
  | «seal» =>
      exact
        sealFile_transforms computes.sizes
          (computes.seals args.algorithm args.key) native
          apart.inputNoNul apart.outputNoNul positive notTmp
  | «open» =>
      exact
        openFile_transforms computes.sizes
          (computes.opens args.algorithm args.key) native
          apart.inputNoNul apart.outputNoNul positive notTmp

/-- Effects at the temporary path of a request touch scratch paths only. -/
theorem NamesApart.onlyScratch
    (apart : NamesApart names scratch request)
    {log : List (Effect Place Bytes)}
    (tmpOnly :
      ∀ path,
        path ≠ names.tmp request.args →
        ∀ effect ∈ log, ¬effect.Touches path) :
    OnlyScratch scratch log := by
  intro effect member path touches
  by_cases isTmp : path = names.tmp request.args
  · rw [isTmp]
    exact apart.tmp
  · exact absurd touches (tmpOnly path isTmp effect member)

/--
All that a request does outside the temporary paths: nothing, and it throws if
it is not killed; or it publishes with its last effect, and returns.
-/
theorem FileRequest.call_cases
    (computes : Computes aws aead)
    (apart : NamesApart names scratch request)
    (agree : AgreeOutside scratch disk store) :
    (∃ thrown,
        (request.call names aws disk).outcome = .error thrown ∧
          OnlyScratch scratch (request.call names aws disk).log) ∨
      ∃ content output,
        store (names.input request.args) = some content ∧
          request.Becomes aead content output ∧
          (request.call names aws disk).outcome = .ok () ∧
          AgreeOutside scratch
            (after disk (request.call names aws disk).log)
            (published store (names.output request.args) output) ∧
          ∀ earlier,
            earlier <+: (request.call names aws disk).log →
            AgreeOutside scratch (after disk earlier) store ∨
              AgreeOutside scratch (after disk earlier)
                (published store (names.output request.args) output) := by
  obtain ⟨op, isRun⟩ := request.call_eq names aws disk
  rw [isRun]
  rcases run_cases names (request.fn names aws disk) request.answers
      apart.outputNoNul op with
      ⟨_, thrown, refused⟩ |
        ⟨_, _, thrown, cleaned⟩ |
        ⟨positive, returnedOk, _, renamed⟩
  · rw [refused]
    refine .inl ⟨thrown, rfl, ?_⟩
    intro effect member
    cases member
  · rw [cleaned]
    exact
      .inl ⟨thrown, rfl,
        apart.onlyScratch fun _ other =>
          writes_cleanUp_not_touches other⟩
  · rw [renamed]
    obtain ⟨content, output, found, isOutput, _, becomes⟩ :=
      request.transforms computes apart positive returnedOk
    obtain ⟨last, isLast, written⟩ :=
      NativeOutcome.exists_output returnedOk
    obtain rfl : output = last :=
      Option.some.inj (isOutput.symm.trans isLast)
    have prepared :
        after disk
            (writes (request.fn names aws disk (nativeArgs request.args))
              (names.tmp request.args))
            (names.tmp request.args) =
          some output := by
      rw [writes, after_writes, written]
      rfl
    obtain ⟨whole, moments⟩ :=
      agree.publication apart.tmp
        (apart.onlyScratch fun _ other => writes_not_touches other)
        prepared
    refine .inr ⟨content, output, ?_, becomes, rfl, whole, moments⟩
    rw [← agree _ apart.input]
    exact found

/-- A request does to the disk what the store allows, wherever it is killed. -/
theorem FileRequest.handle_follows
    (computes : Computes aws aead)
    (apart : NamesApart names scratch request)
    (agree : AgreeOutside scratch disk store) :
    ∃ next,
      StoreStep names aead store request (request.handle names aws disk).1 next ∧
        AgreeOutside scratch (request.handle names aws disk).2
          next := by
  have cases := request.call_cases computes apart agree
  cases killed : request.killed with
  | none =>
      simp only [handle, killed]
      rcases cases with
          ⟨thrown, threw, only⟩ |
            ⟨content, output, found, becomes, returned, whole, _⟩
      · rw [threw]
        exact ⟨store, .threw thrown, agree.after only⟩
      · rw [returned]
        exact ⟨_, .returned found becomes, whole⟩
  | some moment =>
      simp only [handle, killed]
      have front := List.take_prefix moment (request.call names aws disk).log
      rcases cases with
          ⟨_, _, only⟩ |
            ⟨content, output, found, becomes, _, _, moments⟩
      · exact ⟨store, .killedBefore, agree.after (only.front front)⟩
      · rcases moments _ front with before | behind
        · exact ⟨store, .killedBefore, before⟩
        · exact ⟨_, .killedBehind found becomes, behind⟩

/-- A call that is not killed and cleans up leaves no temporary file. -/
theorem FileRequest.handle_clears
    (apart : NamesApart names scratch request)
    (survives : request.killed = none)
    (deletes : request.answers.deletes = true)
    (positive : 0 < request.args.chunkSize.toInt) :
    (request.handle names aws disk).2 (names.tmp request.args) =
      none := by
  obtain ⟨op, isRun⟩ := request.call_eq names aws disk
  simp only [handle, survives, isRun]
  exact
    run_clears_tmpPath (request.fn names aws disk) deletes apart.outputNoNul
      positive op disk

/-- A call that is not killed and cleans up makes no temporary file. -/
theorem FileRequest.handle_of_missing
    (apart : NamesApart names scratch request)
    (survives : request.killed = none)
    (deletes : request.answers.deletes = true)
    {path : Place}
    (isScratch : scratch path)
    (missing : disk path = none) :
    (request.handle names aws disk).2 path = none := by
  have notOutput : path ≠ names.output request.args := by
    rintro rfl
    exact apart.output isScratch
  by_cases isTmp : path = names.tmp request.args
  · by_cases positive : 0 < request.args.chunkSize.toInt
    · rw [isTmp]
      exact request.handle_clears apart survives deletes positive
    · obtain ⟨op, isRun⟩ := request.call_eq names aws disk
      simp only [handle, survives, isRun,
        run_of_nonpositive (Int.not_lt.mp positive)]
      exact missing
  · obtain ⟨op, isRun⟩ := request.call_eq names aws disk
    simp only [handle, survives, isRun]
    rw [after_of_not_touches disk
      (run_not_touches names (request.fn names aws disk) request.answers
        apart.outputNoNul op isTmp notOutput)]
    exact missing

end Request

/-! ## Runs -/

/-- The endings of requests, one after the other, and the disk behind them. -/
def handleAll
    {Place : Type}
    [DecidableEq Place]
    (names : FileNames Place)
    (aws : AwsLc)
    (disk : Disk Place Bytes)
    (requests : List FileRequest) :
    List FileEnding × Disk Place Bytes :=
  answers (FileRequest.handle names aws) disk requests

section Runs

variable {Place : Type}
variable [DecidableEq Place]
variable {names : FileNames Place}
variable {aws : AwsLc}
variable {aead : PqAeadAlgorithm → Bytes → Aead}
variable {requests : List FileRequest}
variable {scratch : Place → Prop}
variable {disk store : Disk Place Bytes}

/-- A run does to the disk what the store allows. -/
theorem handleAll_follows
    (computes : Computes aws aead)
    (apart : ∀ request ∈ requests, NamesApart names scratch request)
    (agree : AgreeOutside scratch disk store) :
    ∃ final,
      Allows (StoreStep names aead) store requests
          (handleAll names aws disk requests).1 final ∧
        AgreeOutside scratch (handleAll names aws disk requests).2
          final := by
  refine
    @answers_allowed (Disk Place Bytes) FileRequest FileEnding
      (Disk Place Bytes) (FileRequest.handle names aws) (StoreStep names aead)
      (AgreeOutside scratch) (NamesApart names scratch) ?_ disk store agree
      requests apart
  intro _ _ request agree isApart
  exact request.handle_follows computes isApart agree

/-- A run of calls that all clean up makes no temporary file. -/
theorem handleAll_of_missing
    (apart : ∀ request ∈ requests, NamesApart names scratch request)
    (survive : ∀ request ∈ requests, request.killed = none)
    (delete : ∀ request ∈ requests, request.answers.deletes = true)
    {path : Place}
    (isScratch : scratch path)
    (missing : disk path = none) :
    (handleAll names aws disk requests).2 path = none := by
  induction requests generalizing disk with
  | nil =>
      exact missing
  | cons request rest inductionHypothesis =>
      have behind :=
        @FileRequest.handle_of_missing Place _ names aws scratch request disk
          (apart request List.mem_cons_self)
          (survive request List.mem_cons_self)
          (delete request List.mem_cons_self) path isScratch missing
      apply inductionHypothesis
      · exact fun other member =>
          apart other (List.mem_cons_of_mem request member)
      · exact fun other member =>
          survive other (List.mem_cons_of_mem request member)
      · exact fun other member =>
          delete other (List.mem_cons_of_mem request member)
      · exact behind

/-- A run of calls that all clean up leaves no temporary file of theirs. -/
theorem handleAll_clears
    (apart : ∀ request ∈ requests, NamesApart names scratch request)
    (survive : ∀ request ∈ requests, request.killed = none)
    (delete : ∀ request ∈ requests, request.answers.deletes = true) :
    ∀ request ∈ requests,
      0 < request.args.chunkSize.toInt →
      (handleAll names aws disk requests).2
          (names.tmp request.args) =
        none := by
  intro request member positive
  obtain ⟨earlier, later, rfl⟩ := List.append_of_mem member
  have isApart := apart request member
  simp only [handleAll, answers_append, answers_cons]
  have cleared :=
    @FileRequest.handle_clears Place _ names aws scratch request
      (handleAll names aws disk earlier).2 isApart (survive request member)
      (delete request member) positive
  refine
    @handleAll_of_missing Place _ names aws later scratch _ ?_ ?_ ?_ _ isApart.tmp cleared
  · exact fun other within => apart other (by simp [within])
  · exact fun other within => survive other (by simp [within])
  · exact fun other within => delete other (by simp [within])

/--
Any run of the file cipher, with any of its calls failing or killed anywhere,
leaves outside the temporary paths what a store of whole files would hold; and
if no call is killed and all clean-ups succeed, no temporary file.
-/
theorem file_requests_refine_store
    (computes : Computes aws aead)
    (apart : ∀ request ∈ requests, NamesApart names (Scratch names requests) request)
    (disk : Disk Place Bytes) :
    (∃ store,
        Allows (StoreStep names aead) disk requests
            (handleAll names aws disk requests).1 store ∧
          AgreeOutside (Scratch names requests)
            (handleAll names aws disk requests).2 store) ∧
      ((∀ request ∈ requests,
          request.killed = none ∧ request.answers.deletes = true) →
        ∀ request ∈ requests,
          0 < request.args.chunkSize.toInt →
          (handleAll names aws disk requests).2
              (names.tmp request.args) =
            none) := by
  constructor
  · exact handleAll_follows computes apart fun _ _ => rfl
  · intro orderly
    exact
      handleAll_clears apart
        (fun request member => (orderly request member).1)
        (fun request member => (orderly request member).2)

/-- Library and AEAD of the examples. -/
theorem taggedAead_computes :
    Computes taggedAead.aws fun _ _ => taggedAead where
  sizes := taggedAead.aws_sizes
  seals := fun algorithm key _ => taggedAead.aws_sealsAs algorithm key
  opens := fun algorithm key _ => taggedAead.aws_opensAs algorithm key

/-- A request that seals or opens one path to another. -/
def someRequest
    (operation : FileOperation)
    (inputPath outputPath : String)
    (killed : Option Nat) :
    FileRequest where
  operation := operation
  args := {
    someArgs inputPath with
    outputPath := CodeUnits.encode outputPath.toList }
  native := quietFiles
  answers := ⟨none, true⟩
  killed := killed

/-- A seal, the same seal killed behind its second effect, and an open. -/
def threeRequests : List FileRequest :=
  [someRequest .seal "in" "sealed" none,
    someRequest .seal "in" "sealed" (some 2),
    someRequest .open "sealed" "out" none]

/-- The names of the three requests are apart. -/
theorem threeRequests_apart :
    ∀ request ∈ threeRequests,
      NamesApart .spelled (Scratch .spelled threeRequests) request := by
  intro request member
  simp only [threeRequests, List.mem_cons, List.not_mem_nil, or_false]
    at member
  rcases member with rfl | rfl | rfl <;>
    exact {
      inputNoNul := by decide
      outputNoNul := by decide
      tmp := by decide
      input := by decide
      output := by decide }

/-- Three bytes, sealed twice and opened. -/
theorem file_requests_refine_store_of_three :
    let disk := oneFile "in" [1, 2, 3]
    let behind := handleAll .spelled taggedAead.aws disk threeRequests
    (∃ store,
        Allows (StoreStep .spelled fun _ _ => taggedAead) disk
            threeRequests behind.1 store ∧
          AgreeOutside (Scratch .spelled threeRequests) behind.2
            store) ∧
      ((∀ request ∈ threeRequests,
          request.killed = none ∧ request.answers.deletes = true) →
        ∀ request ∈ threeRequests,
          0 < request.args.chunkSize.toInt →
          behind.2 (FileNames.spelled.tmp request.args) = none) :=
  file_requests_refine_store taggedAead_computes threeRequests_apart
    (oneFile "in" [1, 2, 3])

end Runs

end PqForgeFfi.PqForgeFileCipher
