import PqForgeFfi.FileRuns
import PqForgeFfi.StreamFronts

namespace PqForgeFfi.PqForgeFileCipher

open PathStrings PlainFiles Segmentation Transitions

/-!
# Sealed files across runs

A file that either layer has sealed is opened by both, with any requests in
between that do not have it as their output.
-/

section Quiet

variable {Place : Type}
variable [DecidableEq Place]
variable {names : FileNames Place}
variable {native : NativeFiles}
variable {disk : Disk Place Bytes}
variable {args : FileArgs}

omit [DecidableEq Place] in
/-- A library that opens like a correct AEAD opens what that seals. -/
theorem opensSealed_of_opensAs
    {aws : AwsLc}
    {aead : Aead}
    (opens : aws.OpensAs args.algorithm args.key aead)
    (correct : aead.Correct) :
    aws.OpensSealed args.algorithm args.key aead := by
  intro nonce aad chunk nonceLength
  have length := correct.appendsTag nonce aad chunk nonceLength
  rw [opens nonce aad _ nonceLength (by omega)]
  exact correct.opens nonce aad chunk nonceLength

/-- A native call opens a sealed input that nothing refuses. -/
theorem openFile_of_quiet
    {aws : AwsLc}
    {aead : Aead}
    (sizes : aws.Sizes)
    (correct : aead.Correct)
    (opens : aws.OpensAs args.algorithm args.key aead)
    (quiet : native.Quiet)
    (keyLength : args.key.length = 32)
    (inputNoNul : NoNul args.inputPath)
    (outputNoNul : NoNul args.outputPath)
    (positive : 0 < args.chunkSize.toInt)
    (limited : args.chunkSize.toInt + 16 ≤ 2 ^ 63 - 1)
    (notTmp : names.input args ≠ names.tmp args)
    {plaintext ciphertext : Bytes}
    (few :
      (blocks args.chunkSize.toInt.toNat plaintext).length < 2 ^ 64)
    (sealing : IsSealing aead args plaintext ciphertext)
    (found : disk (names.input args) = some ciphertext) :
    (native.openFile names aws disk (nativeArgs args)).code =
        PqForgeErrorCode.ok.value ∧
      (native.openFile names aws disk (nativeArgs args)).output? =
        some plaintext := by
  have size := toNat_chunkSize positive
  have sizePositive : 0 < args.chunkSize.toInt.toNat := by
    omega
  obtain ⟨call, same, serves, accepts⟩ :=
    exists_quietCall quiet keyLength inputNoNul outputNoNul positive found
  rw [if_neg notTmp.symm] at serves
  have framed :
      blocks (args.chunkSize.toUInt64.toNat + 16) ciphertext =
        StreamFormat.framesOf
          (fun nonce chunk =>
            aead.sealUnder nonce (args.aad.getD []) chunk)
          (blocks args.chunkSize.toInt.toNat plaintext) := by
    rw [size, sealing]
    exact
      StreamFormat.blocks_frames correct.appendsTag sizePositive
        plaintext
  have allocatable :
      args.chunkSize.toUInt64.toNat + 16 ≤ isizeMax := by
    rw [size, isizeMax]
    omega
  obtain ⟨returnedOk, pieces⟩ :=
    StreamFile.open_framesOf sizes correct.appendsTag
      (opensSealed_of_opensAs opens correct) allocatable few call accepts
      serves framed
  rw [same] at returnedOk pieces
  refine ⟨returnedOk, ?_⟩
  have output :
      (native.openFile names aws disk (nativeArgs args)).output? =
        some
          (emitted
            (StreamFile.pqforgeStreamOpenFile aws
              (native.on names disk (nativeArgs args))
              (nativeArgs args)).log).flatten :=
    NativeFiles.outcome_output? StreamFile.prepared_of_ok returnedOk
  rw [output, pieces, blocks_flatten]

end Quiet

/-! ## Sealed files -/

/-- The calls agree in all that the format depends on. -/
structure SameParameters (args other : FileArgs) : Prop where
  key : args.key = other.key
  algorithm : args.algorithm = other.algorithm
  aad : args.aad.getD [] = other.aad.getD []
  chunkSize : args.chunkSize = other.chunkSize

/--
The input of a call is a file that one of the layers has sealed: a stream that
was stored there, or the output of a request that returned.
-/
inductive SealedFile
    {Place : Type}
    [DecidableEq Place]
    (names : FileNames Place)
    (aws : AwsLc)
    (aead : PqAeadAlgorithm → Bytes → Aead)
    (args : FileArgs)
    (content : Bytes) :
    Disk Place Bytes → Prop where
  | byStream
      {disk : Disk Place Bytes}
      {frames : List Bytes}
      (sealed :
        SealedStream (aead args.algorithm args.key) args.algorithm
          args.key (args.aad.getD []) args.chunkSize.toInt.toNat content
          frames)
      (found : disk (names.input args) = some frames.flatten) :
      SealedFile names aws aead args content disk
  | byRequest
      {before : Disk Place Bytes}
      {scratch : Place → Prop}
      {request : FileRequest}
      (isSeal : request.operation = .seal)
      (apart : NamesApart names scratch request)
      (outputs : names.output request.args = names.input args)
      (same : SameParameters request.args args)
      (found : before (names.input request.args) = some content)
      (returned : (request.handle names aws before).1 = some (.ok ())) :
      SealedFile names aws aead args content (request.handle names aws before).2

section SealedFiles

variable {Place : Type}
variable [DecidableEq Place]
variable {names : FileNames Place}
variable {aws : AwsLc}
variable {aead : PqAeadAlgorithm → Bytes → Aead}
variable {args : FileArgs}
variable {content : Bytes}
variable {disk : Disk Place Bytes}

omit [DecidableEq Place] in
/-- Calls that agree in their parameters make the same of a content. -/
theorem SameParameters.isSealing
    {other : FileArgs}
    (same : SameParameters other args)
    {single : Aead}
    {output : Bytes}
    (sealing : IsSealing single other content output) :
    IsSealing single args content output := by
  rw [IsSealing] at sealing ⊢
  rw [← same.aad, ← same.chunkSize]
  exact sealing

/-- A file that a sealing has left holds the frames of the format. -/
theorem SealedFile.isSealing
    (computes : Computes aws aead)
    (positive : 0 < args.chunkSize.toInt)
    (few :
      (blocks args.chunkSize.toInt.toNat content).length < 2 ^ 63)
    (sealed : SealedFile names aws aead args content disk) :
    ∃ ciphertext,
      disk (names.input args) = some ciphertext ∧
        IsSealing (aead args.algorithm args.key) args content
          ciphertext := by
  cases sealed with
  | byStream sealed found =>
      have limit := args.chunkSize.toInt_lt
      refine ⟨_, found, ?_⟩
      rw [IsSealing, ← sealed.eq_frames (by omega) (by omega) few]
  | @byRequest before scratch request isSeal apart outputs same found
      returned =>
      obtain ⟨store, step, agree⟩ :=
        request.handle_follows computes apart
          (show AgreeOutside scratch before before from
            fun _ _ => rfl)
      rw [returned] at step
      cases step with
      | @returned found' output foundContent becomes =>
          obtain rfl : found' = content :=
            Option.some.inj (foundContent.symm.trans found)
          refine ⟨output, ?_, same.isSealing ?_⟩
          · rw [← outputs, agree _ apart.output, published_self]
          · rw [FileRequest.Becomes, isSeal] at becomes
            rw [← same.algorithm, ← same.key]
            exact becomes

/-- A request with another output leaves a file of a store alone. -/
theorem StoreStep.keeps
    {store next : Disk Place Bytes}
    {request : FileRequest}
    {ending : FileEnding}
    (step : StoreStep names aead store request ending next)
    {file : Place}
    (other : names.output request.args ≠ file) :
    next file = store file := by
  cases step with
  | returned found becomes =>
      exact published_of_ne other.symm _
  | threw thrown =>
      rfl
  | killedBefore =>
      rfl
  | killedBehind found becomes =>
      exact published_of_ne other.symm _

/-- Requests with other outputs leave a file alone that is no temporary one. -/
theorem handleAll_keeps
    (computes : Computes aws aead)
    {requests : List FileRequest}
    {scratch : Place → Prop}
    (apart : ∀ request ∈ requests, NamesApart names scratch request)
    {file : Place}
    (notScratch : ¬scratch file)
    (kept : ∀ request ∈ requests, names.output request.args ≠ file) :
    (handleAll names aws disk requests).2 file = disk file := by
  obtain ⟨store, run, agree⟩ :=
    @handleAll_follows Place _ names aws aead requests scratch disk disk computes apart
      fun _ _ => rfl
  rw [agree file notScratch]
  have keeps :
      ∀ before request ending behind,
        request ∈ requests →
        before file = disk file →
        StoreStep names aead before request ending behind →
        behind file = disk file := by
    intro before request ending behind member holds step
    rw [step.keeps (kept request member)]
    exact holds
  exact
    @Allows.invariant FileRequest FileEnding (Disk Place Bytes)
      (StoreStep names aead) (fun store => store file = disk file) _ _ _ _ run
      keeps rfl

/-- The chunk size of a call, from its number. -/
theorem ofNat_chunkSize
    (positive : 0 < args.chunkSize.toInt) :
    Int64.ofNat args.chunkSize.toInt.toNat = args.chunkSize := by
  rw [← Int64.ofInt_eq_ofNat, Int.toNat_of_nonneg (by omega),
    Int64.ofInt_toInt]

/--
Whatever requests come between, none of which has the sealed file as its output,
a request that opens it and meets no refusal returns and publishes what was
sealed, and the stream of its bytes opens to that as well.
-/
theorem sealed_file_opens_after_requests
    (computes : Computes aws aead)
    {opening : FileRequest}
    (correct :
      (aead opening.args.algorithm opening.args.key).Correct)
    (sealed : SealedFile names aws aead opening.args content disk)
    {between : List FileRequest}
    (apart :
      ∀ request ∈ opening :: between,
        NamesApart names (Scratch names (opening :: between)) request)
    (kept :
      ∀ request ∈ between,
        names.output request.args ≠ names.input opening.args)
    (isOpen : opening.operation = .open)
    (quiet : opening.native.Quiet)
    (renames : opening.answers.renameError = none)
    (survives : opening.killed = none)
    (keyLength : opening.args.key.length = 32)
    (positive : 0 < opening.args.chunkSize.toInt)
    (limited : opening.args.chunkSize.toInt + 16 ≤ 2 ^ 63 - 1)
    (few :
      (blocks opening.args.chunkSize.toInt.toNat content).length <
        2 ^ 63)
    {backend : PqForgeBackend}
    (dartOpens :
      backend.OpensSealed opening.args.algorithm opening.args.key
        (aead opening.args.algorithm opening.args.key)) :
    let behind := (handleAll names aws disk between).2
    (opening.handle names aws behind).1 = some (.ok ()) ∧
      (opening.handle names aws behind).2 (names.output opening.args) =
        some content ∧
      ∃ ciphertext,
        behind (names.input opening.args) = some ciphertext ∧
          ∀ source,
            source.flatten = ciphertext →
            let stream :=
              PqForgeStream.«open» backend source opening.args.key
                opening.args.algorithm opening.args.aad
                opening.args.chunkSize
            stream.outcome = .ok () ∧
              (emitted stream.log).flatten = content := by
  intro behind
  have isApart := apart opening List.mem_cons_self
  obtain ⟨ciphertext, found, sealing⟩ :=
    sealed.isSealing computes positive few
  have still : behind (names.input opening.args) = some ciphertext := by
    rw [← found]
    exact
      handleAll_keeps computes
        (fun request member =>
          apart request (List.mem_cons_of_mem opening member))
        isApart.input kept
  have notTmp :
      names.input opening.args ≠ names.tmp opening.args := by
    intro same
    exact isApart.input (same ▸ isApart.tmp)
  obtain ⟨returnedOk, isOutput⟩ :=
    openFile_of_quiet computes.sizes correct
      (computes.opens _ _ keyLength) quiet keyLength isApart.inputNoNul
      isApart.outputNoNul positive limited notTmp (by omega) sealing still
  have atomic :=
    run_atomic names (opening.native.openFile names aws behind) opening.answers
      isApart.outputNoNul "stream open file" behind
  have returned := atomic.returns.mpr ⟨positive, returnedOk, renames⟩
  obtain ⟨output, isPublished, atOutput, _⟩ := atomic.published returned
  obtain rfl : output = content :=
    Option.some.inj (isPublished.symm.trans isOutput)
  refine ⟨?_, ?_, ciphertext, still, ?_⟩
  · simp only [FileRequest.handle, survives, FileRequest.call, isOpen]
    exact congrArg some returned
  · simp only [FileRequest.handle, survives, FileRequest.call, isOpen]
    exact atOutput
  · intro source cuts
    rw [← ofNat_chunkSize positive]
    obtain ⟨opens, pieces⟩ :=
      PqForgeStream.open_frames correct.appendsTag dartOpens
        (by omega) (by omega) (Nat.le_of_lt few) (cuts.trans sealing)
        opening.args.aad rfl
    dsimp only
    rw [pieces, blocks_flatten]
    exact ⟨opens, rfl⟩

/-- The names of an opening and of a killed sealing before it are apart. -/
theorem openRequests_apart :
    let opening := someRequest .open "sealed" "out" none
    let between := [someRequest .seal "in" "other" (some 1)]
    ∀ request ∈ opening :: between,
      NamesApart .spelled (Scratch .spelled (opening :: between))
        request := by
  intro opening between request member
  simp only [opening, between, List.mem_cons, List.not_mem_nil, or_false]
    at member
  rcases member with rfl | rfl <;>
    exact {
      inputNoNul := by decide
      outputNoNul := by decide
      tmp := by decide
      input := by decide
      output := by decide }

/-- Three bytes, sealed as a stream and opened as a file behind a killed seal. -/
theorem sealed_file_opens_after_requests_of_three :
    let opening := someRequest .open "sealed" "out" none
    let frames :=
      emitted
        (PqForgeStream.«seal» taggedAead.backend [[1], [2, 3]]
          opening.args.key .aes256Gcm none (Int64.ofNat 2)).log
    let disk := oneFile "sealed" frames.flatten
    let behind :=
      (handleAll .spelled taggedAead.aws disk
        [someRequest .seal "in" "other" (some 1)]).2
    (opening.handle .spelled taggedAead.aws behind).1 = some (.ok ()) ∧
      (opening.handle .spelled taggedAead.aws behind).2 (FileNames.spelled.output opening.args) =
        some [1, 2, 3] ∧
      ∃ ciphertext,
        behind (FileNames.spelled.input opening.args) = some ciphertext ∧
          ∀ source,
            source.flatten = ciphertext →
            let stream :=
              PqForgeStream.«open» taggedAead.backend source
                opening.args.key opening.args.algorithm opening.args.aad
                opening.args.chunkSize
            stream.outcome = .ok () ∧
              (emitted stream.log).flatten = [1, 2, 3] := by
  intro opening frames disk
  have sealed :
      SealedFile .spelled taggedAead.aws (fun _ _ => taggedAead) opening.args
        [1, 2, 3] disk :=
    .byStream
      (.dart (taggedAead.backend_sealsAs .aes256Gcm opening.args.key)
        (show [[1], [2, 3]].flatten = ([1, 2, 3] : Bytes) from rfl) rfl)
      (Function.update_self _ _ _)
  have few :
      (blocks 2 ([1, 2, 3] : Bytes)).length < 2 ^ 63 :=
    Nat.lt_of_le_of_lt
      (length_blocks_le (by decide)
        (show ([1, 2, 3] : Bytes).length ≤ (1 + 1) * 2 by decide))
      (by decide)
  exact
    sealed_file_opens_after_requests taggedAead_computes
      taggedAead_tidy.toCorrect sealed openRequests_apart (by decide) rfl
      quietFiles_quiet rfl rfl (by decide) (by decide) (by decide) few
      (taggedAead_tidy.backend_opensSealed .aes256Gcm opening.args.key)

end SealedFiles

end PqForgeFfi.PqForgeFileCipher
