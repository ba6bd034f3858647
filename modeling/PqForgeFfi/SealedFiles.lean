import PqForgeFfi.StreamRoundTrip

namespace PqForgeFfi.StreamFile

open Segmentation

/-!
# What a successful native seal has written

A seal that returned `Ok` has sealed the blocks that its reads delivered, one
frame for each.  The opener cuts the output at one frame size, so it reads the
output back exactly when no block but the last is short: when no read stalled
inside a block that was followed by another one.
-/

variable {aead : Aead}
variable {aws : AwsLc}
variable {files : FileSystem}
variable {algorithm : PqAeadAlgorithm}
variable {key ad : Bytes}
variable {chunkSize : UInt64}

/-- What a seal that returned `Ok` read and wrote. -/
structure Wrote
    (aead : Aead)
    (ad : Bytes)
    (size : Nat)
    (blocksRead : List Bytes)
    (log : List StreamEvent) : Prop where
  allocatable : size ≤ isizeMax
  few : (sealedChunks blocksRead).length < 2 ^ 64
  pieces :
    emitted log =
      StreamFormat.framesOf
        (fun nonce chunk => aead.sealUnder nonce ad chunk)
        (sealedChunks blocksRead)
  inputs :
    (aeadCalls log).map AeadCall.input = sealedChunks blocksRead
  bytes : bytesRead log = (sealedChunks blocksRead).flatten

/-- The chunks that are sealed hold the bytes of the blocks. -/
theorem flatten_sealedChunks (blocksRead : List Bytes) :
    (sealedChunks blocksRead).flatten = blocksRead.flatten := by
  rw [sealedChunks]
  split
  · rename_i isEmpty
    rw [isEmpty]
    rfl
  · rfl

/-- The AEAD call that seals a chunk at a position. -/
def sealCall
    (aead : Aead)
    (job : StreamJob)
    (position : Nat)
    (last : Bool)
    (chunk : Bytes) :
    AeadCall :=
  actCall job position last chunk
    (aead.sealUnder (StreamFormat.frameNonce position last) job.ad chunk)

/-- A sealing act that returned over a library that seals like the AEAD. -/
theorem sealAct_wrote
    (sizes : aws.Sizes)
    (seals : aws.SealsAs algorithm key aead)
    (call : FileCall files algorithm key ad chunkSize)
    {position : Nat}
    (inRange : position < 2 ^ 64)
    {last : Bool}
    {chunk : Bytes}
    (returned :
      (sealAct aws call.job position last chunk).outcome = .ok ()) :
    (sealAct aws call.job position last chunk).log =
      actLog call.job position last chunk
        (aead.sealUnder (StreamFormat.frameNonce position last) ad
          chunk) := by
  obtain ⟨_, frame, answer, log⟩ :=
    sealAct_returned sizes inRange returned
  have asAead :=
    seals (StreamFormat.frameNonce position last) ad chunk
      (StreamFormat.length_frameNonce position last)
  obtain rfl : frame = aead.sealUnder _ ad chunk :=
    Option.some.inj (answer.symm.trans asAead)
  exact log

/-- A seal that returned `Ok` found its blocks and wrote their frames. -/
theorem sealFile_wrote
    (sizes : aws.Sizes)
    (seals : aws.SealsAs algorithm key aead)
    (call : FileCall files algorithm key ad chunkSize)
    (returnsOk :
      (pqforgeStreamSealFile aws files call.args).code =
        PqForgeStatus.ok.code) :
    ∃ blocksRead,
      readBlocks chunkSize.toNat (File.deliveries call.file) =
          .ok blocksRead ∧
        Wrote aead ad chunkSize.toNat blocksRead
          (pqforgeStreamSealFile aws files call.args).log := by
  rw [pqforgeStreamSealFile_eq sizes call] at returnsOk ⊢
  have completed :=
    exported_eq_ok (sealBody_failsAs aws call.job _) returnsOk
  have allocatable : chunkSize.toNat ≤ isizeMax := by
    by_contra huge
    rw [sealBody_of_huge aws call.job (Nat.lt_of_not_le huge)]
      at completed
    cases completed
  cases found :
      readBlocks chunkSize.toNat
        (ScheduledRead.deliveries call.job.reader) with
  | error reason =>
      exact (sealBody_of_error allocatable found .ok completed).elim
  | ok blocksRead =>
      have served := sealBody_observe aws allocatable found
      have outcome := congrArg Trace.outcome served
      rw [Trace.observe_outcome, Trace.observe_outcome, completed]
        at outcome
      obtain ⟨_, returned, _, joined⟩ := Trace.bind_eq_ok outcome.symm
      rw [flush_log, List.append_nil] at joined
      have few := length_lt_of_counted
        (fun position last chunk inRange acted =>
          (sealAct_returned sizes inRange acted).1)
        returned
      have produced :
          (sealBody aws call.job chunkSize.toNat).log.filterMap
              StreamEvent.produced? =
            (flaggedRun (sealAct aws call.job) 0
              (sealedChunks blocksRead)).log.filterMap
                StreamEvent.produced? := by
        rw [← joined]
        exact congrArg Trace.log served
      have acted : ∀ index chunk,
          (sealedChunks blocksRead)[index]? = some chunk →
          let last := decide
            (index + 1 = (sealedChunks blocksRead).length)
          (sealAct aws call.job (0 + index) last chunk).outcome =
            .ok () →
          (sealAct aws call.job (0 + index) last chunk).log =
            actLog call.job (0 + index) last chunk
              (aead.sealUnder
                (StreamFormat.frameNonce (0 + index) last) ad
                chunk) := by
        intro index chunk present last here
        obtain ⟨inBounds, _⟩ := List.getElem?_eq_some_iff.mp present
        exact sealAct_wrote sizes seals call (by omega) here
      refine ⟨blocksRead, found, allocatable, few, ?_, ?_, ?_⟩
      · show emitted (sealBody aws call.job chunkSize.toNat).log = _
        rw [← emitted_produced, produced, emitted_produced]
        refine flaggedRun_shows returned
          fun index chunk present here => ?_
        rw [acted index chunk present here]
        rfl
      · show (aeadCalls
          (sealBody aws call.job chunkSize.toNat).log).map _ = _
        rw [← aeadCalls_produced, produced, aeadCalls_produced]
        have inputs :
            (flaggedMap (sealCall aead call.job) 0
                (sealedChunks blocksRead)).map AeadCall.input =
              sealedChunks blocksRead :=
          map_flaggedMap (fun _ _ _ => rfl) 0 _
        refine Eq.trans (congrArg (List.map AeadCall.input) ?_) inputs
        refine flaggedRun_shows returned
          fun index chunk present here => ?_
        rw [acted index chunk present here]
        rfl
      · rw [flatten_sealedChunks]
        exact sealBody_bytesRead allocatable found completed

/-- All chunks but the last are full exactly when all blocks but the last are. -/
theorem dropLast_sealedChunks (blocksRead : List Bytes) :
    (sealedChunks blocksRead).dropLast = blocksRead.dropLast := by
  rw [sealedChunks]
  split
  · rename_i isEmpty
    rw [isEmpty]
    rfl
  · rfl

/-- Blocks that were read and are full but for the last one are a framing. -/
theorem framed_sealedChunks
    {size : Nat}
    {deliveries : List (Delivery UInt8 String)}
    {blocksRead : List Bytes}
    (found : readBlocks size deliveries = .ok blocksRead)
    (full : ∀ chunk ∈ blocksRead.dropLast, chunk.length = size) :
    Framed size (sealedChunks blocksRead) := by
  rw [sealedChunks]
  split
  · exact .last [] (Nat.zero_le size)
  · rename_i nonempty
    have fits := length_of_mem_readBlocks found
      (List.getLast_mem nonempty)
    rw [← List.dropLast_concat_getLast nonempty]
    exact Framed.of_full full fits.2 fun _ =>
      List.length_pos_iff.mp fits.1

/-- A successful seal whose frames all but the last are full reads back. -/
theorem openFile_of_wrote
    (correct : aead.Correct)
    {openAws : AwsLc}
    (openSizes : openAws.Sizes)
    (opens : openAws.OpensSealed algorithm key aead)
    (limited : chunkSize.toNat + 16 ≤ isizeMax)
    (positive : 0 < chunkSize.toNat)
    {deliveries : List (Delivery UInt8 String)}
    {blocksRead : List Bytes}
    (found : readBlocks chunkSize.toNat deliveries = .ok blocksRead)
    (full : ∀ chunk ∈ blocksRead.dropLast, chunk.length = chunkSize.toNat)
    {log : List StreamEvent}
    (wrote : Wrote aead ad chunkSize.toNat blocksRead log)
    {openFiles : FileSystem}
    (openCall : FileCall openFiles algorithm key ad chunkSize)
    (accepts : openCall.writer.Accepts)
    (serves : openCall.file.Serves (emitted log).flatten) :
    (pqforgeStreamOpenFile openAws openFiles openCall.args).code =
        PqForgeStatus.ok.code ∧
      (emitted
        (pqforgeStreamOpenFile openAws openFiles
          openCall.args).log).flatten = bytesRead log := by
  have framed : Framed (chunkSize.toNat + 16) (emitted log) := by
    rw [wrote.pieces]
    exact Framed.flaggedMap
      (fun position last chunk =>
        correct.appendsTag _ ad chunk
          (StreamFormat.length_frameNonce position last))
      (by decide) (framed_sealedChunks found full) 0
  have cut := framed.blocks_eq (Nat.add_pos_left positive 16)
  obtain ⟨code, pieces⟩ := open_framesOf openSizes correct.appendsTag
    opens limited wrote.few openCall accepts serves
    (cut.trans wrote.pieces)
  rw [pieces, wrote.bytes]
  exact ⟨code, rfl⟩

/-- Opening with frames that no `Vec` can hold panics. -/
theorem pqforgeStreamOpenFile_of_huge
    (sizes : aws.Sizes)
    (call : FileCall files algorithm key ad chunkSize)
    (fits : chunkSize.toNat ≤ isizeMax)
    (huge : isizeMax < chunkSize.toNat + 16) :
    (pqforgeStreamOpenFile aws files call.args).code =
      PqForgeStatus.internal.code := by
  have small : chunkSize.toNat + 16 < 2 ^ 64 := by
    rw [isizeMax] at fits
    omega
  rw [pqforgeStreamOpenFile_eq sizes call, cipherChunk_toNat small,
    openBody, readBlock_of_huge call.job.reader huge]
  rfl

/--
`SealIsOpenable` says of a seal that every chunk it sealed but the last one was
full, and that opening its output, from any file that serves it, returns `Ok`
and the bytes that the seal read.
-/
structure SealIsOpenable
    (openAws : AwsLc)
    (algorithm : PqAeadAlgorithm)
    (key ad : Bytes)
    (chunkSize : UInt64)
    (log : List StreamEvent) : Prop where
  full :
    ∀ chunk ∈ ((aeadCalls log).map AeadCall.input).dropLast,
      chunk.length = chunkSize.toNat
  opens :
    ∀ (openFiles : FileSystem)
      (openCall : FileCall openFiles algorithm key ad chunkSize),
      openCall.writer.Accepts →
      openCall.file.Serves (emitted log).flatten →
      let openRun :=
        pqforgeStreamOpenFile openAws openFiles openCall.args
      openRun.code = PqForgeStatus.ok.code ∧
        (emitted openRun.log).flatten = bytesRead log

/--
A seal that returned `Ok` is openable exactly when no read stalled inside a
block that was followed by another one, and a frame fits a `Vec`.
-/
theorem sealed_openable_iff
    (correct : aead.Correct)
    (sizes : aws.Sizes)
    (seals : aws.SealsAs algorithm key aead)
    {openAws : AwsLc}
    (openSizes : openAws.Sizes)
    (opens : openAws.OpensSealed algorithm key aead)
    (call : FileCall files algorithm key ad chunkSize)
    (returnsOk :
      (pqforgeStreamSealFile aws files call.args).code =
        PqForgeStatus.ok.code) :
    SealIsOpenable openAws algorithm key ad chunkSize
        (pqforgeStreamSealFile aws files call.args).log ↔
      stallsMidBlock chunkSize.toNat 0 (File.deliveries call.file) =
          false ∧
        chunkSize.toNat + 16 ≤ isizeMax := by
  have positive : 0 < chunkSize.toNat :=
    Nat.pos_of_ne_zero fun isZero =>
      call.positive (UInt64.toNat_inj.mp isZero)
  obtain ⟨blocksRead, found, wrote⟩ :=
    sealFile_wrote sizes seals call returnsOk
  have fullIff :=
    full_iff_stallsMidBlock positive (Nat.zero_mod chunkSize.toNat) found
  constructor
  · intro openable
    refine ⟨fullIff.mp ?_, ?_⟩
    · have full := openable.full
      rwa [wrote.inputs, dropLast_sealedChunks] at full
    · by_contra huge
      let openFile := File.whole
        (emitted (pqforgeStreamSealFile aws files call.args).log).flatten
      let openCall := memoryCall openFile algorithm key ad chunkSize
        call.keyLength call.positive
      have opened := openable.opens _ openCall
        (memoryCall_accepts _ _)
        (memoryCall_serves _ _ (File.serves_whole _))
      have panicked := pqforgeStreamOpenFile_of_huge openSizes openCall
        wrote.allocatable (Nat.lt_of_not_le huge)
      have impossible := panicked.symm.trans opened.1
      cases impossible
  · rintro ⟨noStall, limited⟩
    have full := fullIff.mpr noStall
    refine ⟨?_, fun openFiles openCall accepts serves => ?_⟩
    · rwa [wrote.inputs, dropLast_sealedChunks]
    · exact openFile_of_wrote correct openSizes opens limited positive
        found full wrote openCall accepts serves

/-- The equivalence for a file of three bytes in reads of two and one. -/
theorem sealed_openable_iff_of_three :
    let key : Bytes := List.replicate 32 7
    let file : File := [.ok [1, 2], .ok [3]]
    let call :=
      memoryCall file .aes256Gcm key [9] 2 (by decide) (by decide)
    let sealRun :=
      pqforgeStreamSealFile taggedAead.aws (memoryFiles file) call.args
    SealIsOpenable taggedAead.aws .aes256Gcm key [9] 2 sealRun.log ↔
      stallsMidBlock 2 0 (File.deliveries file) = false ∧
        2 + 16 ≤ isizeMax := by
  have correct := taggedAead_tidy.toCorrect
  have serves : File.Serves [.ok [1, 2], .ok [3]] [1, 2, 3] :=
    ⟨[[1, 2], [3]], by decide, rfl, rfl⟩
  have few : (blocks 2 ([1, 2, 3] : Bytes)).length < 2 ^ 64 :=
    Nat.lt_of_le_of_lt
      (length_blocks_le (by decide)
        (show ([1, 2, 3] : Bytes).length ≤ (1 + 1) * 2 by decide))
      (by decide)
  have run := pqforgeStreamSealFile_serving taggedAead.aws_sizes
    (taggedAead.aws_sealsAs .aes256Gcm (List.replicate 32 7))
    (memoryCall [.ok [1, 2], .ok [3]] .aes256Gcm (List.replicate 32 7)
      [9] 2 (by decide) (by decide))
    (memoryCall_accepts _ _) (memoryCall_serves _ _ serves) (by decide)
    few
  exact
    sealed_openable_iff correct taggedAead.aws_sizes
      (taggedAead.aws_sealsAs .aes256Gcm (List.replicate 32 7))
      taggedAead.aws_sizes
      (correct.aws_opensSealed .aes256Gcm (List.replicate 32 7)) _ run.1

/-! ## A file that grows while it is sealed -/

/-- One byte, an end of file in the middle of a block, and another byte. -/
def grownFile : File :=
  [.ok [1], .ok [], .ok [2]]

/-- What sealing that file in chunks of two bytes writes. -/
def grownOutput : Bytes :=
  (StreamFormat.framesOf
    (fun nonce chunk => taggedAead.sealUnder nonce [] chunk)
    [[1], [2]]).flatten

theorem readBlocks_grownFile :
    readBlocks 2 (File.deliveries grownFile) = .ok [[1], [2]] := by
  rw [readBlocks_of_block (show takeBlock 2 (File.deliveries grownFile) =
      (.ok [1], [.item 2]) from rfl) (by decide),
    readBlocks_of_block (show takeBlock 2 [.item 2] =
      (.ok [2], ([] : List (Delivery UInt8 String))) from rfl)
      (by decide),
    readBlocks_of_empty (show takeBlock 2 [] =
      (.ok ([] : Bytes), ([] : List (Delivery UInt8 String))) from rfl)]
  rfl

/-- Sealing that file succeeds. -/
theorem sealFile_grownFile
    (call :
      FileCall files .aes256Gcm (List.replicate 32 7) [] 2)
    (grown : call.file = grownFile)
    (accepts : call.writer.Accepts) :
    (pqforgeStreamSealFile taggedAead.aws files call.args).code =
        PqForgeStatus.ok.code ∧
      emitted (pqforgeStreamSealFile taggedAead.aws files call.args).log =
        StreamFormat.framesOf
          (fun nonce chunk => taggedAead.sealUnder nonce [] chunk)
          [[1], [2]] := by
  have found : readBlocks 2 (File.deliveries call.file) =
      .ok [[1], [2]] := by
    rw [grown]
    exact readBlocks_grownFile
  exact
    pqforgeStreamSealFile_found taggedAead.aws_sizes
      (taggedAead.aws_sealsAs .aes256Gcm (List.replicate 32 7)) call
      accepts (by decide) found (by decide)

/-- The opener takes the first byte of the second frame for the first frame's. -/
theorem openFile_grownOutput
    (call :
      FileCall files .aes256Gcm (List.replicate 32 7) [] 2)
    (accepts : call.writer.Accepts)
    (serves : call.file.Serves grownOutput) :
    (pqforgeStreamOpenFile taggedAead.aws files call.args).code =
      PqForgeStatus.authFailed.code := by
  have cut : blocks (2 + 16) grownOutput =
      [grownOutput.take 18, grownOutput.drop 18] := by
    rw [blocks_of_lt (by decide) (by decide), blocks_of_le (by decide)]
  have refused :
      openAt taggedAead.aws call.job 0 false (grownOutput.take 18) =
        .fail (.returned .authFailed) :=
    openAct_observe taggedAead.aws_sizes accepts (by decide) false
      (by decide)
  obtain ⟨code, _⟩ := pqforgeStreamOpenFile_serving
    taggedAead.aws_sizes call accepts serves (by decide)
  have size : (2 : UInt64).toNat = 2 := rfl
  rw [size, cut, flaggedRun, refused] at code
  exact code

/--
Sealing the grown file returns `Ok` with a short first frame, and opening what
it wrote returns `AuthFailed`.
-/
theorem grownFile_seals_but_does_not_open :
    let key : Bytes := List.replicate 32 7
    let sealCall :=
      memoryCall grownFile .aes256Gcm key [] 2 (by decide) (by decide)
    let sealRun :=
      pqforgeStreamSealFile taggedAead.aws (memoryFiles grownFile)
        sealCall.args
    let openFile := File.whole (emitted sealRun.log).flatten
    let openCall :=
      memoryCall openFile .aes256Gcm key [] 2 (by decide) (by decide)
    let openRun :=
      pqforgeStreamOpenFile taggedAead.aws (memoryFiles openFile)
        openCall.args
    taggedAead.Correct ∧
      sealRun.code = PqForgeStatus.ok.code ∧
      (emitted sealRun.log).map List.length = [17, 17] ∧
      openRun.code = PqForgeStatus.authFailed.code ∧
      ¬ SealIsOpenable taggedAead.aws .aes256Gcm key [] 2
        sealRun.log := by
  intro key sealCall sealRun openFile openCall openRun
  obtain ⟨returnsOk, pieces⟩ :=
    sealFile_grownFile sealCall rfl (memoryCall_accepts _ _)
  have output : (emitted sealRun.log).flatten = grownOutput :=
    congrArg List.flatten pieces
  have serves : openCall.file.Serves (emitted sealRun.log).flatten :=
    memoryCall_serves _ _ (File.serves_whole _)
  have refused : openRun.code = PqForgeStatus.authFailed.code :=
    openFile_grownOutput openCall (memoryCall_accepts _ _)
      (output ▸ serves)
  refine
    ⟨taggedAead_tidy.toCorrect, returnsOk, ?_, refused,
      fun openable => ?_⟩
  · rw [pieces]
    rfl
  · have opened :=
      openable.opens _ openCall (memoryCall_accepts _ _) serves
    have impossible := refused.symm.trans opened.1
    cases impossible

end PqForgeFfi.StreamFile
