import PqForgeFfi.StreamRuns

namespace PqForgeFfi

open Segmentation

/-!
# One format, two implementations

Both sealers write the frames of the format, whatever the cuts on one side and
the reads on the other, and both openers read them back.
-/

section SealedFrames

variable {aead : Aead}
variable {algorithm : PqAeadAlgorithm}
variable {key ad : Bytes}
variable {chunkSize : Nat}

/-- `PqForgeStream.seal` writes the frames of the format. -/
theorem PqForgeStream.seal_frames
    {backend : PqForgeBackend}
    (seals : backend.SealsAs algorithm key aead)
    (positive : 0 < chunkSize)
    (small : chunkSize < 2 ^ 63)
    (source : List Bytes)
    (few : (blocks chunkSize source.flatten).length ≤ 2 ^ 63)
    (aad : Option Bytes)
    (associated : aad.getD [] = ad) :
    («seal» backend source key algorithm aad
        (Int64.ofNat chunkSize)).outcome = .ok () ∧
      emitted
          («seal» backend source key algorithm aad
            (Int64.ofNat chunkSize)).log =
        StreamFormat.frames
          (fun nonce chunk => aead.sealUnder nonce ad chunk)
          chunkSize source.flatten := by
  have observed := seal_observe
    (show (StreamCall.ofNat backend algorithm key ad positive
      small).backend.SealsAs _ _ aead from seals)
    aad associated source
  have outcome := congrArg Trace.outcome observed
  have log := congrArg Trace.log observed
  rw [StreamCall.size_ofNat] at log
  exact ⟨outcome, log.trans (flaggedMap_frameAt aead ad few)⟩

/-- `pqforge_stream_seal_file` writes the frames of the format. -/
theorem StreamFile.seal_frames
    {aws : AwsLc}
    (sizes : aws.Sizes)
    (seals : aws.SealsAs algorithm key aead)
    {files : FileSystem}
    (small : chunkSize < 2 ^ 63)
    (call :
      FileCall files algorithm key ad (UInt64.ofNat chunkSize))
    (accepts : call.writer.Accepts)
    {plaintext : Bytes}
    (serves : call.file.Serves plaintext)
    (few : (blocks chunkSize plaintext).length < 2 ^ 64) :
    (pqforgeStreamSealFile aws files call.args).code =
        PqForgeStatus.ok.code ∧
      emitted (pqforgeStreamSealFile aws files call.args).log =
        StreamFormat.frames
          (fun nonce chunk => aead.sealUnder nonce ad chunk)
          chunkSize plaintext := by
  have value : (UInt64.ofNat chunkSize).toNat = chunkSize := by
    rw [UInt64.toNat_ofNat']
    omega
  have allocatable : (UInt64.ofNat chunkSize).toNat ≤ isizeMax := by
    rw [value, isizeMax]
    omega
  have run := pqforgeStreamSealFile_serving sizes seals call accepts
    serves allocatable (by rwa [value])
  rwa [value] at run

/-- The frames of a short stream are one frame for each chunk. -/
theorem StreamFormat.length_frames
    (sealUnder : Bytes → Bytes → Bytes)
    (chunkSize : Nat)
    (plaintext : Bytes) :
    (frames sealUnder chunkSize plaintext).length =
      (blocks chunkSize plaintext).length :=
  length_flaggedMap _ _ _

end SealedFrames

section OpenedFrames

variable {aead : Aead}
variable {algorithm : PqAeadAlgorithm}
variable {key ad : Bytes}
variable {chunkSize : Nat}
variable {plaintext : Bytes}

/-- The framing of the joined frames is the frames. -/
theorem StreamFormat.blocks_frames
    (appendsTag : aead.AppendsTag)
    (positive : 0 < chunkSize)
    (plaintext : Bytes) :
    blocks (chunkSize + 16)
        (frames (fun nonce chunk => aead.sealUnder nonce ad chunk)
          chunkSize plaintext).flatten =
      frames (fun nonce chunk => aead.sealUnder nonce ad chunk)
        chunkSize plaintext := by
  refine Framed.blocks_eq (by omega) ?_
  exact framed_frames
    (fun nonce chunk => appendsTag nonce ad chunk)
    (by decide) positive plaintext

/-- `PqForgeStream.open` reads the frames of any framed chunks back. -/
theorem PqForgeStream.open_framesOf
    {backend : PqForgeBackend}
    (appendsTag : aead.AppendsTag)
    (opens : backend.OpensSealed algorithm key aead)
    (positive : 0 < chunkSize)
    (limited : chunkSize + 16 ≤ 2 ^ 63 - 1)
    {chunks : List Bytes}
    (few : chunks.length ≤ 2 ^ 63)
    {source : List Bytes}
    (framed :
      blocks (chunkSize + 16) source.flatten =
        StreamFormat.framesOf
          (fun nonce chunk => aead.sealUnder nonce ad chunk) chunks)
    (aad : Option Bytes)
    (associated : aad.getD [] = ad) :
    («open» backend source key algorithm aad
        (Int64.ofNat chunkSize)).outcome = .ok () ∧
      emitted
          («open» backend source key algorithm aad
            (Int64.ofNat chunkSize)).log =
        chunks := by
  have small : chunkSize < 2 ^ 63 := by
    omega
  have observed := open_observe
    (StreamCall.bounded_ofNat backend algorithm key ad positive limited)
    aad associated source
  have opened :
      flaggedRun
          (openAt
            (StreamCall.ofNat backend algorithm key ad positive small))
          0
          (StreamFormat.framesOf
            (fun nonce chunk => aead.sealUnder nonce ad chunk) chunks) =
        ⟨chunks, .ok ()⟩ := by
    refine flaggedRun_flaggedMap fun index inBounds last chunk _ => ?_
    have nonceLength := length_positionNonce (0 + index) last
    have sameNonce :
        StreamFormat.frameNonce (0 + index) last =
          positionNonce (0 + index) last :=
      (nonce_of_lt (by omega) last).symm
    have longEnough :
        16 ≤ (aead.sealUnder (positionNonce (0 + index) last) ad
          chunk).length := by
      rw [appendsTag _ ad chunk nonceLength]
      omega
    dsimp only
    rw [sameNonce, openAt_of_long _ _ fun _ => longEnough]
    exact congrArg handOn (opens _ chunk ad nonceLength)
  rw [StreamCall.frameSize, StreamCall.size_ofNat, framed, opened]
    at observed
  exact ⟨congrArg Trace.outcome observed, congrArg Trace.log observed⟩

/-- `PqForgeStream.open` reads the frames of the format back. -/
theorem PqForgeStream.open_frames
    {backend : PqForgeBackend}
    (appendsTag : aead.AppendsTag)
    (opens : backend.OpensSealed algorithm key aead)
    (positive : 0 < chunkSize)
    (limited : chunkSize + 16 ≤ 2 ^ 63 - 1)
    (few : (blocks chunkSize plaintext).length ≤ 2 ^ 63)
    {source : List Bytes}
    (cuts :
      source.flatten =
        (StreamFormat.frames
          (fun nonce chunk => aead.sealUnder nonce ad chunk)
          chunkSize plaintext).flatten)
    (aad : Option Bytes)
    (associated : aad.getD [] = ad) :
    («open» backend source key algorithm aad
        (Int64.ofNat chunkSize)).outcome = .ok () ∧
      emitted
          («open» backend source key algorithm aad
            (Int64.ofNat chunkSize)).log =
        blocks chunkSize plaintext := by
  refine open_framesOf appendsTag opens positive limited few ?_ aad
    associated
  rw [cuts, StreamFormat.blocks_frames appendsTag positive]
  rfl

/-- `pqforge_stream_open_file` reads the frames of any framed chunks back. -/
theorem StreamFile.open_framesOf
    {aws : AwsLc}
    (sizes : aws.Sizes)
    (appendsTag : aead.AppendsTag)
    (opens : aws.OpensSealed algorithm key aead)
    {files : FileSystem}
    {chunkSize : UInt64}
    (allocatable : chunkSize.toNat + 16 ≤ isizeMax)
    {chunks : List Bytes}
    (few : chunks.length < 2 ^ 64)
    (call : FileCall files algorithm key ad chunkSize)
    (accepts : call.writer.Accepts)
    {ciphertext : Bytes}
    (serves : call.file.Serves ciphertext)
    (framed :
      blocks (chunkSize.toNat + 16) ciphertext =
        StreamFormat.framesOf
          (fun nonce chunk => aead.sealUnder nonce ad chunk) chunks) :
    (pqforgeStreamOpenFile aws files call.args).code =
        PqForgeStatus.ok.code ∧
      emitted (pqforgeStreamOpenFile aws files call.args).log =
        chunks := by
  have opened :
      flaggedRun (openAt aws call.job) 0
          (StreamFormat.framesOf
            (fun nonce chunk => aead.sealUnder nonce ad chunk) chunks) =
        ⟨chunks, .ok ()⟩ := by
    refine flaggedRun_flaggedMap fun index inBounds last chunk _ => ?_
    have nonceLength :=
      StreamFormat.length_frameNonce (0 + index) last
    have longEnough :
        16 ≤ (aead.sealUnder
          (StreamFormat.frameNonce (0 + index) last) ad
            chunk).length := by
      rw [appendsTag _ ad chunk nonceLength]
      omega
    rw [openAt,
      openAct_observe sizes accepts (by omega) last longEnough]
    exact congrArg handOnOpened (opens _ ad chunk nonceLength)
  have run := pqforgeStreamOpenFile_serving sizes call accepts serves
    allocatable
  rw [framed, opened] at run
  exact run

/-- `pqforge_stream_open_file` reads the frames of the format back. -/
theorem StreamFile.open_frames
    {aws : AwsLc}
    (sizes : aws.Sizes)
    (appendsTag : aead.AppendsTag)
    (opens : aws.OpensSealed algorithm key aead)
    {files : FileSystem}
    (positive : 0 < chunkSize)
    (limited : chunkSize + 16 ≤ 2 ^ 63 - 1)
    (few : (blocks chunkSize plaintext).length < 2 ^ 64)
    (call :
      FileCall files algorithm key ad (UInt64.ofNat chunkSize))
    (accepts : call.writer.Accepts)
    (serves :
      call.file.Serves
        (StreamFormat.frames
          (fun nonce chunk => aead.sealUnder nonce ad chunk)
          chunkSize plaintext).flatten) :
    (pqforgeStreamOpenFile aws files call.args).code =
        PqForgeStatus.ok.code ∧
      emitted (pqforgeStreamOpenFile aws files call.args).log =
        blocks chunkSize plaintext := by
  have value : (UInt64.ofNat chunkSize).toNat = chunkSize := by
    rw [UInt64.toNat_ofNat']
    omega
  refine open_framesOf sizes appendsTag opens ?_ few call accepts serves
    ?_
  · rw [value, isizeMax]
    omega
  · rw [value]
    exact StreamFormat.blocks_frames appendsTag positive plaintext

end OpenedFrames

/-! ## The two implementations together -/

section Interoperation

variable {aead : Aead}
variable {algorithm : PqAeadAlgorithm}
variable {key ad : Bytes}
variable {chunkSize : Nat}

/--
Both sealers write the same frames, those of the format, whatever the cuts of
the plaintext on one side and the reads of it on the other.
-/
theorem sealers_write_same_frames
    {backend : PqForgeBackend}
    (dartSeals : backend.SealsAs algorithm key aead)
    {aws : AwsLc}
    (sizes : aws.Sizes)
    (nativeSeals : aws.SealsAs algorithm key aead)
    (positive : 0 < chunkSize)
    (small : chunkSize < 2 ^ 63)
    {plaintext : Bytes}
    (few : (blocks chunkSize plaintext).length < 2 ^ 63)
    {source : List Bytes}
    (cuts : source.flatten = plaintext)
    {aad : Option Bytes}
    (associated : aad.getD [] = ad)
    {files : StreamFile.FileSystem}
    (call :
      StreamFile.FileCall files algorithm key ad
        (UInt64.ofNat chunkSize))
    (accepts : call.writer.Accepts)
    (serves : call.file.Serves plaintext) :
    let dart :=
      PqForgeStream.«seal» backend source key algorithm aad
        (Int64.ofNat chunkSize)
    let native := StreamFile.pqforgeStreamSealFile aws files call.args
    dart.outcome = .ok () ∧
      native.code = PqForgeStatus.ok.code ∧
      emitted dart.log = emitted native.log ∧
      emitted dart.log =
        StreamFormat.frames
          (fun nonce chunk => aead.sealUnder nonce ad chunk)
          chunkSize plaintext := by
  subst cuts
  obtain ⟨completes, dartFrames⟩ := PqForgeStream.seal_frames
    dartSeals positive small source (Nat.le_of_lt few) aad associated
  obtain ⟨returnsOk, nativeFrames⟩ := StreamFile.seal_frames
    sizes nativeSeals small call accepts serves (by omega)
  exact ⟨completes, returnsOk, dartFrames.trans nativeFrames.symm,
    dartFrames⟩

/-- Three bytes in events of one, none and two, and in reads of two and one. -/
theorem sealers_write_same_frames_of_three :
    let plaintext : Bytes := [1, 2, 3]
    let key : Bytes := List.replicate 32 7
    let file : File := [.ok [1, 2], .ok [3]]
    let call :=
      StreamFile.memoryCall file .aes256Gcm key [9] (UInt64.ofNat 2)
        (by decide) (by decide)
    let dart :=
      PqForgeStream.«seal» taggedAead.backend [[1], [], [2, 3]] key
        .aes256Gcm (some [9]) (Int64.ofNat 2)
    let native :=
      StreamFile.pqforgeStreamSealFile taggedAead.aws
        (StreamFile.memoryFiles file) call.args
    dart.outcome = .ok () ∧
      native.code = PqForgeStatus.ok.code ∧
      emitted dart.log = emitted native.log ∧
      emitted dart.log =
        StreamFormat.frames
          (fun nonce chunk => taggedAead.sealUnder nonce [9] chunk)
          2 plaintext := by
  have few : (blocks 2 ([1, 2, 3] : Bytes)).length < 2 ^ 63 :=
    Nat.lt_of_le_of_lt
      (length_blocks_le (by decide)
        (show ([1, 2, 3] : Bytes).length ≤ (1 + 1) * 2 by decide))
      (by decide)
  exact
    sealers_write_same_frames
      (taggedAead.backend_sealsAs .aes256Gcm (List.replicate 32 7))
      taggedAead.aws_sizes
      (taggedAead.aws_sealsAs .aes256Gcm (List.replicate 32 7))
      (by decide) (by decide) few rfl rfl _
      (StreamFile.memoryCall_accepts _ _)
      ⟨[[1, 2], [3]], by decide, rfl, rfl⟩

/--
Whichever implementation sealed a plaintext, both open the result to exactly
that plaintext, whatever the cuts and the reads on either side.
-/
theorem stream_round_trip
    (appendsTag : aead.AppendsTag)
    (positive : 0 < chunkSize)
    (limited : chunkSize + 16 ≤ 2 ^ 63 - 1)
    {plaintext : Bytes}
    (few : (blocks chunkSize plaintext).length < 2 ^ 63)
    {sealBackend openBackend : PqForgeBackend}
    (dartSeals : sealBackend.SealsAs algorithm key aead)
    (dartOpens : openBackend.OpensSealed algorithm key aead)
    {sealAws openAws : AwsLc}
    (sealSizes : sealAws.Sizes)
    (openSizes : openAws.Sizes)
    (nativeSeals : sealAws.SealsAs algorithm key aead)
    (nativeOpens : openAws.OpensSealed algorithm key aead)
    {plainEvents : List Bytes}
    (plainCuts : plainEvents.flatten = plaintext)
    {sealAad openAad : Option Bytes}
    (sealAssociated : sealAad.getD [] = ad)
    (openAssociated : openAad.getD [] = ad)
    {sealFiles openFiles : StreamFile.FileSystem}
    (sealCall :
      StreamFile.FileCall sealFiles algorithm key ad
        (UInt64.ofNat chunkSize))
    (sealAccepts : sealCall.writer.Accepts)
    (sealServes : sealCall.file.Serves plaintext)
    {ciphertext : Bytes}
    (sealed :
      ciphertext =
          (emitted
            (PqForgeStream.«seal» sealBackend plainEvents key algorithm
              sealAad (Int64.ofNat chunkSize)).log).flatten ∨
        ciphertext =
          (emitted
            (StreamFile.pqforgeStreamSealFile sealAws sealFiles
              sealCall.args).log).flatten)
    {cipherEvents : List Bytes}
    (cipherCuts : cipherEvents.flatten = ciphertext)
    (openCall :
      StreamFile.FileCall openFiles algorithm key ad
        (UInt64.ofNat chunkSize))
    (openAccepts : openCall.writer.Accepts)
    (openServes : openCall.file.Serves ciphertext) :
    let dart :=
      PqForgeStream.«open» openBackend cipherEvents key algorithm openAad
        (Int64.ofNat chunkSize)
    let native :=
      StreamFile.pqforgeStreamOpenFile openAws openFiles openCall.args
    (dart.outcome = .ok () ∧ (emitted dart.log).flatten = plaintext) ∧
      native.code = PqForgeStatus.ok.code ∧
        (emitted native.log).flatten = plaintext := by
  have framed :
      ciphertext =
        (StreamFormat.frames
          (fun nonce chunk => aead.sealUnder nonce ad chunk)
          chunkSize plaintext).flatten := by
    rcases sealed with byDart | byNative
    · have run := PqForgeStream.seal_frames dartSeals positive
        (by omega) plainEvents (by rw [plainCuts]; omega)
        sealAad sealAssociated
      rw [byDart, run.2, plainCuts]
    · have run := StreamFile.seal_frames sealSizes nativeSeals
        (by omega) sealCall sealAccepts sealServes (by omega)
      rw [byNative, run.2]
  subst framed
  obtain ⟨dartOk, dartChunks⟩ := PqForgeStream.open_frames
    appendsTag dartOpens positive limited (Nat.le_of_lt few) cipherCuts
    openAad openAssociated
  obtain ⟨nativeOk, nativeChunks⟩ := StreamFile.open_frames
    openSizes appendsTag nativeOpens positive limited (by omega)
    openCall openAccepts openServes
  refine ⟨⟨dartOk, ?_⟩, nativeOk, ?_⟩
  · rw [dartChunks, blocks_flatten]
  · rw [nativeChunks, blocks_flatten]

/--
Three bytes sealed to a file and read back from events of 20, none and the
remaining bytes, and from a file that is read at once.
-/
theorem stream_round_trip_of_three :
    let key : Bytes := List.replicate 32 7
    let sealFile : File := [.ok [1, 2], .ok [3]]
    let sealCall :=
      StreamFile.memoryCall sealFile .aes256Gcm key [] (UInt64.ofNat 2)
        (by decide) (by decide)
    let ciphertext :=
      (emitted
        (StreamFile.pqforgeStreamSealFile taggedAead.aws
          (StreamFile.memoryFiles sealFile) sealCall.args).log).flatten
    let openFile := File.whole ciphertext
    let openCall :=
      StreamFile.memoryCall openFile .aes256Gcm key [] (UInt64.ofNat 2)
        (by decide) (by decide)
    let dart :=
      PqForgeStream.«open» taggedAead.backend
        [ciphertext.take 20, [], ciphertext.drop 20] key .aes256Gcm none
        (Int64.ofNat 2)
    let native :=
      StreamFile.pqforgeStreamOpenFile taggedAead.aws
        (StreamFile.memoryFiles openFile) openCall.args
    (dart.outcome = .ok () ∧ (emitted dart.log).flatten = [1, 2, 3]) ∧
      native.code = PqForgeStatus.ok.code ∧
        (emitted native.log).flatten = [1, 2, 3] := by
  have few : (blocks 2 ([1, 2, 3] : Bytes)).length < 2 ^ 63 :=
    Nat.lt_of_le_of_lt
      (length_blocks_le (by decide)
        (show ([1, 2, 3] : Bytes).length ≤ (1 + 1) * 2 by decide))
      (by decide)
  have joined : ∀ bytes : Bytes,
      [bytes.take 20, [], bytes.drop 20].flatten = bytes := by
    intro bytes
    simp
  have correct := taggedAead_tidy.toCorrect
  exact
    stream_round_trip correct.appendsTag (by decide) (by decide) few
      (taggedAead.backend_sealsAs .aes256Gcm (List.replicate 32 7))
      (correct.backend_opensSealed .aes256Gcm (List.replicate 32 7))
      taggedAead.aws_sizes taggedAead.aws_sizes
      (taggedAead.aws_sealsAs .aes256Gcm (List.replicate 32 7))
      (correct.aws_opensSealed .aes256Gcm (List.replicate 32 7))
      (show [[1, 2, 3]].flatten = _ from rfl)
      (show (none : Option Bytes).getD [] = [] from rfl) rfl _
      (StreamFile.memoryCall_accepts _ _)
      ⟨[[1, 2], [3]], by decide, rfl, rfl⟩ (.inr rfl)
      (joined _) _
      (StreamFile.memoryCall_accepts _ _) (File.serves_whole _)

end Interoperation

end PqForgeFfi
