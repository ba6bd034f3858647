import PqForgeFfi.StreamFronts

namespace PqForgeFfi

open Segmentation

/-!
# What an opener releases of a tampered stream

What both openers do with any ciphertext is decided by the front that its frames
share with the frames that were sealed.  A stream that was cut short, or is
opened with another chunk size, shares a front that is known.
-/

/-- Openers succeed exactly where no frame stops them. -/
theorem OpenersStopAt.accepted_iff
    {released : List Bytes}
    {stopped : Option Bytes}
    {dart : Trace StreamEvent DartThrow Unit}
    {native : StreamFile.NativeRun}
    (stopAt : OpenersStopAt released stopped dart native) :
    (dart.outcome = .ok () ↔ stopped = none) ∧
      (native.code = PqForgeStatus.ok.code ↔ stopped = none) := by
  cases shape : stopped with
  | none =>
      obtain ⟨completed, returned⟩ := stopAt.accepted shape
      exact ⟨iff_of_true completed rfl, iff_of_true returned rfl⟩
  | some frame =>
      have stops : some frame ≠ none := Option.some_ne_none frame
      by_cases short : frame.length < 16
      · obtain ⟨⟨message, failed⟩, returned⟩ :=
          stopAt.malformed frame shape short
        rw [failed, returned]
        exact
          ⟨iff_of_false (fun completed => by cases completed) stops,
            iff_of_false (by decide) stops⟩
      · obtain ⟨⟨message, failed⟩, returned⟩ :=
          stopAt.unauthentic frame shape (Nat.le_of_not_lt short)
        rw [failed, returned]
        exact
          ⟨iff_of_false (fun completed => by cases completed) stops,
            iff_of_false (by decide) stops⟩

/-- Nothing stops an opener exactly at the end of the sealed stream itself. -/
theorem genuineFront_reaches_end
    {aad ad : Bytes}
    {received frames : List Bytes}
    (nonempty : received ≠ []) :
    received[genuineFront aad ad received frames]? = none ↔
      aad = ad ∧ received = frames := by
  rw [List.getElem?_eq_none_iff, genuineFront]
  by_cases sameAad : aad = ad
  · rw [if_pos sameAad]
    have bounded := sharedFront_le received frames
    constructor
    · intro reached
      exact
        ⟨sameAad,
          eq_of_sharedFront_eq_length nonempty
            (Nat.le_antisymm bounded reached)⟩
    · rintro ⟨_, same⟩
      rw [← same, sharedFront_self]
  · rw [if_neg sameAad]
    have someFrames := List.length_pos_iff.mpr nonempty
    exact
      iff_of_false (Nat.not_le_of_lt someFrames)
        fun both => sameAad both.1

section Tampering

variable {aead : Aead}
variable {algorithm : PqAeadAlgorithm}
variable {key ad : Bytes}
variable {chunkSize : Nat}
variable {plaintext : Bytes}

/--
Whatever reaches an opener, and with whatever chunk size and associated data, it
releases exactly the chunks whose frames arrived as they were sealed before the
first frame that did not, and succeeds exactly on all frames of the stream.
-/
theorem openers_release_genuine_front
    (appendsTag : aead.AppendsTag)
    (chunked : 0 < chunkSize)
    (small : chunkSize < 2 ^ 63)
    (few : (blocks chunkSize plaintext).length < 2 ^ 63)
    (only : aead.OpensOnly ad (blocks chunkSize plaintext))
    {frames : List Bytes}
    (sealed :
      SealedStream aead algorithm key ad chunkSize plaintext frames)
    {backend : PqForgeBackend}
    (dartOpens : backend.OpensAs algorithm key aead)
    {aws : AwsLc}
    (sizes : aws.Sizes)
    (nativeOpens : aws.OpensAs algorithm key aead)
    {openChunkSize : Nat}
    (positive : 0 < openChunkSize)
    (limited : openChunkSize + 16 ≤ 2 ^ 63 - 1)
    {ciphertext : Bytes}
    {source : List Bytes}
    (cuts : source.flatten = ciphertext)
    {openAd : Bytes}
    {aad : Option Bytes}
    (associated : aad.getD [] = openAd)
    {files : StreamFile.FileSystem}
    (call :
      StreamFile.FileCall files algorithm key openAd
        (UInt64.ofNat openChunkSize))
    (accepts : call.writer.Accepts)
    (serves : call.file.Serves ciphertext) :
    let received := receivedFrames openChunkSize ciphertext
    let front := genuineFront openAd ad received frames
    let dart :=
      PqForgeStream.«open» backend source key algorithm aad
        (Int64.ofNat openChunkSize)
    let native := StreamFile.pqforgeStreamOpenFile aws files call.args
    OpenersStopAt ((blocks chunkSize plaintext).take front)
        received[front]? dart native ∧
      (dart.outcome = .ok () ↔ openAd = ad ∧ received = frames) ∧
      (native.code = PqForgeStatus.ok.code ↔
        openAd = ad ∧ received = frames) := by
  intro received front dart native
  have stops :=
    openers_stopAt_front appendsTag few only dartOpens sizes nativeOpens
      positive limited cuts associated call accepts serves
  rw [← sealed.eq_frames chunked small few] at stops
  have nonempty : received ≠ [] := blocks_ne_nil _ _
  obtain ⟨completed, returned⟩ := stops.accepted_iff
  refine ⟨stops, completed.trans ?_, returned.trans ?_⟩
  · exact genuineFront_reaches_end nonempty
  · exact genuineFront_reaches_end nonempty

/-- The plaintext of three bytes in chunks of two is a short stream. -/
theorem few_blocks_of_three :
    (blocks 2 ([1, 2, 3] : Bytes)).length < 2 ^ 63 :=
  Nat.lt_of_le_of_lt
    (length_blocks_le (by decide)
      (show ([1, 2, 3] : Bytes).length ≤ (1 + 1) * 2 by decide))
    (by decide)

/-- Three bytes in chunks of two, whose second frame was overwritten. -/
theorem openers_release_genuine_front_of_three :
    let aead := taggedAead.restricted [9] (blocks 2 [1, 2, 3])
    let key : Bytes := List.replicate 32 7
    let frames :=
      emitted
        (PqForgeStream.«seal» aead.backend [[1], [], [2, 3]] key
          .aes256Gcm (some [9]) (Int64.ofNat 2)).log
    let ciphertext := frames.flatten.take 18 ++ [0, 0, 0]
    let file := File.whole ciphertext
    let call :=
      StreamFile.memoryCall file .aes256Gcm key [9] (UInt64.ofNat 2)
        (by decide) (by decide)
    let received := receivedFrames 2 ciphertext
    let front := genuineFront [9] [9] received frames
    let dart :=
      PqForgeStream.«open» aead.backend [ciphertext] key .aes256Gcm
        (some [9]) (Int64.ofNat 2)
    let native :=
      StreamFile.pqforgeStreamOpenFile aead.aws
        (StreamFile.memoryFiles file) call.args
    OpenersStopAt ((blocks 2 [1, 2, 3]).take front) received[front]? dart
        native ∧
      (dart.outcome = .ok () ↔
        ([9] : Bytes) = [9] ∧ received = frames) ∧
      (native.code = PqForgeStatus.ok.code ↔
        ([9] : Bytes) = [9] ∧ received = frames) := by
  intro aead key frames ciphertext file call
  have sealed :
      SealedStream aead .aes256Gcm key [9] 2 [1, 2, 3] frames :=
    .dart (aead.backend_sealsAs .aes256Gcm key)
      (show [[1], [], [2, 3]].flatten = ([1, 2, 3] : Bytes) from rfl) rfl
  have associated : (some [9] : Option Bytes).getD [] = [9] := rfl
  have serves : call.file.Serves ciphertext :=
    File.serves_whole ciphertext
  exact
    openers_release_genuine_front
      (taggedAead_tidy.appendsTag.restricted _ _) (by decide) (by decide)
      few_blocks_of_three
      (Aead.restricted_opensOnly _
        (Nat.lt_trans few_blocks_of_three (by decide)))
      sealed
      (aead.backend_opensAs .aes256Gcm key) aead.aws_sizes
      (aead.aws_opensAs .aes256Gcm key) (show 0 < 2 by decide)
      (by decide) List.flatten_singleton associated call
      (StreamFile.memoryCall_accepts _ _) serves

/-- The frames of the format, in a form that a cut can be compared with. -/
theorem StreamFormat.framed_sealed
    (appendsTag : aead.AppendsTag)
    (chunked : 0 < chunkSize) :
    Framed (chunkSize + 16)
      (frames (fun nonce chunk => aead.sealUnder nonce ad chunk)
        chunkSize plaintext) :=
  framed_frames (fun nonce chunk => appendsTag nonce ad chunk)
    (by decide) chunked plaintext

/-- The frames of a plaintext fit one frame exactly if that fits one chunk. -/
theorem StreamFormat.flatten_le_iff
    (appendsTag : aead.AppendsTag)
    (chunked : 0 < chunkSize)
    (other : Nat) :
    (frames (fun nonce chunk => aead.sealUnder nonce ad chunk)
        chunkSize plaintext).flatten.length ≤
        min (chunkSize + 16) (other + 16) ↔
      plaintext.length ≤ min chunkSize other := by
  by_cases fits : plaintext.length ≤ chunkSize
  · have single :
        (frames (fun nonce chunk => aead.sealUnder nonce ad chunk)
          chunkSize plaintext).flatten.length =
          plaintext.length + 16 := by
      rw [frames, framesOf, blocks_of_le fits, flaggedMap,
        List.flatten_singleton]
      exact appendsTag _ _ _ (length_frameNonce 0 true)
    rw [single]
    omega
  · refine iff_of_false (fun whole => ?_) (by omega)
    have several := congrArg List.length
      (@blocks_frames aead ad chunkSize appendsTag chunked plaintext)
    rw [blocks_of_le (by omega), length_frames,
      blocks_of_lt chunked (by omega)] at several
    have rest := List.length_pos_iff.mpr
      (blocks_ne_nil chunkSize (plaintext.drop chunkSize))
    simp only [List.length_cons, List.length_nil] at several
    omega

/-- The frames of a plaintext hold at least one tag. -/
theorem StreamFormat.le_length_flatten
    (appendsTag : aead.AppendsTag)
    (chunked : 0 < chunkSize) :
    16 ≤
      (frames (fun nonce chunk => aead.sealUnder nonce ad chunk)
        chunkSize plaintext).flatten.length := by
  have first :=
    getElem?_frames (fun nonce chunk => aead.sealUnder nonce ad chunk)
      chunked plaintext 0
  rw [if_pos (.inl rfl)] at first
  have within :=
    (List.sublist_flatten_of_mem (List.mem_of_getElem? first)).length_le
  rw [appendsTag _ _ _ (length_frameNonce _ _)] at within
  omega

/--
A sealed stream that was cut short anywhere is refused by both openers, which
have by then released the chunks of all frames before the one that the cut is
the end of.
-/
theorem openers_refuse_truncated_stream
    (appendsTag : aead.AppendsTag)
    (chunked : 0 < chunkSize)
    (limited : chunkSize + 16 ≤ 2 ^ 63 - 1)
    (few : (blocks chunkSize plaintext).length < 2 ^ 63)
    (only : aead.OpensOnly ad (blocks chunkSize plaintext))
    {frames : List Bytes}
    (sealed :
      SealedStream aead algorithm key ad chunkSize plaintext frames)
    {backend : PqForgeBackend}
    (dartOpens : backend.OpensAs algorithm key aead)
    {aws : AwsLc}
    (sizes : aws.Sizes)
    (nativeOpens : aws.OpensAs algorithm key aead)
    {count : Nat}
    (short : count < frames.flatten.length)
    {source : List Bytes}
    (cuts : source.flatten = frames.flatten.take count)
    {aad : Option Bytes}
    (associated : aad.getD [] = ad)
    {files : StreamFile.FileSystem}
    (call :
      StreamFile.FileCall files algorithm key ad
        (UInt64.ofNat chunkSize))
    (accepts : call.writer.Accepts)
    (serves : call.file.Serves (frames.flatten.take count)) :
    let whole := (count - 1) / (chunkSize + 16)
    OpenersStopAt ((blocks chunkSize plaintext).take whole)
      (some
        ((frames.flatten.take count).drop (whole * (chunkSize + 16))))
      (PqForgeStream.«open» backend source key algorithm aad
        (Int64.ofNat chunkSize))
      (StreamFile.pqforgeStreamOpenFile aws files call.args) := by
  intro whole
  have stops :=
    openers_stopAt_front appendsTag few only dartOpens sizes nativeOpens
      chunked limited cuts associated call accepts serves
  obtain rfl := sealed.eq_frames chunked (by omega) few
  have sizePositive : 0 < chunkSize + 16 := by
    omega
  have front :=
    (StreamFormat.framed_sealed appendsTag chunked).sharedFront_take
      sizePositive short
  have stopped := getElem?_blocks_cut sizePositive short
  dsimp only at stops
  rw [genuineFront, if_pos rfl, receivedFrames, front, stopped] at stops
  exact stops

/-- Three bytes in chunks of two, cut short within the second frame. -/
theorem openers_refuse_truncated_stream_of_three :
    let aead := taggedAead.restricted [9] (blocks 2 [1, 2, 3])
    let key : Bytes := List.replicate 32 7
    let frames :=
      emitted
        (PqForgeStream.«seal» aead.backend [[1], [], [2, 3]] key
          .aes256Gcm (some [9]) (Int64.ofNat 2)).log
    let ciphertext := frames.flatten.take 20
    let file := File.whole ciphertext
    let call :=
      StreamFile.memoryCall file .aes256Gcm key [9] (UInt64.ofNat 2)
        (by decide) (by decide)
    OpenersStopAt ((blocks 2 [1, 2, 3]).take ((20 - 1) / (2 + 16)))
      (some (ciphertext.drop ((20 - 1) / (2 + 16) * (2 + 16))))
      (PqForgeStream.«open» aead.backend [ciphertext] key .aes256Gcm
        (some [9]) (Int64.ofNat 2))
      (StreamFile.pqforgeStreamOpenFile aead.aws
        (StreamFile.memoryFiles file) call.args) := by
  intro aead key frames ciphertext file call
  have sealed :
      SealedStream aead .aes256Gcm key [9] 2 [1, 2, 3] frames :=
    .dart (aead.backend_sealsAs .aes256Gcm key)
      (show [[1], [], [2, 3]].flatten = ([1, 2, 3] : Bytes) from rfl) rfl
  have appendsTag : aead.AppendsTag :=
    taggedAead_tidy.appendsTag.restricted _ _
  have chunks : blocks 2 ([1, 2, 3] : Bytes) = [[1, 2], [3]] := by
    rw [blocks_of_lt (by decide) (by decide), blocks_of_le (by decide)]
    rfl
  have long : 20 < frames.flatten.length := by
    rw [sealed.eq_frames (by decide) (by decide) few_blocks_of_three,
      StreamFormat.frames, chunks]
    have length :=
      @length_flatten_flaggedMap UInt8 UInt8
        (fun position last chunk =>
          aead.sealUnder (StreamFormat.frameNonce position last) [9]
            chunk)
        0 16 0 [[1, 2], [3]]
        fun index chunk _ =>
          appendsTag _ _ chunk (StreamFormat.length_frameNonce _ _)
    have counted :
        ([[1, 2], [3]] : List Bytes).flatten.length +
            ([[1, 2], [3]] : List Bytes).length * 16 =
          35 := rfl
    rw [counted, Nat.mul_zero, Nat.add_zero] at length
    rw [StreamFormat.framesOf, length]
    decide
  exact
    openers_refuse_truncated_stream appendsTag (by decide) (by decide)
      few_blocks_of_three
      (Aead.restricted_opensOnly _
        (Nat.lt_trans few_blocks_of_three (by decide)))
      sealed (aead.backend_opensAs .aes256Gcm key) aead.aws_sizes
      (aead.aws_opensAs .aes256Gcm key) long List.flatten_singleton rfl
      call (StreamFile.memoryCall_accepts _ _)
      (File.serves_whole ciphertext)

/-- What an opener shares with a stream of other parameters. -/
theorem genuineFront_of_other
    (appendsTag : aead.AppendsTag)
    (chunked : 0 < chunkSize)
    {openChunkSize : Nat}
    {openAd : Bytes}
    (other : openChunkSize ≠ chunkSize ∨ openAd ≠ ad) :
    let frames :=
      StreamFormat.frames
        (fun nonce chunk => aead.sealUnder nonce ad chunk)
        chunkSize plaintext
    genuineFront openAd ad
        (receivedFrames openChunkSize frames.flatten) frames =
      if openAd = ad ∧ plaintext.length ≤ min chunkSize openChunkSize then
        1
      else
        0 := by
  intro frames
  by_cases sameAd : openAd = ad
  · have otherSize : openChunkSize + 16 ≠ chunkSize + 16 := by
      have := other.resolve_right (not_not.mpr sameAd)
      omega
    rw [genuineFront, if_pos sameAd,
      (StreamFormat.framed_sealed appendsTag chunked).sharedFront_resized
        (by omega) otherSize]
    simp only [StreamFormat.flatten_le_iff appendsTag chunked, sameAd,
      true_and]
  · rw [genuineFront, if_neg sameAd, if_neg fun both => sameAd both.1]

/--
A sealed stream that is opened with another chunk size or other associated data
is read where it is one frame for both sizes and the data are the same.  In all
other cases both openers release nothing and find it not authentic.
-/
theorem openers_with_other_parameters
    (appendsTag : aead.AppendsTag)
    (chunked : 0 < chunkSize)
    (small : chunkSize < 2 ^ 63)
    (few : (blocks chunkSize plaintext).length < 2 ^ 63)
    (only : aead.OpensOnly ad (blocks chunkSize plaintext))
    {frames : List Bytes}
    (sealed :
      SealedStream aead algorithm key ad chunkSize plaintext frames)
    {backend : PqForgeBackend}
    (dartOpens : backend.OpensAs algorithm key aead)
    {aws : AwsLc}
    (sizes : aws.Sizes)
    (nativeOpens : aws.OpensAs algorithm key aead)
    {openChunkSize : Nat}
    (positive : 0 < openChunkSize)
    (limited : openChunkSize + 16 ≤ 2 ^ 63 - 1)
    {openAd : Bytes}
    (other : openChunkSize ≠ chunkSize ∨ openAd ≠ ad)
    {source : List Bytes}
    (cuts : source.flatten = frames.flatten)
    {aad : Option Bytes}
    (associated : aad.getD [] = openAd)
    {files : StreamFile.FileSystem}
    (call :
      StreamFile.FileCall files algorithm key openAd
        (UInt64.ofNat openChunkSize))
    (accepts : call.writer.Accepts)
    (serves : call.file.Serves frames.flatten) :
    let dart :=
      PqForgeStream.«open» backend source key algorithm aad
        (Int64.ofNat openChunkSize)
    let native := StreamFile.pqforgeStreamOpenFile aws files call.args
    if openAd = ad ∧ plaintext.length ≤ min chunkSize openChunkSize then
      OpenersStopAt [plaintext] none dart native
    else
      emitted dart.log = [] ∧
        emitted native.log = [] ∧
        (∃ message,
          dart.outcome = .error (.ffi (.verificationFailed message))) ∧
        native.code = PqForgeStatus.authFailed.code := by
  intro dart native
  have stops :=
    openers_stopAt_front appendsTag few only dartOpens sizes nativeOpens
      positive limited cuts associated call accepts serves
  obtain rfl := sealed.eq_frames chunked small few
  have front :=
    @genuineFront_of_other aead ad chunkSize plaintext appendsTag chunked
      openChunkSize openAd other
  dsimp only at stops front
  rw [front] at stops
  split
  · rename_i readable
    have fits :=
      (@StreamFormat.flatten_le_iff aead ad chunkSize plaintext
        appendsTag chunked openChunkSize).mpr readable.2
    rw [if_pos readable, blocks_of_le (by omega), receivedFrames,
      blocks_of_le (Nat.le_trans fits (Nat.min_le_right _ _))] at stops
    exact stops
  · rename_i unreadable
    have enough :=
      @StreamFormat.le_length_flatten aead ad chunkSize plaintext
        appendsTag chunked
    rw [if_neg unreadable, receivedFrames,
      getElem?_blocks (by omega), if_pos (.inl rfl), Nat.zero_mul,
      List.drop_zero] at stops
    obtain ⟨thrown, returned⟩ :=
      stops.unauthentic _ rfl (by rw [List.length_take]; omega)
    exact
      ⟨stops.dartReleased, stops.nativeReleased, thrown, returned⟩

/-- Three bytes in chunks of two, opened as chunks of four. -/
theorem openers_with_other_parameters_of_three :
    let aead := taggedAead.restricted [9] (blocks 2 [1, 2, 3])
    let key : Bytes := List.replicate 32 7
    let frames :=
      emitted
        (PqForgeStream.«seal» aead.backend [[1], [], [2, 3]] key
          .aes256Gcm (some [9]) (Int64.ofNat 2)).log
    let file := File.whole frames.flatten
    let call :=
      StreamFile.memoryCall file .aes256Gcm key [9] (UInt64.ofNat 4)
        (by decide) (by decide)
    let dart :=
      PqForgeStream.«open» aead.backend [frames.flatten] key .aes256Gcm
        (some [9]) (Int64.ofNat 4)
    let native :=
      StreamFile.pqforgeStreamOpenFile aead.aws
        (StreamFile.memoryFiles file) call.args
    if ([9] : Bytes) = [9] ∧ ([1, 2, 3] : Bytes).length ≤ min 2 4 then
      OpenersStopAt [[1, 2, 3]] none dart native
    else
      emitted dart.log = [] ∧
        emitted native.log = [] ∧
        (∃ message,
          dart.outcome = .error (.ffi (.verificationFailed message))) ∧
        native.code = PqForgeStatus.authFailed.code := by
  intro aead key frames file call
  have sealed :
      SealedStream aead .aes256Gcm key [9] 2 [1, 2, 3] frames :=
    .dart (aead.backend_sealsAs .aes256Gcm key)
      (show [[1], [], [2, 3]].flatten = ([1, 2, 3] : Bytes) from rfl) rfl
  have associated : (some [9] : Option Bytes).getD [] = [9] := rfl
  have serves : call.file.Serves frames.flatten :=
    File.serves_whole frames.flatten
  exact
    openers_with_other_parameters
      (taggedAead_tidy.appendsTag.restricted _ _) (by decide) (by decide)
      few_blocks_of_three
      (Aead.restricted_opensOnly _
        (Nat.lt_trans few_blocks_of_three (by decide)))
      sealed
      (aead.backend_opensAs .aes256Gcm key) aead.aws_sizes
      (aead.aws_opensAs .aes256Gcm key) (show 0 < 4 by decide)
      (by decide) (.inl (by decide)) List.flatten_singleton associated call
      (StreamFile.memoryCall_accepts _ _) serves

end Tampering

end PqForgeFfi
