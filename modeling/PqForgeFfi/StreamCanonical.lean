import PqForgeFfi.StreamRoundTrip

namespace PqForgeFfi

open Segmentation

/-!
# What the openers accept

Over a tidy AEAD an accepted ciphertext consists of the sealings of the chunks
that were handed on.  Whether sealing their concatenation again gives that same
ciphertext depends only on how the ciphertext ends, and beyond `2^63` frames on
whether the wrapped Dart counter makes a difference.
-/

namespace Aead

/-- The sealing of chunks at their positions, for a sequence of nonces. -/
def sealAt
    (aead : Aead)
    (nonceAt : Nat → Bool → Bytes)
    (ad : Bytes)
    (position : Nat)
    (last : Bool)
    (chunk : Bytes) :
    Bytes :=
  aead.sealUnder (nonceAt position last) ad chunk

/-- The opening of frames at their positions, for a sequence of nonces. -/
def openAt
    (aead : Aead)
    (nonceAt : Nat → Bool → Bytes)
    (ad : Bytes)
    (position : Nat)
    (last : Bool)
    (frame : Bytes) :
    Bytes :=
  (aead.openUnder (nonceAt position last) ad frame).getD []

/-- Every frame opens at its position. -/
def OpensAll
    (aead : Aead)
    (nonceAt : Nat → Bool → Bytes)
    (ad : Bytes)
    (frames : List Bytes) : Prop :=
  ∀ index frame,
    frames[index]? = some frame →
    let last := decide (index + 1 = frames.length)
    aead.openUnder (nonceAt index last) ad frame =
      some (aead.openAt nonceAt ad index last frame)

/-- Every frame opens alike at its position for two sequences of nonces. -/
def OpensAlike
    (aead : Aead)
    (nonceAt otherAt : Nat → Bool → Bytes)
    (ad : Bytes)
    (frames : List Bytes) : Prop :=
  ∀ index frame,
    frames[index]? = some frame →
    let last := decide (index + 1 = frames.length)
    aead.openUnder (nonceAt index last) ad frame =
      aead.openUnder (otherAt index last) ad frame

variable {aead : Aead}
variable {nonceAt otherAt : Nat → Bool → Bytes}
variable {ad : Bytes}
variable {frames : List Bytes}

theorem opensAlike_refl : aead.OpensAlike nonceAt nonceAt ad frames :=
  fun _ _ _ => rfl

/-- Sealing what was opened gives the frames again. -/
theorem Tidy.sealAt_openAt
    (tidy : aead.Tidy)
    (nonceLength : ∀ position last, (nonceAt position last).length = 12)
    (opens : aead.OpensAll nonceAt ad frames) :
    flaggedMap (aead.sealAt nonceAt ad) 0
        (flaggedMap (aead.openAt nonceAt ad) 0 frames) =
      frames := by
  refine flaggedMap_flaggedMap fun index frame present => ?_
  dsimp only
  rw [Nat.zero_add]
  exact
    (tidy.sealed _ ad frame _ (nonceLength index _)
      (opens index frame present)).symm

/-- Sealing what was opened for other nonces needs frames that open alike. -/
theorem Tidy.sealAt_openAt_iff
    (tidy : aead.Tidy)
    (nonceLength : ∀ position last, (nonceAt position last).length = 12)
    (opens : aead.OpensAll otherAt ad frames) :
    flaggedMap (aead.sealAt nonceAt ad) 0
          (flaggedMap (aead.openAt otherAt ad) 0 frames) =
        frames ↔
      aead.OpensAlike nonceAt otherAt ad frames := by
  constructor
  · intro same index frame present
    have here := congrArg (fun list => list[index]?) same
    simp only [getElem?_flaggedMap, length_flaggedMap, present,
      Option.map_some, Option.some.injEq, Nat.zero_add] at here
    dsimp only
    rw [opens index frame present]
    exact
      (congrArg (aead.openUnder _ ad) here.symm).trans
        (tidy.opens _ ad _ (nonceLength index _))
  · intro alike
    refine flaggedMap_flaggedMap fun index frame present => ?_
    dsimp only
    rw [Nat.zero_add]
    have opened :=
      (alike index frame present).trans (opens index frame present)
    exact (tidy.sealed _ ad frame _ (nonceLength index _) opened).symm

end Aead

namespace StreamFormat

/--
The ciphertext does not end in a bare tag behind full frames: it is at most one
frame, or its last frame holds at least one byte.
-/
def NoEmptyLastFrame
    (chunkSize : Nat)
    (ciphertext : Bytes) : Prop :=
  ciphertext.length ≤ chunkSize + 16 ∨
    ciphertext.length % (chunkSize + 16) ≠ 16

instance
    (chunkSize : Nat)
    (ciphertext : Bytes) :
    Decidable (NoEmptyLastFrame chunkSize ciphertext) :=
  inferInstanceAs (Decidable (_ ∨ _))

/--
When every frame of a ciphertext opens, sealing the whole plaintext for some
nonces gives that ciphertext exactly when it has no empty last frame and its
frames open alike for those nonces.
-/
theorem sealed_eq_iff
    {aead : Aead}
    (tidy : aead.Tidy)
    {nonceAt otherAt : Nat → Bool → Bytes}
    (nonceLength : ∀ position last, (nonceAt position last).length = 12)
    (otherLength : ∀ position last, (otherAt position last).length = 12)
    {ad : Bytes}
    {chunkSize : Nat}
    (positive : 0 < chunkSize)
    {ciphertext : Bytes}
    (opens :
      aead.OpensAll otherAt ad (blocks (chunkSize + 16) ciphertext))
    {plaintext : Bytes}
    (opened :
      plaintext =
        (flaggedMap (aead.openAt otherAt ad) 0
          (blocks (chunkSize + 16) ciphertext)).flatten) :
    (flaggedMap (aead.sealAt nonceAt ad) 0
          (blocks chunkSize plaintext)).flatten =
        ciphertext ↔
      NoEmptyLastFrame chunkSize ciphertext ∧
        aead.OpensAlike nonceAt otherAt ad
          (blocks (chunkSize + 16) ciphertext) := by
  have received := tidy.sealAt_openAt otherLength opens
  have alike := tidy.sealAt_openAt_iff nonceLength opens
  have otherLengthens : ∀ position last chunk,
      (aead.sealAt otherAt ad position last chunk).length =
        chunk.length + 16 :=
    fun position last chunk =>
      tidy.appendsTag _ ad chunk (otherLength position last)
  have lengthens : ∀ position last chunk,
      (aead.sealAt nonceAt ad position last chunk).length =
        chunk.length + 16 :=
    fun position last chunk =>
      tidy.appendsTag _ ad chunk (nonceLength position last)
  rw [opened,
    resealed_iff otherLengthens lengthens positive (by decide) received,
    received, alike]
  rfl

end StreamFormat

/-! ## Accepted ciphertexts -/

section Accepted

variable {aead : Aead}
variable {algorithm : PqAeadAlgorithm}
variable {key ad : Bytes}

/-- At a position where `open` goes on, the AEAD has opened the frame. -/
theorem PqForgeStream.openAt_returned
    {call : StreamCall}
    (opens : call.backend.OpensAs call.algorithm call.key aead)
    {position : Nat}
    {last : Bool}
    {frame : Bytes}
    (long : last = false → 16 ≤ frame.length)
    (returned : (openAt call position last frame).outcome = .ok ()) :
    aead.openUnder (positionNonce position last) call.ad frame =
        some (aead.openAt positionNonce call.ad position last frame) ∧
      (openAt call position last frame).log =
        [aead.openAt positionNonce call.ad position last frame] := by
  have nonceLength := length_positionNonce position last
  have enough : 16 ≤ frame.length := by
    by_contra short
    cases last with
    | false =>
        exact short (long rfl)
    | true =>
        obtain ⟨message, refused⟩ :=
          openAt_of_short call position (Nat.lt_of_not_le short)
        rw [refused] at returned
        cases returned
  rw [openAt_of_long call position fun _ => enough] at returned ⊢
  rw [Aead.openAt]
  cases answer :
      aead.openUnder (positionNonce position last) call.ad frame with
  | some chunk =>
      rw [opens.accepts _ _ _ _ nonceLength enough answer]
      exact ⟨rfl, rfl⟩
  | none =>
      obtain ⟨message, refused⟩ :=
        opens.refuses _ _ _ nonceLength enough answer
      rw [refused] at returned
      cases returned

/-- What `open` accepts opens frame by frame to what it hands on. -/
theorem PqForgeStream.open_accepted
    {backend : PqForgeBackend}
    (opens : backend.OpensAs algorithm key aead)
    {chunkSize : Nat}
    (positive : 0 < chunkSize)
    (limited : chunkSize + 16 ≤ 2 ^ 63 - 1)
    {source : List Bytes}
    {aad : Option Bytes}
    (associated : aad.getD [] = ad)
    (accepted :
      («open» backend source key algorithm aad
        (Int64.ofNat chunkSize)).outcome = .ok ()) :
    aead.OpensAll positionNonce ad
        (blocks (chunkSize + 16) source.flatten) ∧
      emitted
          («open» backend source key algorithm aad
            (Int64.ofNat chunkSize)).log =
        flaggedMap (aead.openAt positionNonce ad) 0
          (blocks (chunkSize + 16) source.flatten) := by
  have small : chunkSize < 2 ^ 63 := by
    omega
  have observed := open_observe
    (StreamCall.bounded_ofNat backend algorithm key ad positive limited)
    aad associated source
  rw [StreamCall.frameSize, StreamCall.size_ofNat] at observed
  have completed := congrArg Trace.outcome observed
  rw [Trace.observe_outcome] at completed
  replace completed := completed.symm.trans accepted
  have opened : ∀ index frame,
      (blocks (chunkSize + 16) source.flatten)[index]? = some frame →
      let last := decide
        (index + 1 = (blocks (chunkSize + 16) source.flatten).length)
      let call :=
        StreamCall.ofNat backend algorithm key ad positive small
      aead.openUnder (positionNonce index last) ad frame =
          some (aead.openAt positionNonce ad index last frame) ∧
        (openAt call index last frame).log =
          [aead.openAt positionNonce ad index last frame] := by
    intro index frame present
    have here := (flaggedRun_eq_ok completed).2 index frame present
    rw [Nat.zero_add] at here
    refine openAt_returned opens ?_ here
    intro notLast
    have full := length_of_getElem?_blocks present
      (of_decide_eq_false notLast)
    omega
  refine ⟨fun index frame present => (opened index frame present).1, ?_⟩
  refine (congrArg Trace.log observed).trans ?_
  refine List.filterMap_some.symm.trans ?_
  refine flaggedRun_shows completed fun index frame present _ => ?_
  rw [Nat.zero_add, List.filterMap_some]
  exact (opened index frame present).2

/-- What `pqforge_stream_open_file` found in the frames that it handed on. -/
structure StreamFile.HandedOn
    (aead : Aead)
    (ad : Bytes)
    (frames : List Bytes)
    (log : List StreamEvent) : Prop where
  few : frames.length < 2 ^ 64
  long : ∀ frame ∈ frames, 16 ≤ frame.length
  opens : aead.OpensAll StreamFormat.frameNonce ad frames
  pieces :
    emitted log = flaggedMap (aead.openAt StreamFormat.frameNonce ad) 0
      frames

/-- What `pqforge_stream_open_file` accepts opens to what it hands on. -/
theorem StreamFile.open_accepted
    {aws : AwsLc}
    (sizes : aws.Sizes)
    (opens : aws.OpensAs algorithm key aead)
    {files : FileSystem}
    {chunkSize : UInt64}
    (allocatable : chunkSize.toNat + 16 ≤ isizeMax)
    (call : FileCall files algorithm key ad chunkSize)
    {ciphertext : Bytes}
    (serves : call.file.Serves ciphertext)
    (accepted :
      (pqforgeStreamOpenFile aws files call.args).code =
        PqForgeStatus.ok.code) :
    HandedOn aead ad (blocks (chunkSize.toNat + 16) ciphertext)
      (pqforgeStreamOpenFile aws files call.args).log := by
  have small : chunkSize.toNat + 16 < 2 ^ 64 := by
    rw [isizeMax] at allocatable
    omega
  rw [pqforgeStreamOpenFile_eq sizes call, cipherChunk_toNat small]
    at accepted ⊢
  have completed :=
    exported_eq_ok (openBody_failsAs aws call.job _) accepted
  have served := openBody_serving aws call serves
    (Nat.le_add_left 16 _) allocatable
  have outcome := congrArg Trace.outcome served
  rw [Trace.observe_outcome, Trace.observe_outcome, completed]
    at outcome
  obtain ⟨_, returned, _, joined⟩ := Trace.bind_eq_ok outcome.symm
  have few := length_lt_of_counted
    (fun position last frame inRange acted =>
      (openAct_returned sizes inRange acted).1)
    returned
  have opened : ∀ index frame,
      (blocks (chunkSize.toNat + 16) ciphertext)[index]? = some frame →
      let last := decide
        (index + 1 = (blocks (chunkSize.toNat + 16) ciphertext).length)
      16 ≤ frame.length ∧
        aead.openUnder (StreamFormat.frameNonce index last) ad frame =
          some
            (aead.openAt StreamFormat.frameNonce ad index last frame) ∧
        emitted (openAct aws call.job index last frame).log =
          [aead.openAt StreamFormat.frameNonce ad index last frame] := by
    intro index frame present
    obtain ⟨inBounds, _⟩ := List.getElem?_eq_some_iff.mp present
    have here := (flaggedRun_eq_ok returned).2 index frame present
    rw [Nat.zero_add] at here
    obtain ⟨_, long, chunk, answer, log⟩ :=
      openAct_returned sizes (Nat.lt_trans inBounds few) here
    have underAead :=
      (opens _ ad frame (StreamFormat.length_frameNonce index _)
        long).symm.trans answer
    dsimp only
    rw [Aead.openAt, underAead, log]
    exact ⟨long, rfl, rfl⟩
  refine
    ⟨few, fun frame member => ?_,
      fun index frame present => (opened index frame present).2.1, ?_⟩
  · obtain ⟨index, present⟩ := List.mem_iff_getElem?.mp member
    exact (opened index frame present).1
  show emitted (openBody aws call.job (chunkSize.toNat + 16)).log = _
  rw [← emitted_produced, ← Trace.observe_log, served,
    Trace.observe_log, emitted_produced, joined, flush_log,
    List.append_nil]
  refine flaggedRun_shows returned fun index frame present _ => ?_
  rw [Nat.zero_add]
  exact (opened index frame present).2.2

end Accepted

/-! ## Resealing -/

section Resealing

variable {aead : Aead}
variable {algorithm : PqAeadAlgorithm}
variable {key ad : Bytes}
variable {chunkSize : Nat}

/-- Up to `2^63` frames the Dart counter makes no difference. -/
theorem opensAlike_of_few
    {frames : List Bytes}
    (few : frames.length ≤ 2 ^ 63) :
    aead.OpensAlike PqForgeStream.positionNonce StreamFormat.frameNonce
      ad frames := by
  intro index frame present
  obtain ⟨inBounds, _⟩ := List.getElem?_eq_some_iff.mp present
  dsimp only
  rw [PqForgeStream.positionNonce,
    PqForgeStream.nonce_of_lt (by omega)]

/--
Sealing what an opener accepted gives the ciphertext again exactly when that
does not end in an empty frame behind others; for the native opener its frames
must moreover open alike under the nonces of the Dart counter.
-/
theorem accepted_iff_no_empty_last_frame
    (tidy : aead.Tidy)
    {sealBackend openBackend : PqForgeBackend}
    (seals : sealBackend.SealsAs algorithm key aead)
    (dartOpens : openBackend.OpensAs algorithm key aead)
    {aws : AwsLc}
    (sizes : aws.Sizes)
    (nativeOpens : aws.OpensAs algorithm key aead)
    (positive : 0 < chunkSize)
    (limited : chunkSize + 16 ≤ 2 ^ 63 - 1)
    {ciphertext : Bytes}
    {source : List Bytes}
    (cuts : source.flatten = ciphertext)
    {sealAad openAad : Option Bytes}
    (sealAssociated : sealAad.getD [] = ad)
    (openAssociated : openAad.getD [] = ad)
    {files : StreamFile.FileSystem}
    (call :
      StreamFile.FileCall files algorithm key ad
        (UInt64.ofNat chunkSize))
    (serves : call.file.Serves ciphertext)
    (plainEvents : List Bytes) :
    let dart :=
      PqForgeStream.«open» openBackend source key algorithm openAad
        (Int64.ofNat chunkSize)
    let native := StreamFile.pqforgeStreamOpenFile aws files call.args
    let resealed :=
      (emitted
        (PqForgeStream.«seal» sealBackend plainEvents key algorithm
          sealAad (Int64.ofNat chunkSize)).log).flatten
    (dart.outcome = .ok () →
      plainEvents.flatten = (emitted dart.log).flatten →
      (resealed = ciphertext ↔
        StreamFormat.NoEmptyLastFrame chunkSize ciphertext)) ∧
    (native.code = PqForgeStatus.ok.code →
      plainEvents.flatten = (emitted native.log).flatten →
      (resealed = ciphertext ↔
        StreamFormat.NoEmptyLastFrame chunkSize ciphertext ∧
          aead.OpensAlike PqForgeStream.positionNonce
            StreamFormat.frameNonce ad
            (blocks (chunkSize + 16) ciphertext))) := by
  subst cuts
  have small : chunkSize < 2 ^ 63 := by
    omega
  have value : (UInt64.ofNat chunkSize).toNat = chunkSize := by
    rw [UInt64.toNat_ofNat']
    omega
  have resealedFrames := congrArg Trace.log
    (PqForgeStream.seal_observe
      (show (PqForgeStream.StreamCall.ofNat sealBackend algorithm key ad
        positive small).backend.SealsAs _ _ aead from seals)
      sealAad sealAssociated plainEvents)
  rw [PqForgeStream.StreamCall.size_ofNat] at resealedFrames
  replace resealedFrames := congrArg List.flatten resealedFrames
  refine ⟨?_, ?_⟩
  · intro accepted opened
    obtain ⟨opens, pieces⟩ := PqForgeStream.open_accepted
      dartOpens positive limited openAssociated accepted
    rw [pieces] at opened
    have iff := StreamFormat.sealed_eq_iff tidy
      PqForgeStream.length_positionNonce
      PqForgeStream.length_positionNonce positive opens opened
    rw [and_iff_left Aead.opensAlike_refl] at iff
    exact (Eq.congr_left resealedFrames).trans iff
  · intro accepted opened
    have allocatable :
        (UInt64.ofNat chunkSize).toNat + 16 ≤ isizeMax := by
      rw [value, isizeMax]
      omega
    obtain ⟨_, _, opens, pieces⟩ := StreamFile.open_accepted
      sizes nativeOpens allocatable call serves accepted
    rw [value] at opens pieces
    rw [pieces] at opened
    exact
      (Eq.congr_left resealedFrames).trans
        (StreamFormat.sealed_eq_iff tidy
          PqForgeStream.length_positionNonce
          StreamFormat.length_frameNonce positive opens opened)

end Resealing

/-- One full frame of one byte, and an empty last frame. -/
def emptyTail : Bytes :=
  (StreamFormat.framesOf
    (fun nonce chunk => taggedAead.sealUnder nonce [] chunk)
    [[7], []]).flatten

theorem blocks_emptyTail :
    blocks (1 + 16) emptyTail =
      StreamFormat.framesOf
        (fun nonce chunk => taggedAead.sealUnder nonce [] chunk)
        [[7], []] := by
  refine Framed.blocks_eq (by decide) ?_
  exact .cons _ _ rfl (by decide) (.last _ (by decide))

/-- The equivalence at such a ciphertext, cut into events in its last tag. -/
theorem accepted_iff_no_empty_last_frame_of_emptyTail :
    let key : Bytes := List.replicate 32 7
    let file := File.whole emptyTail
    let call :=
      StreamFile.memoryCall file .aes256Gcm key [] (UInt64.ofNat 1)
        (by decide) (by decide)
    let dart :=
      PqForgeStream.«open» taggedAead.backend
        [emptyTail.take 20, emptyTail.drop 20] key .aes256Gcm none
        (Int64.ofNat 1)
    let native :=
      StreamFile.pqforgeStreamOpenFile taggedAead.aws
        (StreamFile.memoryFiles file) call.args
    let resealed :=
      (emitted
        (PqForgeStream.«seal» taggedAead.backend [[7]] key .aes256Gcm
          (some []) (Int64.ofNat 1)).log).flatten
    (dart.outcome = .ok () →
      [[7]].flatten = (emitted dart.log).flatten →
      (resealed = emptyTail ↔
        StreamFormat.NoEmptyLastFrame 1 emptyTail)) ∧
    (native.code = PqForgeStatus.ok.code →
      [[7]].flatten = (emitted native.log).flatten →
      (resealed = emptyTail ↔
        StreamFormat.NoEmptyLastFrame 1 emptyTail ∧
          taggedAead.OpensAlike PqForgeStream.positionNonce
            StreamFormat.frameNonce [] (blocks (1 + 16) emptyTail))) := by
  have cuts : [emptyTail.take 20, emptyTail.drop 20].flatten =
      emptyTail := by
    simp
  exact
    accepted_iff_no_empty_last_frame taggedAead_tidy
      (taggedAead.backend_sealsAs .aes256Gcm (List.replicate 32 7))
      (taggedAead.backend_opensAs .aes256Gcm (List.replicate 32 7))
      taggedAead.aws_sizes
      (taggedAead.aws_opensAs .aes256Gcm (List.replicate 32 7))
      (by decide) (by decide) cuts rfl rfl _
      (StreamFile.memoryCall_serves _ _ (File.serves_whole emptyTail))
      [[7]]

/--
Both openers accept that ciphertext and hand on one byte, but sealing that byte
gives another ciphertext.
-/
theorem openers_accept_empty_last_frame :
    let key : Bytes := List.replicate 32 7
    let file := File.whole emptyTail
    let call :=
      StreamFile.memoryCall file .aes256Gcm key [] (UInt64.ofNat 1)
        (by decide) (by decide)
    let dart :=
      PqForgeStream.«open» taggedAead.backend [emptyTail] key .aes256Gcm
        none (Int64.ofNat 1)
    let native :=
      StreamFile.pqforgeStreamOpenFile taggedAead.aws
        (StreamFile.memoryFiles file) call.args
    let resealed :=
      emitted
        (PqForgeStream.«seal» taggedAead.backend [[7]] key .aes256Gcm none
          (Int64.ofNat 1)).log
    taggedAead.Tidy ∧
      (dart.outcome = .ok () ∧ (emitted dart.log).flatten = [7]) ∧
      (native.code = PqForgeStatus.ok.code ∧
        (emitted native.log).flatten = [7]) ∧
      resealed.flatten ≠ emptyTail := by
  have correct := taggedAead_tidy.toCorrect
  have single : [emptyTail].flatten = emptyTail :=
    List.flatten_singleton
  have dartFramed := blocks_emptyTail
  rw [← single] at dartFramed
  obtain ⟨dartOk, dartPieces⟩ := PqForgeStream.open_framesOf
    correct.appendsTag
    (correct.backend_opensSealed .aes256Gcm (List.replicate 32 7))
    Nat.one_pos (by decide) (by decide) dartFramed none rfl
  obtain ⟨nativeOk, nativePieces⟩ := StreamFile.open_framesOf
    taggedAead.aws_sizes correct.appendsTag
    (correct.aws_opensSealed .aes256Gcm (List.replicate 32 7))
    (by decide) (by decide)
    (StreamFile.memoryCall (File.whole emptyTail) .aes256Gcm
      (List.replicate 32 7) [] (UInt64.ofNat 1) (by decide) (by decide))
    (StreamFile.memoryCall_accepts _ _) (File.serves_whole emptyTail)
    blocks_emptyTail
  have oneChunk : blocks 1 ([[7]] : List Bytes).flatten = [[7]] :=
    blocks_of_le (by decide)
  obtain ⟨_, resealed⟩ := PqForgeStream.seal_frames
    (taggedAead.backend_sealsAs .aes256Gcm (List.replicate 32 7))
    Nat.one_pos (by decide) [[7]] (by rw [oneChunk]; decide) none rfl
  refine
    ⟨taggedAead_tidy, ⟨dartOk, congrArg List.flatten dartPieces⟩,
      ⟨nativeOk, congrArg List.flatten nativePieces⟩, ?_⟩
  rw [resealed, StreamFormat.frames, oneChunk]
  decide

end PqForgeFfi
