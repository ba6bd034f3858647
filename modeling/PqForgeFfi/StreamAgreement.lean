import PqForgeFfi.Segmentation.Agreement
import PqForgeFfi.StreamRoundTrip

namespace PqForgeFfi

open Segmentation

/-!
# Two openers, one verdict

Both openers treat the blocks of a ciphertext in order, so they agree on the
whole exactly when they agree on every block that the native one gets to.  On
the blocks before number `2^63` they always do.  From there on the counter of
the Dart opener is negative, its nonces are those of block `0`, and whether the
openers agree depends on what the AEAD makes of the wrong nonce.
-/

/--
A run of the Dart opener and one of the native opener agree: both succeed, or
both find the ciphertext malformed, or both find it not authentic, and they
hand on the same pieces.
-/
def OpenersAgree
    (dart : Trace StreamEvent DartThrow Unit)
    (native : StreamFile.NativeRun) : Prop :=
  (dart.outcome = .ok () ↔ native.code = PqForgeStatus.ok.code) ∧
    ((∃ message,
        dart.outcome = .error (.ffi (.invalidCiphertext message))) ↔
      native.code = PqForgeStatus.invalidCiphertext.code) ∧
    ((∃ message,
        dart.outcome = .error (.ffi (.verificationFailed message))) ↔
      native.code = PqForgeStatus.authFailed.code) ∧
    emitted dart.log = emitted native.log

/-- A Dart error and a native exit that mean the same to a caller. -/
def SameRefusal : DartThrow → Exit → Prop
  | .ffi (.invalidCiphertext _), exit =>
      exit.status = .invalidCiphertext
  | .ffi (.verificationFailed _), exit =>
      exit.status = .authFailed
  | _, _ => False

/-- The two errors that are documented for the Dart opener. -/
def RefusesStream (thrown : DartThrow) : Prop :=
  (∃ message, thrown = .ffi (.invalidCiphertext message)) ∨
    ∃ message, thrown = .ffi (.verificationFailed message)

section Runs

variable {dart : Trace StreamEvent DartThrow Unit}
variable {native : StreamFile.NativeRun}
variable {dartRun : Trace Bytes DartThrow Unit}
variable {nativeRun : Trace Bytes Exit Unit}

/-- The openers agree exactly when what they hand on agrees. -/
theorem openersAgree_iff_agree
    (dartObserved : dart.observe StreamEvent.emitted? = dartRun)
    (dartRefuses : dartRun.FailsAs RefusesStream)
    (nativeCode :
      native.code =
        (StreamFile.endStatus
          (nativeRun.outcome.map fun _ => PqForgeStatus.ok)).code)
    (nativeFails : nativeRun.FailsAs Exit.IsFailure)
    (nativeLog : emitted native.log = nativeRun.log) :
    OpenersAgree dart native ↔ Agree SameRefusal dartRun nativeRun := by
  subst dartObserved
  have dartEnds :
      (dart.observe StreamEvent.emitted?).outcome = dart.outcome := rfl
  rw [OpenersAgree, Agree, nativeCode, nativeLog, dartEnds]
  simp only [PqForgeStatus.code_inj]
  constructor
  · rintro ⟨completes, malformed, refused, sameLog⟩
    refine ⟨sameLog, ?_⟩
    cases nativeEnd : nativeRun.outcome with
    | ok result =>
        rw [nativeEnd] at completes
        rw [completes.mpr rfl]
        trivial
    | error exit =>
        rw [nativeEnd] at completes malformed refused
        cases dartEnd : dart.outcome with
        | ok result =>
            exact nativeFails exit nativeEnd (completes.mp dartEnd)
        | error thrown =>
            rcases dartRefuses thrown dartEnd with
                ⟨message, rfl⟩ | ⟨message, rfl⟩
            · exact malformed.mp ⟨message, dartEnd⟩
            · exact refused.mp ⟨message, dartEnd⟩
  · rintro ⟨sameLog, sameEnd⟩
    cases dartEnd : dart.outcome with
    | ok result =>
        cases nativeEnd : nativeRun.outcome with
        | ok other =>
            refine ⟨?_, ?_, ?_, sameLog⟩ <;>
              simp [Except.map, StreamFile.endStatus]
        | error exit =>
            rw [dartEnd, nativeEnd] at sameEnd
            exact sameEnd.elim
    | error thrown =>
        cases nativeEnd : nativeRun.outcome with
        | ok other =>
            rw [dartEnd, nativeEnd] at sameEnd
            exact sameEnd.elim
        | error exit =>
            rw [dartEnd, nativeEnd] at sameEnd
            rcases dartRefuses thrown dartEnd with
                ⟨message, rfl⟩ | ⟨message, rfl⟩ <;>
              have status : exit.status = _ := sameEnd <;>
              refine ⟨?_, ?_, ?_, sameLog⟩ <;>
              simp [Except.map, StreamFile.endStatus, status]

end Runs

section Positions

variable {aead : Aead}
variable {algorithm : PqAeadAlgorithm}
variable {key ad : Bytes}
variable {chunkSize : Nat}

/-- The Dart opener hands on what the AEAD opens under the nonce it builds. -/
theorem PqForgeStream.openAt_of_opens
    {call : PqForgeStream.StreamCall}
    (opens : call.backend.OpensAs call.algorithm call.key aead)
    (position : Nat)
    (last : Bool)
    {frame : Bytes}
    (long : 16 ≤ frame.length) :
    match aead.openUnder (positionNonce position last) call.ad frame with
    | some chunk => openAt call position last frame = .record chunk
    | none =>
        ∃ message,
          openAt call position last frame =
            .fail (.ffi (.verificationFailed message)) := by
  have nonceLength := length_positionNonce position last
  rw [openAt_of_long call position fun _ => long]
  cases opened :
      aead.openUnder (positionNonce position last) call.ad frame with
  | some chunk =>
      dsimp only
      rw [opens.accepts _ _ _ _ nonceLength long opened]
      rfl
  | none =>
      obtain ⟨message, refused⟩ :=
        opens.refuses _ _ call.ad nonceLength long opened
      dsimp only
      rw [refused]
      exact ⟨message, rfl⟩

/-- The Dart opener ends with the two documented errors on every frame. -/
theorem PqForgeStream.openAt_failsAs
    {call : PqForgeStream.StreamCall}
    (opens : call.backend.OpensAs call.algorithm call.key aead)
    (position : Nat)
    {last : Bool}
    {frame : Bytes}
    (long : last = false → 16 ≤ frame.length) :
    (openAt call position last frame).FailsAs RefusesStream := by
  by_cases short : frame.length < 16
  · obtain rfl : last = true := by
      by_contra notLast
      exact absurd (long (Bool.eq_false_iff.mpr notLast)) (by omega)
    obtain ⟨message, refused⟩ := openAt_of_short call position short
    rw [refused]
    exact Trace.failsAs_fail (.inl ⟨message, rfl⟩)
  · have acts := openAt_of_opens opens position last (Nat.le_of_not_lt short)
    split at acts
    · rw [acts]
      intro thrown failed
      cases failed
    · obtain ⟨message, refused⟩ := acts
      rw [refused]
      exact Trace.failsAs_fail (.inr ⟨message, rfl⟩)

/-- What the native opener ends with when the frame counter is used up. -/
def StreamFile.counterExit : Exit :=
  .failed (.internal "frame counter overflow")

/--
The native opener hands on one chunk of a frame, or fails, or hands the chunk
on and has no counter for a further frame.
-/
theorem StreamFile.openAt_cases
    (aws : AwsLc)
    {job : StreamJob}
    (accepts : job.writer.Accepts)
    (position : Nat)
    (last : Bool)
    (frame : Bytes) :
    (∃ chunk, openAt aws job position last frame = .record chunk) ∨
      (∃ exit,
        exit.IsFailure ∧ openAt aws job position last frame = .fail exit) ∨
        ∃ chunk,
          openAt aws job position last frame =
            ⟨[chunk], .error counterExit⟩ := by
  by_cases short : frame.length < 16
  · right; left
    refine ⟨.returned .invalidCiphertext, (fun isOk => by cases isOk), ?_⟩
    rw [openAt, openAct_of_short position last short]
    rfl
  · rw [openAt, openAct, tagLen, if_neg short, openFrame]
    cases aws.tryAssumeUniqueForKey
        (streamNonce (UInt64.ofNat position) last) with
    | none =>
        exact .inr (.inl
          ⟨.failed (.internal "nonce"), (fun isOk => by cases isOk), rfl⟩)
    | some nonce =>
        dsimp only
        rw [Trace.observe_bind, Trace.observe_mapError,
          aeadCall_writeAll_observe accepts, nextCounter]
        cases aws.openInPlace job.key.algorithm job.key.key nonce job.ad
            frame with
        | none =>
            exact .inr (.inl
              ⟨.returned .authFailed, (fun isOk => by cases isOk), rfl⟩)
        | some chunk =>
            by_cases room : (UInt64.ofNat position).toNat + 1 < 2 ^ 64
            · rw [if_pos room]
              exact .inl ⟨chunk, rfl⟩
            · rw [if_neg room]
              exact .inr (.inr ⟨chunk, rfl⟩)

/-- Within the counter the native opener hands on what the AEAD opens. -/
theorem StreamFile.openAt_of_opens
    {aws : AwsLc}
    (sizes : aws.Sizes)
    {job : StreamJob}
    (accepts : job.writer.Accepts)
    (opens : aws.OpensAs job.key.algorithm job.key.key aead)
    {position : Nat}
    (inRange : position < 2 ^ 64)
    (last : Bool)
    {frame : Bytes}
    (long : 16 ≤ frame.length) :
    openAt aws job position last frame =
      match
        aead.openUnder (StreamFormat.frameNonce position last) job.ad
          frame with
      | none => .fail (.returned .authFailed)
      | some chunk =>
          if position + 1 < 2 ^ 64 then
            .record chunk
          else
            ⟨[chunk], .error counterExit⟩ := by
  have nonceLength := StreamFormat.length_frameNonce position last
  have value : (UInt64.ofNat position).toNat = position := by
    rw [UInt64.toNat_ofNat']
    omega
  rw [openAt, openAct, tagLen, if_neg (Nat.not_lt_of_le long), openFrame,
    streamNonce_ofNat inRange, sizes.tryAssumeUniqueForKey nonceLength]
  dsimp only
  rw [Trace.observe_bind, Trace.observe_mapError,
    aeadCall_writeAll_observe accepts, nextCounter, value,
    opens _ _ _ nonceLength long]
  cases aead.openUnder (StreamFormat.frameNonce position last) job.ad
      frame with
  | none =>
      rfl
  | some chunk =>
      dsimp only
      split <;> rfl

/-- From number `2^63` on the counter of the Dart opener is negative. -/
theorem PqForgeStream.positionNonce_wrapped
    {position : Nat}
    (wraps : 2 ^ 63 ≤ position)
    (inRange : position < 2 ^ 64)
    (last : Bool) :
    positionNonce position last = StreamFormat.frameNonce 0 last := by
  refine nonce_of_negative ?_ last
  have size : (Int64.size : Int) = 2 ^ 64 := rfl
  rw [Int64.toInt_ofNat', Int.bmod_def, size]
  split <;> omega

/--
Beyond the Dart counter a frame opens under the nonce of frame `0` as it does
under its own, and does not open where no counter follows.
-/
def Aead.OpensAlikeAt
    (aead : Aead)
    (ad : Bytes)
    (position : Nat)
    (last : Bool)
    (frame : Bytes) : Prop :=
  2 ^ 63 ≤ position →
  16 ≤ frame.length →
  aead.openUnder (StreamFormat.frameNonce 0 last) ad frame =
      aead.openUnder (StreamFormat.frameNonce position last) ad frame ∧
    (position + 1 = 2 ^ 64 →
      aead.openUnder (StreamFormat.frameNonce position last) ad frame =
        none)

/--
What the Dart opener hands on of one answer of the AEAD agrees with what the
native one hands on of another exactly when the answers are the same, and
nothing opened where no counter follows.
-/
theorem agree_answers_iff
    {wrong own : Option Bytes}
    {dart : Trace Bytes DartThrow Unit}
    {room : Prop}
    [Decidable room]
    (dartActs :
      match wrong with
      | some chunk => dart = .record chunk
      | none =>
          ∃ message, dart = .fail (.ffi (.verificationFailed message))) :
    Agree SameRefusal dart
        (match own with
        | none => .fail (.returned .authFailed)
        | some chunk =>
            if room then
              .record chunk
            else
              ⟨[chunk], .error StreamFile.counterExit⟩) ↔
      wrong = own ∧ (¬ room → own = none) := by
  cases wrong with
  | none =>
      obtain ⟨message, rfl⟩ := dartActs
      cases own with
      | none =>
          exact ⟨fun _ => ⟨rfl, fun _ => rfl⟩, fun _ => ⟨rfl, rfl⟩⟩
      | some chunk =>
          by_cases fits : room <;> simp [fits, Agree]
  | some piece =>
      subst dartActs
      cases own with
      | none =>
          simp [Agree]
      | some chunk =>
          by_cases fits : room <;> simp [fits, Agree]

/-- The two openers agree on a frame exactly when it opens alike. -/
theorem openAt_agree_iff
    {dartCall : PqForgeStream.StreamCall}
    (dartOpens :
      dartCall.backend.OpensAs dartCall.algorithm dartCall.key aead)
    {aws : AwsLc}
    (sizes : aws.Sizes)
    {job : StreamFile.StreamJob}
    (nativeOpens : aws.OpensAs job.key.algorithm job.key.key aead)
    (accepts : job.writer.Accepts)
    (sameAd : job.ad = dartCall.ad)
    {position : Nat}
    (inRange : position < 2 ^ 64)
    {last : Bool}
    {frame : Bytes}
    (long : last = false → 16 ≤ frame.length) :
    Agree SameRefusal
        (PqForgeStream.openAt dartCall position last frame)
        (StreamFile.openAt aws job position last frame) ↔
      aead.OpensAlikeAt dartCall.ad position last frame := by
  by_cases short : frame.length < 16
  · obtain rfl : last = true := by
      by_contra notLast
      exact absurd (long (Bool.eq_false_iff.mpr notLast)) (by omega)
    obtain ⟨message, refused⟩ :=
      PqForgeStream.openAt_of_short dartCall position short
    rw [refused, StreamFile.openAt,
      StreamFile.openAct_of_short position true short]
    exact ⟨fun _ _ long => absurd long (by omega), fun _ => ⟨rfl, rfl⟩⟩
  · have longEnough : 16 ≤ frame.length := by
      omega
    have dartActs :=
      PqForgeStream.openAt_of_opens dartOpens position last longEnough
    rw [StreamFile.openAt_of_opens sizes accepts nativeOpens inRange last
      longEnough, sameAd, Aead.OpensAlikeAt]
    refine (agree_answers_iff dartActs).trans ?_
    by_cases wraps : 2 ^ 63 ≤ position
    · rw [PqForgeStream.positionNonce_wrapped wraps inRange]
      have full : ¬ position + 1 < 2 ^ 64 ↔ position + 1 = 2 ^ 64 := by
        omega
      simp only [full, wraps, longEnough, forall_const]
    · have room : position + 1 < 2 ^ 64 := by
        omega
      rw [PqForgeStream.positionNonce,
        PqForgeStream.nonce_of_lt (by omega)]
      simp only [room, wraps, not_true, false_implies, true_and]

/-- Every frame before a number opens under its own nonce. -/
def Aead.OpensUpTo
    (aead : Aead)
    (ad : Bytes)
    (frames : List Bytes)
    (index : Nat) : Prop :=
  ∀ earlier frame,
    earlier < index →
    frames[earlier]? = some frame →
    aead.openUnder (StreamFormat.frameNonce earlier false) ad frame ≠ none

/--
Every frame that the native opener gets to opens alike, as far as a native
counter reaches.
-/
def Aead.OpensAlikeBeyondCounter
    (aead : Aead)
    (ad : Bytes)
    (frames : List Bytes) : Prop :=
  ∀ index frame,
    frames[index]? = some frame →
    index < 2 ^ 64 →
    aead.OpensUpTo ad frames index →
    aead.OpensAlikeAt ad index (decide (index + 1 = frames.length)) frame

/-- In a stream of at most `2^63` frames no frame is beyond the Dart counter. -/
theorem Aead.opensAlikeBeyondCounter_of_few
    {frames : List Bytes}
    (few : frames.length ≤ 2 ^ 63) :
    aead.OpensAlikeBeyondCounter ad frames := by
  intro index frame present _ _ beyond
  obtain ⟨inBounds, _⟩ := List.getElem?_eq_some_iff.mp present
  omega

end Positions

section Openers

variable {aead : Aead}
variable {algorithm : PqAeadAlgorithm}
variable {key ad : Bytes}
variable {chunkSize : Nat}
variable {backend : PqForgeBackend}
variable {aws : AwsLc}
variable {ciphertext : Bytes}

/-- A frame of a ciphertext that is not its last one can hold a tag. -/
theorem long_of_getElem?_blocks
    {index : Nat}
    {frame : Bytes}
    (present : (blocks (chunkSize + 16) ciphertext)[index]? = some frame)
    (notLast :
      decide (index + 1 =
        (blocks (chunkSize + 16) ciphertext).length) = false) :
    16 ≤ frame.length := by
  have full := length_of_getElem?_blocks present
    (of_decide_eq_false notLast)
  omega

/-- Within its counter the native opener gets as far as the frames open. -/
theorem reaches_iff_opensUpTo
    (sizes : aws.Sizes)
    {job : StreamFile.StreamJob}
    (accepts : job.writer.Accepts)
    (nativeOpens : aws.OpensAs job.key.algorithm job.key.key aead)
    {index : Nat}
    (inRange : index < 2 ^ 64)
    (present : index < (blocks (chunkSize + 16) ciphertext).length) :
    Reaches (StreamFile.openAt aws job) 0
        (blocks (chunkSize + 16) ciphertext) index ↔
      aead.OpensUpTo job.ad (blocks (chunkSize + 16) ciphertext)
        index := by
  refine forall_congr' fun earlier => forall_congr' fun frame =>
    forall_congr' fun before => forall_congr' fun found => ?_
  have long : 16 ≤ frame.length :=
    long_of_getElem?_blocks found (decide_eq_false (by omega))
  have room : earlier + 1 < 2 ^ 64 := by
    omega
  rw [Nat.zero_add,
    StreamFile.openAt_of_opens sizes accepts nativeOpens (by omega) false
      long]
  cases aead.openUnder (StreamFormat.frameNonce earlier false) job.ad
      frame with
  | none =>
      simp
  | some chunk =>
      dsimp only
      rw [if_pos room]
      simp

/-- The native opener never gets behind the last number of its counter. -/
theorem not_reaches_of_counter
    (sizes : aws.Sizes)
    {job : StreamFile.StreamJob}
    {frames : List Bytes}
    {index : Nat}
    (beyond : 2 ^ 64 ≤ index)
    (present : index < frames.length) :
    ¬ Reaches (StreamFile.openAt aws job) 0 frames index := by
  intro reaches
  have inBounds : 2 ^ 64 - 1 < frames.length := by
    omega
  have returned := reaches (2 ^ 64 - 1) frames[2 ^ 64 - 1] (by omega)
    (List.getElem?_eq_getElem inBounds)
  rw [Nat.zero_add] at returned
  have room :=
    (StreamFile.openAct_returned sizes (by decide) returned).1
  exact absurd room (by decide)

/--
The openers agree exactly when they agree on every frame that the native one
gets to.
-/
theorem openersAgree_iff_acts
    (dartOpens : backend.OpensAs algorithm key aead)
    (sizes : aws.Sizes)
    (positive : 0 < chunkSize)
    (small : chunkSize < 2 ^ 63)
    (limited : chunkSize + 16 ≤ 2 ^ 63 - 1)
    {source : List Bytes}
    (cuts : source.flatten = ciphertext)
    {aad : Option Bytes}
    (associated : aad.getD [] = ad)
    {files : StreamFile.FileSystem}
    (call :
      StreamFile.FileCall files algorithm key ad
        (UInt64.ofNat chunkSize))
    (accepts : call.writer.Accepts)
    (serves : call.file.Serves ciphertext) :
    let frames := blocks (chunkSize + 16) ciphertext
    OpenersAgree
        (PqForgeStream.«open» backend source key algorithm aad
          (Int64.ofNat chunkSize))
        (StreamFile.pqforgeStreamOpenFile aws files call.args) ↔
      ∀ index frame,
        frames[index]? = some frame →
        Reaches (StreamFile.openAt aws call.job) 0 frames index →
        Agree SameRefusal
          (PqForgeStream.openAt
            (PqForgeStream.StreamCall.ofNat backend algorithm key ad
              positive small)
            index (decide (index + 1 = frames.length)) frame)
          (StreamFile.openAt aws call.job index
            (decide (index + 1 = frames.length)) frame) := by
  have value : (UInt64.ofNat chunkSize).toNat = chunkSize := by
    rw [UInt64.toNat_ofNat']
    omega
  have allocatable :
      (UInt64.ofNat chunkSize).toNat + 16 ≤ isizeMax := by
    rw [value, isizeMax]
    omega
  have dartObserved := PqForgeStream.open_observe
    (PqForgeStream.StreamCall.bounded_ofNat backend algorithm key ad
      positive limited)
    aad associated source
  rw [PqForgeStream.StreamCall.frameSize,
    PqForgeStream.StreamCall.size_ofNat, cuts] at dartObserved
  obtain ⟨nativeCode, nativeLog⟩ :=
    StreamFile.pqforgeStreamOpenFile_serving sizes call accepts serves
      allocatable
  rw [value] at nativeCode nativeLog
  have nativeCases :=
    @StreamFile.openAt_cases aws call.job accepts
  refine
    (openersAgree_iff_agree dartObserved ?_ nativeCode ?_ nativeLog).trans
      ((agree_flaggedRun_iff (PqForgeStream.openAt_releases _) ?_).trans ?_)
  · exact flaggedRun_failsAs fun index frame present =>
      PqForgeStream.openAt_failsAs dartOpens _
        (long_of_getElem?_blocks present)
  · refine flaggedRun_failsAs fun index frame _ exit failed => ?_
    rcases nativeCases (0 + index) _ frame with
        ⟨chunk, released⟩ | ⟨other, isFailure, refused⟩ | ⟨chunk, broke⟩
    · rw [released] at failed
      cases failed
    · rw [refused] at failed
      cases failed
      exact isFailure
    · rw [broke] at failed
      cases failed
      exact Exit.isFailure_failed _
  · intro position last frame
    rcases nativeCases position last frame with
        released | ⟨exit, _, refused⟩ | ⟨chunk, broke⟩
    · exact .inl released
    · exact .inr (.inl ⟨exit, refused⟩)
    · refine .inr (.inr ⟨chunk, _, broke, fun thrown same => ?_⟩)
      unfold SameRefusal at same
      split at same <;> cases same
  · simp only [Nat.zero_add]

/--
The openers agree on every frame that the native one gets to exactly when the
frames beyond the Dart counter open alike.
-/
theorem acts_agree_iff
    {dartCall : PqForgeStream.StreamCall}
    (dartOpens :
      dartCall.backend.OpensAs dartCall.algorithm dartCall.key aead)
    (sizes : aws.Sizes)
    {job : StreamFile.StreamJob}
    (nativeOpens : aws.OpensAs job.key.algorithm job.key.key aead)
    (accepts : job.writer.Accepts)
    (sameAd : job.ad = dartCall.ad) :
    let frames := blocks (chunkSize + 16) ciphertext
    (∀ index frame,
      frames[index]? = some frame →
      Reaches (StreamFile.openAt aws job) 0 frames index →
      Agree SameRefusal
        (PqForgeStream.openAt dartCall index
          (decide (index + 1 = frames.length)) frame)
        (StreamFile.openAt aws job index
          (decide (index + 1 = frames.length)) frame)) ↔
      aead.OpensAlikeBeyondCounter dartCall.ad frames := by
  refine forall_congr' fun index => forall_congr' fun frame =>
    forall_congr' fun present => ?_
  obtain ⟨inBounds, _⟩ := List.getElem?_eq_some_iff.mp present
  by_cases inRange : index < 2 ^ 64
  · rw [reaches_iff_opensUpTo sizes accepts nativeOpens inRange inBounds,
      openAt_agree_iff dartOpens sizes nativeOpens accepts sameAd inRange
        (long_of_getElem?_blocks present), sameAd]
    exact ⟨fun alike _ => alike, fun alike => alike inRange⟩
  · have notReached :=
      @not_reaches_of_counter _ sizes job _ _
        (Nat.le_of_not_lt inRange) inBounds
    exact
      ⟨fun _ fits => absurd fits inRange,
        fun _ reaches => absurd reaches notReached⟩

/--
The two openers agree on a ciphertext exactly when its frames beyond the Dart
counter open alike.
-/
theorem openers_agree_iff
    (dartOpens : backend.OpensAs algorithm key aead)
    (sizes : aws.Sizes)
    (nativeOpens : aws.OpensAs algorithm key aead)
    (positive : 0 < chunkSize)
    (limited : chunkSize + 16 ≤ 2 ^ 63 - 1)
    {source : List Bytes}
    (cuts : source.flatten = ciphertext)
    {aad : Option Bytes}
    (associated : aad.getD [] = ad)
    {files : StreamFile.FileSystem}
    (call :
      StreamFile.FileCall files algorithm key ad
        (UInt64.ofNat chunkSize))
    (accepts : call.writer.Accepts)
    (serves : call.file.Serves ciphertext) :
    OpenersAgree
        (PqForgeStream.«open» backend source key algorithm aad
          (Int64.ofNat chunkSize))
        (StreamFile.pqforgeStreamOpenFile aws files call.args) ↔
      aead.OpensAlikeBeyondCounter ad
        (blocks (chunkSize + 16) ciphertext) := by
  have small : chunkSize < 2 ^ 63 := by
    omega
  have acts := openersAgree_iff_acts dartOpens sizes positive small limited
    cuts associated call accepts serves
  exact acts.trans (acts_agree_iff dartOpens sizes nativeOpens accepts rfl)

/-- A file that delivers the frames of the format one by one serves them. -/
theorem serves_frames
    (appendsTag : aead.AppendsTag)
    (chunkSize : Nat)
    (plaintext : Bytes) :
    let frames :=
      StreamFormat.frames
        (fun nonce chunk => aead.sealUnder nonce ad chunk)
        chunkSize plaintext
    File.Serves (frames.map .ok) frames.flatten := by
  refine ⟨_, fun piece member isEmpty => ?_, rfl, rfl⟩
  obtain ⟨index, present⟩ := List.getElem?_of_mem member
  rw [StreamFormat.frames, StreamFormat.framesOf, getElem?_flaggedMap]
    at present
  obtain ⟨chunk, _, shape⟩ := Option.map_eq_some_iff.mp present
  have length := congrArg List.length shape
  rw [appendsTag _ _ _ (StreamFormat.length_frameNonce _ _), isEmpty]
    at length
  cases length

/--
Two frames that the format makes of three bytes, cut within the first frame for
the Dart opener and behind it for the native one.
-/
theorem openers_agree_on_three_bytes :
    let key : Bytes := List.replicate 32 7
    let frames :=
      StreamFormat.frames
        (fun nonce chunk => taggedAead.sealUnder nonce [] chunk)
        2 [1, 2, 3]
    let file : File := frames.map .ok
    let call :=
      StreamFile.memoryCall file .chaCha20Poly1305 key []
        (UInt64.ofNat 2) (by decide) (by decide)
    OpenersAgree
      (PqForgeStream.«open» taggedAead.backend
        [frames.flatten.take 5, [], frames.flatten.drop 5] key
        .chaCha20Poly1305 none (Int64.ofNat 2))
      (StreamFile.pqforgeStreamOpenFile taggedAead.aws
        (StreamFile.memoryFiles file) call.args) := by
  intro key frames file call
  have blocked : blocks (2 + 16) frames.flatten = frames :=
    StreamFormat.blocks_frames taggedAead_tidy.appendsTag (by decide) _
  have few : frames.length ≤ 2 ^ 63 := by
    rw [StreamFormat.length_frames]
    exact Nat.le_trans
      (length_blocks_le (by decide)
        (show ([1, 2, 3] : Bytes).length ≤ (1 + 1) * 2 by decide))
      (by decide)
  have cuts :
      [frames.flatten.take 5, [], frames.flatten.drop 5].flatten =
        frames.flatten := by
    simp
  have serves : call.file.Serves frames.flatten :=
    StreamFile.memoryCall_serves _ _
      (serves_frames taggedAead_tidy.appendsTag 2 _)
  have positive : 0 < 2 := by
    decide
  have limited : 2 + 16 ≤ 2 ^ 63 - 1 := by
    decide
  have associated : (none : Option Bytes).getD [] = [] := rfl
  refine
    (openers_agree_iff
      (taggedAead.backend_opensAs .chaCha20Poly1305 key)
      taggedAead.aws_sizes
      (taggedAead.aws_opensAs .chaCha20Poly1305 key)
      positive limited cuts associated call
      (StreamFile.memoryCall_accepts _ _) serves).mpr ?_
  rw [blocked]
  exact Aead.opensAlikeBeyondCounter_of_few few

end Openers

/-! ## Beyond the Dart counter -/

/--
A stream of chunks of one byte, sealed by `taggedAead` as the format wants it,
with a given number of frames before the last one.
-/
def taggedFrames (count : Nat) : List Bytes :=
  StreamFormat.frames
    (fun nonce chunk => taggedAead.sealUnder nonce [] chunk)
    1 (List.replicate (count + 1) 7)

theorem getElem?_taggedFrames
    {count index : Nat}
    (inBounds : index ≤ count) :
    (taggedFrames count)[index]? =
      some
        (taggedAead.sealUnder
          (StreamFormat.frameNonce index
            (decide (index + 1 = (taggedFrames count).length)))
          [] [7]) := by
  have chunkHere :
      ((List.replicate (count + 1) (7 : UInt8)).drop (index * 1)).take 1 =
        [7] := by
    rw [List.drop_replicate, List.take_replicate,
      show min 1 (count + 1 - index * 1) = 1 by omega]
    rfl
  rw [taggedFrames, StreamFormat.getElem?_frames _ (by decide),
    if_pos (.inr (by rw [List.length_replicate]; omega)), chunkHere,
    StreamFormat.length_frames]

theorem length_taggedFrames (count : Nat) :
    (taggedFrames count).length = count + 1 := by
  have atLeast : count < (taggedFrames count).length := by
    obtain ⟨inBounds, _⟩ := List.getElem?_eq_some_iff.mp
      (getElem?_taggedFrames (Nat.le_refl count))
    exact inBounds
  have atMost : (taggedFrames count).length ≤ count + 1 := by
    rw [taggedFrames, StreamFormat.length_frames]
    refine length_blocks_le (by decide) ?_
    rw [List.length_replicate]
    omega
  omega

/-- A frame sealed by `taggedAead` opens under no nonce with another tag. -/
theorem taggedAead_refuses
    {nonce other : Bytes}
    (different : nonceTag other ≠ nonceTag nonce)
    (chunk : Bytes) :
    taggedAead.openUnder nonce [] (taggedAead.sealUnder other [] chunk) =
      none := by
  have front :
      (chunk ++ nonceTag other).length - 16 = chunk.length := by
    rw [List.length_append, length_nonceTag, Nat.add_sub_cancel]
  simp only [taggedAead, front, List.drop_left]
  exact if_neg different

/-- Frame `2^63` of a genuine stream does not open under a wrapped nonce. -/
theorem taggedFrames_not_alike
    {count : Nat}
    (wraps : count = 2 ^ 63) :
    ¬ taggedAead.OpensAlikeBeyondCounter [] (taggedFrames count) := by
  intro alike
  have present := getElem?_taggedFrames (Nat.le_refl count)
  rw [length_taggedFrames, decide_eq_true rfl] at present
  have opens : taggedAead.OpensUpTo [] (taggedFrames count) count := by
    intro earlier frame before found
    rw [getElem?_taggedFrames (Nat.le_of_lt before), length_taggedFrames,
      decide_eq_false (by omega)] at found
    cases found
    rw [taggedAead_tidy.opens _ _ _ (StreamFormat.length_frameNonce _ _)]
    exact Option.some_ne_none _
  have same := alike count _ present (by omega) opens (by omega) (by
    rw [taggedAead_tidy.appendsTag _ _ _
      (StreamFormat.length_frameNonce _ _)]
    exact Nat.le_add_left 16 _)
  rw [length_taggedFrames, decide_eq_true rfl,
    taggedAead_tidy.opens _ _ _ (StreamFormat.length_frameNonce _ _),
    taggedAead_refuses (wraps ▸ by decide)] at same
  cases same.1

/--
A stream of `2^63 + 1` frames that was sealed as the format wants it is opened
by the native opener to all its chunks, and not by the Dart opener.
-/
theorem openers_disagree_beyond_counter :
    let aead := taggedAead
    let key : Bytes := List.replicate 32 7
    let frames := taggedFrames (2 ^ 63)
    let file : File := frames.map .ok
    let call :=
      StreamFile.memoryCall file .aes256Gcm key [] (UInt64.ofNat 1)
        (by decide) (by decide)
    aead.backend.OpensAs .aes256Gcm key aead ∧
      aead.aws.Sizes ∧
      aead.aws.OpensAs .aes256Gcm key aead ∧
      call.writer.Accepts ∧
      call.file.Serves frames.flatten ∧
      (StreamFile.pqforgeStreamOpenFile aead.aws
        (StreamFile.memoryFiles file) call.args).code =
          PqForgeStatus.ok.code ∧
      ¬ OpenersAgree
        (PqForgeStream.«open» aead.backend frames key .aes256Gcm none
          (Int64.ofNat 1))
        (StreamFile.pqforgeStreamOpenFile aead.aws
          (StreamFile.memoryFiles file) call.args) := by
  intro aead key frames file call
  have dartOpens := taggedAead.backend_opensAs .aes256Gcm key
  have nativeOpens := taggedAead.aws_opensAs .aes256Gcm key
  have accepts : call.writer.Accepts := StreamFile.memoryCall_accepts _ _
  have serves : call.file.Serves frames.flatten :=
    StreamFile.memoryCall_serves _ _
      (serves_frames taggedAead_tidy.appendsTag 1 _)
  have few :
      (blocks 1 (List.replicate (2 ^ 63 + 1) (7 : UInt8))).length <
        2 ^ 64 := by
    have count := length_taggedFrames (2 ^ 63)
    rw [taggedFrames, StreamFormat.length_frames] at count
    rw [count]
    decide
  refine
    ⟨dartOpens, taggedAead.aws_sizes, nativeOpens, accepts, serves,
      (StreamFile.open_frames taggedAead.aws_sizes
        taggedAead_tidy.appendsTag
        (taggedAead_tidy.aws_opensSealed .aes256Gcm key)
        (by decide) (by decide) few call accepts serves).1,
      fun agree => ?_⟩
  have positive : 0 < 1 := by
    decide
  have small : 1 < 2 ^ 63 := by
    decide
  have limited : 1 + 16 ≤ 2 ^ 63 - 1 := by
    decide
  have associated : (none : Option Bytes).getD [] = [] := rfl
  have acts :=
    (openersAgree_iff_acts dartOpens taggedAead.aws_sizes positive small
      limited rfl associated call accepts serves).mp agree
  have alike :=
    (acts_agree_iff dartOpens taggedAead.aws_sizes nativeOpens accepts
      rfl).mp acts
  have blocked : blocks (1 + 16) frames.flatten = frames :=
    StreamFormat.blocks_frames taggedAead_tidy.appendsTag (by decide) _
  rw [blocked] at alike
  exact taggedFrames_not_alike rfl alike

end PqForgeFfi
