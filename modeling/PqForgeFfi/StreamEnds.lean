import PqForgeFfi.StreamRuns

namespace PqForgeFfi

open Segmentation

/-!
# How opening a stream can end

Both openers add the tag length to the chunk size in machine words.  Where the
sum fits, the Dart stream ends with a result or a documented exception; where
it wraps, the first event of the source ends the stream with a `RangeError`.
-/

namespace PqForgeStream

/-- The exceptions that the doc of `open` names. -/
def Documented : DartThrow → Prop
  | .ffi (.invalidCiphertext _) => True
  | .ffi (.verificationFailed _) => True
  | _ => False

/-- A run that completes, or throws what the doc names. -/
def EndsAsDocumented (run : Trace StreamEvent DartThrow Unit) : Prop :=
  run.outcome = .ok () ∨
    ∃ thrown, run.outcome = .error thrown ∧ Documented thrown

/-- A run that throws only what the doc names ends as documented. -/
theorem EndsAsDocumented.of_failsAs
    {run : Trace StreamEvent DartThrow Unit}
    (fails : run.FailsAs Documented) :
    EndsAsDocumented run := by
  cases ended : run.outcome with
  | ok result =>
      exact .inl ended
  | error thrown =>
      exact .inr ⟨thrown, ended, fails thrown ended⟩

/-- `aeadOpen` answers, or rejects a frame that can hold a tag. -/
def OpensOrRejects
    (backend : PqForgeBackend)
    (algorithm : PqAeadAlgorithm)
    (key : Bytes) : Prop :=
  ∀ nonce frame aad,
    nonce.length = 12 →
    16 ≤ frame.length →
    (∃ chunk,
      backend.aeadOpen algorithm key nonce frame aad = .ok chunk) ∨
    ∃ message,
      backend.aeadOpen algorithm key nonce frame aad =
        .error (.ffi (.verificationFailed message))

/-- Yielding what a frame holds throws only the rejection. -/
theorem yieldOpen_failsAs
    {call : StreamCall}
    (opens : OpensOrRejects call.backend call.algorithm call.key)
    {frame : Bytes}
    (long : 16 ≤ frame.length)
    (counter : Int64)
    (last : Bool) :
    (yieldOpen call frame counter last).FailsAs Documented := by
  refine .bind (.bind (fun _ failed => by cases failed) fun _ => ?_)
    fun _ _ failed => by cases failed
  rw [PqAeadAlgorithm.nonceBytes_eq]
  rcases opens (nonce counter last 12) frame call.ad
      (length_nonce _ _ _) long with
      ⟨chunk, answer⟩ | ⟨message, answer⟩
  · rw [answer]
    exact Trace.failsAs_done chunk
  · rw [answer]
    exact Trace.failsAs_fail trivial

/-- The final frame is refused as malformed or opened. -/
theorem openFinal_failsAs
    {call : StreamCall}
    (opens : OpensOrRejects call.backend call.algorithm call.key)
    (state : OpenState) :
    (openFinal call state).FailsAs Documented := by
  rw [openFinal]
  split
  · exact Trace.failsAs_fail trivial
  · split
    · exact Trace.failsAs_fail trivial
    · rename_i notShort
      rw [PqAeadAlgorithm.tagBytes_eq] at notShort
      exact yieldOpen_failsAs opens (Nat.le_of_not_lt notShort) _ true

/-- With frames of a size that fits an `int`, `open` ends as documented. -/
theorem open_endsAsDocumented
    {call : StreamCall}
    (opens : OpensOrRejects call.backend call.algorithm call.key)
    (bounded : call.Bounded)
    (aad : Option Bytes)
    (associated : aad.getD [] = call.ad)
    (source : List Bytes) :
    EndsAsDocumented
      («open» call.backend source call.key call.algorithm aad
        call.chunkSize) := by
  rw [open_eq_flaggedRun bounded aad associated source]
  refine .of_failsAs (flaggedRun_failsAs fun index frame present => ?_)
  rw [openAct]
  by_cases isLast :
      index + 1 = (blocks call.frameSize source.flatten).length
  · rw [if_pos (by simpa using isLast)]
    exact openFinal_failsAs opens _
  · have full : frame.length = call.frameSize :=
      length_of_getElem?_blocks present isLast
    have long : 16 ≤ frame.length := by
      rw [full, StreamCall.frameSize]
      exact Nat.le_add_left 16 _
    rw [if_neg (by simpa using isLast)]
    exact yieldOpen_failsAs opens long _ false

/-- A stream without events ends as documented. -/
theorem open_endsAsDocumented_of_no_events
    (call : StreamCall)
    (aad : Option Bytes) :
    EndsAsDocumented
      («open» call.backend [] call.key call.algorithm aad
        call.chunkSize) := by
  rw [«open», dif_pos call.positive]
  exact .inr ⟨_, rfl, trivial⟩

/-- The frame size is negative where it is not the true sum. -/
theorem cipherChunk_neg
    {call : StreamCall}
    (wraps : ¬ call.Bounded) :
    call.cipherChunk.toInt < 0 := by
  have limit : ¬ call.chunkSize.toInt ≤ 2 ^ 63 - 17 := wraps
  have largest := call.chunkSize.toInt_lt
  rw [call.cipherChunk_toInt, if_neg (by omega)]
  omega

/-- The frame size is the true sum exactly where that is an `int`. -/
theorem cipherChunk_eq_iff (call : StreamCall) :
    call.cipherChunk.toInt = call.chunkSize.toInt + 16 ↔
      call.Bounded := by
  constructor
  · intro trueSum
    by_contra wraps
    have negative := cipherChunk_neg wraps
    have positive := call.positive
    omega
  · intro bounded
    have limit : call.chunkSize.toInt ≤ 2 ^ 63 - 17 := bounded
    rw [call.cipherChunk_toInt, if_pos (by omega)]

/-- Where the frame size wraps, every event throws, an empty one too. -/
theorem openEvent_rangeError
    {call : StreamCall}
    (wraps : ¬ call.Bounded)
    (state : OpenState)
    (data : Bytes) :
    openEvent call state data =
      Trace.fail (.rangeError "Not in inclusive range") := by
  have negative := cipherChunk_neg wraps
  have entered :
      call.cipherChunk.toInt <
        ((concat state.carry data).length : Int) - 0 := by
    omega
  have outside :
      sublistView (concat state.carry data) 0
          (0 + call.cipherChunk.toInt) =
        .error (.rangeError "Not in inclusive range") := by
    rw [sublistView, if_neg (by omega)]
  rw [openEvent]
  dsimp only
  rw [openLoop, if_pos entered]
  split
  · rename_i thrown sliced
    rw [outside] at sliced
    cases sliced
    exact Trace.fail_bind _ _
  · rename_i frame sliced
    rw [outside] at sliced
    cases sliced

/-- Where the frame size wraps, the first event ends the stream. -/
theorem open_rangeError
    {call : StreamCall}
    (wraps : ¬ call.Bounded)
    (aad : Option Bytes)
    (associated : aad.getD [] = call.ad)
    (data : Bytes)
    (rest : List Bytes) :
    «open» call.backend (data :: rest) call.key call.algorithm aad
        call.chunkSize =
      Trace.fail (.rangeError "Not in inclusive range") := by
  rw [«open», dif_pos call.positive, associated]
  show openEvents call _ (data :: rest) >>= openFinal call = _
  rw [openEvents, openEvent_rangeError wraps, Trace.fail_bind,
    Trace.fail_bind]

/-- `open` ends as documented exactly for frames of an `int` size, or no events. -/
theorem open_endsAsDocumented_iff
    {call : StreamCall}
    (opens : OpensOrRejects call.backend call.algorithm call.key)
    (aad : Option Bytes)
    (associated : aad.getD [] = call.ad)
    (source : List Bytes) :
    EndsAsDocumented
        («open» call.backend source call.key call.algorithm aad
          call.chunkSize) ↔
      call.Bounded ∨ source = [] := by
  constructor
  · intro ends
    by_contra outside
    obtain ⟨wraps, someEvents⟩ := not_or.mp outside
    obtain ⟨data, rest, shape⟩ := List.exists_cons_of_ne_nil someEvents
    subst shape
    rw [open_rangeError wraps aad associated data rest] at ends
    rcases ends with completed | ⟨thrown, ended, documented⟩
    · cases completed
    · cases ended
      exact documented
  · rintro (bounded | rfl)
    · exact open_endsAsDocumented opens bounded aad associated source
    · exact open_endsAsDocumented_of_no_events call aad

end PqForgeStream

namespace StreamFile

/-- `chunk_size + TAG_LEN`. -/
def cipherChunk (chunkSize : UInt64) : UInt64 :=
  chunkSize + UInt64.ofNat tagLen

/-- The frame size is the true sum exactly where that is a `usize`. -/
theorem cipherChunk_eq_iff (chunkSize : UInt64) :
    (cipherChunk chunkSize).toNat = chunkSize.toNat + 16 ↔
      chunkSize.toNat ≤ 2 ^ 64 - 17 := by
  have tag : (UInt64.ofNat tagLen).toNat = 16 := rfl
  have largest := chunkSize.toNat_lt
  rw [cipherChunk, UInt64.toNat_add, tag]
  omega

end StreamFile

/--
`open` ends as documented, on frames of the true size, exactly for chunk sizes
up to `2^63 - 17`, and beyond them only where no event arrives; the native
opener works on frames of the true size exactly up to `2^64 - 17`.
-/
theorem openers_end_documented_iff
    {backend : PqForgeBackend}
    {algorithm : PqAeadAlgorithm}
    {key : Bytes}
    (opens :
      PqForgeStream.OpensOrRejects backend algorithm key)
    (aad : Option Bytes)
    (source : List Bytes)
    {chunkSize : Int64}
    (positive : 0 < chunkSize.toInt)
    (aws : AwsLc)
    (files : StreamFile.FileSystem)
    (args : StreamFile.StreamArgs) :
    let call : PqForgeStream.StreamCall :=
      { backend, key, algorithm, ad := aad.getD [], chunkSize, positive }
    (PqForgeStream.EndsAsDocumented
          (PqForgeStream.«open» backend source key algorithm aad
            chunkSize) ↔
        chunkSize.toInt ≤ 2 ^ 63 - 17 ∨ source = []) ∧
      (call.cipherChunk.toInt = chunkSize.toInt + 16 ↔
        chunkSize.toInt ≤ 2 ^ 63 - 17) ∧
      StreamFile.pqforgeStreamOpenFile aws files args =
        StreamFile.exported
          (Trace.ofExcept (StreamFile.prepare aws files args) >>=
            fun job =>
              StreamFile.openBody aws job
                (StreamFile.cipherChunk args.chunkSize).toNat) ∧
      ((StreamFile.cipherChunk args.chunkSize).toNat =
          args.chunkSize.toNat + 16 ↔
        args.chunkSize.toNat ≤ 2 ^ 64 - 17) := by
  intro call
  refine ⟨?_, ?_, rfl, StreamFile.cipherChunk_eq_iff args.chunkSize⟩
  · exact PqForgeStream.open_endsAsDocumented_iff
      (show PqForgeStream.OpensOrRejects call.backend call.algorithm
        call.key from opens) aad rfl source
  · exact PqForgeStream.cipherChunk_eq_iff call

/-- A backend that computes an AEAD opens a frame or rejects it. -/
theorem Aead.backend_opensOrRejects
    (aead : Aead)
    (algorithm : PqAeadAlgorithm)
    (key : Bytes) :
    PqForgeStream.OpensOrRejects aead.backend algorithm key := by
  intro nonce frame aad nonceLength long
  have computes := aead.backend_opensAs algorithm key
  cases opened : aead.openUnder nonce aad frame with
  | some chunk =>
      exact .inl
        ⟨chunk,
          computes.accepts nonce frame aad chunk nonceLength long opened⟩
  | none =>
      exact .inr (computes.refuses nonce frame aad nonceLength long opened)

/-- A tag-sized ciphertext in one event, with chunks of two bytes. -/
theorem openers_end_documented_iff_of_two :
    let key : Bytes := List.replicate 32 7
    let frame : Bytes := nonceTag (StreamFormat.frameNonce 0 true)
    let args : StreamFile.StreamArgs := {
      algId := 0
      key := .valid key
      aad := .null 0
      chunkSize := 2
      inPath := some []
      outPath := some [] }
    (PqForgeStream.EndsAsDocumented
          (PqForgeStream.«open» taggedAead.backend [frame] key .aes256Gcm
            none 2) ↔
        (2 : Int64).toInt ≤ 2 ^ 63 - 17 ∨ [frame] = []) ∧
      ((StreamFile.cipherChunk args.chunkSize).toNat =
          args.chunkSize.toNat + 16 ↔
        args.chunkSize.toNat ≤ 2 ^ 64 - 17) := by
  intro key frame args
  have ends := openers_end_documented_iff
    (taggedAead.backend_opensOrRejects .aes256Gcm key) none [frame]
    (show 0 < (2 : Int64).toInt by decide) taggedAead.aws
    (StreamFile.memoryFiles (File.whole frame)) args
  exact ⟨ends.1, ends.2.2.2⟩

/--
With the largest chunk size the entry check admits, the sealing of an empty
plaintext ends the Dart stream with a `RangeError`, and the native frame size
wraps to one that no tag fits into.
-/
theorem open_rangeError_on_largest_chunk :
    let key : Bytes := List.replicate 32 7
    let frame : Bytes := nonceTag (StreamFormat.frameNonce 0 true)
    PqForgeStream.OpensOrRejects taggedAead.backend .aes256Gcm key ∧
      0 < Int64.maxValue.toInt ∧
      (PqForgeStream.«open» taggedAead.backend [frame] key .aes256Gcm none
          Int64.maxValue).outcome =
        .error (.rangeError "Not in inclusive range") ∧
      ¬ PqForgeStream.EndsAsDocumented
          (PqForgeStream.«open» taggedAead.backend [frame] key .aes256Gcm
            none Int64.maxValue) ∧
      (StreamFile.cipherChunk (UInt64.ofNat (2 ^ 64 - 1))).toNat = 15 := by
  intro key frame
  have largest : 0 < Int64.maxValue.toInt := by
    decide
  let call : PqForgeStream.StreamCall := {
    backend := taggedAead.backend
    key := key
    algorithm := .aes256Gcm
    ad := []
    chunkSize := Int64.maxValue
    positive := largest }
  have wraps : ¬ call.Bounded := by
    show ¬ Int64.maxValue.toInt ≤ 2 ^ 63 - 17
    decide
  have ended := PqForgeStream.open_rangeError wraps none rfl frame []
  refine
    ⟨taggedAead.backend_opensOrRejects .aes256Gcm key, largest,
      congrArg Trace.outcome ended, ?_, by decide⟩
  rintro (completed | ⟨thrown, failed, documented⟩)
  · have outcome := (congrArg Trace.outcome ended).symm.trans completed
    cases outcome
  · have outcome := (congrArg Trace.outcome ended).symm.trans failed
    cases outcome
    exact documented

end PqForgeFfi
