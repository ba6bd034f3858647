import PqForgeFfi.StreamAuthenticity
import PqForgeFfi.StreamCanonical

namespace PqForgeFfi

open Segmentation

/-!
# Sealings that were interrupted

Both sealers hold back what may turn out to be the last chunk.  Where the source
of a sealing fails, no AEAD call has been made for a last frame; since an opener
completes only on a last frame, nothing that can be made of such a sealing is
ever accepted.
-/

/-- The nonce of the call is not that of a last frame. -/
def AeadCall.Held (call : AeadCall) : Prop :=
  call.nonce.getLast? = some 0

/-- The event is no AEAD call for a last frame. -/
def StreamEvent.Held : StreamEvent → Prop
  | .aead call => call.Held
  | _ => True

/-- Where no event is a call for a last frame, none of the calls is. -/
theorem held_of_mem_aeadCalls
    {log : List StreamEvent}
    (held : ∀ event ∈ log, event.Held)
    {call : AeadCall}
    (member : call ∈ aeadCalls log) :
    call.Held := by
  obtain ⟨event, inLog, isCall⟩ := List.mem_filterMap.mp member
  cases event with
  | aead made =>
      cases isCall
      exact held _ inLog
  | read bytes =>
      cases isCall
  | emit piece =>
      cases isCall

/-! ## A source that fails -/

/-- A Dart stream: its events, and the error that ends it unless it is done. -/
structure EventSource where
  events : List Bytes
  failure : Option DartThrow

namespace PqForgeStream

/-- The flag of a nonce is its last byte. -/
theorem getLast?_nonce
    (counter : Int64)
    (last : Bool) :
    (nonce counter last 12).getLast? =
      some (if last then 1 else 0) := by
  have length : (nonceLoop (List.replicate 12 0) (12 - 1)
      counter.toInt).length = 12 := by
    rw [length_nonceLoop, List.length_replicate]
  rw [nonce, List.getLast?_eq_getElem?, List.length_set, length,
    List.getElem?_set_self (by rw [length]; decide)]

/-- `seal` over a source that may fail: `await for` throws its error. -/
def sealFrom
    (backend : PqForgeBackend)
    (source : EventSource)
    (key : Bytes)
    (algorithm : PqAeadAlgorithm)
    (aad : Option Bytes)
    (chunkSize : Int64) :
    Trace StreamEvent DartThrow Unit :=
  if positive : 0 < chunkSize.toInt then do
    let call : StreamCall :=
      { backend, key, algorithm, ad := aad.getD [], chunkSize, positive }
    let state ← sealEvents call
      { counter := 0, pending := none, carry := [] } source.events
    match source.failure with
    | some thrown => Trace.fail thrown
    | none => sealFlush call state
  else
    Trace.fail (chunkSizeError chunkSize)

/-- Over a source that is done it is `seal` over the events. -/
theorem sealFrom_of_done
    (backend : PqForgeBackend)
    (events : List Bytes)
    (key : Bytes)
    (algorithm : PqAeadAlgorithm)
    (aad : Option Bytes)
    (chunkSize : Int64) :
    sealFrom backend { events, failure := none } key algorithm aad
        chunkSize =
      «seal» backend events key algorithm aad chunkSize :=
  rfl

/-- Sealing a chunk that is not the last makes no call for a last frame. -/
theorem sealAct_held
    (call : StreamCall)
    (position : Nat)
    (chunk : Bytes) :
    ∀ event ∈ (sealAct call position false chunk).log, event.Held := by
  refine Trace.forall_log_bind ?_ fun frame _ => ?_
  · refine Trace.forall_log_bind ?_ fun _ _ => ?_
    · intro event member
      obtain rfl := List.mem_singleton.mp member
      show (nonce (Int64.ofNat position) false
        call.algorithm.nonceBytes).getLast? = some 0
      rw [PqAeadAlgorithm.nonceBytes_eq]
      exact getLast?_nonce _ false
    · intro event member
      cases made : call.backend.aeadSeal call.algorithm call.key
          (nonce (Int64.ofNat position) false
            call.algorithm.nonceBytes) chunk call.ad with
      | ok output =>
          rw [made] at member
          cases member
      | error thrown =>
          rw [made] at member
          cases member
  · intro event member
    obtain rfl := List.mem_singleton.mp member
    trivial

/-- A sealing whose source fails makes no call for a last frame. -/
theorem sealFrom_held
    (backend : PqForgeBackend)
    (events : List Bytes)
    (thrown : DartThrow)
    (key : Bytes)
    (algorithm : PqAeadAlgorithm)
    (aad : Option Bytes)
    (chunkSize : Int64) :
    ∀ event ∈
        (sealFrom backend { events, failure := some thrown } key algorithm
          aad chunkSize).log,
      event.Held := by
  rw [sealFrom]
  split
  · rename_i positive
    refine Trace.forall_log_bind ?_ fun _ _ event member => ?_
    · let call : StreamCall :=
        { backend, key, algorithm, ad := aad.getD [], chunkSize, positive }
      have run := sealEvents_eq call 0 none [] call.size_pos events
      rw [show (0 : Int64) = Int64.ofNat 0 from rfl, run]
      refine Trace.forall_log_bind ?_ fun _ _ event member => ?_
      · exact forall_log_heldRun (sealAct_held call) 0 _
      · cases member
    · cases member
  · intro event member
    cases member

/-- An `open` that completes has had a last frame opened. -/
theorem open_opens_last
    {backend : PqForgeBackend}
    {algorithm : PqAeadAlgorithm}
    {key : Bytes}
    {chunkSize : Nat}
    (positive : 0 < chunkSize)
    (limited : chunkSize + 16 ≤ 2 ^ 63 - 1)
    {source : List Bytes}
    {aad : Option Bytes}
    (accepted :
      («open» backend source key algorithm aad
        (Int64.ofNat chunkSize)).outcome = .ok ()) :
    ∃ nonce frame chunk,
      nonce.getLast? = some 1 ∧
        backend.aeadOpen algorithm key nonce frame (aad.getD []) =
          .ok chunk := by
  have small : chunkSize < 2 ^ 63 := by
    omega
  let call :=
    StreamCall.ofNat backend algorithm key (aad.getD []) positive small
  have observed := open_observe
    (StreamCall.bounded_ofNat backend algorithm key (aad.getD []) positive
      limited)
    aad rfl source
  have completed := congrArg Trace.outcome observed
  rw [Trace.observe_outcome] at completed
  replace completed := completed.symm.trans accepted
  obtain ⟨front, final, shape⟩ :=
    List.eq_nil_or_concat'
      (blocks call.frameSize source.flatten) |>.resolve_left
        (blocks_ne_nil _ _)
  have last := (flaggedRun_eq_ok completed).2 front.length final (by
    rw [shape, List.getElem?_concat_length])
  rw [shape, List.length_append, List.length_singleton,
    decide_eq_true rfl] at last
  rcases openAt_releases call (0 + front.length) true final with
      ⟨chunk, released⟩ | ⟨thrown, refused⟩
  · exact
      ⟨_, final, chunk, getLast?_nonce _ true,
        openAt_eq_record released⟩
  · rw [refused] at last
    cases last

end PqForgeStream

namespace StreamFile

/-- The flag of a nonce is its last byte. -/
theorem getLast?_streamNonce
    (counter : UInt64)
    (last : Bool) :
    (streamNonce counter last).getLast? =
      some (if last then 1 else 0) := by
  have asFrame :=
    @streamNonce_ofNat counter.toNat counter.toNat_lt last
  rw [UInt64.ofNat_toNat] at asFrame
  rw [asFrame, StreamFormat.frameNonce, List.getLast?_concat]

section Sealing

variable {aws : AwsLc}
variable {job : StreamJob}
variable {size : Nat}

/-- Events of a reading are no AEAD calls. -/
theorem readBlock_held
    {Reader : Type}
    [Read Reader]
    (reader : Reader)
    (size : Nat) :
    ∀ event ∈ (readBlock reader size).log, event.Held := by
  intro event member
  have silent := readBlock_silent reader size
  cases event with
  | read bytes =>
      trivial
  | aead call =>
      have shown :=
        List.filterMap_eq_nil_iff.mp silent (.aead call) member
      cases shown
  | emit piece =>
      trivial

/-- Sealing a chunk that is not the last makes no call for a last frame. -/
theorem sealAct_held
    (aws : AwsLc)
    (job : StreamJob)
    (position : Nat)
    (chunk : Bytes) :
    ∀ event ∈ (sealAct aws job position false chunk).log,
      event.Held := by
  refine Trace.forall_log_bind ?_ fun _ _ => ?_
  · rw [Trace.mapError_log, sealFrame]
    split
    · intro event member
      cases member
    · rename_i nonce assumed
      obtain rfl : streamNonce (UInt64.ofNat position) false = nonce := by
        rw [AwsLc.tryAssumeUniqueForKey] at assumed
        split at assumed
        · exact Option.some.inj assumed
        · cases assumed
      refine Trace.forall_log_bind ?_ fun _ _ => ?_
      · refine Trace.forall_log_bind ?_ fun _ _ event member => ?_
        · intro event member
          obtain rfl := List.mem_singleton.mp member
          exact getLast?_streamNonce _ false
        · split at member <;> cases member
      · refine Trace.forall_log_bind ?_ fun _ _ event member => ?_
        · intro event member
          obtain rfl := List.mem_singleton.mp member
          trivial
        · cases made : job.writer.writeAll
            (UInt64.ofNat position).toNat <;>
            rw [made] at member <;> cases member
  · refine Trace.forall_log_bind ?_ fun _ _ event member => ?_
    · intro event member
      rw [Trace.mapError_log, nextCounter_log] at member
      cases member
    · cases member

/-- A sealing loop whose reading fails makes no call for a last frame. -/
theorem sealLoop_held
    (allocatable : size ≤ isizeMax)
    {reader : BufReader}
    {reason : String}
    (failed :
      readBlocks size (ScheduledRead.deliveries reader) =
        .error reason)
    (chunk : Bytes)
    (position : Nat) :
    ∀ event ∈
        (sealLoop aws job size reader (some chunk)
          (UInt64.ofNat position)).log,
      event.Held := by
  rcases readBlock_of_failing allocatable failed with
      ⟨exit, stopped⟩ | ⟨block, left, outcome, failedLater⟩
  · rw [sealLoop, Trace.andThen_of_error stopped]
    exact readBlock_held reader size
  · have shorter := readBlock_lt outcome
    rw [sealLoop_step chunk outcome, Trace.behind_log]
    intro event member
    rcases List.mem_append.mp member with whileReading | later
    · exact readBlock_held reader size event whileReading
    · refine
        Trace.forall_log_bind (sealAct_held aws job position chunk)
          (fun _ _ => ?_) event later
      exact sealLoop_held allocatable failedLater block (position + 1)
termination_by (ScheduledRead.deliveries reader).length

/-- A sealing whose reading fails makes no call for a last frame. -/
theorem sealBody_held
    (allocatable : size ≤ isizeMax)
    {reason : String}
    (failed :
      readBlocks size (ScheduledRead.deliveries job.reader) =
        .error reason) :
    ∀ event ∈ (sealBody aws job size).log, event.Held := by
  rcases readBlock_of_failing allocatable failed with
      ⟨exit, stopped⟩ | ⟨block, left, outcome, failedLater⟩
  · rw [sealBody, Trace.bind_of_error stopped]
    exact readBlock_held job.reader size
  · rw [sealBody_of_some outcome, Trace.behind_log]
    intro event member
    rcases List.mem_append.mp member with whileReading | later
    · exact readBlock_held job.reader size event whileReading
    · refine
        Trace.forall_log_bind (sealLoop_held allocatable failedLater block 0)
          (fun _ _ event member => ?_) event later
      rw [flush_log] at member
      cases member

/-- A sealing of a file that fails makes no call for a last frame. -/
theorem pqforgeStreamSealFile_held
    (sizes : aws.Sizes)
    {files : FileSystem}
    {algorithm : PqAeadAlgorithm}
    {key ad : Bytes}
    {chunkSize : UInt64}
    (call : FileCall files algorithm key ad chunkSize)
    {bytes : Bytes}
    (fails : call.file.FailsWithin bytes) :
    ∀ event ∈ (pqforgeStreamSealFile aws files call.args).log,
      event.Held := by
  rw [pqforgeStreamSealFile_eq sizes call]
  by_cases huge : isizeMax < chunkSize.toNat
  · rw [sealBody_of_huge aws call.job huge]
    intro event member
    cases member
  · have positive : 0 < chunkSize.toNat :=
      Nat.pos_of_ne_zero fun isZero =>
        call.positive (UInt64.toNat_inj.mp isZero)
    obtain ⟨reason, failed⟩ := readBlocks_failing fails positive
    exact sealBody_held (Nat.le_of_not_lt huge) failed

/-- An opening that returned `Ok` has had a last frame opened. -/
theorem open_opens_last
    (sizes : aws.Sizes)
    {files : FileSystem}
    {algorithm : PqAeadAlgorithm}
    {key ad : Bytes}
    {chunkSize : UInt64}
    (allocatable : chunkSize.toNat + 16 ≤ isizeMax)
    (call : FileCall files algorithm key ad chunkSize)
    {ciphertext : Bytes}
    (serves : call.file.Serves ciphertext)
    (accepted :
      (pqforgeStreamOpenFile aws files call.args).code =
        PqForgeStatus.ok.code) :
    ∃ nonce frame chunk,
      nonce.getLast? = some 1 ∧
        aws.openInPlace algorithm key nonce ad frame = some chunk := by
  have small : chunkSize.toNat + 16 < 2 ^ 64 := by
    rw [isizeMax] at allocatable
    omega
  rw [pqforgeStreamOpenFile_eq sizes call, cipherChunk_toNat small]
    at accepted
  have completed :=
    exported_eq_ok (openBody_failsAs aws call.job _) accepted
  have served := openBody_serving aws call serves
    (Nat.le_add_left 16 _) allocatable
  have outcome := congrArg Trace.outcome served
  rw [Trace.observe_outcome, Trace.observe_outcome, completed]
    at outcome
  obtain ⟨_, returned, _, _⟩ := Trace.bind_eq_ok outcome.symm
  have few := length_lt_of_counted
    (fun position last frame inRange acted =>
      (openAct_returned sizes inRange acted).1)
    returned
  obtain ⟨front, final, shape⟩ :=
    List.eq_nil_or_concat'
      (blocks (chunkSize.toNat + 16) ciphertext) |>.resolve_left
        (blocks_ne_nil _ _)
  have last := (flaggedRun_eq_ok returned).2 front.length final (by
    rw [shape, List.getElem?_concat_length])
  rw [shape, List.length_append, List.length_singleton] at few
  rw [shape, List.length_append, List.length_singleton,
    decide_eq_true rfl, Nat.zero_add] at last
  obtain ⟨_, _, chunk, opened, _⟩ :=
    openAct_returned sizes (by omega) last
  exact
    ⟨_, final, chunk, List.getLast?_concat, opened⟩

end Sealing

end StreamFile

/-! ## No opener accepts what is left -/

/-- The library opens only what one of the recorded calls sealed. -/
def AwsLc.IdealUnder
    (aws : AwsLc)
    (algorithm : PqAeadAlgorithm)
    (key : Bytes)
    (calls : List AeadCall) : Prop :=
  ∀ nonce aad frame chunk,
    aws.openInPlace algorithm key nonce aad frame = some chunk →
    { algorithm, key, nonce,
      associated := aad, input := chunk, output := some frame } ∈ calls

/-- A library that opens by looking its frames up in the recorded calls. -/
def replayLibrary (calls : List AeadCall) : AwsLc where
  unboundKey := fun _ key => key.length == 32
  assumeUnique := fun nonce => nonce.length == 12
  sealInPlaceAppendTag := fun _ _ _ _ _ => none
  openInPlace := fun algorithm key nonce aad frame =>
    (sealedBy calls algorithm key nonce frame aad).map AeadCall.input

theorem replayLibrary_sizes (calls : List AeadCall) :
    (replayLibrary calls).Sizes where
  key := fun _ key => by simp [replayLibrary]
  nonce := fun nonce => by simp [replayLibrary]

/-- A library that replays some calls is ideal under every key. -/
theorem replayLibrary_idealUnder
    (calls : List AeadCall)
    (algorithm : PqAeadAlgorithm)
    (key : Bytes) :
    (replayLibrary calls).IdealUnder algorithm key calls := by
  intro nonce aad frame chunk opened
  obtain ⟨call, found, sameInput⟩ := Option.map_eq_some_iff.mp opened
  rw [sealedBy] at found
  have selected := List.find?_some found
  have shape := eq_of_beq selected
  rw [sameInput] at shape
  rw [← shape]
  exact List.mem_of_find?_eq_some found

/-- The AEAD calls of a sealing whose source failed. -/
inductive InterruptedSealing
    (algorithm : PqAeadAlgorithm)
    (key : Bytes) :
    List AeadCall → Prop where
  | dart
      (backend : PqForgeBackend)
      (events : List Bytes)
      (thrown : DartThrow)
      (aad : Option Bytes)
      (chunkSize : Int64) :
      InterruptedSealing algorithm key
        (aeadCalls
          (PqForgeStream.sealFrom backend
            { events, failure := some thrown } key algorithm aad
            chunkSize).log)
  | native
      {aws : AwsLc}
      (sizes : aws.Sizes)
      {files : StreamFile.FileSystem}
      {ad : Bytes}
      {chunkSize : UInt64}
      (call : StreamFile.FileCall files algorithm key ad chunkSize)
      {bytes : Bytes}
      (fails : call.file.FailsWithin bytes) :
      InterruptedSealing algorithm key
        (aeadCalls
          (StreamFile.pqforgeStreamSealFile aws files call.args).log)

/-- An interrupted sealing has made no call for a last frame. -/
theorem InterruptedSealing.held
    {algorithm : PqAeadAlgorithm}
    {key : Bytes}
    {calls : List AeadCall}
    (interrupted : InterruptedSealing algorithm key calls) :
    ∀ call ∈ calls, call.Held := by
  intro call member
  cases interrupted with
  | dart backend events thrown aad chunkSize =>
      exact
        held_of_mem_aeadCalls
          (PqForgeStream.sealFrom_held backend events thrown key
            algorithm aad chunkSize) member
  | native sizes fileCall fails =>
      exact
        held_of_mem_aeadCalls
          (StreamFile.pqforgeStreamSealFile_held sizes fileCall fails)
          member

/--
Against an AEAD that opens only what was sealed, after any number of sealings
whose sources failed no ciphertext at all is accepted by an opener, whatever
its chunk size and associated data.
-/
theorem interrupted_sealings_never_open
    {algorithm : PqAeadAlgorithm}
    {key : Bytes}
    {sealings : List (List AeadCall)}
    (interrupted :
      ∀ calls ∈ sealings, InterruptedSealing algorithm key calls)
    {backend : PqForgeBackend}
    (dartIdeal : backend.IdealUnder algorithm key sealings.flatten)
    {aws : AwsLc}
    (sizes : aws.Sizes)
    (nativeIdeal : aws.IdealUnder algorithm key sealings.flatten)
    {chunkSize : Nat}
    (positive : 0 < chunkSize)
    (limited : chunkSize + 16 ≤ 2 ^ 63 - 1)
    (source : List Bytes)
    (aad : Option Bytes)
    {files : StreamFile.FileSystem}
    {ad : Bytes}
    (call :
      StreamFile.FileCall files algorithm key ad
        (UInt64.ofNat chunkSize))
    {ciphertext : Bytes}
    (serves : call.file.Serves ciphertext) :
    (PqForgeStream.«open» backend source key algorithm aad
        (Int64.ofNat chunkSize)).outcome ≠ .ok () ∧
      (StreamFile.pqforgeStreamOpenFile aws files call.args).code ≠
        PqForgeStatus.ok.code := by
  have held : ∀ made ∈ sealings.flatten, made.Held := by
    intro made member
    obtain ⟨calls, listed, within⟩ := List.mem_flatten.mp member
    exact (interrupted calls listed).held made within
  have impossible :
      ∀ nonce : Bytes,
        nonce.getLast? = some 0 → ¬ nonce.getLast? = some 1 := by
    intro nonce isHeld isLast
    rw [isHeld] at isLast
    cases isLast
  constructor
  · intro accepted
    obtain ⟨nonce, frame, chunk, isLast, opened⟩ :=
      PqForgeStream.open_opens_last positive limited accepted
    exact impossible nonce (held _ (dartIdeal _ _ _ _ opened)) isLast
  · intro accepted
    have value : (UInt64.ofNat chunkSize).toNat = chunkSize := by
      rw [UInt64.toNat_ofNat']
      omega
    obtain ⟨nonce, frame, chunk, isLast, opened⟩ :=
      StreamFile.open_opens_last sizes
        (by rw [value, isizeMax]; omega) call serves accepted
    exact impossible nonce (held _ (nativeIdeal _ _ _ _ opened)) isLast

/-- A sealing that failed behind three bytes, and the two frames it had sealed. -/
theorem interrupted_sealings_never_open_of_three :
    let key : Bytes := List.replicate 32 7
    let calls :=
      aeadCalls
        (PqForgeStream.sealFrom taggedAead.backend
          { events := [[1, 2], [3]], failure := some (.other "closed") }
          key .aes256Gcm none (Int64.ofNat 1)).log
    let ciphertext := (calls.filterMap AeadCall.output).flatten
    let file := File.whole ciphertext
    let call :=
      StreamFile.memoryCall file .aes256Gcm key [] (UInt64.ofNat 1)
        (by decide) (by decide)
    (PqForgeStream.«open» (replayBackend [calls].flatten) [ciphertext] key
        .aes256Gcm none (Int64.ofNat 1)).outcome ≠ .ok () ∧
      (StreamFile.pqforgeStreamOpenFile (replayLibrary [calls].flatten)
          (StreamFile.memoryFiles file) call.args).code ≠
        PqForgeStatus.ok.code := by
  intro key calls ciphertext file call
  have interrupted :
      ∀ made ∈ [calls], InterruptedSealing .aes256Gcm key made := by
    intro made member
    obtain rfl := List.mem_singleton.mp member
    exact .dart taggedAead.backend [[1, 2], [3]] (.other "closed") none _
  have serves : call.file.Serves ciphertext :=
    File.serves_whole ciphertext
  exact
    interrupted_sealings_never_open interrupted
      (replayBackend_idealUnder _ _ _) (replayLibrary_sizes _)
      (replayLibrary_idealUnder _ _ _) (by decide) (by decide) _ none
      call serves

end PqForgeFfi
