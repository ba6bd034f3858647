import PqForgeFfi.StreamInterruption
import PqForgeFfi.StreamNonces

namespace PqForgeFfi

open Segmentation

/-!
# Keys that are used again

Both sealers demand a key of its own for every stream, because their nonces
count up from zero each time.  Which pairs of sealings use a nonce twice under
one key is decided by their first calls: either both or neither of them began
with the nonce of a last frame.
-/

/-- What an AEAD must not be given twice: an algorithm, a key and a nonce. -/
def AeadCall.keyedNonce
    (call : AeadCall) :
    PqAeadAlgorithm × Bytes × Bytes :=
  (call.algorithm, call.key, call.nonce)

/-- The keyed nonces passed to the AEAD so far, in order. -/
def keyedNonces
    (log : List StreamEvent) :
    List (PqAeadAlgorithm × Bytes × Bytes) :=
  (aeadCalls log).map AeadCall.keyedNonce

section Numbered

variable {used other : List Bytes}

/-- Of several nonces that count up the first one is no last frame's. -/
theorem CountUp.head_of_longer
    (countUp : CountUp used)
    (longer : 1 < used.length) :
    used.head? = some (StreamFormat.frameNonce 0 false) := by
  have present :=
    List.getElem?_eq_getElem (Nat.lt_of_succ_lt longer)
  obtain ⟨last, shape, isNewest⟩ := countUp.counters 0 _ present
  cases last with
  | false =>
      rw [List.head?_eq_getElem?, present, shape]
  | true =>
      exact absurd (isNewest rfl) (Nat.ne_of_lt longer)

/-- Two lists that count up share a nonce only if they share the first one. -/
theorem CountUp.head_of_shared
    (here : CountUp used)
    (there : CountUp other)
    (hereFits : used.length ≤ 2 ^ 64)
    (thereFits : other.length ≤ 2 ^ 64)
    {nonce : Bytes}
    (inUsed : nonce ∈ used)
    (inOther : nonce ∈ other) :
    ∃ first, used.head? = some first ∧ other.head? = some first := by
  obtain ⟨index, atIndex⟩ := List.mem_iff_getElem?.mp inUsed
  obtain ⟨place, atPlace⟩ := List.mem_iff_getElem?.mp inOther
  obtain ⟨inBounds, _⟩ := List.getElem?_eq_some_iff.mp atIndex
  obtain ⟨alsoInBounds, _⟩ := List.getElem?_eq_some_iff.mp atPlace
  obtain ⟨last, shape, _⟩ := here.counters index nonce atIndex
  obtain ⟨alsoLast, alsoShape, _⟩ := there.counters place nonce atPlace
  obtain ⟨samePlace, _⟩ :=
    StreamFormat.frameNonce_injective
      (Nat.lt_of_lt_of_le inBounds hereFits)
      (Nat.lt_of_lt_of_le alsoInBounds thereFits)
      (shape.symm.trans alsoShape)
  subst samePlace
  cases index with
  | zero =>
      refine ⟨nonce, ?_, ?_⟩
      · rw [List.head?_eq_getElem?, atIndex]
      · rw [List.head?_eq_getElem?, atPlace]
  | succ before =>
      exact
        ⟨_, here.head_of_longer (Nat.lt_of_le_of_lt (by omega) inBounds),
          there.head_of_longer
            (Nat.lt_of_le_of_lt (by omega) alsoInBounds)⟩

end Numbered

/-! ## What a sealing does under its key -/

/-- The event is no AEAD call under another algorithm or key. -/
def StreamEvent.Under
    (algorithm : PqAeadAlgorithm)
    (key : Bytes) :
    StreamEvent → Prop
  | .aead call => call.algorithm = algorithm ∧ call.key = key
  | _ => True

/-- A log all of whose calls are under one key, with nonces that count up. -/
structure NumbersUnder
    (algorithm : PqAeadAlgorithm)
    (key : Bytes)
    (log : List StreamEvent) : Prop where
  under : ∀ event ∈ log, event.Under algorithm key
  countUp : CountUp (nonces log)
  fits : (nonces log).length ≤ 2 ^ 64

section UnderOneKey

variable {algorithm : PqAeadAlgorithm}
variable {key : Bytes}
variable {log : List StreamEvent}

/-- Under one key, keyed nonces are the nonces with that key. -/
theorem keyedNonces_of_under
    (under : ∀ event ∈ log, event.Under algorithm key) :
    keyedNonces log =
      (nonces log).map fun nonce => (algorithm, key, nonce) := by
  rw [keyedNonces, nonces, List.map_map]
  refine List.map_congr_left fun call member => ?_
  obtain ⟨event, inLog, isCall⟩ := List.mem_filterMap.mp member
  cases event with
  | aead made =>
      cases isCall
      obtain ⟨rfl, rfl⟩ := under _ inLog
      rfl
  | read bytes =>
      cases isCall
  | emit piece =>
      cases isCall

/-- One sealing uses no keyed nonce twice. -/
theorem NumbersUnder.nodup
    (numbers : NumbersUnder algorithm key log) :
    (keyedNonces log).Nodup := by
  rw [keyedNonces_of_under numbers.under]
  refine numbers.countUp.distinct.map ?_
  intro nonce other same
  cases same
  rfl

/-- An earlier moment of a log is under the key of the log. -/
theorem under_of_earlier
    {moment : List StreamEvent}
    (under : ∀ event ∈ log, event.Under algorithm key)
    (earlier : moment <+: log) :
    ∀ event ∈ moment, event.Under algorithm key :=
  fun event member => under event (earlier.subset member)

end UnderOneKey

namespace PqForgeStream

/-- At each position `seal` makes its call under its key. -/
theorem sealAct_under
    (call : StreamCall)
    (position : Nat)
    (last : Bool)
    (chunk : Bytes) :
    ∀ event ∈ (sealAct call position last chunk).log,
      event.Under call.algorithm call.key := by
  intro event member
  cases event with
  | aead made =>
      have isCall :
          made ∈ aeadCalls (sealAct call position last chunk).log :=
        List.mem_filterMap.mpr ⟨_, member, rfl⟩
      rw [sealAct_aeadCalls] at isCall
      obtain rfl := List.mem_singleton.mp isCall
      exact ⟨rfl, rfl⟩
  | read bytes =>
      trivial
  | emit piece =>
      trivial

/-- Whether its source fails or not, `seal` starts as over some chunks. -/
theorem sealFrom_log_prefix
    (call : StreamCall)
    (aad : Option Bytes)
    (associated : aad.getD [] = call.ad)
    (source : EventSource) :
    ∃ chunks,
      (sealFrom call.backend source call.key call.algorithm aad
          call.chunkSize).log <+:
        (flaggedRun (sealAct call) 0 chunks).log := by
  obtain ⟨events, failure⟩ := source
  cases failure with
  | none =>
      refine ⟨blocks call.size events.flatten, [], ?_⟩
      rw [List.append_nil, sealFrom_of_done,
        seal_eq_flaggedRun call aad associated]
  | some thrown =>
      have held := sealEvents_eq call 0 none [] call.size_pos events
      refine
        ⟨(knownChunks call none events.flatten).dropLast ++ [[]], ?_⟩
      rw [sealFrom, dif_pos call.positive, associated]
      show
        (sealEvents call
            { counter := Int64.ofNat 0, pending := none, carry := [] }
            events >>= fun _ => Trace.fail thrown).log <+: _
      rw [held, Trace.log_bind_of_silent fun _ => rfl,
        Trace.log_bind_of_silent fun _ => rfl]
      exact heldRun_log_prefix _ _ _ _

/-- At every moment `seal` numbers its calls under its key. -/
theorem sealFrom_numbers
    {backend : PqForgeBackend}
    {source : EventSource}
    {key : Bytes}
    {algorithm : PqAeadAlgorithm}
    {aad : Option Bytes}
    {chunkSize : Int64}
    {moment : List StreamEvent}
    (earlier :
      moment <+:
        (sealFrom backend source key algorithm aad chunkSize).log)
    (few : (emitted moment).length < 2 ^ 63) :
    NumbersUnder algorithm key moment := by
  by_cases positive : 0 < chunkSize.toInt
  · let call : StreamCall :=
      { backend, key, algorithm, ad := aad.getD [], chunkSize, positive }
    obtain ⟨chunks, start⟩ := sealFrom_log_prefix call aad rfl source
    have within := earlier.trans start
    have bound := length_nonces_le_emitted call within
    exact {
      under :=
        under_of_earlier
          (forall_log_flaggedRun (sealAct_under call) 0 chunks) within
      countUp := seal_countUp call within few
      fits := by omega }
  · rw [sealFrom, dif_neg positive] at earlier
    obtain rfl := List.prefix_nil.mp earlier
    refine ⟨?_, countUp_nil, Nat.zero_le _⟩
    intro event member
    cases member

end PqForgeStream

namespace StreamFile

/-- The key of a job is the one that was passed, under the algorithm asked for. -/
theorem prepare_key
    {aws : AwsLc}
    {files : FileSystem}
    {args : StreamArgs}
    {job : StreamJob}
    (prepared : prepare aws files args = .ok job) :
    aeadAlg args.algId = some job.key.algorithm ∧
      args.key.bytes = job.key.key := by
  rw [prepare] at prepared
  split at prepared
  · cases prepared
  · rename_i algorithm named
    split at prepared
    · rename_i key inPath outPath isKey _ _
      split at prepared
      · cases prepared
      · split at prepared
        · cases prepared
        · obtain ⟨_, _, prepared⟩ := except_bind_eq_ok prepared
          obtain ⟨_, _, prepared⟩ := except_bind_eq_ok prepared
          split at prepared
          · cases prepared
          · rename_i accepted made
            obtain ⟨_, _, prepared⟩ := except_bind_eq_ok prepared
            obtain ⟨_, _, prepared⟩ := except_bind_eq_ok prepared
            cases prepared
            rw [AwsLc.lessSafeKey] at made
            split at made
            · cases made
              exact ⟨named, congrArg CSlice.bytes isKey⟩
            · cases made
    · cases prepared

section Sealing

variable {aws : AwsLc}
variable {job : StreamJob}
variable {size : Nat}

/-- At each position the loop makes its call under its key. -/
theorem sealAct_under
    (aws : AwsLc)
    (job : StreamJob)
    (position : Nat)
    (last : Bool)
    (chunk : Bytes) :
    ∀ event ∈ (sealAct aws job position last chunk).log,
      event.Under job.key.algorithm job.key.key := by
  rw [sealAct_log, sealFrame]
  split
  · intro event member
    cases member
  · refine Trace.forall_log_bind ?_ fun buf _ => ?_
    · refine Trace.forall_log_bind ?_ fun _ _ event member => ?_
      · intro event member
        obtain rfl := List.mem_singleton.mp member
        exact ⟨rfl, rfl⟩
      · split at member <;> cases member
    · refine Trace.forall_log_bind ?_ fun _ _ event member => ?_
      · intro event member
        obtain rfl := List.mem_singleton.mp member
        trivial
      · cases answered :
            job.writer.writeAll (UInt64.ofNat position).toNat <;>
          rw [answered] at member <;> cases member

/-- Reading is under any key. -/
theorem readBlock_under
    (algorithm : PqAeadAlgorithm)
    (key : Bytes)
    (reader : BufReader)
    (size : Nat) :
    ∀ event ∈ (readBlock reader size).log,
      event.Under algorithm key := by
  intro event member
  cases event with
  | read bytes =>
      trivial
  | aead call =>
      have shown :=
        List.filterMap_eq_nil_iff.mp (readBlock_silent reader size)
          (.aead call) member
      cases shown
  | emit piece =>
      trivial

/-- The loop makes all its calls under its key. -/
theorem sealLoop_under
    (reader : BufReader)
    (chunk : Bytes)
    (position : Nat) :
    ∀ event ∈
        (sealLoop aws job size reader (some chunk)
          (UInt64.ofNat position)).log,
      event.Under job.key.algorithm job.key.key := by
  cases ended : (readBlock reader size).outcome with
  | error exit =>
      rw [sealLoop, Trace.andThen_of_error ended]
      exact readBlock_under _ _ reader size
  | ok result =>
      obtain ⟨next, left⟩ := result
      rw [sealLoop_step chunk ended, Trace.behind_log]
      intro event member
      rcases List.mem_append.mp member with whileReading | later
      · exact readBlock_under _ _ reader size event whileReading
      · refine
          Trace.forall_log_bind
            (sealAct_under aws job position next.isNone chunk)
            (fun _ _ => ?_) event later
        cases next with
        | none =>
            intro event member
            cases member
        | some block =>
            have shorter :
                (ScheduledRead.deliveries left).length <
                  (ScheduledRead.deliveries reader).length :=
              readBlock_next_lt ended fun isNone => by cases isNone
            exact sealLoop_under left block (position + 1)
termination_by (ScheduledRead.deliveries reader).length

/-- The body makes all its calls under its key. -/
theorem sealBody_under :
    ∀ event ∈ (sealBody aws job size).log,
      event.Under job.key.algorithm job.key.key := by
  have flushed :
      ∀ event ∈ (flush job.writer).log,
        event.Under job.key.algorithm job.key.key := by
    intro event member
    rw [flush_log] at member
    cases member
  cases ended : (readBlock job.reader size).outcome with
  | error exit =>
      rw [sealBody, Trace.bind_of_error ended]
      exact readBlock_under _ _ job.reader size
  | ok result =>
      obtain ⟨held, reader⟩ := result
      cases held with
      | none =>
          rw [sealBody_of_none ended, Trace.behind_log]
          intro event member
          rcases List.mem_append.mp member with whileReading | later
          · exact readBlock_under _ _ job.reader size event whileReading
          · exact
              Trace.forall_log_bind (sealAct_under aws job 0 true [])
                (fun _ _ => flushed) event later
      | some block =>
          rw [sealBody_of_some ended, Trace.behind_log]
          intro event member
          rcases List.mem_append.mp member with whileReading | later
          · exact readBlock_under _ _ job.reader size event whileReading
          · exact
              Trace.forall_log_bind (sealLoop_under reader block 0)
                (fun _ _ => flushed) event later

end Sealing

/-- At every moment the native sealer numbers its calls under its key. -/
theorem pqforgeStreamSealFile_numbers
    {aws : AwsLc}
    {files : FileSystem}
    {args : StreamArgs}
    {algorithm : PqAeadAlgorithm}
    (named : aeadAlg args.algId = some algorithm)
    {moment : List StreamEvent}
    (earlier : moment <+: (pqforgeStreamSealFile aws files args).log) :
    NumbersUnder algorithm args.key.bytes moment := by
  have fresh := pqforgeStreamSealFile_freshNonces aws files args
  refine {
    under := under_of_earlier ?_ earlier
    countUp := fresh.countUp moment earlier
    fits :=
      Nat.le_trans (nonces_of_earlier earlier).length_le fresh.stops.1 }
  rw [pqforgeStreamSealFile]
  cases prepared : prepare aws files args with
  | error exit =>
      intro event member
      cases member
  | ok job =>
      obtain ⟨asked, isKey⟩ := prepare_key prepared
      obtain rfl := Option.some.inj (named.symm.trans asked)
      rw [isKey, Trace.ofExcept_ok, Trace.done_bind]
      exact sealBody_under

end StreamFile

/-! ## Sealings together -/

/-- What a sealing by either layer has done at some moment under its key. -/
inductive SealingMoment
    (algorithm : PqAeadAlgorithm)
    (key : Bytes) :
    List StreamEvent → Prop where
  | dart
      {backend : PqForgeBackend}
      {source : EventSource}
      {aad : Option Bytes}
      {chunkSize : Int64}
      {moment : List StreamEvent}
      (earlier :
        moment <+:
          (PqForgeStream.sealFrom backend source key algorithm aad
            chunkSize).log)
      (few : (emitted moment).length < 2 ^ 63) :
      SealingMoment algorithm key moment
  | native
      {aws : AwsLc}
      {files : StreamFile.FileSystem}
      {args : StreamFile.StreamArgs}
      (named : StreamFile.aeadAlg args.algId = some algorithm)
      (isKey : args.key.bytes = key)
      {moment : List StreamEvent}
      (earlier :
        moment <+:
          (StreamFile.pqforgeStreamSealFile aws files args).log) :
      SealingMoment algorithm key moment

/-- At any moment a sealing numbers its calls under its key. -/
theorem SealingMoment.numbers
    {algorithm : PqAeadAlgorithm}
    {key : Bytes}
    {moment : List StreamEvent}
    (isSealing : SealingMoment algorithm key moment) :
    NumbersUnder algorithm key moment := by
  cases isSealing with
  | dart earlier few =>
      exact PqForgeStream.sealFrom_numbers earlier few
  | native named isKey earlier =>
      subst isKey
      exact StreamFile.pqforgeStreamSealFile_numbers named earlier

/--
A sealing as far as it has come: it may have completed, have failed in its
source, its AEAD or its output, or stand at any moment.
-/
structure SealingSoFar where
  algorithm : PqAeadAlgorithm
  key : Bytes
  log : List StreamEvent
  isSealing : SealingMoment algorithm key log

/-- Both sealings have used this nonce first, under one algorithm and key. -/
structure StartAlike (one other : SealingSoFar) : Prop where
  algorithm : one.algorithm = other.algorithm
  key : one.key = other.key
  first :
    ∃ nonce,
      (nonces one.log).head? = some nonce ∧
        (nonces other.log).head? = some nonce

/-- A sealing that has written its last frame, of fewer than `2^63` ones. -/
inductive SealingSoFar.Completed (sealing : SealingSoFar) : Prop where
  | dart
      {backend : PqForgeBackend}
      {source : EventSource}
      {aad : Option Bytes}
      {chunkSize : Int64}
      (isRun :
        sealing.log =
          (PqForgeStream.sealFrom backend source sealing.key
            sealing.algorithm aad chunkSize).log)
      (completed :
        (PqForgeStream.sealFrom backend source sealing.key
          sealing.algorithm aad chunkSize).outcome = .ok ())
      (few : (emitted sealing.log).length < 2 ^ 63)
  | native
      {aws : AwsLc}
      {files : StreamFile.FileSystem}
      {args : StreamFile.StreamArgs}
      (isRun :
        sealing.log =
          (StreamFile.pqforgeStreamSealFile aws files args).log)
      (returnsOk :
        (StreamFile.pqforgeStreamSealFile aws files args).code =
          PqForgeStatus.ok.code)

namespace SealingSoFar

/-- Every sealing numbers its calls under its key. -/
theorem numbers (sealing : SealingSoFar) :
    NumbersUnder sealing.algorithm sealing.key sealing.log :=
  sealing.isSealing.numbers

/-- Two sealings share a keyed nonce exactly if they start alike. -/
theorem disjoint_iff (one other : SealingSoFar) :
    (keyedNonces one.log).Disjoint (keyedNonces other.log) ↔
      ¬StartAlike one other := by
  have here := one.numbers
  have there := other.numbers
  rw [keyedNonces_of_under here.under, keyedNonces_of_under there.under]
  constructor
  · rintro disjoint ⟨sameAlgorithm, sameKey, nonce, first, alsoFirst⟩
    refine disjoint
      (List.mem_map_of_mem (List.mem_of_mem_head? first)) ?_
    rw [sameAlgorithm, sameKey]
    exact List.mem_map_of_mem (List.mem_of_mem_head? alsoFirst)
  · intro unlike keyed inOne inOther
    obtain ⟨nonce, used, rfl⟩ := List.mem_map.mp inOne
    obtain ⟨same, alsoUsed, shape⟩ := List.mem_map.mp inOther
    obtain ⟨sameAlgorithm, sameKey, rfl⟩ :
        other.algorithm = one.algorithm ∧ other.key = one.key ∧
          same = nonce := by
      simpa using shape
    exact unlike {
      algorithm := sameAlgorithm.symm
      key := sameKey.symm
      first :=
        here.countUp.head_of_shared there.countUp here.fits there.fits
          used alsoUsed }

/-- A completed sealing flagged its last frame. -/
theorem Completed.flagsLastFrame
    {sealing : SealingSoFar}
    (completed : sealing.Completed) :
    FlagsLastFrame sealing.log := by
  cases completed with
  | @dart backend source aad chunkSize isRun completed few =>
      obtain ⟨events, failure⟩ := source
      cases failure with
      | none =>
          rw [PqForgeStream.sealFrom_of_done] at isRun completed
          rw [isRun] at few ⊢
          exact
            (PqForgeStream.seal_freshNonces backend events sealing.key
              sealing.algorithm aad chunkSize).flagsLastFrame completed
              few
      | some thrown =>
          rw [PqForgeStream.sealFrom] at completed
          split at completed
          · obtain ⟨_, _, failed, _⟩ := Trace.bind_eq_ok completed
            cases failed
          · cases completed
  | @native aws files args isRun returnsOk =>
      rw [isRun]
      exact
        (StreamFile.pqforgeStreamSealFile_freshNonces aws files
          args).flagsLastFrame returnsOk

/-- A completed sealing began with a last frame's nonce if it has one frame. -/
theorem Completed.head_nonces
    {sealing : SealingSoFar}
    (completed : sealing.Completed) :
    (nonces sealing.log).head? =
      some
        (StreamFormat.frameNonce 0
          (decide ((emitted sealing.log).length = 1))) := by
  obtain ⟨frames, count, flags⟩ := completed.flagsLastFrame
  have written :
      (emitted sealing.log).length = count + 1 := by
    have lengths := congrArg List.length frames
    have numbered := congrArg List.length flags
    rw [nonces, List.length_map] at numbered
    simp only [List.length_map, List.length_append, List.length_range,
      List.length_singleton] at lengths numbered
    omega
  rw [flags, written]
  cases count with
  | zero =>
      rfl
  | succ before =>
      rw [List.range_succ_eq_map]
      simp

end SealingSoFar

/--
Whatever sealings there have been, by either layer and however they went: where
their keys differ, no nonce has been used twice under a key; some nonce has
exactly if two of them start alike; and two completed ones start alike exactly
if they have one key and both or neither of them consist of one frame.
-/
theorem sealings_reuse_nonces_iff (sealings : List SealingSoFar) :
    (sealings.Pairwise (fun one other => one.key ≠ other.key) →
        (sealings.flatMap fun sealing => keyedNonces sealing.log).Nodup) ∧
      ((sealings.flatMap fun sealing => keyedNonces sealing.log).Nodup ↔
        sealings.Pairwise fun one other => ¬StartAlike one other) ∧
      ∀ one other : SealingSoFar,
        one.Completed →
        other.Completed →
        (StartAlike one other ↔
          one.algorithm = other.algorithm ∧
            one.key = other.key ∧
            ((emitted one.log).length = 1 ↔
              (emitted other.log).length = 1)) := by
  have sharp :
      (sealings.flatMap fun sealing => keyedNonces sealing.log).Nodup ↔
        sealings.Pairwise fun one other => ¬StartAlike one other := by
    rw [List.nodup_flatMap]
    constructor
    · rintro ⟨_, disjoint⟩
      exact disjoint.imp fun {one other} => (one.disjoint_iff other).mp
    · intro unlike
      exact
        ⟨fun sealing _ => sealing.numbers.nodup,
          unlike.imp fun {one other} => (one.disjoint_iff other).mpr⟩
  refine ⟨?_, sharp, ?_⟩
  · intro apart
    exact sharp.mpr (apart.imp fun differ alike => differ alike.key)
  · intro one other completed alsoCompleted
    have first := completed.head_nonces
    have alsoFirst := alsoCompleted.head_nonces
    constructor
    · rintro ⟨sameAlgorithm, sameKey, nonce, here, there⟩
      have same :=
        Option.some.inj
          ((first.symm.trans here).trans (there.symm.trans alsoFirst))
      obtain ⟨_, sameFlag⟩ :=
        StreamFormat.frameNonce_injective (by decide) (by decide) same
      exact ⟨sameAlgorithm, sameKey, decide_eq_decide.mp sameFlag⟩
    · rintro ⟨sameAlgorithm, sameKey, alike⟩
      rw [decide_eq_decide.mpr alike] at first
      exact ⟨sameAlgorithm, sameKey, _, first, alsoFirst⟩

end PqForgeFfi
