import PqForgeFfi.StreamRuns
import PqForgeFfi.StreamAuthenticity
import Mathlib.Data.List.Nodup

namespace PqForgeFfi

open Segmentation

/-!
# The nonces of a sealing

Both sealers number their AEAD calls from zero and flag one call, the one of
the last frame.  At every moment of a run the nonces used so far are the start
of one numbered list, so no nonce is used twice; the native counter ends the
run with an error where the Dart counter would wrap.
-/

/-- The nonces passed to the AEAD so far, in order. -/
def nonces (log : List StreamEvent) : List Bytes :=
  (aeadCalls log).map AeadCall.nonce

/-- Nonces that count up from zero, each used once, with at most the newest flagged. -/
structure CountUp (nonces : List Bytes) : Prop where
  counters :
    ∀ index nonce,
      nonces[index]? = some nonce →
      ∃ last,
        nonce = StreamFormat.frameNonce index last ∧
          (last = true → index + 1 = nonces.length)
  distinct : nonces.Nodup

/-- The output of each AEAD call was handed on as the piece at its place. -/
def HandsOn (log : List StreamEvent) : Prop :=
  (aeadCalls log).map AeadCall.output = (emitted log).map some

/--
Every call's output was handed on as the frame at its place, and exactly the
last call was flagged.
-/
structure FlagsLastFrame (log : List StreamEvent) : Prop where
  frames : HandsOn log
  flags :
    ∃ count,
      nonces log =
        (List.range count).map
            (fun position => StreamFormat.frameNonce position false) ++
          [StreamFormat.frameNonce count true]

@[simp] theorem nonces_append (earlier later : List StreamEvent) :
    nonces (earlier ++ later) = nonces earlier ++ nonces later := by
  simp [nonces, aeadCalls]

@[simp] theorem aeadCalls_append (earlier later : List StreamEvent) :
    aeadCalls (earlier ++ later) = aeadCalls earlier ++ aeadCalls later := by
  simp [aeadCalls]

@[simp] theorem emitted_append (earlier later : List StreamEvent) :
    emitted (earlier ++ later) = emitted earlier ++ emitted later := by
  simp [emitted]

/-- The nonces, read off the events one by one. -/
theorem nonces_eq_filterMap (log : List StreamEvent) :
    nonces log =
      log.filterMap fun event => event.aeadCall?.map AeadCall.nonce :=
  List.map_filterMap

/-- Every moment of a run has used a start of the nonces that the run uses. -/
theorem nonces_of_earlier
    {moment log : List StreamEvent}
    (earlier : moment <+: log) :
    nonces moment <+: nonces log :=
  (earlier.filterMap _).map _

/-- Hiding the reads does not change the nonces. -/
theorem nonces_of_produced
    {log other : List StreamEvent}
    (same :
      log.filterMap StreamEvent.produced? =
        other.filterMap StreamEvent.produced?) :
    nonces log = nonces other := by
  rw [nonces, nonces, ← aeadCalls_produced log,
    ← aeadCalls_produced other, same]

/-- Hiding the reads does not change which frame is flagged. -/
theorem FlagsLastFrame.of_produced
    {log other : List StreamEvent}
    (flagged : FlagsLastFrame log)
    (same :
      log.filterMap StreamEvent.produced? =
        other.filterMap StreamEvent.produced?) :
    FlagsLastFrame other := by
  obtain ⟨frames, count, flags⟩ := flagged
  refine ⟨?_, count, ?_⟩
  · rw [HandsOn, ← aeadCalls_produced, ← emitted_produced, ← same,
      aeadCalls_produced, emitted_produced, frames]
  · rw [← nonces_of_produced same, flags]

/-- The start of a numbered list of nonces counts up. -/
theorem countUp_of_start
    {Item : Type}
    {nonceAt : Nat → Bool → Bytes}
    {items : List Item}
    {used : List Bytes}
    (fits : used.length ≤ 2 ^ 64)
    (numbered :
      ∀ position < used.length,
        ∀ last,
          nonceAt position last =
            StreamFormat.frameNonce position last)
    (start :
      used <+:
        flaggedMap (fun position last _ => nonceAt position last)
          0 items) :
    CountUp used := by
  have counters : ∀ index nonce,
      used[index]? = some nonce →
      nonce =
        StreamFormat.frameNonce index
          (decide (index + 1 = items.length)) := by
    intro index nonce present
    obtain ⟨inBounds, _⟩ := List.getElem?_eq_some_iff.mp present
    have there := List.prefix_iff_getElem?.mp start index inBounds
    rw [getElem?_flaggedMap, Nat.zero_add] at there
    obtain ⟨item, _, shape⟩ := Option.map_eq_some_iff.mp there
    obtain rfl := Option.some.inj
      ((List.getElem?_eq_getElem inBounds).symm.trans present)
    rw [← shape, numbered index inBounds]
  refine ⟨?_, ?_⟩
  · intro index nonce present
    obtain ⟨inBounds, _⟩ := List.getElem?_eq_some_iff.mp present
    refine ⟨_, counters index nonce present, fun isLast => ?_⟩
    have within := start.length_le
    rw [length_flaggedMap] at within
    have := of_decide_eq_true isLast
    omega
  · rw [List.nodup_iff_getElem?_ne_getElem?]
    intro first second ordered inBounds same
    have presentFirst := List.getElem?_eq_getElem
      (show first < used.length by omega)
    have presentSecond := List.getElem?_eq_getElem inBounds
    have sameNonce :
        used[first] = used[second] := by
      rw [presentFirst, presentSecond] at same
      exact Option.some.inj same
    rw [counters first _ presentFirst,
      counters second _ presentSecond] at sameNonce
    obtain ⟨samePosition, _⟩ := StreamFormat.frameNonce_injective
      (by omega) (by omega) sameNonce
    omega

/-- Where nothing was called, no nonce was used. -/
theorem countUp_nil : CountUp [] where
  counters := fun _ _ present => by cases present
  distinct := List.nodup_nil

/-- The nonces of a nonempty numbered list flag exactly the last one. -/
theorem exists_count_of_flaggedMap
    {Item : Type}
    {nonceAt : Nat → Bool → Bytes}
    {items : List Item}
    (nonempty : items ≠ [])
    (numbered :
      ∀ position < items.length,
        ∀ last,
          nonceAt position last =
            StreamFormat.frameNonce position last) :
    ∃ count,
      flaggedMap (fun position last _ => nonceAt position last) 0 items =
        (List.range count).map
            (fun position => StreamFormat.frameNonce position false) ++
          [StreamFormat.frameNonce count true] := by
  refine ⟨items.length - 1, ?_⟩
  cases items using List.reverseRecOn with
  | nil =>
      exact (nonempty rfl).elim
  | append_singleton front final =>
      rw [List.length_append, List.length_singleton] at numbered
      have lastNonce := numbered front.length (Nat.lt_succ_self _) true
      have earlierNonces :
          front.mapIdx (fun index _ => nonceAt (0 + index) false) =
            (List.range front.length).map
              (fun position => StreamFormat.frameNonce position false) := by
        apply List.ext_getElem
        · simp
        · intro index inBounds _
          rw [List.length_mapIdx] at inBounds
          rw [List.getElem_mapIdx, List.getElem_map, List.getElem_range,
            Nat.zero_add, numbered index (by omega)]
      rw [flaggedMap_concat, earlierNonces, Nat.zero_add, lastNonce,
        List.length_append, List.length_singleton, Nat.add_sub_cancel]

/-- What hands on its calls' outputs does so behind what does. -/
theorem HandsOn.append
    {earlier later : List StreamEvent}
    (first : HandsOn earlier)
    (second : HandsOn later) :
    HandsOn (earlier ++ later) := by
  rw [HandsOn] at first second ⊢
  rw [aeadCalls_append, emitted_append, List.map_append,
    List.map_append, first, second]

section HandingOn

variable {Error : Type}
variable {act : Nat → Bool → Bytes → Trace StreamEvent Error Unit}

/-- When each action hands on the outputs of its calls, so does a held run. -/
theorem handsOn_heldRun
    (acts :
      ∀ position last chunk,
        (act position last chunk).outcome = .ok () →
        HandsOn (act position last chunk).log)
    {position : Nat}
    {chunks : List Bytes}
    (returned : (heldRun act position chunks).outcome = .ok ()) :
    HandsOn (heldRun act position chunks).log := by
  induction chunks generalizing position with
  | nil =>
      rfl
  | cons chunk rest inductionHypothesis =>
      rw [heldRun] at returned ⊢
      obtain ⟨_, first, later, joined⟩ := Trace.bind_eq_ok returned
      rw [joined]
      exact (acts position false chunk first).append
        (inductionHypothesis later)

/-- When each action hands on the outputs of its calls, so does a whole run. -/
theorem handsOn_flaggedRun
    (acts :
      ∀ position last chunk,
        (act position last chunk).outcome = .ok () →
        HandsOn (act position last chunk).log)
    {position : Nat}
    {chunks : List Bytes}
    (returned : (flaggedRun act position chunks).outcome = .ok ()) :
    HandsOn (flaggedRun act position chunks).log := by
  cases chunks using List.reverseRecOn with
  | nil =>
      rfl
  | append_singleton front final =>
      rw [flaggedRun_concat] at returned ⊢
      obtain ⟨_, first, later, joined⟩ := Trace.bind_eq_ok returned
      rw [joined]
      exact (handsOn_heldRun acts first).append (acts _ true final later)

end HandingOn

namespace PqForgeStream

/-- The nonce of the one AEAD call at a position. -/
theorem sealAct_nonces
    (call : StreamCall)
    (position : Nat)
    (last : Bool)
    (chunk : Bytes) :
    nonces (sealAct call position last chunk).log =
      [positionNonce position last] := by
  rw [nonces, sealAct_aeadCalls]
  rfl

/-- At every moment `seal` has made at most one call more than it has frames. -/
theorem length_nonces_le_emitted
    (call : StreamCall)
    {chunks : List Bytes}
    {moment : List StreamEvent}
    (earlier : moment <+: (flaggedRun (sealAct call) 0 chunks).log) :
    (nonces moment).length ≤ (emitted moment).length + 1 := by
  refine flaggedRun_moments
    (fun moment =>
      (nonces moment).length ≤ (emitted moment).length + 1)
    ?_ ?_ (Nat.zero_le _) earlier
  · intro position last chunk moment within
    have start := (nonces_of_earlier within).length_le
    rw [sealAct_nonces, List.length_singleton] at start
    omega
  · intro position last chunk later returned bound
    rw [nonces_append, emitted_append, sealAct_nonces,
      sealAct_emitted returned, List.length_append, List.length_append,
      List.length_singleton, List.length_singleton]
    omega

/-- At every moment the nonces of `seal` are the start of a numbered list. -/
theorem seal_nonces_start
    (call : StreamCall)
    {chunks : List Bytes}
    {moment : List StreamEvent}
    (earlier : moment <+: (flaggedRun (sealAct call) 0 chunks).log) :
    nonces moment <+:
      flaggedMap (fun position last _ => positionNonce position last)
        0 chunks := by
  have used := nonces_of_earlier earlier
  rw [nonces_eq_filterMap (flaggedRun (sealAct call) 0 chunks).log,
    ← Trace.observe_log, observe_flaggedRun] at used
  have start := used.trans <| flaggedRun_log_prefix _ 0 chunks
  simp only [Trace.observe_log, ← nonces_eq_filterMap,
    sealAct_nonces] at start
  rwa [flatten_flaggedMap_singleton] at start

/-- The nonce of a position below the range of Dart's `int`. -/
theorem positionNonce_of_lt
    {position : Nat}
    (inRange : position < 2 ^ 63)
    (last : Bool) :
    positionNonce position last =
      StreamFormat.frameNonce position last :=
  nonce_of_lt inRange last

/-- As long as fewer than `2^63` frames are emitted, the nonces count up. -/
theorem seal_countUp
    (call : StreamCall)
    {chunks : List Bytes}
    {moment : List StreamEvent}
    (earlier : moment <+: (flaggedRun (sealAct call) 0 chunks).log)
    (few : (emitted moment).length < 2 ^ 63) :
    CountUp (nonces moment) := by
  have bound := length_nonces_le_emitted call earlier
  exact countUp_of_start (by omega)
    (fun position inBounds last =>
      positionNonce_of_lt (by omega) last)
    (seal_nonces_start call earlier)

/-- Where `seal` goes on, it has handed on the output of its AEAD call. -/
theorem sealAct_handsOn
    {call : StreamCall}
    {position : Nat}
    {last : Bool}
    {chunk : Bytes}
    (returned : (sealAct call position last chunk).outcome = .ok ()) :
    HandsOn (sealAct call position last chunk).log := by
  rw [HandsOn, sealAct_aeadCalls, sealAct_emitted returned]
  have observed := congrArg Trace.outcome
    (sealAct_observe call position last chunk)
  rw [Trace.observe_outcome, returned] at observed
  simp only [sealFrame, sealCall, List.map_cons, List.map_nil]
  cases answer :
      call.backend.aeadSeal call.algorithm call.key
        (positionNonce position last) chunk call.ad with
  | ok frame =>
      rfl
  | error thrown =>
      rw [answer] at observed
      cases observed

/-- A `seal` that completed with fewer than `2^63` frames flagged the last one. -/
theorem seal_flagsLastFrame
    (call : StreamCall)
    {chunks : List Bytes}
    (nonempty : chunks ≠ [])
    (completed : (flaggedRun (sealAct call) 0 chunks).outcome = .ok ())
    (few :
      (emitted (flaggedRun (sealAct call) 0 chunks).log).length <
        2 ^ 63) :
    FlagsLastFrame (flaggedRun (sealAct call) 0 chunks).log := by
  refine ⟨handsOn_flaggedRun (fun _ _ _ => sealAct_handsOn) completed, ?_⟩
  rw [seal_emitted completed, length_flaggedMap] at few
  have used :
      nonces (flaggedRun (sealAct call) 0 chunks).log =
        flaggedMap (fun position last _ => positionNonce position last)
          0 chunks := by
    rw [nonces_eq_filterMap]
    refine flaggedRun_shows completed fun index chunk _ _ => ?_
    rw [← nonces_eq_filterMap, sealAct_nonces]
  rw [used]
  exact exists_count_of_flaggedMap nonempty
    fun position inBounds last => positionNonce_of_lt (by omega) last

end PqForgeStream

namespace StreamFile

/-- The nonce of a position, in the native library. -/
def nonceAt
    (position : Nat)
    (last : Bool) :
    Bytes :=
  streamNonce (UInt64.ofNat position) last

/-- Sealing a frame makes its one AEAD call, or fails without one. -/
theorem sealFrame_nonces
    (aws : AwsLc)
    (writer : BufWriter)
    (key : LessSafeKey)
    (chunk : Bytes)
    (counter : UInt64)
    (last : Bool)
    (aad : Bytes) :
    nonces (sealFrame aws writer key chunk counter last aad).log =
        [streamNonce counter last] ∨
      nonces (sealFrame aws writer key chunk counter last aad).log = [] ∧
        (sealFrame aws writer key chunk counter last aad).outcome ≠
          .ok () := by
  rw [sealFrame, AwsLc.tryAssumeUniqueForKey]
  by_cases assumed : aws.assumeUnique (streamNonce counter last) = true
  · left
    rw [if_pos assumed]
    simp only [aeadCall, writeAll]
    cases aws.sealInPlaceAppendTag key.algorithm key.key
      (streamNonce counter last) aad chunk <;> rfl
  · right
    rw [if_neg assumed]
    exact ⟨rfl, fun returned => by cases returned⟩

/-- At each position the loop records what sealing the frame records. -/
theorem sealAct_log
    (aws : AwsLc)
    (job : StreamJob)
    (position : Nat)
    (last : Bool)
    (chunk : Bytes) :
    (sealAct aws job position last chunk).log =
      (sealFrame aws job.writer job.key chunk (UInt64.ofNat position)
        last job.ad).log := by
  have counterSilent : ∀ sealed : Unit,
      ((nextCounter (UInt64.ofNat position)).mapError Exit.failed >>=
        fun _ => Trace.done ()).log = [] := by
    intro _
    rw [Trace.log_bind_of_silent fun _ => rfl, Trace.mapError_log,
      nextCounter_log]
  rw [sealAct, Trace.log_bind_of_silent counterSilent,
    Trace.mapError_log]

/-- At each position the loop makes its one AEAD call, or fails without one. -/
theorem sealAct_nonces
    (aws : AwsLc)
    (job : StreamJob)
    (position : Nat)
    (last : Bool)
    (chunk : Bytes) :
    nonces (sealAct aws job position last chunk).log =
        [nonceAt position last] ∨
      nonces (sealAct aws job position last chunk).log = [] ∧
        (sealAct aws job position last chunk).outcome ≠ .ok () := by
  rw [sealAct_log]
  rcases sealFrame_nonces aws job.writer job.key chunk
      (UInt64.ofNat position) last job.ad with
      called | ⟨notCalled, failed⟩
  · exact .inl called
  · refine .inr ⟨notCalled, fun returned => failed ?_⟩
    obtain ⟨_, sealed, _, _⟩ := Trace.bind_eq_ok returned
    exact mapError_eq_ok sealed

/-- Reading makes no AEAD call. -/
theorem readBlock_nonces
    (reader : BufReader)
    (size : Nat) :
    nonces (readBlock reader size).log = [] := by
  rw [nonces, ← aeadCalls_produced, readBlock_silent]
  rfl

/-- The loop uses a start of the numbered nonces and stops before `2^64`. -/
theorem sealLoop_nonces
    (aws : AwsLc)
    (job : StreamJob)
    (size : Nat)
    (reader : BufReader)
    (chunk : Bytes)
    {position : Nat}
    (inRange : position < 2 ^ 64) :
    ∃ rest : List Bytes,
      nonces
          (sealLoop aws job size reader (some chunk)
            (UInt64.ofNat position)).log <+:
        flaggedMap (fun position last _ => nonceAt position last)
          position (chunk :: rest) ∧
      position +
          (nonces
            (sealLoop aws job size reader (some chunk)
              (UInt64.ofNat position)).log).length ≤ 2 ^ 64 := by
  cases ended : (readBlock reader size).outcome with
  | error exit =>
      refine ⟨[], ?_⟩
      rw [sealLoop, Trace.andThen_of_error ended]
      simp only [readBlock_nonces]
      exact ⟨List.nil_prefix, Nat.le_of_lt inRange⟩
  | ok result =>
      obtain ⟨next, left⟩ := result
      rw [sealLoop_step chunk ended, Trace.behind_log, nonces_append,
        readBlock_nonces, List.nil_append]
      rcases sealAct_nonces aws job position next.isNone chunk with
          called | ⟨notCalled, failed⟩
      · cases next with
        | none =>
            refine ⟨[], ?_⟩
            simp only [Option.isNone_none, ↓reduceIte] at called ⊢
            rw [Trace.bind_done_unit, called]
            exact ⟨List.prefix_refl _, inRange⟩
        | some block =>
            simp only [Option.isNone_some, Bool.false_eq_true,
              ↓reduceIte] at called ⊢
            cases acted :
                (sealAct aws job position false chunk).outcome with
            | error exit =>
                refine ⟨[block], ?_⟩
                rw [Trace.bind_of_error acted, called]
                exact ⟨⟨_, rfl⟩, inRange⟩
            | ok returned =>
                have room := (counted_returned inRange acted).1
                have shorter :
                    (ScheduledRead.deliveries left).length <
                      (ScheduledRead.deliveries reader).length :=
                  readBlock_next_lt ended fun isNone => by cases isNone
                obtain ⟨rest, start, bound⟩ :=
                  sealLoop_nonces aws job size left block room
                refine ⟨block :: rest, ?_⟩
                rw [Trace.bind_of_ok acted, nonces_append, called]
                refine ⟨(List.prefix_cons_inj _).mpr start, ?_⟩
                rw [List.singleton_append, List.length_cons]
                omega
      · refine ⟨[], ?_⟩
        cases acted :
            (sealAct aws job position next.isNone chunk).outcome with
        | error exit =>
            rw [Trace.bind_of_error acted, notCalled]
            exact ⟨List.nil_prefix, Nat.le_of_lt inRange⟩
        | ok returned =>
            exact (failed acted).elim
termination_by (ScheduledRead.deliveries reader).length

/-- The body uses a start of the numbered nonces and stops before `2^64`. -/
theorem sealBody_nonces
    (aws : AwsLc)
    (job : StreamJob)
    (size : Nat) :
    ∃ chunks : List Bytes,
      nonces (sealBody aws job size).log <+:
        flaggedMap (fun position last _ => nonceAt position last)
          0 chunks ∧
      (nonces (sealBody aws job size).log).length ≤ 2 ^ 64 := by
  cases ended : (readBlock job.reader size).outcome with
  | error exit =>
      refine ⟨[], ?_⟩
      rw [sealBody, Trace.bind_of_error ended]
      simp only [readBlock_nonces]
      exact ⟨List.prefix_refl _, Nat.zero_le _⟩
  | ok result =>
      obtain ⟨held, reader⟩ := result
      cases held with
      | none =>
          refine ⟨[[]], ?_⟩
          rw [sealBody_of_none ended, Trace.behind_log, nonces_append,
            readBlock_nonces, List.nil_append,
            Trace.log_bind_of_silent fun _ => flush_log job.writer]
          rcases sealAct_nonces aws job 0 true [] with
              called | ⟨notCalled, _⟩
          · rw [called]
            exact ⟨List.prefix_refl _, Nat.succ_le_of_lt (by decide)⟩
          · rw [notCalled]
            exact ⟨List.nil_prefix, Nat.zero_le _⟩
      | some block =>
          obtain ⟨rest, start, bound⟩ := sealLoop_nonces aws job size
            reader block (show 0 < 2 ^ 64 by decide)
          refine ⟨block :: rest, ?_⟩
          rw [sealBody_of_some ended, Trace.behind_log, nonces_append,
            readBlock_nonces, List.nil_append,
            Trace.log_bind_of_silent fun _ => flush_log job.writer]
          exact ⟨start, by rwa [Nat.zero_add] at bound⟩

/-- A sealing act that returned has handed on the output of its AEAD call. -/
theorem sealAct_handsOn
    {aws : AwsLc}
    {job : StreamJob}
    {position : Nat}
    {last : Bool}
    {chunk : Bytes}
    (returned : (sealAct aws job position last chunk).outcome = .ok ()) :
    HandsOn (sealAct aws job position last chunk).log := by
  obtain ⟨_, sealed, _, _⟩ := Trace.bind_eq_ok returned
  have sealedFrame := mapError_eq_ok sealed
  rw [sealAct_log]
  rw [sealFrame, AwsLc.tryAssumeUniqueForKey] at sealedFrame ⊢
  split at sealedFrame
  · cases sealedFrame
  · obtain ⟨frame, _, recorded⟩ :=
      aeadCall_writeAll_returned sealedFrame
    rw [recorded]
    rfl

/-- A body that returned has flagged the last frame, and no counter was reused. -/
theorem sealBody_flagsLastFrame
    {aws : AwsLc}
    {job : StreamJob}
    {size : Nat}
    {status : PqForgeStatus}
    (returned : (sealBody aws job size).outcome = .ok status) :
    FlagsLastFrame (sealBody aws job size).log ∧
      (nonces (sealBody aws job size).log).length < 2 ^ 64 := by
  have allocatable : size ≤ isizeMax := by
    by_contra huge
    rw [sealBody_of_huge aws job (Nat.lt_of_not_le huge)] at returned
    cases returned
  cases found :
      readBlocks size (ScheduledRead.deliveries job.reader) with
  | error reason =>
      exact (sealBody_of_error allocatable found status returned).elim
  | ok chunks =>
      have observed := sealBody_observe aws allocatable found
      have outcome := congrArg Trace.outcome observed
      have log := congrArg Trace.log observed
      rw [Trace.observe_outcome, returned, Trace.observe_outcome]
        at outcome
      obtain ⟨_, sealed, _, _⟩ := Trace.bind_eq_ok outcome.symm
      rw [Trace.observe_log, Trace.observe_log,
        Trace.log_bind_of_silent fun _ => flush_log job.writer] at log
      have few := length_lt_of_counted
        (fun _ _ _ inRange acted => (counted_returned inRange acted).1)
        sealed
      have used :
          nonces (flaggedRun (sealAct aws job) 0
              (sealedChunks chunks)).log =
            flaggedMap (fun position last _ => nonceAt position last)
              0 (sealedChunks chunks) := by
        rw [nonces_eq_filterMap]
        refine flaggedRun_shows sealed fun index chunk _ acted => ?_
        rw [← nonces_eq_filterMap]
        rcases sealAct_nonces aws job (0 + index) _ chunk with
            called | ⟨_, failed⟩
        · exact called
        · exact (failed acted).elim
      have flagged :
          FlagsLastFrame
            (flaggedRun (sealAct aws job) 0 (sealedChunks chunks)).log := by
        refine ⟨handsOn_flaggedRun (fun _ _ _ => sealAct_handsOn) sealed, ?_⟩
        rw [used]
        refine exists_count_of_flaggedMap ?_ fun position inBounds last =>
          streamNonce_ofNat (by omega) last
        rw [sealedChunks]
        split <;> simp_all
      refine ⟨flagged.of_produced log.symm, ?_⟩
      rw [nonces_of_produced log, used, length_flaggedMap]
      exact few

/-- What a native sealing run does with its nonces. -/
structure NativeRun.FreshNonces (run : NativeRun) : Prop where
  countUp :
    ∀ moment, moment <+: run.log → CountUp (nonces moment)
  flagsLastFrame :
    run.code = PqForgeStatus.ok.code → FlagsLastFrame run.log
  stops :
    (nonces run.log).length ≤ 2 ^ 64 ∧
      ((nonces run.log).length = 2 ^ 64 →
        run.code ≠ PqForgeStatus.ok.code)

/-- Every native sealing run keeps its nonces fresh. -/
theorem pqforgeStreamSealFile_freshNonces
    (aws : AwsLc)
    (files : FileSystem)
    (args : StreamArgs) :
    (pqforgeStreamSealFile aws files args).FreshNonces := by
  rw [pqforgeStreamSealFile]
  cases prepared : prepare aws files args with
  | error exit =>
      have failed := prepare_isFailure prepared
      refine ⟨?_, ?_, Nat.zero_le _, fun exhausted => by cases exhausted⟩
      · intro moment earlier
        obtain rfl := List.prefix_nil.mp earlier
        exact countUp_nil
      · intro returnsOk
        cases exported_eq_ok (Trace.failsAs_fail failed) returnsOk
  | ok job =>
      rw [Trace.ofExcept_ok, Trace.done_bind]
      obtain ⟨chunks, start, bound⟩ :=
        sealBody_nonces aws job args.chunkSize.toNat
      refine ⟨?_, ?_, bound, ?_⟩
      · intro moment earlier
        have used := nonces_of_earlier earlier
        have usedLength :
            (nonces moment).length ≤
              (nonces
                (sealBody aws job args.chunkSize.toNat).log).length :=
          used.length_le
        exact countUp_of_start (Nat.le_trans usedLength bound)
          (fun position inBounds last =>
            streamNonce_ofNat (by omega) last)
          (used.trans start)
      · intro returnsOk
        exact (sealBody_flagsLastFrame
          (exported_eq_ok (sealBody_failsAs aws job _) returnsOk)).1
      · intro exhausted returnsOk
        have few := (sealBody_flagsLastFrame
          (exported_eq_ok (sealBody_failsAs aws job _) returnsOk)).2
        exact absurd exhausted (Nat.ne_of_lt few)

end StreamFile

/-- What a Dart sealing run does with its nonces. -/
structure PqForgeStream.FreshNonces
    (run : Trace StreamEvent DartThrow Unit) : Prop where
  countUp :
    ∀ moment,
      moment <+: run.log →
      (emitted moment).length < 2 ^ 63 →
      CountUp (nonces moment)
  flagsLastFrame :
    run.outcome = .ok () →
    (emitted run.log).length < 2 ^ 63 →
    FlagsLastFrame run.log

/-- Every Dart sealing run keeps its nonces fresh. -/
theorem PqForgeStream.seal_freshNonces
    (backend : PqForgeBackend)
    (source : List Bytes)
    (key : Bytes)
    (algorithm : PqAeadAlgorithm)
    (aad : Option Bytes)
    (chunkSize : Int64) :
    FreshNonces
      («seal» backend source key algorithm aad chunkSize) := by
  by_cases positive : 0 < chunkSize.toInt
  · let call : StreamCall :=
      { backend, key, algorithm, ad := aad.getD [], chunkSize, positive }
    have run := seal_eq_flaggedRun call aad rfl source
    rw [run]
    exact
      ⟨fun moment earlier few => seal_countUp call earlier few,
        fun completed few =>
          seal_flagsLastFrame call (blocks_ne_nil _ _) completed few⟩
  · rw [«seal», dif_neg positive]
    refine ⟨?_, fun completed => by cases completed⟩
    intro moment earlier _
    obtain rfl := List.prefix_nil.mp earlier
    exact countUp_nil

/--
Neither sealer uses a nonce twice: the counters are zero, one, two and so on,
a run that succeeds flags exactly its last frame, and the native run ends with
an error rather than reuse a counter.
-/
theorem sealers_use_fresh_nonces
    (backend : PqForgeBackend)
    (source : List Bytes)
    (key : Bytes)
    (algorithm : PqAeadAlgorithm)
    (aad : Option Bytes)
    (chunkSize : Int64)
    (aws : AwsLc)
    (files : StreamFile.FileSystem)
    (args : StreamFile.StreamArgs) :
    PqForgeStream.FreshNonces
        (PqForgeStream.«seal» backend source key algorithm aad
          chunkSize) ∧
      (StreamFile.pqforgeStreamSealFile aws files args).FreshNonces :=
  ⟨PqForgeStream.seal_freshNonces backend source key algorithm aad
      chunkSize,
    StreamFile.pqforgeStreamSealFile_freshNonces aws files args⟩

end PqForgeFfi
