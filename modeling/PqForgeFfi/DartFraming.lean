import PqForgeFfi.DartStream
import PqForgeFfi.StreamFormat

namespace PqForgeFfi.PqForgeStream

open Segmentation ByteOrder

/-!
# What the Dart stream does, whatever the cuts

The generators `seal` and `open` treat the blocks of the whole input in order,
however the input was cut into events.  A step lemma for the inner loop, one
for an event and a run lemma over the events lead to `seal_eq_flaggedRun` and
`open_eq_flaggedRun`, from which the other results about the stream follow.
-/

/-- The byte loop of `_nonce` writes the counter big-endian. -/
theorem nonceLoop_eq
    (room counter : Nat)
    (tail : Bytes) :
    nonceLoop (List.replicate room 0 ++ tail) room counter =
      bigEndian room counter ++ tail := by
  induction room generalizing counter tail with
  | zero =>
      rfl
  | succ room inductionHypothesis =>
      by_cases positive : 0 < counter
      · have positiveInt : (0 : Int) < counter := by
          omega
        have lowByte :
            ((counter : Int) % 256).toNat = counter % 256 := by
          omega
        have shifted : ((counter : Int) >>> (8 : Nat)) =
            (counter / 256 : Nat) := by
          rw [Int.shiftRight_eq_div_pow]
          rfl
        rw [nonceLoop, if_pos positiveInt, lowByte, shifted,
          List.replicate_succ', List.append_assoc,
          List.set_append_right _ _ (by simp)]
        simp only [List.length_replicate, Nat.sub_self,
          List.singleton_append, List.set_cons_zero]
        rw [inductionHypothesis, bigEndian, List.append_assoc]
        rfl
      · obtain rfl : counter = 0 := by
          omega
        rw [bigEndian_zero, nonceLoop, if_neg (by omega)]

/-- `_nonce` is the big-endian counter followed by the flag. -/
theorem nonce_eq
    {counter nonceBytes : Nat}
    (inRange : counter < 2 ^ 63)
    (nonempty : 0 < nonceBytes)
    (last : Bool) :
    nonce (Int64.ofNat counter) last nonceBytes =
      bigEndian (nonceBytes - 1) counter ++
        [if last then 1 else 0] := by
  obtain ⟨room, rfl⟩ : ∃ room, nonceBytes = room + 1 :=
    ⟨nonceBytes - 1, by omega⟩
  rw [nonce, Int64.toInt_ofNat_of_lt inRange, Nat.add_sub_cancel,
    List.replicate_succ', nonceLoop_eq,
    List.set_append_right _ _ (by simp)]
  simp

/-- The nonce of a counter that has not wrapped is the nonce of the format. -/
theorem nonce_of_lt
    {position : Nat}
    (inRange : position < 2 ^ 63)
    (last : Bool) :
    nonce (Int64.ofNat position) last 12 =
      StreamFormat.frameNonce position last := by
  have fits : position < 256 ^ 8 := by
    omega
  have padded := bigEndian_of_lt 3 fits
  rw [nonce_eq inRange (by decide), StreamFormat.frameNonce, ← padded]

/-- A counter that has wrapped leaves the counter bytes of a nonce zero. -/
theorem nonce_of_negative
    {counter : Int64}
    (wrapped : counter.toInt < 0)
    (last : Bool) :
    nonce counter last 12 = StreamFormat.frameNonce 0 last := by
  rw [nonce, nonceLoop, if_neg (by omega)]
  rfl

/-! ## Sealing -/

/-- The chunk size of a call, as a natural number. -/
def StreamCall.size (call : StreamCall) : Nat :=
  call.chunkSize.toInt.toNat

theorem StreamCall.size_cast (call : StreamCall) :
    (call.size : Int) = call.chunkSize.toInt := by
  have := call.positive
  rw [size]
  omega

theorem StreamCall.size_pos (call : StreamCall) :
    0 < call.size := by
  have := call.positive
  rw [size]
  omega

/-- What `seal` does with the chunk at a position. -/
def sealAct
    (call : StreamCall)
    (position : Nat)
    (last : Bool)
    (chunk : Bytes) :
    Trace StreamEvent DartThrow Unit :=
  yieldSeal call chunk (Int64.ofNat position) last

@[simp] theorem concat_eq_append (a b : Bytes) :
    concat a b = a ++ b := by
  cases a with
  | nil =>
      rfl
  | cons byte rest =>
      rfl

/-- `counter++` on the counter of a position. -/
theorem ofNat_succ (position : Nat) :
    Int64.ofNat position + 1 = Int64.ofNat (position + 1) := by
  rw [Int64.ofNat_add]
  rfl

/-- Sealing the pending chunk is sealing all but the newest chunk. -/
theorem yieldPending_eq
    (call : StreamCall)
    (position : Nat)
    (pending : Option Bytes)
    (chunk : Bytes) :
    yieldPending call (Int64.ofNat position) pending =
      heldRun (sealAct call) position
          (pending.toList ++ [chunk]).dropLast >>= fun _ =>
        .done (Int64.ofNat
          (position + (pending.toList ++ [chunk]).dropLast.length)) := by
  cases pending with
  | none =>
      simp [yieldPending, heldRun]
  | some held =>
      simp only [yieldPending, ofNat_succ]
      simp [-Int64.ofNat_add, heldRun, sealAct]

/-- The view of a buffer behind its blocks is what is held back. -/
theorem sublistView_cut_rest
    (size slack : Nat)
    (buffer : Bytes) :
    sublistView buffer
        ((buffer.length - (cut size slack buffer).2.length : Nat) : Int)
        buffer.length =
      .ok (cut size slack buffer).2 := by
  have joined := cut_join size slack buffer
  generalize cut size slack buffer = parts at joined ⊢
  subst joined
  have before :
      (parts.1.flatten ++ parts.2).length - parts.2.length =
        parts.1.flatten.length := by
    rw [List.length_append, Nat.add_sub_cancel]
  rw [sublistView_of_le (Nat.sub_le _ _) (Nat.le_refl _),
    List.take_of_length_le (Nat.le_of_eq List.length_drop), before,
    List.drop_left]

/-- The full chunks that are known once `received` lies in the buffer. -/
def knownChunks
    (call : StreamCall)
    (pending : Option Bytes)
    (received : Bytes) :
    List Bytes :=
  pending.toList ++ (cut call.size 0 received).1

/--
The inner loop of `seal` cuts every full chunk of what is left of the buffer,
and seals all the known chunks but the newest.
-/
theorem sealLoop_eq
    (call : StreamCall)
    (combined : Bytes)
    (offset position : Nat)
    (pending : Option Bytes)
    (inside : offset ≤ combined.length) :
    sealLoop call combined offset (Int64.ofNat position) pending =
      heldRun (sealAct call) position
          (knownChunks call pending
            (combined.drop offset)).dropLast >>= fun _ =>
        .done
          (((combined.length -
              (cut call.size 0 (combined.drop offset)).2.length : Nat) :
                Int),
            Int64.ofNat (position +
              (knownChunks call pending
                (combined.drop offset)).dropLast.length),
            (knownChunks call pending
              (combined.drop offset)).getLast?) := by
  have sizeCast := call.size_cast
  have sizePos := call.size_pos
  by_cases room : offset + call.size ≤ combined.length
  · have roomInt :
        call.chunkSize.toInt ≤ (combined.length : Int) - offset := by
      omega
    have roomLeft : call.size + 0 ≤ (combined.drop offset).length := by
      rw [List.length_drop]
      omega
    have nextOffset :
        (offset : Int) + call.chunkSize.toInt =
          (offset + call.size : Nat) := by
      omega
    have sliced :
        sublistView combined offset (offset + call.size : Nat) =
          .ok ((combined.drop offset).take call.size) := by
      rw [sublistView_of_le (by omega) room]
      congr 2
      omega
    have later := sealLoop_eq call combined (offset + call.size)
      (position +
        (pending.toList ++
          [(combined.drop offset).take call.size]).dropLast.length)
      (some ((combined.drop offset).take call.size)) room
    rw [sealLoop, if_pos roomInt, nextOffset, sliced,
      yieldPending_eq call position pending
        ((combined.drop offset).take call.size)]
    simp only [Trace.bind_assoc, Trace.done_bind, Trace.ofExcept_ok]
    rw [later, ← Trace.bind_assoc]
    simp only [knownChunks]
    rw [cut_step sizePos roomLeft, List.drop_drop]
    cases pending with
    | none =>
        simp [heldRun]
    | some held =>
        simp [heldRun, List.dropLast_cons_of_ne_nil, Nat.add_assoc,
          Nat.add_comm 1]
  · have noRoomInt :
        ¬ call.chunkSize.toInt ≤ (combined.length : Int) - offset := by
      omega
    have short : (combined.drop offset).length < call.size + 0 := by
      rw [List.length_drop]
      omega
    have back :
        combined.length - (combined.drop offset).length = offset := by
      rw [List.length_drop]
      omega
    rw [sealLoop, if_neg noRoomInt]
    simp only [knownChunks]
    rw [cut_stop short, back]
    cases pending with
    | none =>
        simp [heldRun]
    | some held =>
        simp [heldRun]
termination_by combined.length - offset

/-- The state of `seal` once `received` has arrived behind a pending chunk. -/
def sealStateAt
    (call : StreamCall)
    (position : Nat)
    (pending : Option Bytes)
    (received : Bytes) :
    SealState where
  counter :=
    Int64.ofNat
      (position + (knownChunks call pending received).dropLast.length)
  pending := (knownChunks call pending received).getLast?
  carry := (cut call.size 0 received).2

/-- One event: the known chunks but the newest are sealed. -/
theorem sealEvent_eq
    (call : StreamCall)
    (position : Nat)
    (pending : Option Bytes)
    (carry data : Bytes) :
    sealEvent call
        { counter := Int64.ofNat position, pending, carry } data =
      heldRun (sealAct call) position
          (knownChunks call pending (carry ++ data)).dropLast >>= fun _ =>
        .done (sealStateAt call position pending (carry ++ data)) := by
  have looped := sealLoop_eq call (carry ++ data) 0 position pending
    (Nat.zero_le _)
  rw [List.drop_zero] at looped
  rw [sealEvent, concat_eq_append]
  dsimp only
  rw [show (0 : Int) = (0 : Nat) from rfl, looped]
  simp only [Trace.bind_assoc, Trace.done_bind,
    sublistView_cut_rest, Trace.ofExcept_ok]
  rfl

/-- The chunks known before and after a further event. -/
theorem knownChunks_append
    (call : StreamCall)
    (pending : Option Bytes)
    (earlier later : Bytes) :
    knownChunks call pending (earlier ++ later) =
      knownChunks call pending earlier ++
        (cut call.size 0
          ((cut call.size 0 earlier).2 ++ later)).1 := by
  rw [knownChunks, knownChunks, cut_append call.size_pos,
    List.append_assoc]

/-- The chunks to seal after a further event, with the newest one held. -/
theorem dropLast_knownChunks_append
    (call : StreamCall)
    (pending : Option Bytes)
    (earlier later : Bytes) :
    (knownChunks call pending (earlier ++ later)).dropLast =
      (knownChunks call pending earlier).dropLast ++
        (knownChunks call (knownChunks call pending earlier).getLast?
          ((cut call.size 0 earlier).2 ++ later)).dropLast := by
  rw [knownChunks_append, dropLast_append_held]
  rfl

/-- The state after a further event continues from the state before it. -/
theorem sealStateAt_append
    (call : StreamCall)
    (position : Nat)
    (pending : Option Bytes)
    (earlier later : Bytes) :
    sealStateAt call position pending (earlier ++ later) =
      sealStateAt call
        (position + (knownChunks call pending earlier).dropLast.length)
        (knownChunks call pending earlier).getLast?
        ((cut call.size 0 earlier).2 ++ later) := by
  simp only [sealStateAt]
  rw [dropLast_knownChunks_append call pending earlier later,
    List.length_append, ← Nat.add_assoc,
    knownChunks_append call pending earlier later,
    getLast?_append_held (knownChunks call pending earlier),
    cut_append call.size_pos earlier later]
  rfl

/-- All events: the state and the sealed chunks depend on their join only. -/
theorem sealEvents_eq
    (call : StreamCall)
    (position : Nat)
    (pending : Option Bytes)
    (carry : Bytes)
    (short : carry.length < call.size)
    (events : List Bytes) :
    sealEvents call
        { counter := Int64.ofNat position, pending, carry } events =
      heldRun (sealAct call) position
          (knownChunks call pending
            (carry ++ events.flatten)).dropLast >>= fun _ =>
        .done
          (sealStateAt call position pending
            (carry ++ events.flatten)) := by
  induction events generalizing position pending carry with
  | nil =>
      rw [List.flatten_nil, List.append_nil, sealStateAt, knownChunks,
        cut_stop (by omega), sealEvents]
      cases pending with
      | none =>
          simp [heldRun]
      | some held =>
          simp [heldRun]
  | cons data rest inductionHypothesis =>
      have restShort :
          (cut call.size 0 (carry ++ data)).2.length < call.size :=
        cut_rest_lt call.size_pos _
      rw [sealEvents, sealEvent_eq]
      simp only [Trace.bind_assoc, Trace.done_bind]
      rw [sealStateAt, inductionHypothesis _ _ _ restShort,
        ← Trace.bind_assoc, List.flatten_cons, ← List.append_assoc,
        dropLast_knownChunks_append call pending (carry ++ data)
          rest.flatten,
        heldRun_append,
        sealStateAt_append call position pending (carry ++ data)
          rest.flatten]

/-- With something left over, the flush seals the newest chunk and the rest. -/
theorem sealFlush_of_carry
    (call : StreamCall)
    {state : SealState}
    (left : state.carry ≠ []) :
    sealFlush call state =
      yieldPending call state.counter state.pending >>= fun counter =>
        yieldSeal call state.carry counter true := by
  rw [sealFlush, if_pos (by simpa using left)]

/-- With nothing left over, the flush seals the newest chunk, or an empty one. -/
theorem sealFlush_of_no_carry
    (call : StreamCall)
    {state : SealState}
    (nothingLeft : state.carry = []) :
    sealFlush call state =
      yieldSeal call (state.pending.getD []) state.counter true := by
  rw [sealFlush, if_neg (by simp [nothingLeft])]
  cases state.pending <;> rfl

/-- The flush after the known chunks seals what the framing still holds. -/
theorem sealFlush_eq
    (call : StreamCall)
    (received : Bytes) :
    (heldRun (sealAct call) 0
          (knownChunks call none received).dropLast >>= fun _ =>
        sealFlush call (sealStateAt call 0 none received)) =
      flaggedRun (sealAct call) 0 (blocks call.size received) := by
  have sizePos := call.size_pos
  have known :
      knownChunks call none received = (cut call.size 0 received).1 :=
    List.nil_append _
  by_cases nothingLeft : (cut call.size 0 received).2 = []
  · rw [sealFlush_of_no_carry call nothingLeft]
    simp only [sealStateAt, known]
    cases shape : (cut call.size 0 received).1
        using List.reverseRecOn with
    | nil =>
        have joined := cut_join call.size 0 received
        rw [shape, nothingLeft] at joined
        subst joined
        rw [List.flatten_nil, List.append_nil,
          blocks_of_le (Nat.zero_le _)]
        simp [heldRun, flaggedRun, sealAct]
    | append_singleton front final =>
        rw [blocks_of_full sizePos shape nothingLeft, flaggedRun_concat]
        simp [sealAct]
  · rw [sealFlush_of_carry call nothingLeft,
      blocks_of_rest sizePos nothingLeft, flaggedRun_concat]
    simp only [sealStateAt, known]
    cases shape : (cut call.size 0 received).1
        using List.reverseRecOn with
    | nil =>
        simp [heldRun, sealAct, yieldPending]
    | append_singleton front final =>
        rw [yieldPending_eq call _ _ []]
        simp [heldRun_append, heldRun, sealAct]

/-- Whatever the cuts, `seal` seals the framing of the whole plaintext. -/
theorem sealEvents_sealFlush
    (call : StreamCall)
    (source : List Bytes) :
    (sealEvents call
        { counter := 0, pending := none, carry := [] } source >>=
          sealFlush call) =
      flaggedRun (sealAct call) 0 (blocks call.size source.flatten) := by
  have run := sealEvents_eq call 0 none [] call.size_pos source
  rw [List.nil_append] at run
  have start : (0 : Int64) = Int64.ofNat 0 := rfl
  rw [start, run]
  simp only [Trace.bind_assoc, Trace.done_bind]
  exact sealFlush_eq call source.flatten

/-- `seal` seals the framing of the plaintext, chunk by chunk. -/
theorem seal_eq_flaggedRun
    (call : StreamCall)
    (aad : Option Bytes)
    (associated : aad.getD [] = call.ad)
    (source : List Bytes) :
    «seal» call.backend source call.key call.algorithm aad
        call.chunkSize =
      flaggedRun (sealAct call) 0 (blocks call.size source.flatten) := by
  rw [«seal», dif_pos call.positive, associated]
  exact sealEvents_sealFlush call source

/-! ## Opening -/

/-- The frame size of a call, as a natural number. -/
def StreamCall.frameSize (call : StreamCall) : Nat :=
  call.size + 16

/-- The frame size is an `int`: the opener's sum does not wrap. -/
def StreamCall.Bounded (call : StreamCall) : Prop :=
  call.chunkSize.toInt ≤ 2 ^ 63 - 17

theorem StreamCall.Bounded.frameSize_cast
    {call : StreamCall}
    (bounded : call.Bounded) :
    (call.frameSize : Int) = call.cipherChunk.toInt := by
  have sizeCast := call.size_cast
  have limit : call.chunkSize.toInt ≤ 2 ^ 63 - 17 := bounded
  rw [frameSize, call.cipherChunk_toInt, if_pos (by omega)]
  omega

/-- What `open` does with the frame at a position. -/
def openAct
    (call : StreamCall)
    (position : Nat)
    (last : Bool)
    (frame : Bytes) :
    Trace StreamEvent DartThrow Unit :=
  if last then
    openFinal call
      { counter := Int64.ofNat position
        carry := frame
        sawAnyByte := !frame.isEmpty }
  else
    yieldOpen call frame (Int64.ofNat position) false

/-- The inner loop of `open` opens every frame that something follows. -/
theorem openLoop_eq
    {call : StreamCall}
    (bounded : call.Bounded)
    (combined : Bytes)
    (offset position : Nat)
    (inside : offset ≤ combined.length) :
    openLoop call combined offset (Int64.ofNat position) =
      heldRun (openAct call) position
          (cut call.frameSize 1 (combined.drop offset)).1 >>= fun _ =>
        .done
          (((combined.length -
              (cut call.frameSize 1
                (combined.drop offset)).2.length : Nat) : Int),
            Int64.ofNat (position +
              (cut call.frameSize 1
                (combined.drop offset)).1.length)) := by
  have frameCast := bounded.frameSize_cast
  have framePos : 0 < call.frameSize := by
    rw [StreamCall.frameSize]
    omega
  by_cases room : offset + call.frameSize + 1 ≤ combined.length
  · have roomInt :
        call.cipherChunk.toInt < (combined.length : Int) - offset := by
      omega
    have roomLeft :
        call.frameSize + 1 ≤ (combined.drop offset).length := by
      rw [List.length_drop]
      omega
    have nextOffset :
        (offset : Int) + call.cipherChunk.toInt =
          (offset + call.frameSize : Nat) := by
      omega
    have frameHere :
        sublistView combined offset (offset + call.frameSize : Nat) =
          .ok ((combined.drop offset).take call.frameSize) := by
      rw [sublistView_of_le (by omega) (by omega)]
      congr 2
      omega
    have later := openLoop_eq bounded combined
      (offset + call.frameSize) (position + 1) (by omega)
    rw [openLoop, if_pos roomInt]
    split
    · rename_i thrown sliced
      rw [nextOffset, frameHere] at sliced
      cases sliced
    · rename_i frame sliced
      rw [nextOffset, frameHere] at sliced
      cases sliced
      rw [nextOffset, ofNat_succ, later, cut_step framePos roomLeft,
        List.drop_drop]
      simp only [heldRun, List.length_cons, Trace.bind_assoc]
      rw [Nat.add_assoc position 1, Nat.add_comm 1]
      rfl
  · have noRoomInt :
        ¬ call.cipherChunk.toInt < (combined.length : Int) - offset := by
      omega
    have short : (combined.drop offset).length < call.frameSize + 1 := by
      rw [List.length_drop]
      omega
    have back :
        combined.length - (combined.drop offset).length = offset := by
      rw [List.length_drop]
      omega
    rw [openLoop, if_neg noRoomInt, cut_stop short, back]
    simp [heldRun]
termination_by combined.length - offset

/-- The state of `open` once `received` lies behind the opened frames. -/
def openStateAt
    (call : StreamCall)
    (position : Nat)
    (received : Bytes)
    (sawAnyByte : Bool) :
    OpenState where
  counter :=
    Int64.ofNat
      (position + (cut call.frameSize 1 received).1.length)
  carry := (cut call.frameSize 1 received).2
  sawAnyByte := sawAnyByte

/-- One event: every frame that something follows is opened. -/
theorem openEvent_eq
    {call : StreamCall}
    (bounded : call.Bounded)
    (position : Nat)
    (carry data : Bytes)
    (sawAnyByte : Bool) :
    openEvent call
        { counter := Int64.ofNat position, carry, sawAnyByte } data =
      heldRun (openAct call) position
          (cut call.frameSize 1 (carry ++ data)).1 >>= fun _ =>
        .done
          (openStateAt call position (carry ++ data)
            (sawAnyByte || !data.isEmpty)) := by
  have looped := openLoop_eq bounded (carry ++ data) 0 position
    (Nat.zero_le _)
  have seen :
      (if (!data.isEmpty) = true then true else sawAnyByte) =
        (sawAnyByte || !data.isEmpty) := by
    cases data.isEmpty <;> simp
  rw [List.drop_zero] at looped
  rw [openEvent, concat_eq_append]
  dsimp only
  rw [show (0 : Int) = (0 : Nat) from rfl, looped, seen]
  simp only [Trace.bind_assoc, Trace.done_bind,
    sublistView_cut_rest, Trace.ofExcept_ok]
  rfl

/-- All events: the state and the opened frames depend on their join only. -/
theorem openEvents_eq
    {call : StreamCall}
    (bounded : call.Bounded)
    (position : Nat)
    (carry : Bytes)
    (sawAnyByte : Bool)
    (short : carry.length < call.frameSize + 1)
    (events : List Bytes) :
    openEvents call
        { counter := Int64.ofNat position, carry, sawAnyByte } events =
      heldRun (openAct call) position
          (cut call.frameSize 1 (carry ++ events.flatten)).1 >>= fun _ =>
        .done
          (openStateAt call position (carry ++ events.flatten)
            (sawAnyByte || !events.flatten.isEmpty)) := by
  have framePos : 0 < call.frameSize := by
    rw [StreamCall.frameSize]
    omega
  induction events generalizing position carry sawAnyByte with
  | nil =>
      rw [List.flatten_nil, List.append_nil, openStateAt,
        cut_stop short, openEvents]
      simp [heldRun]
  | cons data rest inductionHypothesis =>
      have restShort :
          (cut call.frameSize 1 (carry ++ data)).2.length <
            call.frameSize + 1 :=
        cut_rest_lt framePos _
      have seen :
          ((sawAnyByte || !data.isEmpty) || !rest.flatten.isEmpty) =
            (sawAnyByte || !(data ++ rest.flatten).isEmpty) := by
        cases data <;> cases sawAnyByte <;> simp
      rw [openEvents, openEvent_eq bounded]
      simp only [Trace.bind_assoc, Trace.done_bind]
      rw [openStateAt, inductionHypothesis _ _ _ restShort,
        ← Trace.bind_assoc, List.flatten_cons, ← List.append_assoc,
        seen]
      simp only [openStateAt]
      rw [cut_append framePos (carry ++ data) rest.flatten,
        heldRun_append, List.length_append, Nat.add_assoc]

/-- Whatever the cuts, `open` opens the framing of the whole ciphertext. -/
theorem openEvents_openFinal
    {call : StreamCall}
    (bounded : call.Bounded)
    (source : List Bytes) :
    (openEvents call
        { counter := 0, carry := [], sawAnyByte := false } source >>=
          openFinal call) =
      flaggedRun (openAct call) 0
        (blocks call.frameSize source.flatten) := by
  have run := openEvents_eq bounded 0 [] false (Nat.succ_pos _) source
  have start : (0 : Int64) = Int64.ofNat 0 := rfl
  rw [List.nil_append] at run
  have seen :
      (false || !source.flatten.isEmpty) =
        !(cut call.frameSize 1 source.flatten).2.isEmpty := by
    by_cases isEmpty : source.flatten = []
    · rw [isEmpty, cut_stop (Nat.succ_pos _)]
      rfl
    · have restOwed : (cut call.frameSize 1 source.flatten).2 ≠ [] :=
        List.length_pos_iff.mp
          (slack_le_cut_rest (List.length_pos_iff.mpr isEmpty))
      rw [List.isEmpty_eq_false_iff.mpr isEmpty,
        List.isEmpty_eq_false_iff.mpr restOwed]
      rfl
  rw [start, run, blocks, flaggedRun_concat, seen]
  simp only [Trace.bind_assoc, Trace.done_bind]
  rfl

/-- `open` opens the framing of the ciphertext, frame by frame. -/
theorem open_eq_flaggedRun
    {call : StreamCall}
    (bounded : call.Bounded)
    (aad : Option Bytes)
    (associated : aad.getD [] = call.ad)
    (source : List Bytes) :
    «open» call.backend source call.key call.algorithm aad
        call.chunkSize =
      flaggedRun (openAct call) 0
        (blocks call.frameSize source.flatten) := by
  rw [«open», dif_pos call.positive, associated]
  exact openEvents_openFinal bounded source

end PqForgeFfi.PqForgeStream
