import PqForgeFfi.ByteOrder.BigEndian
import PqForgeFfi.NativeStatus

namespace PqForgeFfi

open ByteOrder

/-!
# Output buffers of the native library

An exported function with one output hands it to `write_out`, which fills a
buffer and a length cell of the caller's.  A caller that passes both, and a
buffer that is large enough, reads back exactly what was handed over.
-/

/-- The output arguments of a call: a buffer and a length cell, each or null. -/
structure CallerOutput where
  out : Option Bytes
  cap : Nat
  len : Option Nat
  valid : ∀ bytes, out = some bytes → cap ≤ bytes.length

namespace CallerOutput

/-- Neither the buffer nor the length cell is null. -/
def Given (caller : CallerOutput) : Prop :=
  ∃ bytes previous,
    caller.out = some bytes ∧ caller.len = some previous

/-- The bytes that the length cell says are in the buffer. -/
def contents (caller : CallerOutput) : Bytes :=
  (caller.out.getD []).take (caller.len.getD 0)

end CallerOutput

/-- `write_out`: the status, and what the caller then holds. -/
def writeOut
    (src : Bytes)
    (caller : CallerOutput) :
    PqForgeStatus × CallerOutput :=
  match caller.len with
  | none =>
      (.nullArgument, caller)
  | some _ =>
      match buffer : caller.out with
      | none =>
          (.nullArgument, { caller with len := some src.length })
      | some bytes =>
          if small : caller.cap < src.length then
            (.bufferTooSmall, { caller with len := some src.length })
          else
            (.ok, {
              out := some (overwrite bytes 0 src)
              cap := caller.cap
              len := some src.length
              valid := by
                intro written same
                obtain rfl := Option.some.inj same
                have room := caller.valid bytes buffer
                rw [length_overwrite (by omega)]
                exact room })

/-- An output that fits is written, and the caller reads it back. -/
theorem writeOut_of_fits
    (caller : CallerOutput)
    {src bytes : Bytes}
    {previous : Nat}
    (cell : caller.len = some previous)
    (buffer : caller.out = some bytes)
    (fits : src.length ≤ caller.cap) :
    (writeOut src caller).1 = .ok ∧
      (writeOut src caller).2.contents = src := by
  obtain ⟨out, cap, len, valid⟩ := caller
  subst cell buffer
  rw [writeOut]
  simp only [dif_neg (Nat.not_lt.mpr fits)]
  refine ⟨trivial, ?_⟩
  simp [CallerOutput.contents, overwrite]

/-- A caller with both pointers is told whether its buffer is large enough. -/
theorem writeOut_status
    {caller : CallerOutput}
    (given : caller.Given)
    (src : Bytes) :
    (writeOut src caller).1 =
      if caller.cap < src.length then .bufferTooSmall else .ok := by
  obtain ⟨out, cap, len, valid⟩ := caller
  obtain ⟨bytes, previous, buffer, cell⟩ := given
  subst buffer cell
  simp only [writeOut]
  by_cases small : cap < src.length
  · rw [dif_pos small, if_pos small]
  · rw [dif_neg small, if_neg small]

/-- A caller with a length cell finds the required length there. -/
theorem writeOut_len
    {caller : CallerOutput}
    (given : caller.Given)
    (src : Bytes) :
    (writeOut src caller).2.len = some src.length := by
  obtain ⟨out, cap, len, valid⟩ := caller
  obtain ⟨bytes, previous, buffer, cell⟩ := given
  subst buffer cell
  simp only [writeOut]
  by_cases small : cap < src.length
  · rw [dif_pos small]
  · rw [dif_neg small]

/-- Of an output at most the number in its length cell changed. -/
structure LeftAlone (before after : CallerOutput) : Prop where
  out : after.out = before.out
  cap : after.cap = before.cap

/-- An output was written: to the front of its buffer, with its length. -/
structure WrittenWith
    (source : Bytes)
    (before after : CallerOutput) : Prop where
  out : after.out = before.out.map fun held => overwrite held 0 source
  cap : after.cap = before.cap
  len : after.len = some source.length
  given : before.out.isSome
  fits : source.length ≤ before.cap

/-- `write_out` found no place for an output. -/
def NoPlace (status : PqForgeStatus) : Prop :=
  status = .nullArgument ∨ status = .bufferTooSmall

theorem LeftAlone.refl (output : CallerOutput) :
    LeftAlone output output :=
  ⟨rfl, rfl⟩

/-- `write_out` writes all of an output, or finds no place for it. -/
theorem writeOut_delivers
    (source : Bytes)
    (caller : CallerOutput) :
    (writeOut source caller).1 = .ok ∧
        WrittenWith source caller (writeOut source caller).2 ∨
      NoPlace (writeOut source caller).1 ∧
        LeftAlone caller (writeOut source caller).2 := by
  obtain ⟨out, cap, len, valid⟩ := caller
  cases len with
  | none =>
      exact .inr ⟨.inl rfl, rfl, rfl⟩
  | some previous =>
      cases out with
      | none =>
          exact .inr ⟨.inl rfl, rfl, rfl⟩
      | some held =>
          simp only [writeOut]
          by_cases small : cap < source.length
          · rw [dif_pos small]
            exact .inr ⟨.inr rfl, rfl, rfl⟩
          · rw [dif_neg small]
            exact .inl ⟨rfl, rfl, rfl, rfl, rfl, Nat.le_of_not_lt small⟩

theorem NoPlace.ne_ok
    {status : PqForgeStatus}
    (noPlace : NoPlace status) :
    status ≠ .ok := by
  rintro rfl
  rcases noPlace with same | same
  · cases same
  · cases same

/-- A buffer keeps its place, its size and all bytes beyond its capacity. -/
structure CallerOutput.Framed (before after : CallerOutput) : Prop where
  cap : after.cap = before.cap
  room : after.out.map List.length = before.out.map List.length
  behind :
    after.out.map (List.drop before.cap) =
      before.out.map (List.drop before.cap)

/-- Whether a buffer keeps its frame can be seen. -/
instance (before after : CallerOutput) :
    Decidable (before.Framed after) :=
  decidable_of_iff
    (after.cap = before.cap ∧
      after.out.map List.length = before.out.map List.length ∧
      after.out.map (List.drop before.cap) =
        before.out.map (List.drop before.cap))
    ⟨fun ⟨cap, room, behind⟩ => ⟨cap, room, behind⟩,
      fun framed => ⟨framed.cap, framed.room, framed.behind⟩⟩

theorem CallerOutput.Framed.refl (output : CallerOutput) :
    output.Framed output :=
  ⟨rfl, rfl, rfl⟩

theorem CallerOutput.Framed.trans
    {before middle after : CallerOutput}
    (earlier : before.Framed middle)
    (later : middle.Framed after) :
    before.Framed after where
  cap := later.cap.trans earlier.cap
  room := later.room.trans earlier.room
  behind := by
    rw [← earlier.behind, ← earlier.cap]
    exact later.behind

theorem LeftAlone.framed
    {before after : CallerOutput}
    (alone : LeftAlone before after) :
    before.Framed after where
  cap := alone.cap
  room := by rw [alone.out]
  behind := by rw [alone.out]

/-- Writing what fits changes no byte beyond the capacity. -/
theorem WrittenWith.framed
    {source : Bytes}
    {before after : CallerOutput}
    (written : WrittenWith source before after) :
    before.Framed after where
  cap := written.cap
  room := by
    obtain ⟨held, buffer⟩ := Option.isSome_iff_exists.mp written.given
    have room := before.valid held buffer
    have fits := written.fits
    rw [written.out, buffer]
    simp only [Option.map_some]
    rw [length_overwrite (by omega)]
  behind := by
    obtain ⟨held, buffer⟩ := Option.isSome_iff_exists.mp written.given
    rw [written.out, buffer]
    simp only [Option.map_some, overwrite, List.take_zero,
      List.nil_append, Nat.zero_add, Option.some.injEq]
    rw [List.drop_append, List.drop_eq_nil_of_le written.fits,
      List.drop_drop, List.nil_append,
      Nat.add_sub_cancel' written.fits]

/-- `write_out` keeps the frame of the caller's buffer. -/
theorem writeOut_framed
    (source : Bytes)
    (caller : CallerOutput) :
    caller.Framed (writeOut source caller).2 := by
  rcases writeOut_delivers source caller with
      ⟨_, written⟩ | ⟨_, alone⟩
  · exact written.framed
  · exact alone.framed

/-- What was written is read back. -/
theorem WrittenWith.contents
    {source : Bytes}
    {before after : CallerOutput}
    (written : WrittenWith source before after) :
    after.contents = source := by
  obtain ⟨held, buffer⟩ := Option.isSome_iff_exists.mp written.given
  rw [CallerOutput.contents, written.out, written.len, buffer]
  simp [overwrite]

/-- `finish(guard(|| { … Ok(write_out(..)) }))`, for a closure with one output. -/
def exportedOutput
    (body : Except Exit Bytes)
    (caller : CallerOutput) :
    Int × CallerOutput :=
  match body with
  | .error exit =>
      (finish (guard (.error exit)), caller)
  | .ok src =>
      let written := writeOut src caller
      (finish (guard (.ok written.1)), written.2)

/-- A closure that is left early writes nothing. -/
theorem exportedOutput_error
    (exit : Exit)
    (caller : CallerOutput) :
    exportedOutput (.error exit) caller = (exit.status.code, caller) := by
  rw [exportedOutput, finish_guard_error]

/-- A closure whose output fits reports success, and the caller reads it. -/
theorem exportedOutput_of_fits
    (caller : CallerOutput)
    {src bytes : Bytes}
    {previous : Nat}
    (cell : caller.len = some previous)
    (buffer : caller.out = some bytes)
    (fits : src.length ≤ caller.cap) :
    (exportedOutput (.ok src) caller).1 = PqForgeStatus.ok.code ∧
      (exportedOutput (.ok src) caller).2.contents = src := by
  obtain ⟨written, readBack⟩ := writeOut_of_fits caller cell buffer fits
  refine ⟨?_, readBack⟩
  rw [exportedOutput, finish_guard_ok, written]

/-- A closure with one output keeps the frame of its buffer. -/
theorem exportedOutput_framed
    (body : Except Exit Bytes)
    (caller : CallerOutput) :
    caller.Framed (exportedOutput body caller).2 := by
  cases body with
  | error exit =>
      exact .refl caller
  | ok source =>
      exact writeOut_framed source caller

/-! ## Two outputs -/

/-- `let s1 = write_out(..); if s1 != Ok { return Ok(s1) }; write_out(..)`. -/
def writeOutputs
    (outputs : Bytes × Bytes)
    (first second : CallerOutput) :
    PqForgeStatus × CallerOutput × CallerOutput :=
  let (s1, first) := writeOut outputs.1 first
  if s1 ≠ .ok then
    (s1, first, second)
  else
    let (s2, second) := writeOut outputs.2 second
    (s2, first, second)

/-- `finish(guard(|| { … }))`, for a closure with two outputs. -/
def exportedOutputs
    (body : Except Exit (Bytes × Bytes))
    (first second : CallerOutput) :
    Int × CallerOutput × CallerOutput :=
  match body with
  | .error exit =>
      (finish (guard (.error exit)), first, second)
  | .ok outputs =>
      let written := writeOutputs outputs first second
      (finish (guard (.ok written.1)), written.2)

section WriteOutputs

variable {first second : CallerOutput}

/-- Two outputs are refused exactly when one of the buffers is too small. -/
theorem writeOutputs_bufferTooSmall
    (firstGiven : first.Given)
    (secondGiven : second.Given)
    (outputs : Bytes × Bytes) :
    (writeOutputs outputs first second).1 = .bufferTooSmall ↔
      first.cap < outputs.1.length ∨
        second.cap < outputs.2.length := by
  have firstStatus := writeOut_status firstGiven outputs.1
  have secondStatus := writeOut_status secondGiven outputs.2
  by_cases firstSmall : first.cap < outputs.1.length
  · rw [if_pos firstSmall] at firstStatus
    simp [writeOutputs, firstStatus, firstSmall]
  · rw [if_neg firstSmall] at firstStatus
    by_cases secondSmall : second.cap < outputs.2.length
    · rw [if_pos secondSmall] at secondStatus
      simp [writeOutputs, firstStatus, secondStatus, secondSmall]
    · rw [if_neg secondSmall] at secondStatus
      simp [writeOutputs, firstStatus, secondStatus, firstSmall,
        secondSmall]

/-- The first length cell holds the first required length. -/
theorem writeOutputs_first_len
    (firstGiven : first.Given)
    (outputs : Bytes × Bytes) :
    (writeOutputs outputs first second).2.1.len =
      some outputs.1.length := by
  have firstLen := writeOut_len firstGiven outputs.1
  rw [writeOutputs]
  dsimp only
  split
  · exact firstLen
  · exact firstLen

/-- The second length cell is left alone when the first buffer is too small. -/
theorem writeOutputs_second_len
    (firstGiven : first.Given)
    (secondGiven : second.Given)
    (outputs : Bytes × Bytes) :
    (writeOutputs outputs first second).2.2.len =
      if first.cap < outputs.1.length then
        second.len
      else
        some outputs.2.length := by
  have firstStatus := writeOut_status firstGiven outputs.1
  have secondLen := writeOut_len secondGiven outputs.2
  by_cases firstSmall : first.cap < outputs.1.length
  · rw [if_pos firstSmall] at firstStatus ⊢
    simp [writeOutputs, firstStatus]
  · rw [if_neg firstSmall] at firstStatus ⊢
    simp [writeOutputs, firstStatus, secondLen]

end WriteOutputs

/-- A closure that is left early writes neither output. -/
theorem exportedOutputs_error
    (exit : Exit)
    (first second : CallerOutput) :
    exportedOutputs (.error exit) first second =
      (exit.status.code, first, second) := by
  rw [exportedOutputs, finish_guard_error]

/-- A closure with two outputs keeps the frames of both buffers. -/
theorem exportedOutputs_framed
    (body : Except Exit (Bytes × Bytes))
    (first second : CallerOutput) :
    first.Framed (exportedOutputs body first second).2.1 ∧
      second.Framed (exportedOutputs body first second).2.2 := by
  cases body with
  | error exit =>
      exact ⟨.refl first, .refl second⟩
  | ok outputs =>
      simp only [exportedOutputs, writeOutputs]
      split
      · exact ⟨writeOut_framed outputs.1 first, .refl second⟩
      · exact
          ⟨writeOut_framed outputs.1 first,
            writeOut_framed outputs.2 second⟩

/-- A closure whose outputs both fit reports success, and both are read back. -/
theorem exportedOutputs_of_fits
    {first second : CallerOutput}
    {outputs : Bytes × Bytes}
    (firstGiven : first.Given)
    (secondGiven : second.Given)
    (firstFits : outputs.1.length ≤ first.cap)
    (secondFits : outputs.2.length ≤ second.cap) :
    (exportedOutputs (.ok outputs) first second).1 =
        PqForgeStatus.ok.code ∧
      (exportedOutputs (.ok outputs) first second).2.1.contents =
        outputs.1 ∧
      (exportedOutputs (.ok outputs) first second).2.2.contents =
        outputs.2 := by
  obtain ⟨firstBytes, firstLen, firstBuffer, firstCell⟩ := firstGiven
  obtain ⟨secondBytes, secondLen, secondBuffer, secondCell⟩ :=
    secondGiven
  obtain ⟨firstWritten, firstRead⟩ :=
    writeOut_of_fits first firstCell firstBuffer firstFits
  obtain ⟨secondWritten, secondRead⟩ :=
    writeOut_of_fits second secondCell secondBuffer secondFits
  simp only [exportedOutputs, writeOutputs, firstWritten, ne_eq,
    not_true_eq_false, ↓reduceIte, finish_guard_ok, secondWritten,
    firstRead, secondRead, and_self]

end PqForgeFfi
