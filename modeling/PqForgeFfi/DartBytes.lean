import PqForgeFfi.DartErrors
import PqForgeFfi.ByteOrder.BigEndian

namespace PqForgeFfi

/-!
# Checked access to Dart byte buffers

Reads, views and writes of a `Uint8List`.  An index outside the buffer throws a
`RangeError`, so a computation that stays in range is one that succeeds here.
-/

/-- `Uint8List.sublistView(data, start, end)`. -/
def sublistView
    (data : Bytes)
    (start stop : Int) :
    Except DartThrow Bytes :=
  if 0 ≤ start ∧ start ≤ stop ∧ stop ≤ data.length then
    .ok ((data.drop start.toNat).take (stop - start).toNat)
  else
    .error (.rangeError "Not in inclusive range")

/-- `data[index]`. -/
def byteAt
    (data : Bytes)
    (index : Nat) :
    Except DartThrow UInt8 :=
  match data[index]? with
  | some byte => .ok byte
  | none => .error (.rangeError "Index out of range")

/-- `buffer.setAll(index, source)`. -/
def setAll
    (buffer : Bytes)
    (index : Nat)
    (source : Bytes) :
    Except DartThrow Bytes :=
  if index + source.length ≤ buffer.length then
    .ok (ByteOrder.overwrite buffer index source)
  else
    .error (.rangeError "Not in inclusive range")

/-- `buffer[index] = value`, which keeps the low eight bits of `value`. -/
def setByte
    (buffer : Bytes)
    (index value : Nat) :
    Except DartThrow Bytes :=
  if index < buffer.length then
    .ok (buffer.set index (UInt8.ofNat (value % 256)))
  else
    .error (.rangeError "Index out of range")

/-- `buffer.setRange(start, stop, source)`. -/
def setRange
    (buffer : Bytes)
    (start stop : Nat)
    (source : Bytes) :
    Except DartThrow Bytes :=
  if start ≤ stop ∧ stop ≤ buffer.length then
    if stop - start ≤ source.length then
      .ok (ByteOrder.overwrite buffer start (source.take (stop - start)))
    else
      .error (.other "Bad state: Too few elements")
  else
    .error (.rangeError "Not in inclusive range")

/-- Sequencing behind an access that returned. -/
theorem ok_bind
    {First Second : Type}
    (result : First)
    (next : First → Except DartThrow Second) :
    (Except.ok result >>= next) = next result :=
  rfl

/-- A view inside the buffer is the bytes between its ends. -/
theorem sublistView_of_le
    {data : Bytes}
    {start stop : Nat}
    (ordered : start ≤ stop)
    (inside : stop ≤ data.length) :
    sublistView data start stop =
      .ok ((data.drop start).take (stop - start)) := by
  have inRange :
      (0 : Int) ≤ start ∧ (start : Int) ≤ stop ∧
        (stop : Int) ≤ data.length := by
    omega
  have width : ((stop : Int) - start).toNat = stop - start := by
    omega
  rw [sublistView, if_pos inRange, width, Int.toNat_natCast]

/-- A view that exists lies inside the buffer. -/
theorem sublistView_eq_ok
    {data view : Bytes}
    {start stop : Int}
    (viewed : sublistView data start stop = .ok view) :
    0 ≤ start ∧ start ≤ stop ∧ stop ≤ data.length := by
  rw [sublistView] at viewed
  split at viewed
  · assumption
  · cases viewed

/-- A view that starts behind a known part of the buffer. -/
theorem sublistView_append
    {front view rest : Bytes}
    {start stop : Nat}
    (startsBehind : front.length = start)
    (stopsBehind : start + view.length = stop) :
    sublistView (front ++ (view ++ rest)) start stop = .ok view := by
  subst startsBehind stopsBehind
  rw [sublistView_of_le (Nat.le_add_right _ _) (by simp),
    List.drop_left, Nat.add_sub_cancel_left, List.take_left]

/-- A view of a known part at the start of the buffer. -/
theorem sublistView_front
    {view rest : Bytes}
    {stop : Nat}
    (stops : view.length = stop) :
    sublistView (view ++ rest) 0 stop = .ok view := by
  have viewed :
      sublistView ([] ++ (view ++ rest)) (0 : Nat) stop = .ok view :=
    sublistView_append rfl ((Nat.zero_add _).trans stops)
  exact viewed

/-- A view of all that is behind a known part of the buffer. -/
theorem sublistView_rest
    {front view : Bytes}
    {start stop : Nat}
    (startsBehind : front.length = start)
    (stops : (front ++ view).length = stop) :
    sublistView (front ++ view) start stop = .ok view := by
  have stopsBehind : start + view.length = stop := by
    rw [← stops, List.length_append, startsBehind]
  have viewed :
      sublistView (front ++ (view ++ [])) start stop = .ok view :=
    sublistView_append startsBehind stopsBehind
  rwa [List.append_nil] at viewed

/-- A byte behind a known part of the buffer. -/
theorem byteAt_append
    {front rest : Bytes}
    {byte : UInt8}
    {index : Nat}
    (behind : front.length = index) :
    byteAt (front ++ byte :: rest) index = .ok byte := by
  subst behind
  rw [byteAt, List.getElem?_append_right (Nat.le_refl _), Nat.sub_self]
  rfl

/-- Writing a list at the end of the filled part of a blank buffer. -/
theorem setAll_blank
    {filled source : Bytes}
    {index room : Nat}
    (behind : filled.length = index)
    (fits : source.length ≤ room) :
    setAll (filled ++ List.replicate room 0) index source =
      .ok (filled ++ source ++
        List.replicate (room - source.length) 0) := by
  subst behind
  have inside :
      filled.length + source.length ≤
        (filled ++ List.replicate room (0 : UInt8)).length := by
    rw [List.length_append, List.length_replicate]
    omega
  rw [setAll, if_pos inside, ByteOrder.overwrite_replicate]

/-- Writing a byte at the end of the filled part of a blank buffer. -/
theorem setByte_blank
    {filled : Bytes}
    {index room : Nat}
    (behind : filled.length = index)
    (value : Nat)
    (fits : 0 < room) :
    setByte (filled ++ List.replicate room 0) index value =
      .ok (filled ++ [UInt8.ofNat (value % 256)] ++
        List.replicate (room - 1) 0) := by
  subst behind
  obtain ⟨less, shape⟩ := Nat.exists_eq_succ_of_ne_zero
    (Nat.pos_iff_ne_zero.mp fits)
  subst shape
  have inside :
      filled.length <
        (filled ++ List.replicate (less + 1) (0 : UInt8)).length := by
    rw [List.length_append, List.length_replicate]
    omega
  rw [setByte, if_pos inside,
    List.set_append_right filled.length _ (Nat.le_refl _),
    Nat.sub_self, List.replicate_succ, List.set_cons_zero]
  simp

/-- Setting a range at the end of the filled part of a blank buffer. -/
theorem setRange_blank
    (filled source : Bytes)
    {room : Nat}
    (fits : source.length ≤ room) :
    setRange (filled ++ List.replicate room 0) filled.length
        (filled.length + source.length) source =
      .ok (filled ++ source ++
        List.replicate (room - source.length) 0) := by
  have inside :
      filled.length ≤ filled.length + source.length ∧
        filled.length + source.length ≤
          (filled ++ List.replicate room (0 : UInt8)).length := by
    rw [List.length_append, List.length_replicate]
    omega
  have width :
      filled.length + source.length - filled.length = source.length := by
    omega
  rw [setRange, if_pos inside, width, if_pos (Nat.le_refl _),
    List.take_length, ByteOrder.overwrite_replicate]

/-- A fresh buffer of the joint length, set from two lists, joins them. -/
theorem setRange_setRange
    (first second : Bytes) :
    (setRange (List.replicate (first.length + second.length) 0) 0
        first.length first >>= fun out =>
      setRange out first.length (first.length + second.length) second) =
      .ok (first ++ second) := by
  have written := setRange_blank [] first
    (Nat.le_add_right first.length second.length)
  rw [List.nil_append, List.length_nil, Nat.zero_add, List.nil_append,
    Nat.add_sub_cancel_left] at written
  have joined := setRange_blank first second (Nat.le_refl second.length)
  rw [Nat.sub_self, List.replicate_zero, List.append_nil] at joined
  rw [written]
  exact joined

end PqForgeFfi
