import PqForgeFfi.FileFraming

namespace PqForgeFfi

open Segmentation

/-!
# Block reading and the lookahead loops

What `read_block` returns for any reader that serves its bytes in short reads,
how often it reads, and what follows for the loops of the exported functions:
how they end, and which of their branches no run takes.
-/

section ReaderContract

variable {Reader : Type} [Read Reader]

/--
Under this contract a `read` call returns the front of the bytes that are left,
at most as many as it asks for, and at least one until none is left.
-/
def ServingContract (serves : Reader → Bytes → Prop) : Prop :=
  ∀ (reader : Reader) (bytes : Bytes) (limit : Nat),
    serves reader bytes →
      0 < limit →
      ∃ count left,
        Read.read reader limit = (.ok (bytes.take count), left) ∧
          count ≤ min limit bytes.length ∧
          (bytes ≠ [] → 0 < count) ∧
          serves left (bytes.drop count)

/-- The reader serves these bytes and nothing else, under such a contract. -/
def ServesBytes (reader : Reader) (bytes : Bytes) : Prop :=
  ∃ serves : Reader → Bytes → Prop,
    ServingContract serves ∧ serves reader bytes

/-- A reader that serves its bytes keeps the contract itself. -/
theorem servesBytes_contract :
    ServingContract (@ServesBytes Reader _) := by
  rintro reader bytes limit ⟨serves, contract, here⟩ positive
  obtain ⟨count, left, answered, bounded, progress, later⟩ :=
    contract reader bytes limit here positive
  exact ⟨count, left, answered, bounded, progress, serves, contract, later⟩

/-- The number of `read` calls that were answered. -/
def readCalls (log : List StreamEvent) : Nat :=
  (log.filterMap StreamEvent.bytesRead?).length

@[simp] theorem readCalls_append (earlier later : List StreamEvent) :
    readCalls (earlier ++ later) =
      readCalls earlier + readCalls later := by
  simp [readCalls]

/-- A log without reads holds no answered `read` call. -/
theorem readCalls_of_silent
    {log : List StreamEvent}
    (silent : log.filterMap StreamEvent.bytesRead? = []) :
    readCalls log = 0 := by
  rw [readCalls, silent]
  rfl

/-! ## One block -/

/-- An answer of no bytes ends the loop of `read_block`. -/
theorem readLoop_of_ended
    {reader left : Reader}
    {filled : Bytes}
    {size : Nat}
    (missing : filled.length < size)
    (answered :
      Read.read reader (size - filled.length) = (.ok [], left)) :
    readLoop reader filled size =
      Trace.record (.read []) >>= fun _ =>
        Trace.done (filled, left) := by
  rw [readLoop, if_pos missing, answered]
  rfl

/-- An answer with bytes in it takes the loop of `read_block` further. -/
theorem readLoop_of_served
    {reader left : Reader}
    {filled piece : Bytes}
    {size : Nat}
    (missing : filled.length < size)
    (answered :
      Read.read reader (size - filled.length) = (.ok piece, left))
    (nonempty : 0 < piece.length) :
    readLoop reader filled size =
      Trace.record (.read piece) >>= fun _ =>
        readLoop left (filled ++ piece) size := by
  rw [readLoop, if_pos missing, answered]
  dsimp only
  rw [if_neg (Nat.ne_of_gt nonempty)]

/-- An answered call in front of a computation is one call more. -/
theorem readCalls_behind_read
    {Result : Type}
    (piece : Bytes)
    (later : Trace StreamEvent Exit Result) :
    readCalls (Trace.record (.read piece) >>= fun _ => later).log =
      readCalls later.log + 1 := by
  rw [Trace.bind_of_ok (Trace.record_outcome _), readCalls_append,
    Nat.add_comm]
  rfl

/--
The loop of `read_block` takes the missing part of the block from the front of
what is served, in at most one call for each byte and one more at the end.
-/
theorem readLoop_of_serves
    {reader : Reader}
    {bytes : Bytes}
    (serves : ServesBytes reader bytes)
    (filled : Bytes)
    (size : Nat) :
    ∃ left,
      (readLoop reader filled size).outcome =
          .ok (filled ++ bytes.take (size - filled.length), left) ∧
        ServesBytes left (bytes.drop (size - filled.length)) ∧
        readCalls (readLoop reader filled size).log ≤
          min (size - filled.length) bytes.length +
            (if bytes.length < size - filled.length then 1 else 0) := by
  by_cases missing : filled.length < size
  · obtain ⟨count, left, answered, bounded, progress, later⟩ :=
      servesBytes_contract reader bytes (size - filled.length) serves
        (by omega)
    by_cases isEmpty : bytes = []
    · subst isEmpty
      have gap : ([] : Bytes).length < size - filled.length := by
        rw [List.length_nil]
        omega
      rw [List.take_nil] at answered
      rw [List.drop_nil] at later
      rw [readLoop_of_ended missing answered, readCalls_behind_read,
        if_pos gap, List.take_nil, List.append_nil, List.drop_nil]
      exact ⟨left, rfl, later, Nat.le_add_left 1 _⟩
    · have someBytes := progress isEmpty
      have pieceLength : (bytes.take count).length = count := by
        rw [List.length_take]
        omega
      have remaining :
          size - (filled ++ bytes.take count).length =
            size - filled.length - count := by
        rw [List.length_append, pieceLength]
        omega
      have parts :
          size - filled.length =
            count + (size - filled.length - count) := by
        omega
      obtain ⟨last, outcome, rest, calls⟩ :=
        readLoop_of_serves later (filled ++ bytes.take count) size
      rw [remaining, List.append_assoc] at outcome
      rw [remaining, List.drop_drop] at rest
      rw [remaining, List.length_drop] at calls
      rw [readLoop_of_served missing answered (by omega),
        readCalls_behind_read]
      refine ⟨last, ?_, ?_, ?_⟩
      · rw [parts, List.take_add]
        exact outcome
      · rw [parts]
        exact rest
      · split at calls <;> split <;> omega
  · have full : size - filled.length = 0 := by
      omega
    rw [readLoop, if_neg missing, full]
    exact ⟨reader, by simp, by simpa using serves, Nat.zero_le _⟩
termination_by size - filled.length
decreasing_by
  rw [List.length_append, List.length_take]
  omega

/--
`read_block` returns `None` for a reader with nothing left, and otherwise the
first bytes up to the size, and leaves the rest.
-/
def ReadsBlock
    (reader : Reader)
    (size : Nat)
    (bytes : Bytes) : Prop :=
  ∃ left,
    (readBlock reader size).outcome =
        .ok (if bytes = [] then none else some (bytes.take size), left) ∧
      ServesBytes left (bytes.drop size)

/-- A block that fits a `Vec` is read as its reader serves it. -/
theorem readBlock_of_serves
    {reader : Reader}
    {bytes : Bytes}
    {size : Nat}
    (serves : ServesBytes reader bytes)
    (positive : 0 < size)
    (allocatable : size ≤ isizeMax) :
    ReadsBlock reader size bytes ∧
      readCalls (readBlock reader size).log ≤
        min size bytes.length +
          (if bytes.length < size then 1 else 0) := by
  obtain ⟨left, outcome, rest, calls⟩ :=
    readLoop_of_serves serves [] size
  rw [List.nil_append, List.length_nil, Nat.sub_zero] at outcome
  rw [List.length_nil, Nat.sub_zero] at rest calls
  rw [ReadsBlock, readBlock, if_neg (Nat.not_lt_of_le allocatable),
    Trace.bind_of_ok outcome]
  dsimp only
  by_cases isEmpty : bytes = []
  · subst isEmpty
    rw [List.take_nil, readCalls_append]
    exact ⟨⟨left, rfl, rest⟩, calls⟩
  · have someBytes := List.length_pos_iff.mpr isEmpty
    have taken : (bytes.take size).length ≠ 0 := by
      rw [List.length_take]
      omega
    rw [if_neg isEmpty, if_neg taken, readCalls_append]
    exact ⟨⟨left, rfl, rest⟩, calls⟩

/-- A block of no bytes is not read at all. -/
theorem readBlock_of_zero (reader : Reader) :
    readBlock reader 0 = Trace.done (none, reader) := by
  rw [readBlock, if_neg (Nat.not_lt_zero isizeMax), readLoop,
    if_neg (Nat.not_lt_zero [].length)]
  rfl

/-- For a reader that serves its bytes, exactly such a block is read. -/
theorem readsBlock_iff
    {reader : Reader}
    {bytes : Bytes}
    {size : Nat}
    (serves : ServesBytes reader bytes)
    (positive : 0 < size) :
    ReadsBlock reader size bytes ↔ size ≤ isizeMax := by
  constructor
  · rintro ⟨left, outcome, -⟩
    by_contra huge
    rw [readBlock_of_huge reader (Nat.lt_of_not_le huge)] at outcome
    cases outcome
  · intro allocatable
    exact (readBlock_of_serves serves positive allocatable).1

end ReaderContract

/-! ## The buffered reader -/

/-- A read of a schedule of items alone takes some of them from its front. -/
theorem readStep_items
    {limit : Nat}
    {bytes : Bytes}
    {answer : Except String Bytes}
    {rest : List (Delivery UInt8 String)}
    (step : ReadStep limit (bytes.map .item) answer rest) :
    ∃ count,
      answer = .ok (bytes.take count) ∧
        count ≤ min limit bytes.length ∧
        (bytes ≠ [] → 0 < count) ∧
        rest = (bytes.drop count).map .item := by
  generalize scheduled : bytes.map Delivery.item = schedule at step
  cases step with
  | ended =>
      obtain rfl : bytes = [] := by
        simpa using scheduled
      exact ⟨0, rfl, Nat.zero_le _, fun some => absurd rfl some, rfl⟩
  | stalled rest =>
      cases bytes <;> cases scheduled
  | failed failure rest =>
      cases bytes <;> cases scheduled
  | served piece rest nonempty short =>
      obtain ⟨front, back, rfl, frontItems, backItems⟩ :=
        List.map_eq_append_iff.mp scheduled
      obtain rfl : front = piece :=
        List.map_injective_iff.mpr
          (fun _ _ same => Delivery.item.inj same) frontItems
      have someBytes := List.length_pos_iff.mpr nonempty
      refine ⟨front.length, ?_, ?_, fun _ => someBytes, ?_⟩
      · rw [List.take_left]
      · rw [List.length_append]
        omega
      · rw [List.drop_left, backItems]

/-- A buffered reader serves the bytes that it delivers. -/
theorem BufReader.servesBytes
    {reader : BufReader}
    {bytes : Bytes}
    (delivers : reader.deliveries = bytes.map .item) :
    ServesBytes reader bytes := by
  refine ⟨fun reader bytes => reader.deliveries = bytes.map .item,
    ?_, delivers⟩
  intro reader bytes limit delivers positive
  have step := BufReader.readStep reader positive
  rw [delivers] at step
  obtain ⟨count, answered, bounded, progress, left⟩ :=
    readStep_items step
  exact ⟨count, (Read.read reader limit).2,
    Prod.ext answered rfl, bounded, progress, left⟩

/-- A buffered reader over a file serves the bytes that the file serves. -/
theorem servesBytes_withCapacity
    {file : File}
    {bytes : Bytes}
    (serves : file.Serves bytes) :
    ServesBytes (BufReader.withCapacity file) bytes :=
  BufReader.servesBytes serves.deliveries

end PqForgeFfi
