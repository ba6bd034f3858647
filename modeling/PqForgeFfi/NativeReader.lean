import PqForgeFfi.Backend
import PqForgeFfi.NativeStatus
import PqForgeFfi.Segmentation.ReadSchedule
import PqForgeFfi.Segmentation.Trace

namespace PqForgeFfi

open Segmentation

/-!
# Block reading in the native library

`read_block` over any reader, and the buffered file reader that the exported
functions use.  A file is the list of what its `read` calls still return; a
call that asks for less than the next entry takes the front of it.
-/

/-- `std::io::Read`: one call of `read` for at most `limit` bytes. -/
class Read (Reader : Type) where
  read :
    Reader →
      (limit : Nat) →
      Except String Bytes × Reader

/-- What the `read` calls on an open file still return, in order. -/
abbrev File := List (Except String Bytes)

/-- One `read` call on a file.  After the last entry the file has ended. -/
def File.read
    (file : File)
    (limit : Nat) :
    Except String Bytes × File :=
  match file with
  | [] =>
      (.ok [], [])
  | .error reason :: rest =>
      (.error reason, rest)
  | .ok piece :: rest =>
      (.ok (piece.take limit),
        if limit < piece.length then
          .ok (piece.drop limit) :: rest
        else
          rest)

/-- `IO_BUF`: the capacity of the buffered reader. -/
def ioBuf : Nat := 2 ^ 16

/-- `BufReader<File>`: bytes fetched ahead, and the file behind them. -/
structure BufReader where
  buffer : Bytes
  inner : File
  deriving Repr

namespace BufReader

/-- `BufReader::with_capacity(IO_BUF, file)`. -/
def withCapacity (file : File) : BufReader where
  buffer := []
  inner := file

/-- `read`: a large request with nothing buffered goes to the file itself. -/
def read
    (reader : BufReader)
    (limit : Nat) :
    Except String Bytes × BufReader :=
  if reader.buffer = [] then
    if ioBuf ≤ limit then
      let (answer, inner) := File.read reader.inner limit
      (answer, { buffer := [], inner })
    else
      match File.read reader.inner ioBuf with
      | (.error reason, inner) =>
          (.error reason, { buffer := [], inner })
      | (.ok fetched, inner) =>
          (.ok (fetched.take limit),
            { buffer := fetched.drop limit, inner })
  else
    (.ok (reader.buffer.take limit),
      { buffer := reader.buffer.drop limit, inner := reader.inner })

instance : Read BufReader where
  read := BufReader.read

end BufReader

/-- The largest number of bytes a `Vec` can be asked to hold. -/
def isizeMax : Nat := 2 ^ 63 - 1

/--
How a closure that works in blocks of a size is left early: it reports a
failure, and it panics only where such a block fits no `Vec`.
-/
def StreamExit (size : Nat) (exit : Exit) : Prop :=
  exit.IsFailure ∧
    ∀ message,
      exit = .panicked message →
        message = "capacity overflow" ∧ isizeMax < size

/-- A closure of the stream functions may end in an error. -/
theorem streamExit_failed
    (size : Nat)
    (error : PqForgeError) :
    StreamExit size (.failed error) :=
  ⟨Exit.isFailure_failed error, fun _ panics => by cases panics⟩

/-- A closure of the stream functions may return a failing status. -/
theorem streamExit_returned
    (size : Nat)
    {status : PqForgeStatus}
    (differs : status ≠ .ok) :
    StreamExit size (.returned status) :=
  ⟨differs, fun _ panics => by cases panics⟩

/-- A closure of the stream functions may panic over too large a block. -/
theorem streamExit_panicked
    {size : Nat}
    (huge : isizeMax < size) :
    StreamExit size (.panicked "capacity overflow") := by
  constructor
  · intro isOk
    cases isOk
  · intro message panics
    cases panics
    exact ⟨rfl, huge⟩

section ReadBlock

variable {Reader : Type} [Read Reader]

/-- The loop of `read_block`; `filled` is the part `buf[..total]`. -/
def readLoop
    (reader : Reader)
    (filled : Bytes)
    (size : Nat) :
    Trace StreamEvent Exit (Bytes × Reader) :=
  if filled.length < size then
    match Read.read reader (size - filled.length) with
    | (.error reason, _) =>
        Trace.fail (.failed (.io reason))
    | (.ok bytes, reader) =>
        if bytes.length = 0 then
          Trace.record (.read bytes) >>= fun _ =>
            Trace.done (filled, reader)
        else
          Trace.record (.read bytes) >>= fun _ =>
            readLoop reader (filled ++ bytes) size
  else
    Trace.done (filled, reader)
termination_by size - filled.length
decreasing_by
  rw [List.length_append]
  omega

/-- `read_block`: up to `size` bytes, or `None` at immediate end of file. -/
def readBlock
    (reader : Reader)
    (size : Nat) :
    Trace StreamEvent Exit (Option Bytes × Reader) :=
  if isizeMax < size then
    Trace.fail (.panicked "capacity overflow")
  else do
    let (filled, reader) ← readLoop reader [] size
    if filled.length = 0 then
      return (none, reader)
    else
      return (some filled, reader)

/-- Reading a block fails with the error of a read, or over its size. -/
theorem readLoop_failsAs
    (reader : Reader)
    (filled : Bytes)
    (size : Nat) :
    (readLoop reader filled size).FailsAs (StreamExit size) := by
  rw [readLoop]
  split
  · split
    · exact Trace.failsAs_fail (streamExit_failed size _)
    · split
      · exact .bind (fun _ failed => by cases failed)
          fun _ => Trace.failsAs_done _
      · exact .bind (fun _ failed => by cases failed)
          fun _ => readLoop_failsAs _ _ size
  · exact Trace.failsAs_done _
termination_by size - filled.length
decreasing_by
  rw [List.length_append]
  omega

theorem readBlock_failsAs
    (reader : Reader)
    (size : Nat) :
    (readBlock reader size).FailsAs (StreamExit size) := by
  rw [readBlock]
  split
  · rename_i huge
    exact Trace.failsAs_fail (streamExit_panicked huge)
  · refine .bind (readLoop_failsAs reader [] size) fun result => ?_
    obtain ⟨filled, left⟩ := result
    dsimp only
    split <;> exact Trace.failsAs_done _

/-- Reading a block only reads. -/
theorem readLoop_silent
    (reader : Reader)
    (filled : Bytes)
    (size : Nat) :
    (readLoop reader filled size).log.filterMap
      StreamEvent.produced? = [] := by
  rw [readLoop]
  split
  · split
    · rfl
    · split
      · exact Trace.silent_bind rfl fun _ => rfl
      · exact Trace.silent_bind rfl fun _ => readLoop_silent _ _ size
  · rfl
termination_by size - filled.length
decreasing_by
  rw [List.length_append]
  omega

theorem readBlock_silent
    (reader : Reader)
    (size : Nat) :
    (readBlock reader size).log.filterMap StreamEvent.produced? = [] := by
  rw [readBlock]
  split
  · rfl
  · refine Trace.silent_bind (readLoop_silent reader [] size)
      fun result => ?_
    obtain ⟨filled, left⟩ := result
    dsimp only
    split <;> rfl

end ReadBlock

/-! ## Schedules -/

/-- The schedule of one entry of a file. -/
def entryDeliveries :
    Except String Bytes → List (Delivery UInt8 String)
  | .ok [] => [.stall]
  | .ok (byte :: more) => .item byte :: more.map .item
  | .error reason => [.failure reason]

/-- What a file delivers: its bytes, its empty reads and its failures. -/
def File.deliveries (file : File) : List (Delivery UInt8 String) :=
  file.flatMap entryDeliveries

/-- What a buffered reader delivers: the buffer, then the file. -/
def BufReader.deliveries
    (reader : BufReader) :
    List (Delivery UInt8 String) :=
  reader.buffer.map .item ++ File.deliveries reader.inner

@[simp] theorem deliveries_withCapacity (file : File) :
    (BufReader.withCapacity file).deliveries = File.deliveries file :=
  rfl

/-- An entry with bytes in it delivers them. -/
theorem entryDeliveries_of_ne_nil
    {piece : Bytes}
    (nonempty : piece ≠ []) :
    entryDeliveries (.ok piece) = piece.map .item := by
  cases piece with
  | nil =>
      exact (nonempty rfl).elim
  | cons byte more =>
      rfl

/-- One `read` call on a file is one read of its schedule. -/
theorem File.readStep
    (file : File)
    {limit : Nat}
    (positive : 0 < limit) :
    ReadStep limit (File.deliveries file)
      (File.read file limit).1
      (File.deliveries (File.read file limit).2) := by
  match file with
  | [] =>
      exact .ended
  | .error reason :: rest =>
      exact .failed reason (File.deliveries rest)
  | .ok [] :: rest =>
      have noMore : ¬ limit < ([] : Bytes).length :=
        Nat.not_lt_zero limit
      rw [File.read, if_neg noMore, List.take_nil]
      exact .stalled (File.deliveries rest)
  | .ok (byte :: more) :: rest =>
      have pieceNonempty : byte :: more ≠ [] :=
        List.cons_ne_nil byte more
      have here :
          File.deliveries (.ok (byte :: more) :: rest) =
            (byte :: more).map .item ++ File.deliveries rest := by
        rw [File.deliveries, List.flatMap_cons,
          entryDeliveries_of_ne_nil pieceNonempty]
        rfl
      have left :
          File.deliveries
              (if limit < (byte :: more).length then
                .ok ((byte :: more).drop limit) :: rest
              else
                rest) =
            ((byte :: more).drop limit).map .item ++
              File.deliveries rest := by
        by_cases longer : limit < (byte :: more).length
        · have dropNonempty : (byte :: more).drop limit ≠ [] := by
            rw [← List.length_pos_iff, List.length_drop]
            omega
          rw [if_pos longer, File.deliveries, List.flatMap_cons,
            entryDeliveries_of_ne_nil dropNonempty]
          rfl
        · rw [if_neg longer, List.drop_of_length_le (by omega)]
          rfl
      rw [here, File.read, left]
      exact .front positive pieceNonempty (File.deliveries rest)

/-- One `read` call on a buffered reader is one read of its schedule. -/
theorem BufReader.readStep
    (reader : BufReader)
    {limit : Nat}
    (positive : 0 < limit) :
    ReadStep limit reader.deliveries
      (Read.read reader limit).1
      (Read.read reader limit).2.deliveries := by
  show ReadStep limit reader.deliveries (reader.read limit).1
    (reader.read limit).2.deliveries
  obtain ⟨buffer, inner⟩ := reader
  by_cases isEmpty : buffer = []
  · subst isEmpty
    by_cases large : ioBuf ≤ limit
    · have step := File.readStep inner positive
      simpa [BufReader.read, large, BufReader.deliveries] using step
    · have step := File.readStep inner
        (show 0 < ioBuf by decide)
      rw [BufReader.read, if_pos rfl, if_neg large]
      cases answered : File.read inner ioBuf with
      | mk answer left =>
          rw [answered] at step
          cases answer with
          | error reason =>
              exact step.fail
          | ok fetched =>
              exact step.fetch positive
  · rw [BufReader.read, if_neg isEmpty]
    exact .front positive isEmpty (File.deliveries inner)

/--
The file serves these bytes in some pattern of short reads: every call returns
at least one byte until they are read, and none from then on.
-/
def File.Serves (file : File) (bytes : Bytes) : Prop :=
  ∃ pieces : List Bytes,
    (∀ piece ∈ pieces, piece ≠ []) ∧
      file = pieces.map .ok ∧
      pieces.flatten = bytes

/-- A file that serves bytes delivers them and nothing else. -/
theorem File.Serves.deliveries
    {file : File}
    {bytes : Bytes}
    (serves : file.Serves bytes) :
    File.deliveries file = bytes.map .item := by
  obtain ⟨pieces, nonempty, shape, joined⟩ := serves
  subst shape joined
  induction pieces with
  | nil =>
      rfl
  | cons piece rest inductionHypothesis =>
      have later := inductionHypothesis fun other member =>
        nonempty other (List.mem_cons_of_mem piece member)
      rw [List.map_cons, File.deliveries, List.flatMap_cons,
        entryDeliveries_of_ne_nil (nonempty piece List.mem_cons_self),
        List.flatten_cons, List.map_append, ← later]
      rfl

/-- A file that is read at once. -/
def File.whole (bytes : Bytes) : File :=
  if bytes = [] then [] else [.ok bytes]

theorem File.serves_whole (bytes : Bytes) :
    (File.whole bytes).Serves bytes := by
  rw [File.whole]
  by_cases isEmpty : bytes = []
  · subst isEmpty
    exact ⟨[], by simp, rfl, rfl⟩
  · rw [if_neg isEmpty]
    exact ⟨[bytes], by simpa using isEmpty, rfl, by simp⟩

/-- Some calls serve the front of the bytes, and the next one fails. -/
def File.FailsWithin (file : File) (bytes : Bytes) : Prop :=
  ∃ front served reason rest,
    front <+: bytes ∧
      File.Serves served front ∧
      file = served ++ .error reason :: rest

/-- A file that fails within some bytes delivers the failure behind a front. -/
theorem File.FailsWithin.deliveries
    {file : File}
    {bytes : Bytes}
    (fails : file.FailsWithin bytes) :
    ∃ (items : Bytes) (reason : String)
        (later : List (Delivery UInt8 String)),
      File.deliveries file =
        items.map .item ++ .failure reason :: later := by
  obtain ⟨front, served, reason, rest, _, serves, shape⟩ := fails
  refine ⟨front, reason, File.deliveries rest, ?_⟩
  rw [shape, File.deliveries, List.flatMap_append, List.flatMap_cons,
    ← serves.deliveries]
  rfl

/-- An open file that holds the bytes: they are served, or a call fails. -/
def File.Holds (file : File) (bytes : Bytes) : Prop :=
  file.Serves bytes ∨ file.FailsWithin bytes

/-! ## What a block is -/

/-- A reader whose reads follow a schedule. -/
class ScheduledRead (Reader : Type) extends Read Reader where
  deliveries : Reader → List (Delivery UInt8 String)
  readStep :
    ∀ (reader : Reader) {limit : Nat},
      0 < limit →
      ReadStep limit (deliveries reader)
        (read reader limit).1
        (deliveries (read reader limit).2)

instance : ScheduledRead BufReader where
  deliveries := BufReader.deliveries
  readStep := BufReader.readStep

section ReadBlockSpec

variable {Reader : Type} [ScheduledRead Reader]

/--
A reading of the missing part of a block behind `filled`: it ends with what
`takeBlock` takes and a reader for the rest, or with the failure.
-/
def Fills
    (trace : Trace StreamEvent Exit (Bytes × Reader))
    (filled : Bytes)
    (taken :
      Except String Bytes × List (Delivery UInt8 String)) : Prop :=
  trace.log.filterMap StreamEvent.produced? = [] ∧
    match taken.1 with
    | .error reason =>
        trace.outcome = .error (.failed (.io reason))
    | .ok block =>
        ∃ left,
          trace.outcome = .ok (filled ++ block, left) ∧
            ScheduledRead.deliveries left = taken.2 ∧
            bytesRead trace.log = block

/-- A read in front of a reading that fills a block. -/
theorem Fills.read
    {trace : Trace StreamEvent Exit (Bytes × Reader)}
    {filled piece : Bytes}
    {taken : Except String Bytes × List (Delivery UInt8 String)}
    (later : Fills trace (filled ++ piece) taken) :
    Fills (Trace.record (.read piece) >>= fun _ => trace) filled
      (taken.1.map (piece ++ ·), taken.2) := by
  obtain ⟨silent, ending⟩ := later
  obtain ⟨answer, rest⟩ := taken
  rw [Trace.bind_of_ok (Trace.record_outcome _)]
  refine ⟨silent, ?_⟩
  cases answer with
  | error reason =>
      exact ending
  | ok block =>
      obtain ⟨left, outcome, leaves, served⟩ := ending
      refine ⟨left, ?_, leaves, ?_⟩
      · rw [outcome, List.append_assoc]
      · show piece ++ bytesRead trace.log = piece ++ block
        rw [served]

/-- The loop of `read_block` takes the missing part of a block. -/
theorem readLoop_fills
    (reader : Reader)
    (filled : Bytes)
    (size : Nat) :
    Fills (readLoop reader filled size) filled
      (takeBlock (size - filled.length)
        (ScheduledRead.deliveries reader)) := by
  by_cases missing : filled.length < size
  · have positive : 0 < size - filled.length := by
      omega
    have step := ScheduledRead.readStep reader positive
    rw [readLoop, if_pos missing]
    cases answered : Read.read reader (size - filled.length) with
    | mk answer left =>
        rw [answered] at step
        cases answer with
        | error reason =>
            rw [step.takeBlock_error positive]
            exact ⟨rfl, rfl⟩
        | ok piece =>
            by_cases isEmpty : piece = []
            · subst isEmpty
              rw [step.takeBlock_nil positive]
              refine ⟨rfl, left, ?_, rfl, rfl⟩
              rw [List.append_nil]
              rfl
            · obtain ⟨short, taken⟩ := step.takeBlock_served isEmpty
              have someBytes := List.length_pos_iff.mpr isEmpty
              have later :=
                (readLoop_fills left (filled ++ piece) size).read
              rw [List.length_append, ← Nat.sub_sub, ← taken] at later
              dsimp only
              rw [if_neg (by omega)]
              exact later
  · have full : size - filled.length = 0 := by
      omega
    rw [readLoop, if_neg missing, full]
    refine ⟨rfl, reader, ?_, rfl, rfl⟩
    rw [List.append_nil]
    rfl
termination_by size - filled.length
decreasing_by
  rw [List.length_append]
  omega

/-- `read_block` returns the next block, or `None` where it is empty. -/
theorem readBlock_of_ok
    {reader : Reader}
    {size : Nat}
    (allocatable : size ≤ isizeMax)
    {block : Bytes}
    {rest : List (Delivery UInt8 String)}
    (taken :
      takeBlock size (ScheduledRead.deliveries reader) =
        (.ok block, rest)) :
    ∃ left,
      (readBlock reader size).outcome =
          .ok (if block = [] then none else some block, left) ∧
        ScheduledRead.deliveries left = rest ∧
        (readBlock reader size).log.filterMap
          StreamEvent.produced? = [] ∧
        bytesRead (readBlock reader size).log = block := by
  have fills := readLoop_fills reader [] size
  rw [List.length_nil, Nat.sub_zero, taken] at fills
  obtain ⟨silent, left, outcome, leaves, served⟩ := fills
  refine ⟨left, ?_⟩
  rw [readBlock, if_neg (by omega), Trace.bind_of_ok outcome]
  rw [List.nil_append]
  cases block with
  | nil =>
      refine ⟨rfl, leaves, ?_, ?_⟩
      · simpa using silent
      · simpa using served
  | cons byte more =>
      refine ⟨rfl, leaves, ?_, ?_⟩
      · simpa using silent
      · simpa using served

/-- `read_block` fails where its reader does. -/
theorem readBlock_of_error
    {reader : Reader}
    {size : Nat}
    (allocatable : size ≤ isizeMax)
    {reason : String}
    {rest : List (Delivery UInt8 String)}
    (taken :
      takeBlock size (ScheduledRead.deliveries reader) =
        (.error reason, rest)) :
    (readBlock reader size).outcome = .error (.failed (.io reason)) := by
  have fills := readLoop_fills reader [] size
  rw [List.length_nil, Nat.sub_zero, taken] at fills
  rw [readBlock, if_neg (by omega), Trace.bind_of_error fills.2]

/-- Where a reading finds no block, `read_block` returns `None`. -/
theorem readBlock_of_found_nil
    {reader : Reader}
    {size : Nat}
    (allocatable : size ≤ isizeMax)
    (found :
      readBlocks size (ScheduledRead.deliveries reader) = .ok []) :
    ∃ left,
      (readBlock reader size).outcome = .ok (none, left) ∧
        (readBlock reader size).log.filterMap
          StreamEvent.produced? = [] ∧
        bytesRead (readBlock reader size).log = [] := by
  rcases readBlocks_eq_ok found with
      ⟨_, rest, taken⟩ | ⟨_, _, _, _, _, _, impossible⟩
  · obtain ⟨left, outcome, _, silent, served⟩ :=
      readBlock_of_ok allocatable taken
    exact ⟨left, outcome, silent, served⟩
  · cases impossible

/-- Where a reading finds blocks, `read_block` returns the first of them. -/
theorem readBlock_of_found_cons
    {reader : Reader}
    {size : Nat}
    (allocatable : size ≤ isizeMax)
    {block : Bytes}
    {later : List Bytes}
    (found :
      readBlocks size (ScheduledRead.deliveries reader) =
        .ok (block :: later)) :
    ∃ left,
      (readBlock reader size).outcome = .ok (some block, left) ∧
        readBlocks size (ScheduledRead.deliveries left) = .ok later ∧
        (readBlock reader size).log.filterMap
          StreamEvent.produced? = [] ∧
        bytesRead (readBlock reader size).log = block := by
  rcases readBlocks_eq_ok found with
      ⟨impossible, _⟩ | ⟨_, rest, _, taken, nonempty, more, shape⟩
  · cases impossible
  · cases shape
    obtain ⟨left, outcome, leaves, silent, served⟩ :=
      readBlock_of_ok allocatable taken
    rw [if_neg nonempty] at outcome
    rw [← leaves] at more
    exact ⟨left, outcome, more, silent, served⟩

/-- Where a reading fails, `read_block` fails, or reads a block before that. -/
theorem readBlock_of_failing
    {reader : Reader}
    {size : Nat}
    (allocatable : size ≤ isizeMax)
    {reason : String}
    (failed :
      readBlocks size (ScheduledRead.deliveries reader) =
        .error reason) :
    (∃ exit, (readBlock reader size).outcome = .error exit) ∨
      ∃ block left,
        (readBlock reader size).outcome = .ok (some block, left) ∧
          readBlocks size (ScheduledRead.deliveries left) =
            .error reason := by
  cases taken : takeBlock size (ScheduledRead.deliveries reader) with
  | mk answer rest =>
      cases answer with
      | error failure =>
          exact .inl ⟨_, readBlock_of_error allocatable taken⟩
      | ok block =>
          by_cases isEmpty : block = []
          · subst isEmpty
            rw [readBlocks_of_empty taken] at failed
            cases failed
          · obtain ⟨left, outcome, leaves, _, _⟩ :=
              readBlock_of_ok allocatable taken
            rw [if_neg isEmpty] at outcome
            refine .inr ⟨block, left, outcome, ?_⟩
            rw [leaves]
            exact readBlocks_rest_error taken isEmpty failed

/-- A block that does not fit a `Vec` makes `read_block` panic. -/
theorem readBlock_of_huge
    {Reader : Type}
    [Read Reader]
    (reader : Reader)
    {size : Nat}
    (huge : isizeMax < size) :
    readBlock reader size =
      Trace.fail (.panicked "capacity overflow") := by
  rw [readBlock, if_pos huge]

/-- After a block with bytes in it less is left to deliver. -/
theorem readBlock_lt
    {reader left : Reader}
    {size : Nat}
    {block : Bytes}
    (returned :
      (readBlock reader size).outcome = .ok (some block, left)) :
    (ScheduledRead.deliveries left).length <
      (ScheduledRead.deliveries reader).length := by
  by_cases huge : isizeMax < size
  · rw [readBlock_of_huge reader huge] at returned
    cases returned
  · cases taken : takeBlock size (ScheduledRead.deliveries reader) with
    | mk answer rest =>
        cases answer with
        | error reason =>
            rw [readBlock_of_error (Nat.le_of_not_lt huge) taken] at returned
            cases returned
        | ok items =>
            obtain ⟨next, outcome, leaves, _, _⟩ :=
              readBlock_of_ok (Nat.le_of_not_lt huge) taken
            rw [outcome] at returned
            by_cases isEmpty : items = []
            · rw [if_pos isEmpty] at returned
              cases returned
            · rw [if_neg isEmpty] at returned
              cases returned
              rw [leaves]
              exact takeBlock_lt taken isEmpty

/-- As long as blocks come, less is left to deliver. -/
theorem readBlock_next_lt
    {reader : Reader}
    {size : Nat}
    {next : Option Bytes × Reader}
    (returned : (readBlock reader size).outcome = .ok next)
    (more : ¬ next.1.isNone) :
    (ScheduledRead.deliveries next.2).length <
      (ScheduledRead.deliveries reader).length := by
  obtain ⟨block, left⟩ := next
  cases block with
  | none =>
      exact (more rfl).elim
  | some block =>
      exact readBlock_lt returned

end ReadBlockSpec

end PqForgeFfi
