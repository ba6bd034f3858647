import PqForgeFfi.Allocation.Heap
import PqForgeFfi.Ed25519Verification
import PqForgeFfi.FileCipher

namespace PqForgeFfi.NativeMemory

open Allocation ByteOrder

/-!
# The native calls in memory

Every method of `NativeBackend`, and `_run` of the file cipher, with the blocks
that it allocates, the pointers that it passes, what native code reads and
writes behind them, and what its `finally` gives back.  The operations of
`NativeBackend` are what these come to when nothing is said about memory.
-/

/-- A block of native memory: some `Uint8`, or one `Size`. -/
inductive Block where
  | bytes (content : Bytes)
  | size (value : Nat)
  deriving Repr, DecidableEq

/-- A block of `Uint8` takes their number of bytes, and a `Size` eight. -/
instance : Extent Block where
  extent
    | .bytes content => content.length
    | .size _ => 8

/-- A computation of the Dart side over native memory. -/
abbrev Memory (Result : Type) : Type :=
  Program Block DartThrow Result

/-- What `calloc` throws when it gets no memory. -/
def outOfMemory (byteCount : Nat) : DartThrow :=
  .argumentError
    s!"Invalid argument(s): Could not allocate {byteCount} bytes."

/-- `calloc<Uint8>(count)`. -/
def callocBytes
    (allocator : Allocator Block)
    (count : Nat) :
    Memory Nat :=
  calloc allocator (.bytes (List.replicate count 0)) (outOfMemory count)

/-- `calloc<Size>()`. -/
def callocSize (allocator : Allocator Block) : Memory Nat :=
  calloc allocator (.size 0) (outOfMemory 8)

/-- `p.asTypedList(data.length).setAll(0, data)`. -/
def setAll
    (pointer : Nat)
    (data : Bytes) :
    Memory Unit := do
  match ← load pointer with
  | .bytes content =>
      if data.length ≤ content.length then
        store pointer (.bytes (overwrite content 0 data))
      else
        Program.undefined
  | .size _ =>
      Program.undefined

/-- `_toNative`, and `_bytes` of the file cipher. -/
def toNative
    (allocator : Allocator Block)
    (data : Bytes) :
    Memory Nat := do
  let p ← callocBytes allocator
    (if data.isEmpty then 1 else data.length)
  if data.isEmpty then
    pure ()
  else
    setAll p data
  pure p

/-- `_cString`. -/
def cString
    (allocator : Allocator Block)
    (s : PathStrings.DartString) :
    Memory Nat := do
  let bytes := PathStrings.utf8Encode s
  let p ← callocBytes allocator (bytes.length + 1)
  setAll p bytes
  pure p

/-! ## Arguments and outputs -/

/--
An input pointer that the Dart side passes, with the length that it passes
beside it; a string goes without one.
-/
inductive Argument where
  | nullptr (len : Nat)
  | bytes
      (data : Bytes)
      (len : Nat)
  | cString (s : PathStrings.DartString)
  deriving Repr, DecidableEq

namespace Argument

/-- How the Dart side comes by the pointer. -/
def acquire (allocator : Allocator Block) : Argument → Memory Nat
  | .nullptr _ => pure 0
  | .bytes data _ => toNative allocator data
  | .cString s => NativeMemory.cString allocator s

/-- The block behind the pointer. -/
def block : Argument → Option Block
  | .nullptr _ => none
  | .bytes data _ => some (.bytes (if data.isEmpty then [0] else data))
  | .cString s => some (.bytes (PathStrings.cString s))

/-- The length beside the pointer. -/
def len : Argument → Nat
  | .nullptr len => len
  | .bytes _ len => len
  | .cString _ => 0

/-- The length beside a copy of some data is that of the data. -/
def Measured : Argument → Prop
  | .nullptr _ => True
  | .bytes data len => len = data.length
  | .cString _ => True

/-- What the Dart side means native code to find behind the pointer. -/
def value : Argument → CSlice
  | .nullptr len => .null len
  | .bytes data _ => .valid data
  | .cString s =>
      .valid (PathStrings.cStrFromPtr (PathStrings.cString s))

/--
Native code reads as many bytes as the length beside the pointer says, or up to
the first NUL, and never beyond the block.
-/
def read
    (argument : Argument)
    (pointer : Nat) :
    Memory CSlice := do
  if pointer = 0 then
    pure (.null argument.len)
  else
    match argument, ← load pointer with
    | .bytes _ len, .bytes content =>
        if len ≤ content.length then
          pure (.valid (content.take len))
        else
          Program.undefined
    | .cString _, .bytes content =>
        if 0 ∈ content then
          pure (.valid (PathStrings.cStrFromPtr content))
        else
          Program.undefined
    | _, _ =>
        Program.undefined

end Argument

/-- Native code reads its arguments. -/
def readAll :
    List Argument →
      List Nat →
      Memory (List CSlice)
  | argument :: arguments, pointer :: pointers => do
      let value ← argument.read pointer
      let values ← readAll arguments pointers
      pure (value :: values)
  | _, _ =>
      pure []

/-- The pointers that a `finally` gives back: all but `nullptr`. -/
def releases :
    List Argument →
      List Nat →
      List Nat
  | .nullptr _ :: arguments, _ :: addresses =>
      releases arguments addresses
  | _ :: arguments, address :: addresses =>
      address :: releases arguments addresses
  | _, addresses =>
      addresses

/-- An output buffer: how much is allocated, and how much is said to be. -/
structure OutputBuffer where
  allocated : Nat
  cap : Nat
  fits : cap ≤ allocated

/-- A buffer of exactly its capacity. -/
def OutputBuffer.exactly (bytes : Nat) : OutputBuffer where
  allocated := bytes
  cap := bytes
  fits := Nat.le_refl bytes

/-- The output arguments that native code finds for a zeroed buffer. -/
def OutputBuffer.caller (buffer : OutputBuffer) : CallerOutput where
  out := some (List.replicate buffer.allocated 0)
  cap := buffer.cap
  len := some 0
  valid := by
    intro bytes same
    obtain rfl := Option.some.inj same
    rw [List.length_replicate]
    exact buffer.fits

/-- The output arguments behind a buffer and a length cell. -/
def callerOf
    (cap : Nat) :
    Block →
      Block →
      Option CallerOutput
  | .bytes content, .size length =>
      if room : cap ≤ content.length then
        some {
          out := some content
          cap
          len := some length
          valid := by
            intro bytes same
            obtain rfl := Option.some.inj same
            exact room }
      else
        none
  | _, _ =>
      none

/-- The output arguments behind all buffers and length cells. -/
def callersOf :
    List OutputBuffer →
      List Block →
      List Block →
      Option (List CallerOutput)
  | [], _, _ =>
      some []
  | buffer :: buffers, content :: contents, length :: lengths => do
      let caller ← callerOf buffer.cap content length
      let callers ← callersOf buffers contents lengths
      some (caller :: callers)
  | _, _, _ =>
      none

/-- The contents that a native call leaves in an output buffer. -/
def outBlock (caller : CallerOutput) : Block :=
  .bytes (caller.out.getD [])

/-- The contents that it leaves in a length cell. -/
def lenBlock (caller : CallerOutput) : Block :=
  .size (caller.len.getD 0)

/--
An exported function with its other arguments: the status, and what becomes of
its outputs, from what it finds behind its pointers, by their positions.
-/
abbrev NativeFn : Type :=
  (slice : Nat → CSlice) →
    (out : Nat → CallerOutput) →
    Int × List CallerOutput

/-- An output that was not passed. -/
def noOutput : CallerOutput where
  out := none
  cap := 0
  len := none
  valid := fun _ same => by cases same

/-- A native function applied to what its pointers lead to. -/
def NativeFn.apply
    (fn : NativeFn)
    (values : List CSlice)
    (callers : List CallerOutput) :
    Int × List CallerOutput :=
  fn (fun position => values.getD position (.null 0))
    (fun position => callers.getD position noOutput)

/--
A native call reads behind its pointers, and writes its outputs there, within
the capacities that it is told: to write elsewhere is undefined.
-/
def callNative
    (fn : NativeFn)
    (arguments : List Argument)
    (outputs : List OutputBuffer)
    (pointers buffers cells : List Nat) :
    Memory Int := do
  let values ← readAll arguments pointers
  let contents ← loadAll buffers
  let lengths ← loadAll cells
  match callersOf outputs contents lengths with
  | none =>
      Program.undefined
  | some callers => do
      let (rc, after) := fn.apply values callers
      if List.Forall₂ CallerOutput.Framed callers after then do
        storeAll buffers (after.map outBlock)
        storeAll cells (after.map lenBlock)
        pure rc
      else
        Program.undefined

/-- What a call returns to the Dart side. -/
inductive NativeAnswer where
  | outputs (pieces : List Bytes)
  | verdict (verified : Bool)
  | status (rc : Int)
  deriving Repr, DecidableEq

/-- `Uint8List.fromList(out.asTypedList(length.value))`. -/
def pieceOf :
    Block →
      Block →
      Option Bytes
  | .bytes content, .size length =>
      if length ≤ content.length then
        some (content.take length)
      else
        none
  | _, _ =>
      none

/-- The outputs in the order of their buffers. -/
def piecesOf :
    List Block →
      List Block →
      Option (List Bytes)
  | content :: contents, length :: lengths => do
      let piece ← pieceOf content length
      let pieces ← piecesOf contents lengths
      some (piece :: pieces)
  | _, _ =>
      some []

/-- What a call makes of the status of its native function. -/
inductive Conclusion where
  | copies (op : String)
  | verdict
  | status
  deriving Repr, DecidableEq

namespace Conclusion

/--
A call throws or copies its outputs, or has a verdict, or hands on its status.
-/
def conclude
    (rc : Int)
    (buffers cells : List Nat) :
    Conclusion → Memory NativeAnswer
  | .copies op =>
      if rc ≠ PqForgeErrorCode.ok.value then
        Program.fail (.ffi (NativeBackend.throwStatus rc op))
      else do
        let lengths ← loadAll cells
        let contents ← loadAll buffers
        match piecesOf contents lengths with
        | none => Program.undefined
        | some pieces => pure (.outputs pieces)
  | .verdict =>
      pure (.verdict (rc == PqForgeErrorCode.ok.value))
  | .status =>
      pure (.status rc)

/-- What a call concludes from what its outputs hold. -/
def ending
    (rc : Int)
    (after : List CallerOutput) :
    Conclusion → Except DartThrow NativeAnswer
  | .copies op =>
      if rc ≠ PqForgeErrorCode.ok.value then
        .error (.ffi (NativeBackend.throwStatus rc op))
      else
        .ok (.outputs (after.map CallerOutput.contents))
  | .verdict =>
      .ok (.verdict (rc == PqForgeErrorCode.ok.value))
  | .status =>
      .ok (.status rc)

end Conclusion

/--
The shape that all methods share: arguments, output buffers with a length cell
each, a native call, and a conclusion, inside `try` and `finally`.
-/
structure Marshalling where
  arguments : List Argument
  outputs : List OutputBuffer
  fn : NativeFn
  conclusion : Conclusion

namespace Marshalling

/-- The blocks in the order of their allocation. -/
def acquisitions
    (marshalling : Marshalling)
    (allocator : Allocator Block) :
    List (Memory Nat) :=
  marshalling.arguments.map (Argument.acquire allocator) ++
    (marshalling.outputs.map fun output =>
      callocBytes allocator output.allocated) ++
    marshalling.outputs.map fun _ => callocSize allocator

/-- The `try` block, over the addresses of all blocks in their order. -/
def body
    (marshalling : Marshalling)
    (addresses : List Nat) :
    Memory NativeAnswer := do
  let pointers := addresses.take marshalling.arguments.length
  let behind := addresses.drop marshalling.arguments.length
  let buffers := behind.take marshalling.outputs.length
  let cells := behind.drop marshalling.outputs.length
  let rc ← callNative marshalling.fn marshalling.arguments
    marshalling.outputs pointers buffers cells
  marshalling.conclusion.conclude rc buffers cells

/-- Allocate, `try` the native call, and `finally` free. -/
def program
    (marshalling : Marshalling)
    (allocator : Allocator Block) :
    Memory NativeAnswer :=
  within (marshalling.acquisitions allocator)
    (releases marshalling.arguments) marshalling.body

/-- The status of the native call, and what becomes of the outputs. -/
def answer (marshalling : Marshalling) : Int × List CallerOutput :=
  marshalling.fn.apply (marshalling.arguments.map Argument.value)
    (marshalling.outputs.map OutputBuffer.caller)

/-- How the call ends, when nothing is said about memory. -/
def ending (marshalling : Marshalling) : Except DartThrow NativeAnswer :=
  marshalling.conclusion.ending marshalling.answer.1
    marshalling.answer.2

/-- The blocks that the call asks for, as the native call finds them. -/
def requested (marshalling : Marshalling) : List (Option Block) :=
  marshalling.arguments.map Argument.block ++
    (marshalling.outputs.map fun output =>
      some (.bytes (List.replicate output.allocated 0))) ++
    marshalling.outputs.map fun _ => some (.size 0)

/-- The blocks behind the native call. -/
def written (marshalling : Marshalling) : List (Option Block) :=
  marshalling.arguments.map Argument.block ++
    (marshalling.answer.2.map fun caller => some (outBlock caller)) ++
    marshalling.answer.2.map fun caller => some (lenBlock caller)

end Marshalling

/-! ## Allocating -/

/-- The error of an allocation that fails. -/
def OutOfMemory (error : DartThrow) : Prop :=
  ∃ byteCount, error = outOfMemory byteCount

theorem acquires_callocBytes
    (allocator : Allocator Block)
    (count : Nat) :
    Acquires OutOfMemory (callocBytes allocator count)
      (some (.bytes (List.replicate count 0))) :=
  acquires_calloc allocator _ ⟨count, rfl⟩

theorem acquires_callocSize (allocator : Allocator Block) :
    Acquires OutOfMemory (callocSize allocator) (some (.size 0)) :=
  acquires_calloc allocator _ ⟨8, rfl⟩

/-- A copy into a block that is large enough is one write. -/
theorem setAll_eq_store
    {heap : Heap Block}
    {pointer : Nat}
    {content data : Bytes}
    (found : heap.live pointer = some (.bytes content))
    (fits : data.length ≤ content.length) :
    setAll pointer data heap =
      store pointer (.bytes (overwrite content 0 data)) heap := by
  have loaded :
      (load pointer : Memory Block) heap =
        some (.ok (.bytes content), heap) := by
    rw [load, found]
  rw [setAll, Program.bind_of_ok loaded]
  simp only [if_pos fits]

/-- Every argument acquires its block. -/
theorem Argument.acquires
    (allocator : Allocator Block)
    (argument : Argument) :
    Acquires OutOfMemory (argument.acquire allocator)
      argument.block := by
  cases argument with
  | nullptr len =>
      exact acquires_null
  | bytes data len =>
      have shape :
          toNative allocator data =
            callocBytes allocator
                (if data.isEmpty then 1 else data.length) >>=
              fun p =>
                (if data.isEmpty then pure () else setAll p data) >>=
                  fun _ => pure p := by
        cases data <;> rfl
      rw [acquire, shape]
      have sameExtent :
          extent (Block.bytes (if data.isEmpty then [0] else data)) =
            extent (Block.bytes (List.replicate
              (if data.isEmpty then 1 else data.length) 0)) := by
        cases data with
        | nil =>
            rfl
        | cons byte more =>
            exact List.length_replicate.symm
      refine (acquires_callocBytes allocator _).thenStore sameExtent ?_
      intro heap address found
      cases data with
      | nil =>
          exact (store_same found).symm
      | cons byte more =>
          refine (setAll_eq_store found ?_).trans ?_
          · rw [List.length_replicate]
            exact Nat.le_refl _
          · congr 2
            simp [overwrite]
  | cString s =>
      have sameExtent :
          extent (Block.bytes (PathStrings.cString s)) =
            extent (Block.bytes (List.replicate
              ((PathStrings.utf8Encode s).length + 1) 0)) := by
        simp [extent, PathStrings.cString]
      refine (acquires_callocBytes allocator _).thenStore sameExtent ?_
      intro heap address found
      refine (setAll_eq_store found ?_).trans ?_
      · rw [List.length_replicate]
        exact Nat.le_succ _
      · congr 2
        simp [overwrite, List.drop_replicate, PathStrings.cString]

/-- Two lists made of one are related where their items are. -/
theorem forall₂_map
    {Item Left Right : Type}
    {Related : Left → Right → Prop}
    {left : Item → Left}
    {right : Item → Right}
    (related : ∀ item, Related (left item) (right item))
    (items : List Item) :
    List.Forall₂ Related (items.map left) (items.map right) := by
  induction items with
  | nil =>
      exact List.Forall₂.nil
  | cons item rest inductionHypothesis =>
      exact List.Forall₂.cons (related item) inductionHypothesis

namespace Marshalling

variable (marshalling : Marshalling)

/-- A call acquires the blocks that it asks for. -/
theorem acquires (allocator : Allocator Block) :
    List.Forall₂ (Acquires OutOfMemory)
      (marshalling.acquisitions allocator) marshalling.requested := by
  refine List.rel_append (List.rel_append ?_ ?_) ?_
  · exact forall₂_map (Argument.acquires allocator) _
  · exact forall₂_map
      (fun output : OutputBuffer =>
        acquires_callocBytes allocator output.allocated) _
  · exact forall₂_map (fun _ => acquires_callocSize allocator) _

end Marshalling

/-- Of pointers to blocks only, all are given back. -/
theorem acquiredAll_map_some
    {addresses : List Nat}
    {contents : List Block}
    (lengths : addresses.length = contents.length) :
    (acquiredAll addresses (contents.map some)).map Prod.fst =
      addresses := by
  induction addresses generalizing contents with
  | nil =>
      rw [acquiredAll_nil]
      rfl
  | cons address rest inductionHypothesis =>
      cases contents with
      | nil =>
          cases lengths
      | cons content contents =>
          rw [List.map_cons, acquiredAll, List.map_append,
            inductionHypothesis (Nat.succ.inj lengths)]
          rfl

/-- A `finally` gives back exactly what was acquired. -/
theorem releases_eq
    (arguments : List Argument)
    {others : List Block}
    {addresses : List Nat}
    (lengths :
      addresses.length = arguments.length + others.length) :
    releases arguments addresses =
      (acquiredAll addresses
        (arguments.map Argument.block ++ others.map some)).map
          Prod.fst := by
  induction arguments generalizing addresses with
  | nil =>
      rw [List.map_nil, List.nil_append,
        acquiredAll_map_some (by simpa using lengths)]
      cases addresses <;> rfl
  | cons argument arguments inductionHypothesis =>
      cases addresses with
      | nil =>
          rw [List.length_nil, List.length_cons] at lengths
          omega
      | cons address rest =>
          have lengthsRest :
              rest.length = arguments.length + others.length := by
            simp only [List.length_cons] at lengths
            omega
          rw [List.map_cons, List.cons_append, acquiredAll,
            List.map_append, ← inductionHypothesis lengthsRest]
          cases argument <;> rfl

section Owned

variable {base : Nat → Option Block}
variable {earlier later : List (Nat × Block)}
variable {heap : Heap Block}

/-- Native code finds the value of an argument behind its pointer. -/
theorem Argument.read_owned
    {argument : Argument}
    {pointer : Nat}
    (measured : argument.Measured)
    (null : argument.block = none → pointer = 0)
    (owns :
      Owns base (earlier ++ acquired pointer argument.block ++ later)
        heap) :
    argument.read pointer heap = some (.ok argument.value, heap) := by
  cases argument with
  | nullptr len =>
      obtain rfl := null rfl
      rfl
  | bytes data len =>
      obtain rfl : len = data.length := measured
      have member :
          (pointer, Block.bytes (if data.isEmpty then [0] else data)) ∈
            earlier ++ acquired pointer
              (Argument.bytes data data.length).block ++
              later := by
        simp [acquired, Argument.block]
      have loaded := @load_owned _ DartThrow _ _ _ owns _ _ member
      have fits :
          data.length ≤ (if data.isEmpty then [0] else data).length := by
        cases data with
        | nil =>
            exact Nat.zero_le _
        | cons byte more =>
            exact Nat.le_refl _
      have front :
          (if data.isEmpty then [0] else data).take data.length =
            data := by
        cases data with
        | nil =>
            rfl
        | cons byte more =>
            exact List.take_length
      rw [Argument.read, if_neg (owns.notNull _ member),
        Program.bind_of_ok loaded]
      show (ite _ _ _ : Memory CSlice) heap = _
      rw [if_pos fits, front]
      rfl
  | cString s =>
      have member :
          (pointer, Block.bytes (PathStrings.cString s)) ∈
            earlier ++ acquired pointer (Argument.cString s).block ++
              later := by
        simp [acquired, Argument.block]
      have loaded := @load_owned _ DartThrow _ _ _ owns _ _ member
      have terminated : (0 : UInt8) ∈ PathStrings.cString s := by
        simp [PathStrings.cString]
      rw [Argument.read, if_neg (owns.notNull _ member),
        Program.bind_of_ok loaded]
      show (ite _ _ _ : Memory CSlice) heap = _
      rw [if_pos terminated]
      rfl

/-- Native code finds the values of all arguments. -/
theorem readAll_owned
    {arguments : List Argument}
    {pointers : List Nat}
    (measured : ∀ argument ∈ arguments, argument.Measured)
    (places : Places pointers (arguments.map Argument.block))
    (owns :
      Owns base
        (earlier ++ acquiredAll pointers (arguments.map Argument.block) ++
          later)
        heap) :
    readAll arguments pointers heap =
      some (.ok (arguments.map Argument.value), heap) := by
  induction arguments generalizing earlier pointers with
  | nil =>
      rw [readAll]
      · rfl
      · intro argument arguments pointer pointers noArgument
        cases noArgument
  | cons argument arguments inductionHypothesis =>
      cases places with
      | @cons pointer _ pointers _ null places =>
          rw [List.map_cons, acquiredAll] at owns
          have first :=
            @Argument.read_owned base earlier
              (acquiredAll pointers (arguments.map Argument.block) ++
                later)
              heap argument pointer
              (measured argument List.mem_cons_self) null
              (by simpa only [List.append_assoc] using owns)
          have others :=
            @inductionHypothesis
              (earlier ++ acquired pointer argument.block) pointers
              (fun other member =>
                measured other (List.mem_cons_of_mem _ member))
              places
              (by simpa only [List.append_assoc] using owns)
          rw [readAll, Program.bind_of_ok first,
            Program.bind_of_ok others]
          rfl

end Owned

/-- Native code finds the zeroed outputs. -/
theorem callersOf_outputs (outputs : List OutputBuffer) :
    callersOf outputs
        (outputs.map fun output =>
          .bytes (List.replicate output.allocated 0))
        (outputs.map fun _ => .size 0) =
      some (outputs.map OutputBuffer.caller) := by
  induction outputs with
  | nil =>
      rfl
  | cons output outputs inductionHypothesis =>
      have room :
          output.cap ≤
            (List.replicate output.allocated (0 : UInt8)).length := by
        rw [List.length_replicate]
        exact output.fits
      have here :
          callerOf output.cap
              (.bytes (List.replicate output.allocated 0)) (.size 0) =
            some output.caller := by
        rw [callerOf, dif_pos room]
        rfl
      rw [List.map_cons, List.map_cons, callersOf, here,
        inductionHypothesis]
      rfl

/--
A native function keeps to its outputs: it keeps the frame of each of them, and
leaves it on success with a length that is within the buffer.
-/
structure Keeps
    (outputs : List OutputBuffer)
    (answer : Int × List CallerOutput) : Prop where
  framed :
    List.Forall₂ CallerOutput.Framed
      (outputs.map OutputBuffer.caller) answer.2
  within :
    answer.1 = PqForgeErrorCode.ok.value →
    ∀ caller ∈ answer.2,
      caller.len.getD 0 ≤ (caller.out.getD []).length

namespace Keeps

variable {outputs : List OutputBuffer}
variable {answer : Int × List CallerOutput}

/-- A native function leaves as many outputs as it was given. -/
theorem length (keeps : Keeps outputs answer) :
    answer.2.length = outputs.length := by
  rw [← keeps.framed.length_eq, List.length_map]

/-- What is left in the output buffers fits into their blocks. -/
theorem out_extents (keeps : Keeps outputs answer) :
    (answer.2.map outBlock).map extent =
      (outputs.map fun output =>
        Block.bytes (List.replicate output.allocated 0)).map extent := by
  have framed := keeps.framed
  rw [List.forall₂_map_left_iff] at framed
  rw [List.map_map, List.map_map, ← List.forall₂_eq_eq_eq,
    List.forall₂_map_left_iff, List.forall₂_map_right_iff]
  refine (framed.imp fun output caller kept => ?_).flip
  obtain ⟨bytes, buffer, length⟩ :=
    Option.map_eq_some_iff.mp kept.room
  show (caller.out.getD []).length =
    (List.replicate output.allocated (0 : UInt8)).length
  rw [buffer]
  exact length

/-- What is left in the length cells fits into theirs. -/
theorem len_extents (keeps : Keeps outputs answer) :
    (answer.2.map lenBlock).map extent =
      (outputs.map fun _ => Block.size 0).map extent := by
  have sizes : extent ∘ lenBlock = fun _ => 8 := rfl
  rw [List.map_map, List.map_map, sizes, List.map_const',
    keeps.length]
  exact List.map_const'.symm

end Keeps

/-- The Dart side finds the outputs that native code has left. -/
theorem piecesOf_after
    {after : List CallerOutput}
    (inside :
      ∀ caller ∈ after,
        caller.len.getD 0 ≤ (caller.out.getD []).length) :
    piecesOf (after.map outBlock) (after.map lenBlock) =
      some (after.map CallerOutput.contents) := by
  induction after with
  | nil =>
      rfl
  | cons caller rest inductionHypothesis =>
      have here :
          pieceOf (outBlock caller) (lenBlock caller) =
            some caller.contents := by
        rw [outBlock, lenBlock, pieceOf,
          if_pos (inside caller List.mem_cons_self)]
        rfl
      rw [List.map_cons, List.map_cons, piecesOf, here,
        inductionHypothesis fun other member =>
          inside other (List.mem_cons_of_mem _ member)]
      rfl

end PqForgeFfi.NativeMemory
