import PqForgeFfi.Backend
import PqForgeFfi.DartBytes
import PqForgeFfi.Segmentation.Trace

namespace PqForgeFfi.PqForgeStream

open Segmentation

/-!
# The Dart stream

`PqForgeStream.seal` and `PqForgeStream.open` as generators: the source is the
list of its events, and a run is the trace of AEAD calls and yielded pieces.
Dart's `int` is `Int64`, so `counter++` and `chunkSize + tagBytes` wrap as they
do on the Dart VM; offsets stay inside a buffer in memory and cannot wrap.
-/

/-- The byte loop of `_nonce`; the argument `i + 1` is the loop variable `i`. -/
def nonceLoop (nonce : Bytes) : Nat → Int → Bytes
  | 0, _ =>
      nonce
  | i + 1, c =>
      if 0 < c then
        nonceLoop
          (nonce.set i (UInt8.ofNat (c % 256).toNat)) i (c >>> (8 : Nat))
      else
        nonce

/-- `_nonce`: big-endian counter in the leading bytes, flag in the last one. -/
def nonce
    (counter : Int64)
    (last : Bool)
    (nonceBytes : Nat) :
    Bytes :=
  (nonceLoop (List.replicate nonceBytes 0)
      (nonceBytes - 1) counter.toInt).set
    (nonceBytes - 1) (if last then 1 else 0)

/-- `_concat`. -/
def concat (a b : Bytes) : Bytes :=
  if a.isEmpty then b else a ++ b

/-- The arguments of a `seal` or `open` call that passed the entry check. -/
structure StreamCall where
  backend : PqForgeBackend
  key : Bytes
  algorithm : PqAeadAlgorithm
  ad : Bytes
  chunkSize : Int64
  positive : 0 < chunkSize.toInt

namespace StreamCall

/-- `chunkSize + algorithm.tagBytes`. -/
def cipherChunk (call : StreamCall) : Int64 :=
  call.chunkSize + Int64.ofNat call.algorithm.tagBytes

/-- The size of a cipher frame is the true sum unless that leaves the `int`s. -/
theorem cipherChunk_toInt (call : StreamCall) :
    call.cipherChunk.toInt =
      if call.chunkSize.toInt < 2 ^ 63 - 16 then
        call.chunkSize.toInt + 16
      else
        call.chunkSize.toInt + 16 - 2 ^ 64 := by
  have positive := call.positive
  have bounded := call.chunkSize.toInt_lt
  have tag : (Int64.ofNat call.algorithm.tagBytes).toInt = 16 := by
    rw [PqAeadAlgorithm.tagBytes_eq]
    rfl
  rw [cipherChunk, Int64.toInt_add, tag, Int.bmod_def]
  split <;> split <;> omega

/-- The size of a cipher frame is never zero. -/
theorem cipherChunk_ne_zero (call : StreamCall) :
    call.cipherChunk.toInt ≠ 0 := by
  have positive := call.positive
  have bounded := call.chunkSize.toInt_lt
  rw [cipherChunk_toInt]
  split <;> omega

end StreamCall

/-- One AEAD call of a stream, and its output unless it throws. -/
def aeadCall
    (call : StreamCall)
    (operation :
      PqAeadAlgorithm →
        (key nonce input aad : Bytes) →
        Except DartThrow Bytes)
    (input : Bytes)
    (counter : Int64)
    (last : Bool) :
    Trace StreamEvent DartThrow Bytes :=
  let nonce := nonce counter last call.algorithm.nonceBytes
  let answer :=
    operation call.algorithm call.key nonce input call.ad
  Trace.record
      (.aead {
        algorithm := call.algorithm
        key := call.key
        nonce := nonce
        associated := call.ad
        input := input
        output := answer.toOption }) >>= fun _ =>
    Trace.ofExcept answer

/-- `yield _seal(key, algorithm, chunk, counter, last, ad)`. -/
def yieldSeal
    (call : StreamCall)
    (chunk : Bytes)
    (counter : Int64)
    (last : Bool) :
    Trace StreamEvent DartThrow Unit := do
  let frame ← aeadCall call call.backend.aeadSeal chunk counter last
  Trace.record (.emit frame)

/-- `yield _open(key, algorithm, frame, counter, last, ad)`. -/
def yieldOpen
    (call : StreamCall)
    (frame : Bytes)
    (counter : Int64)
    (last : Bool) :
    Trace StreamEvent DartThrow Unit := do
  let chunk ← aeadCall call call.backend.aeadOpen frame counter last
  Trace.record (.emit chunk)

/-! ## Sealing -/

/-- What `seal` keeps between source events. -/
structure SealState where
  counter : Int64
  pending : Option Bytes
  carry : Bytes
  deriving Repr, DecidableEq

/-- `if (pending != null) yield _seal(…, pending, counter++, false, ad)`. -/
def yieldPending
    (call : StreamCall)
    (counter : Int64)
    (pending : Option Bytes) :
    Trace StreamEvent DartThrow Int64 :=
  match pending with
  | some chunk => do
      yieldSeal call chunk counter false
      return counter + 1
  | none =>
      return counter

/-- The inner loop of `seal`: final offset, counter and pending chunk. -/
def sealLoop
    (call : StreamCall)
    (combined : Bytes)
    (offset : Int)
    (counter : Int64)
    (pending : Option Bytes) :
    Trace StreamEvent DartThrow (Int × Int64 × Option Bytes) :=
  if call.chunkSize.toInt ≤ combined.length - offset then do
    let counter ← yieldPending call counter pending
    let chunk ← Trace.ofExcept
      (sublistView combined offset (offset + call.chunkSize.toInt))
    sealLoop call combined (offset + call.chunkSize.toInt)
      counter (some chunk)
  else
    return (offset, counter, pending)
termination_by (combined.length - offset).toNat
decreasing_by
  have := call.positive
  omega

/-- The body of `await for (final data in source)` in `seal`. -/
def sealEvent
    (call : StreamCall)
    (state : SealState)
    (data : Bytes) :
    Trace StreamEvent DartThrow SealState := do
  let combined := concat state.carry data
  let (offset, counter, pending) ←
    sealLoop call combined 0 state.counter state.pending
  let carry ← Trace.ofExcept
    (sublistView combined offset combined.length)
  return { counter, pending, carry }

/-- The events of the source, one after the other. -/
def sealEvents
    (call : StreamCall) :
    SealState → List Bytes →
      Trace StreamEvent DartThrow SealState
  | state, [] =>
      return state
  | state, data :: rest => do
      let state ← sealEvent call state data
      sealEvents call state rest

/-- The flush at the end of the source. -/
def sealFlush
    (call : StreamCall)
    (state : SealState) :
    Trace StreamEvent DartThrow Unit :=
  if !state.carry.isEmpty then do
    let counter ← yieldPending call state.counter state.pending
    yieldSeal call state.carry counter true
  else
    match state.pending with
    | some chunk =>
        yieldSeal call chunk state.counter true
    | none =>
        yieldSeal call [] state.counter true

/-- `ArgumentError.value(chunkSize, 'chunkSize', 'must be positive')`. -/
def chunkSizeError (chunkSize : Int64) : DartThrow :=
  .argumentError
    ("Invalid argument (chunkSize): must be positive: " ++
      toString chunkSize.toInt)

/-- `PqForgeStream.seal`. -/
def «seal»
    (backend : PqForgeBackend)
    (source : List Bytes)
    (key : Bytes)
    (algorithm : PqAeadAlgorithm)
    (aad : Option Bytes)
    (chunkSize : Int64) :
    Trace StreamEvent DartThrow Unit :=
  if positive : 0 < chunkSize.toInt then do
    let call : StreamCall :=
      { backend, key, algorithm, ad := aad.getD [], chunkSize, positive }
    let state ← sealEvents call
      { counter := 0, pending := none, carry := [] } source
    sealFlush call state
  else
    Trace.fail (chunkSizeError chunkSize)

/-! ## Opening -/

/-- What `open` keeps between source events. -/
structure OpenState where
  counter : Int64
  carry : Bytes
  sawAnyByte : Bool
  deriving Repr, DecidableEq

/-- The inner loop of `open`: final offset and counter. -/
def openLoop
    (call : StreamCall)
    (combined : Bytes)
    (offset : Int)
    (counter : Int64) :
    Trace StreamEvent DartThrow (Int × Int64) :=
  if call.cipherChunk.toInt < combined.length - offset then
    match sliced :
        sublistView combined offset
          (offset + call.cipherChunk.toInt) with
    | .error thrown =>
        Trace.fail thrown
    | .ok frame => do
        yieldOpen call frame counter false
        openLoop call combined (offset + call.cipherChunk.toInt)
          (counter + 1)
  else
    return (offset, counter)
termination_by (combined.length - offset).toNat
decreasing_by
  have := sublistView_eq_ok sliced
  have := call.cipherChunk_ne_zero
  omega

/-- The body of `await for (final data in source)` in `open`. -/
def openEvent
    (call : StreamCall)
    (state : OpenState)
    (data : Bytes) :
    Trace StreamEvent DartThrow OpenState := do
  let sawAnyByte :=
    if !data.isEmpty then true else state.sawAnyByte
  let combined := concat state.carry data
  let (offset, counter) ← openLoop call combined 0 state.counter
  let carry ← Trace.ofExcept
    (sublistView combined offset combined.length)
  return { counter, carry, sawAnyByte }

/-- The events of the source, one after the other. -/
def openEvents
    (call : StreamCall) :
    OpenState → List Bytes →
      Trace StreamEvent DartThrow OpenState
  | state, [] =>
      return state
  | state, data :: rest => do
      let state ← openEvent call state data
      openEvents call state rest

/-- The checks and the final frame at the end of the source. -/
def openFinal
    (call : StreamCall)
    (state : OpenState) :
    Trace StreamEvent DartThrow Unit :=
  if !state.sawAnyByte then
    Trace.fail (.ffi (.invalidCiphertext "empty ciphertext stream"))
  else if state.carry.length < call.algorithm.tagBytes then
    Trace.fail (.ffi (.invalidCiphertext "truncated final frame"))
  else
    yieldOpen call state.carry state.counter true

/-- `PqForgeStream.open`. -/
def «open»
    (backend : PqForgeBackend)
    (source : List Bytes)
    (key : Bytes)
    (algorithm : PqAeadAlgorithm)
    (aad : Option Bytes)
    (chunkSize : Int64) :
    Trace StreamEvent DartThrow Unit :=
  if positive : 0 < chunkSize.toInt then do
    let call : StreamCall :=
      { backend, key, algorithm, ad := aad.getD [], chunkSize, positive }
    let state ← openEvents call
      { counter := 0, carry := [], sawAnyByte := false } source
    openFinal call state
  else
    Trace.fail (chunkSizeError chunkSize)

end PqForgeFfi.PqForgeStream
