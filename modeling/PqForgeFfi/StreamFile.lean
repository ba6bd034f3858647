import PqForgeFfi.AwsLc
import PqForgeFfi.NativeReader
import PqForgeFfi.StreamFormat

namespace PqForgeFfi.StreamFile

open Segmentation ByteOrder

/-!
# Native file streaming

`pqforge_stream_seal_file` and `pqforge_stream_open_file`.  A run is the trace
of what was read, of the AEAD calls and of the pieces handed to the writer,
and ends with the status code that crosses the C boundary.

The file system answers `open` and `create`; a created file answers the
`write_all` calls, which are numbered like the frames they write, and `flush`.
-/

/-- `TAG_LEN`. -/
def tagLen : Nat := 16

/-- `aead_alg`. -/
def aeadAlg : Int → Option PqAeadAlgorithm
  | 0 => some .aes256Gcm
  | 1 => some .chaCha20Poly1305
  | _ => none

/-- `stream_nonce`. -/
def streamNonce
    (counter : UInt64)
    (last : Bool) :
    Bytes :=
  let nonce : Bytes := List.replicate 12 0
  let nonce := overwrite nonce 3 (bigEndian 8 counter.toNat)
  nonce.set 11 (if last then 1 else 0)

/-- What the calls on a created file return. -/
structure BufWriter where
  writeAll : Nat → Except String Unit
  flush : Except String Unit

/-- `File::open` and `File::create`. -/
structure FileSystem where
  openFile : String → Except String File
  createFile : String → Except String BufWriter

/-- `cstr_path`: a path argument must be valid UTF-8. -/
def cstrPath (ptr : Bytes) : Except PqForgeError String :=
  match String.fromUTF8? (ByteArray.mk ptr.toArray) with
  | some path => .ok path
  | none => .error (.io "path is not valid UTF-8")

/-- `read_aad`. -/
def readAad (aad : CSlice) : Bytes :=
  if aad.len = 0 || aad.isNull then
    []
  else
    aad.bytes

/-- `next_counter`: `checked_add(1)`. -/
def nextCounter
    (counter : UInt64) :
    Trace StreamEvent PqForgeError UInt64 :=
  if counter.toNat + 1 < 2 ^ 64 then
    Trace.done (counter + 1)
  else
    Trace.fail (.internal "frame counter overflow")

/-- Hand a piece to the writer. -/
def writeAll
    (writer : BufWriter)
    (counter : UInt64)
    (piece : Bytes) :
    Trace StreamEvent PqForgeError Unit :=
  Trace.record (.emit piece) >>= fun _ =>
    Trace.ofExcept
      ((writer.writeAll counter.toNat).mapError PqForgeError.io)

/-- One AEAD call of the library, and its output unless it failed. -/
def aeadCall
    (key : LessSafeKey)
    (operation :
      PqAeadAlgorithm →
        (key nonce aad input : Bytes) →
        Option Bytes)
    (nonce aad input : Bytes)
    (failure : PqForgeError) :
    Trace StreamEvent PqForgeError Bytes :=
  let answer := operation key.algorithm key.key nonce aad input
  Trace.record
      (.aead {
        algorithm := key.algorithm
        key := key.key
        nonce := nonce
        associated := aad
        input := input
        output := answer }) >>= fun _ =>
    match answer with
    | some output => Trace.done output
    | none => Trace.fail failure

/-- `seal_frame`. -/
def sealFrame
    (aws : AwsLc)
    (writer : BufWriter)
    (key : LessSafeKey)
    (chunk : Bytes)
    (counter : UInt64)
    (last : Bool)
    (aad : Bytes) :
    Trace StreamEvent PqForgeError Unit :=
  match aws.tryAssumeUniqueForKey (streamNonce counter last) with
  | none =>
      Trace.fail (.internal "nonce")
  | some nonce => do
      let buf ← aeadCall key aws.sealInPlaceAppendTag nonce aad chunk
        (.internal "AEAD seal failed")
      writeAll writer counter buf

/-- `open_frame`. -/
def openFrame
    (aws : AwsLc)
    (writer : BufWriter)
    (key : LessSafeKey)
    (frame : Bytes)
    (counter : UInt64)
    (last : Bool)
    (aad : Bytes) :
    Trace StreamEvent PqForgeError Unit :=
  match aws.tryAssumeUniqueForKey (streamNonce counter last) with
  | none =>
      Trace.fail (.internal "nonce")
  | some nonce => do
      let plaintext ← aeadCall key aws.openInPlace nonce aad frame
        .authFailed
      writeAll writer counter plaintext

/-- What the checks and the opened files of a call amount to. -/
structure StreamJob where
  key : LessSafeKey
  ad : Bytes
  reader : BufReader
  writer : BufWriter

/-- A writer that never fails. -/
structure BufWriter.Accepts (writer : BufWriter) : Prop where
  writeAll : ∀ count, writer.writeAll count = .ok ()
  flush : writer.flush = .ok ()

/-- The arguments of an exported stream function. -/
structure StreamArgs where
  algId : Int
  key : CSlice
  aad : CSlice
  chunkSize : UInt64
  inPath : Option Bytes
  outPath : Option Bytes
  deriving Repr, DecidableEq

/-- The checks that both exported functions make, in their order. -/
def prepare
    (aws : AwsLc)
    (files : FileSystem)
    (args : StreamArgs) :
    Except Exit StreamJob :=
  match aeadAlg args.algId with
  | none =>
      .error (.returned .invalidKey)
  | some algorithm =>
      match args.key, args.inPath, args.outPath with
      | .valid key, some inPath, some outPath =>
          if args.aad.isNull && args.aad.len != 0 then
            .error (.returned .nullArgument)
          else if args.chunkSize = 0 then
            .error (.returned .unaligned)
          else do
            let ad := readAad args.aad
            let inPath ← (cstrPath inPath).mapError Exit.failed
            let outPath ← (cstrPath outPath).mapError Exit.failed
            match aws.lessSafeKey algorithm key with
            | none =>
                .error (.returned .invalidKey)
            | some key => do
                let file ← (files.openFile inPath).mapError
                  fun reason => Exit.failed (.io reason)
                let writer ← (files.createFile outPath).mapError
                  fun reason => Exit.failed (.io reason)
                .ok {
                  key, ad, writer
                  reader := BufReader.withCapacity file }
      | _, _, _ =>
          .error (.returned .nullArgument)

/-- What an exported function did, and the status code it returned. -/
structure NativeRun where
  log : List StreamEvent
  code : Int
  deriving Repr, DecidableEq

/-- `finish(guard(|| body))`. -/
def exported
    (body : Trace StreamEvent Exit PqForgeStatus) :
    NativeRun where
  log := body.log
  code := finish (guard body.outcome)

/-- `writer.flush().map_err(io_err)?; Ok(PqForgeStatus::Ok)`. -/
def flush (writer : BufWriter) : Trace StreamEvent Exit PqForgeStatus := do
  Trace.ofExcept
    (writer.flush.mapError fun reason => Exit.failed (.io reason))
  return PqForgeStatus.ok

/-! ## Sealing -/

/-- The loop of `pqforge_stream_seal_file`. -/
def sealLoop
    (aws : AwsLc)
    (job : StreamJob)
    (size : Nat)
    (reader : BufReader)
    (held : Option Bytes)
    (counter : UInt64) :
    Trace StreamEvent Exit Unit :=
  match held with
  | none =>
      Trace.fail (.panicked "held is Some in this branch")
  | some chunk =>
      (readBlock reader size).andThen fun next returned =>
        let last := next.1.isNone
        (sealFrame aws job.writer job.key chunk counter last
            job.ad).mapError Exit.failed >>= fun _ =>
          (nextCounter counter).mapError Exit.failed >>= fun counter =>
            if more : last then
              Trace.done ()
            else
              have : next.2.deliveries.length <
                  reader.deliveries.length :=
                readBlock_next_lt returned more
              sealLoop aws job size next.2 next.1 counter
termination_by reader.deliveries.length

/-- The body of `pqforge_stream_seal_file` once the files are open. -/
def sealBody
    (aws : AwsLc)
    (job : StreamJob)
    (size : Nat) :
    Trace StreamEvent Exit PqForgeStatus := do
  let (held, reader) ← readBlock job.reader size
  if held.isNone then
    (sealFrame aws job.writer job.key [] 0 true
      job.ad).mapError Exit.failed
  else
    sealLoop aws job size reader held 0
  flush job.writer

/-- `pqforge_stream_seal_file`. -/
def pqforgeStreamSealFile
    (aws : AwsLc)
    (files : FileSystem)
    (args : StreamArgs) :
    NativeRun :=
  exported do
    let job ← Trace.ofExcept (prepare aws files args)
    sealBody aws job args.chunkSize.toNat

/-! ## Opening -/

/-- How the result of `open_frame` leaves the loop early. -/
def openExit : PqForgeError → Exit
  | .authFailed => .returned .authFailed
  | error => .failed error

/-- The loop of `pqforge_stream_open_file`. -/
def openLoop
    (aws : AwsLc)
    (job : StreamJob)
    (cipherChunk : Nat)
    (reader : BufReader)
    (held : Option Bytes)
    (counter : UInt64) :
    Trace StreamEvent Exit Unit :=
  match held with
  | none =>
      Trace.fail (.panicked "held is Some in this loop")
  | some frame =>
      if frame.length < tagLen then
        Trace.fail (.returned .invalidCiphertext)
      else
        (readBlock reader cipherChunk).andThen fun next returned =>
          let last := frame.length < cipherChunk || next.1.isNone
          (openFrame aws job.writer job.key frame counter last
              job.ad).mapError openExit >>= fun _ =>
            (nextCounter counter).mapError Exit.failed >>= fun counter =>
              if more : last then
                if next.1.isSome then
                  Trace.fail (.returned .invalidCiphertext)
                else
                  Trace.done ()
              else
                have : next.2.deliveries.length <
                    reader.deliveries.length :=
                  readBlock_next_lt returned fun isNone =>
                    more (by simp [last, isNone])
                openLoop aws job cipherChunk next.2 next.1 counter
termination_by reader.deliveries.length

/-- The body of `pqforge_stream_open_file` once the files are open. -/
def openBody
    (aws : AwsLc)
    (job : StreamJob)
    (cipherChunk : Nat) :
    Trace StreamEvent Exit PqForgeStatus := do
  let (held, reader) ← readBlock job.reader cipherChunk
  if held.isNone then
    Trace.fail (.returned .invalidCiphertext)
  else
    openLoop aws job cipherChunk reader held 0
  flush job.writer

/-- `pqforge_stream_open_file`. -/
def pqforgeStreamOpenFile
    (aws : AwsLc)
    (files : FileSystem)
    (args : StreamArgs) :
    NativeRun :=
  exported do
    let job ← Trace.ofExcept (prepare aws files args)
    let cipherChunk := args.chunkSize + UInt64.ofNat tagLen
    openBody aws job cipherChunk.toNat

end PqForgeFfi.StreamFile
