import PqForgeFfi.DartPaths
import PqForgeFfi.DartStream
import PqForgeFfi.PlainFiles.Disk

namespace PqForgeFfi.PqForgeFileCipher

open PathStrings PlainFiles Segmentation

/-!
# The file cipher

`PqForgeFileCipher.seal` and `PqForgeFileCipher.open` run a native function
into a temporary path and rename that path to the output.  A call is the trace
of its effects on the disk, so every moment of it is a front of its log.

A disk holds files, not paths, and several paths can lead to one file.  Which
file a path leads to, what the native function writes, and how the operating
system answers the rename and the clean-up, are parameters.
-/

/--
The file that each path leads to.  Paths that are spelled differently can lead
to one file, but with the suffix of the temporary file a path leads elsewhere.
-/
structure FileNames (Place : Type) where
  place : String → Place
  suffixed :
    ∀ path : String,
      (∀ char ∈ path.toList, notNul char = true) →
      place (path ++ ".pqforge-tmp") ≠ place path

/-- A path with a suffix is another path. -/
theorem append_suffix_ne (path : String) :
    path ++ ".pqforge-tmp" ≠ path := by
  intro same
  have lengths := congrArg String.length same
  rw [String.length_append] at lengths
  have suffix : ".pqforge-tmp".length = 12 := by
    decide
  omega

/-- Every path leads to a file of its own. -/
def FileNames.spelled : FileNames String where
  place := id
  suffixed := fun path _ => append_suffix_ne path

/-- The arguments of a call. -/
structure FileArgs where
  inputPath : DartString
  outputPath : DartString
  key : Bytes
  algorithm : PqAeadAlgorithm
  aad : Option Bytes
  chunkSize : Int64
  deriving DecidableEq

/--
A native call: the contents that it gave to its output path, one after the
other, and its status.  A call that returned `Ok` has written an output.
-/
structure NativeOutcome (Content : Type) where
  contents : List Content
  code : Int
  finished : code = PqForgeErrorCode.ok.value → contents ≠ []

/-- A native function of the file pipeline. -/
abbrev FileFn (Content : Type) : Type :=
  StreamFile.StreamArgs → NativeOutcome Content

/-- Why the rename fails, if it does, and whether a clean-up succeeds. -/
structure FileAnswers where
  renameError : Option String
  deletes : Bool
  deriving Repr, DecidableEq

namespace FileNames

variable {Place : Type}

/-- The file of `File(s)`. -/
def file
    (names : FileNames Place)
    (s : DartString) :
    Place :=
  names.place (filePath s)

/-- The file at the input path. -/
def input
    (names : FileNames Place)
    (args : FileArgs) :
    Place :=
  names.file args.inputPath

/-- The file at the output path. -/
def output
    (names : FileNames Place)
    (args : FileArgs) :
    Place :=
  names.file args.outputPath

/-- The file at the temporary path. -/
def tmp
    (names : FileNames Place)
    (args : FileArgs) :
    Place :=
  names.file (tmpPath args.outputPath)

/-- The temporary file is not the output file. -/
theorem tmp_ne
    (names : FileNames Place)
    {args : FileArgs}
    (noNul : NoNul args.outputPath) :
    names.tmp args ≠ names.output args := by
  rw [tmp, output, file, file, filePath_tmpPath]
  apply names.suffixed
  intro char member
  rw [filePath, String.toList_ofList] at member
  exact notNul_of_mem_decode noNul member

end FileNames

/-- The effects of a native call, at the path that it was given. -/
def nativeEffects
    {Place Content : Type}
    (names : FileNames Place)
    (outPath : Bytes)
    (outcome : NativeOutcome Content) :
    List (Effect Place Content) :=
  match StreamFile.cstrPath outPath with
  | .error _ => []
  | .ok path => outcome.contents.map (.write (names.place path))

/-- `_deleteQuiet`. -/
def deleteQuiet
    {Place Content : Type}
    (answers : FileAnswers)
    (file : Place) :
    Trace (Effect Place Content) DartThrow Unit :=
  if answers.deletes then
    Trace.record (.remove file)
  else
    Trace.done ()

/-- The exception that `_throwStatus` throws. -/
def throwStatus
    (rc : Int)
    (op : String) :
    PqForgeFfiException :=
  let code := PqForgeErrorCode.fromValue rc
  let unexpected := s!"{op}: {code.name} (status {rc})"
  match code with
  | .invalidKey => .invalidKey s!"{op}: invalid key"
  | .invalidCiphertext =>
      .invalidCiphertext s!"{op}: malformed ciphertext"
  | .authFailed =>
      .verificationFailed s!"{op}: authentication failed"
  | .unsupported => .unsupportedBackend s!"{op}: unsupported"
  | .ok => .internalCrypto unexpected
  | .unaligned => .internalCrypto unexpected
  | .io => .internalCrypto unexpected
  | .device => .internalCrypto unexpected
  | .anchor => .internalCrypto unexpected
  | .internal => .internalCrypto unexpected
  | .nullArgument => .internalCrypto unexpected
  | .bufferTooSmall => .internalCrypto unexpected

/-- The arguments that `_run` passes to the native function. -/
def nativeArgs (args : FileArgs) : StreamFile.StreamArgs where
  algId := args.algorithm.id
  key := .valid args.key
  aad := .valid (args.aad.getD [])
  chunkSize := args.chunkSize.toUInt64
  inPath := some (cStrFromPtr (cString args.inputPath))
  outPath := some (cStrFromPtr (cString (tmpPath args.outputPath)))

/-- The native call of `_run`, and the status that it returned. -/
def callNative
    {Place Content : Type}
    (names : FileNames Place)
    (outcome : NativeOutcome Content)
    (args : FileArgs) :
    Trace (Effect Place Content) DartThrow Int :=
  ⟨nativeEffects names
      (cStrFromPtr (cString (tmpPath args.outputPath))) outcome,
    .ok outcome.code⟩

/-- `File(tmpPath).rename(outputPath)`, and the clean-up if it throws. -/
def publish
    {Place Content : Type}
    (names : FileNames Place)
    (answers : FileAnswers)
    (args : FileArgs) :
    Trace (Effect Place Content) DartThrow Unit :=
  match answers.renameError with
  | none =>
      Trace.record (.rename (names.tmp args) (names.output args))
  | some text => do
      deleteQuiet answers (names.tmp args)
      Trace.fail (.other text)

/-- `_run`. -/
def run
    {Place Content : Type}
    (names : FileNames Place)
    (fn : FileFn Content)
    (answers : FileAnswers)
    (args : FileArgs)
    (op : String) :
    Trace (Effect Place Content) DartThrow Unit :=
  if args.chunkSize.toInt ≤ 0 then
    Trace.fail (PqForgeStream.chunkSizeError args.chunkSize)
  else do
    let rc ← callNative names (fn (nativeArgs args)) args
    if rc ≠ PqForgeErrorCode.ok.value then
      deleteQuiet answers (names.tmp args)
      Trace.fail (.ffi (throwStatus rc op))
    else
      publish names answers args

/-- `seal`. -/
def «seal»
    {Place Content : Type}
    (names : FileNames Place)
    (sealFile : FileFn Content)
    (answers : FileAnswers)
    (args : FileArgs) :
    Trace (Effect Place Content) DartThrow Unit :=
  run names sealFile answers args "stream seal file"

/-- `open`. -/
def «open»
    {Place Content : Type}
    (names : FileNames Place)
    (openFile : FileFn Content)
    (answers : FileAnswers)
    (args : FileArgs) :
    Trace (Effect Place Content) DartThrow Unit :=
  run names openFile answers args "stream open file"

end PqForgeFfi.PqForgeFileCipher
