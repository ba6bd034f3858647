import PqForgeFfi.NativeCalls

namespace PqForgeFfi.NativeMemory

open Allocation NativeAead NativeClassical NativeKem NativeSign

/-!
# Runs of native calls

The methods of `NativeBackend`, and `_run` of the file cipher, as marshallings,
and what memory holds behind any run of them, with any allocations failing.
-/

/-- A native function with one output. -/
def oneOutput (call : Int × CallerOutput) : Int × List CallerOutput :=
  (call.1, [call.2])

/-- A native function with two outputs. -/
def twoOutputs
    (call : Int × CallerOutput × CallerOutput) :
    Int × List CallerOutput :=
  (call.1, [call.2.1, call.2.2])

/-- A native function that returns a status only. -/
def noOutputs (rc : Int) : Int × List CallerOutput :=
  (rc, [])

/-- `_keygen`. -/
def keygen
    (fn :
      Int →
        CallerOutput →
        CallerOutput →
        Int × CallerOutput × CallerOutput)
    (algId : Int)
    (pubBytes secBytes : Nat)
    (op : String) :
    Marshalling where
  arguments := []
  outputs := [.exactly pubBytes, .exactly secBytes]
  fn := fun _ out => twoOutputs (fn algId (out 0) (out 1))
  conclusion := .copies op

/-- `_twoInOneOut`. -/
def twoInOneOut
    (fn :
      Int →
        CSlice →
        CSlice →
        CallerOutput →
        Int × CallerOutput)
    (algId : Int)
    (inA inB : Bytes)
    (outBytes : Nat)
    (op : String) :
    Marshalling where
  arguments := [.bytes inA inA.length, .bytes inB inB.length]
  outputs := [.exactly outBytes]
  fn := fun slice out =>
    oneOutput (fn algId (slice 0) (slice 1) (out 0))
  conclusion := .copies op

/-- The seed of `_classicalKeygen`: `nullptr` of length 0 for no seed. -/
def seedArgument : Option Bytes → Argument
  | none => .nullptr 0
  | some seed => .bytes seed seed.length

/-- A seed is measured, and so is `nullptr`. -/
theorem seedArgument_measured (seed : Option Bytes) :
    (seedArgument seed).Measured := by
  cases seed with
  | none =>
      exact trivial
  | some seed =>
      exact rfl

/-- `_classicalKeygen`. -/
def classicalKeygen
    (fn :
      CSlice →
        CallerOutput →
        CallerOutput →
        Int × CallerOutput × CallerOutput)
    (seed : Option Bytes)
    (pubBytes secBytes : Nat)
    (op : String) :
    Marshalling where
  arguments := [seedArgument seed]
  outputs := [.exactly pubBytes, .exactly secBytes]
  fn := fun slice out => twoOutputs (fn (slice 0) (out 0) (out 1))
  conclusion := .copies op

/-- `_classicalTwoInOneOut`. -/
def classicalTwoInOneOut
    (fn :
      CSlice →
        CSlice →
        CallerOutput →
        Int × CallerOutput)
    (inA inB : Bytes)
    (outBytes : Nat)
    (op : String) :
    Marshalling where
  arguments := [.bytes inA inA.length, .bytes inB inB.length]
  outputs := [.exactly outBytes]
  fn := fun slice out => oneOutput (fn (slice 0) (slice 1) (out 0))
  conclusion := .copies op

/-- At least what is wanted is asked for. -/
theorem le_aeadAllocated (outBytes : Nat) :
    outBytes ≤ if outBytes = 0 then 1 else outBytes := by
  by_cases empty : outBytes = 0
  · rw [if_pos empty, empty]
    exact Nat.zero_le 1
  · rw [if_neg empty]

/-- The buffer of `_aead`: one byte where none is wanted. -/
def aeadBuffer (outBytes : Nat) : OutputBuffer where
  allocated := if outBytes = 0 then 1 else outBytes
  cap := outBytes
  fits := le_aeadAllocated outBytes

/-- `_aead`. -/
def aead
    (fn : AeadArgs → CallerOutput → Int × CallerOutput)
    (algId : Int)
    (key nonce aad input : Bytes)
    (outBytes : Nat)
    (op : String) :
    Marshalling where
  arguments := [
    .bytes key key.length,
    .bytes nonce nonce.length,
    .bytes aad aad.length,
    .bytes input input.length]
  outputs := [aeadBuffer outBytes]
  fn := fun slice out =>
    let args : AeadArgs := {
      algId
      key := slice 0
      nonce := slice 1
      aad := slice 2
      input := slice 3 }
    oneOutput (fn args (out 0))
  conclusion := .copies op

/-- `verify` and `ed25519Verify`: a verdict on a key, a message and a signature. -/
def verification
    (fn :
      CSlice →
        CSlice →
        CSlice →
        Int)
    (publicKey message signature : Bytes) :
    Marshalling where
  arguments := [
    .bytes publicKey publicKey.length,
    .bytes message message.length,
    .bytes signature signature.length]
  outputs := []
  fn := fun slice _ => noOutputs (fn (slice 0) (slice 1) (slice 2))
  conclusion := .verdict

/-! ## The native calls -/

/-- The libraries under the native backend, and the sizes it declares. -/
structure NativeLibraries where
  kem : AwsLcKem
  pqdsa : AwsLcPqdsa
  aead : AwsLc
  classical : AwsLcClassical
  ed25519 : AwsLcEd25519
  declared : DeclaredSizes

/-- A call of a method of `NativeBackend`, or of `_run` of the file cipher. -/
inductive NativeCall where
  | kemGenerate
      (algorithm : PqKemAlgorithm)
      (coins : Bytes)
  | kemEncapsulate
      (algorithm : PqKemAlgorithm)
      (publicKey coins : Bytes)
  | kemDecapsulate
      (algorithm : PqKemAlgorithm)
      (secretKey ciphertext : Bytes)
  | signGenerate
      (algorithm : PqSignatureAlgorithm)
      (coins : Bytes)
  | signGenerateFromSeed
      (algorithm : PqSignatureAlgorithm)
      (seed : Bytes)
  | sign
      (algorithm : PqSignatureAlgorithm)
      (secretKey message coins : Bytes)
  | verify
      (algorithm : PqSignatureAlgorithm)
      (publicKey message signature : Bytes)
  | aeadSeal
      (algorithm : PqAeadAlgorithm)
      (key nonce plaintext aad : Bytes)
  | aeadOpen
      (algorithm : PqAeadAlgorithm)
      (key nonce ciphertext aad : Bytes)
  | x25519Generate
      (rng : Rng)
      (seed : Option Bytes)
  | x25519SharedSecret (secretKey remotePublicKey : Bytes)
  | ed25519Generate
      (rng : Rng)
      (seed : Option Bytes)
  | ed25519PublicFromSeed (seed : Bytes)
  | ed25519Sign (seed message : Bytes)
  | ed25519Verify (publicKey message signature : Bytes)
  | runFile
      (fn : StreamFile.StreamArgs → Int)
      (args : PqForgeFileCipher.FileArgs)

namespace NativeCall

variable (libraries : NativeLibraries)

/-- The marshalling of a call that gets as far as native memory. -/
def marshalling : NativeCall → Marshalling
  | .kemGenerate algorithm coins =>
      keygen (pqforgeMlkemKeygen libraries.kem coins) algorithm.index
        (libraries.declared.kemPublicKeyBytes algorithm)
        (libraries.declared.kemSecretKeyBytes algorithm)
        "ML-KEM keygen"
  | .kemEncapsulate algorithm publicKey coins => {
      arguments := [.bytes publicKey publicKey.length]
      outputs := [
        .exactly (libraries.declared.ciphertextBytes algorithm),
        .exactly (libraries.declared.sharedSecretBytes algorithm)]
      fn := fun slice out =>
        twoOutputs
          (pqforgeMlkemEncapsulate libraries.kem coins algorithm.index
            (slice 0) (out 0) (out 1))
      conclusion := .copies "ML-KEM encapsulate" }
  | .kemDecapsulate algorithm secretKey ciphertext =>
      twoInOneOut (pqforgeMlkemDecapsulate libraries.kem)
        algorithm.index secretKey ciphertext
        (libraries.declared.sharedSecretBytes algorithm)
        "ML-KEM decapsulate"
  | .signGenerate algorithm coins =>
      keygen (pqforgeMldsaKeygen libraries.pqdsa coins) algorithm.index
        (libraries.declared.signPublicKeyBytes algorithm)
        (libraries.declared.signSecretKeyBytes algorithm)
        "ML-DSA keygen"
  | .signGenerateFromSeed algorithm seed => {
      arguments := [.bytes seed seed.length]
      outputs := [
        .exactly (libraries.declared.signPublicKeyBytes algorithm),
        .exactly (libraries.declared.signSecretKeyBytes algorithm)]
      fn := fun slice out =>
        twoOutputs
          (pqforgeMldsaKeygenFromSeed libraries.pqdsa algorithm.index
            (slice 0) (out 0) (out 1))
      conclusion := .copies "ML-DSA keygen from seed" }
  | .sign algorithm secretKey message coins =>
      twoInOneOut (pqforgeMldsaSign libraries.pqdsa coins)
        algorithm.index secretKey message
        (libraries.declared.signatureBytes algorithm) "ML-DSA sign"
  | .verify algorithm publicKey message signature =>
      verification
        (pqforgeMldsaVerify libraries.pqdsa algorithm.index)
        publicKey message signature
  | .aeadSeal algorithm key nonce plaintext aad =>
      aead (pqforgeAeadSeal libraries.aead) algorithm.id key nonce aad
        plaintext (plaintext.length + algorithm.tagBytes) "AEAD seal"
  | .aeadOpen algorithm key nonce ciphertext aad =>
      let outBytes :=
        if ciphertext.length ≥ algorithm.tagBytes then
          ciphertext.length - algorithm.tagBytes
        else
          0
      aead (pqforgeAeadOpen libraries.aead) algorithm.id key nonce aad
        ciphertext outBytes "AEAD open"
  | .x25519Generate rng seed =>
      classicalKeygen (pqforgeX25519Keygen libraries.classical rng) seed
        32 32 "X25519 keygen"
  | .x25519SharedSecret secretKey remotePublicKey =>
      classicalTwoInOneOut (pqforgeX25519Ecdh libraries.classical)
        secretKey remotePublicKey 32 "X25519 ECDH"
  | .ed25519Generate rng seed =>
      classicalKeygen (pqforgeEd25519Keygen libraries.classical rng)
        seed 32 32 "Ed25519 keygen"
  | .ed25519PublicFromSeed seed => {
      arguments := [.bytes seed seed.length]
      outputs := [.exactly 32]
      fn := fun slice out =>
        oneOutput
          (pqforgeEd25519PublicFromSeed libraries.classical (slice 0)
            (out 0))
      conclusion := .copies "Ed25519 public from seed" }
  | .ed25519Sign seed message =>
      classicalTwoInOneOut (pqforgeEd25519Sign libraries.classical) seed
        message 64 "Ed25519 sign"
  | .ed25519Verify publicKey message signature =>
      verification (pqforgeEd25519Verify libraries.ed25519) publicKey
        message signature
  | .runFile fn args => {
      arguments := [
        .bytes args.key args.key.length,
        .bytes (args.aad.getD []) (args.aad.getD []).length,
        .cString args.inputPath,
        .cString (PathStrings.tmpPath args.outputPath)]
      outputs := []
      fn := fun slice _ =>
        noOutputs
          (fn {
            algId := args.algorithm.id
            key := slice 0
            aad := slice 1
            chunkSize := args.chunkSize.toUInt64
            inPath := some (slice 2).bytes
            outPath := some (slice 3).bytes })
      conclusion := .status }

/-- What a call throws before it touches native memory. -/
def refusal : NativeCall → Option DartThrow
  | .runFile _ args =>
      if args.chunkSize.toInt ≤ 0 then
        some (PqForgeStream.chunkSizeError args.chunkSize)
      else
        none
  | _ => none

/-- A call. -/
def program
    (call : NativeCall)
    (allocator : Allocator Block) :
    Memory NativeAnswer :=
  match call.refusal with
  | some thrown => Program.fail thrown
  | none => (call.marshalling libraries).program allocator

/-- The two keys of a key pair. -/
def keyPieces (keyPair : PqKeyPair) : NativeAnswer :=
  .outputs [keyPair.publicKey, keyPair.secretKey]

/-- How the operation of `NativeBackend` ends. -/
def ending : NativeCall → Except DartThrow NativeAnswer
  | .kemGenerate algorithm coins =>
      (NativeBackend.kemGenerate libraries.kem libraries.declared coins
        algorithm).ending.map keyPieces
  | .kemEncapsulate algorithm publicKey coins =>
      (NativeBackend.kemEncapsulate libraries.kem libraries.declared coins
        algorithm publicKey).ending.map fun encapsulation =>
          .outputs
            [encapsulation.ciphertext, encapsulation.sharedSecret]
  | .kemDecapsulate algorithm secretKey ciphertext =>
      (NativeBackend.kemDecapsulate libraries.kem libraries.declared
        algorithm secretKey ciphertext).ending.map fun sharedSecret =>
          .outputs [sharedSecret]
  | .signGenerate algorithm coins =>
      (NativeBackend.signGenerate libraries.pqdsa libraries.declared coins
        algorithm).ending.map keyPieces
  | .signGenerateFromSeed algorithm seed =>
      (NativeBackend.signGenerateFromSeed libraries.pqdsa
        libraries.declared algorithm seed).ending.map keyPieces
  | .sign algorithm secretKey message coins =>
      (NativeBackend.sign libraries.pqdsa libraries.declared coins
        algorithm secretKey message).ending.map fun signature =>
          .outputs [signature]
  | .verify algorithm publicKey message signature =>
      (NativeBackend.verify libraries.pqdsa algorithm publicKey message
        signature).map .verdict
  | .aeadSeal algorithm key nonce plaintext aad =>
      (NativeBackend.aeadSeal libraries.aead algorithm key nonce plaintext
        aad).map fun output => .outputs [output]
  | .aeadOpen algorithm key nonce ciphertext aad =>
      (NativeBackend.aeadOpen libraries.aead algorithm key nonce
        ciphertext aad).map fun output => .outputs [output]
  | .x25519Generate rng seed =>
      (NativeBackend.x25519Generate libraries.classical rng
        seed).ending.map fun keys => .outputs [keys.1, keys.2]
  | .x25519SharedSecret secretKey remotePublicKey =>
      (NativeBackend.x25519SharedSecret libraries.classical secretKey
        remotePublicKey).ending.map fun shared => .outputs [shared]
  | .ed25519Generate rng seed =>
      (NativeBackend.ed25519Generate libraries.classical rng
        seed).ending.map fun keys => .outputs [keys.1, keys.2]
  | .ed25519PublicFromSeed seed =>
      (NativeBackend.ed25519PublicFromSeed libraries.classical
        seed).ending.map fun publicKey => .outputs [publicKey]
  | .ed25519Sign seed message =>
      (NativeBackend.ed25519Sign libraries.classical seed
        message).ending.map fun signature => .outputs [signature]
  | .ed25519Verify publicKey message signature =>
      (NativeBackend.ed25519Verify libraries.ed25519 publicKey message
        signature).map .verdict
  | .runFile fn args =>
      if args.chunkSize.toInt ≤ 0 then
        .error (PqForgeStream.chunkSizeError args.chunkSize)
      else
        .ok (.status (fn (PqForgeFileCipher.nativeArgs args)))

/-- The blocks that a call asks for, in order. -/
def requests (call : NativeCall) : List Block :=
  match call.refusal with
  | some _ => []
  | none => (call.marshalling libraries).requested.filterMap id

/-- The blocks that a call gives back, in order and as it leaves them. -/
def releases (call : NativeCall) : List Block :=
  match call.refusal with
  | some _ => []
  | none => (call.marshalling libraries).written.filterMap id

end NativeCall

/-- A write that succeeds is within the buffer. -/
theorem writeOut_within
    {src : Bytes}
    {caller : CallerOutput}
    (written : (writeOut src caller).1 = .ok) :
    (writeOut src caller).2.len.getD 0 ≤
      ((writeOut src caller).2.out.getD []).length := by
  obtain ⟨out, cap, len, valid⟩ := caller
  cases len with
  | none =>
      cases written
  | some previous =>
      cases out with
      | none =>
          cases written
      | some bytes =>
          by_cases small : cap < src.length
          · simp only [writeOut, dif_pos small] at written
            cases written
          · have room := valid bytes rfl
            simp only [writeOut, dif_neg small, Option.getD_some]
            rw [ByteOrder.length_overwrite (by omega)]
            omega

/-- A function with one output keeps to it. -/
theorem keeps_exportedOutput
    (body : Except Exit Bytes)
    (buffer : OutputBuffer) :
    Keeps [buffer]
      (oneOutput (exportedOutput body buffer.caller)) where
  framed :=
    .cons (exportedOutput_framed body buffer.caller) .nil
  within := by
    intro returnedOk caller member
    obtain rfl := List.mem_singleton.mp member
    cases body with
    | error exit =>
        exact Nat.zero_le _
    | ok src =>
        rw [oneOutput, exportedOutput, finish_guard_ok] at returnedOk
        exact writeOut_within (PqForgeStatus.code_injective returnedOk)

/-- A function with two outputs keeps to them. -/
theorem keeps_exportedOutputs
    (body : Except Exit (Bytes × Bytes))
    (first second : OutputBuffer) :
    Keeps [first, second]
      (twoOutputs
        (exportedOutputs body first.caller second.caller)) where
  framed :=
    have framed :=
      exportedOutputs_framed body first.caller second.caller
    .cons framed.1 (.cons framed.2 .nil)
  within := by
    intro returnedOk caller member
    cases body with
    | error exit =>
        simp only [twoOutputs, exportedOutputs, List.mem_cons,
          List.not_mem_nil, or_false] at member
        rcases member with rfl | rfl <;> exact Nat.zero_le _
    | ok outputs =>
        have written :
            (writeOutputs outputs first.caller second.caller).1 = .ok :=
          PqForgeStatus.code_injective returnedOk
        simp only [twoOutputs, exportedOutputs, List.mem_cons,
          List.not_mem_nil, or_false] at member
        by_cases firstOk : (writeOut outputs.1 first.caller).1 = .ok
        · simp only [writeOutputs, firstOk, ne_eq, not_true_eq_false,
            ↓reduceIte] at written member
          rcases member with rfl | rfl
          · exact writeOut_within firstOk
          · exact writeOut_within written
        · simp only [writeOutputs, ne_eq, firstOk, not_false_eq_true,
            ↓reduceIte] at written

/-- A function that returns a status only has no outputs to keep to. -/
theorem keeps_noOutputs (rc : Int) : Keeps [] (noOutputs rc) where
  framed := .nil
  within := fun _ _ member => by cases member

namespace NativeCall

variable (libraries : NativeLibraries)

/-- Every call passes the lengths of its inputs beside their copies. -/
theorem measured (call : NativeCall) :
    ∀ argument ∈ (call.marshalling libraries).arguments,
      argument.Measured := by
  intro argument member
  cases call with
  | x25519Generate rng seed | ed25519Generate rng seed =>
      obtain rfl := List.mem_singleton.mp member
      exact seedArgument_measured seed
  | _ =>
      revert argument
      simp [marshalling, keygen, twoInOneOut, classicalTwoInOneOut, aead,
        verification, Argument.Measured]

/-- Every native function keeps to its outputs. -/
theorem keeps (call : NativeCall) :
    Keeps (call.marshalling libraries).outputs
      (call.marshalling libraries).answer := by
  cases call with
  | kemGenerate => exact keeps_exportedOutputs _ _ _
  | kemEncapsulate => exact keeps_exportedOutputs _ _ _
  | kemDecapsulate => exact keeps_exportedOutput _ _
  | signGenerate => exact keeps_exportedOutputs _ _ _
  | signGenerateFromSeed => exact keeps_exportedOutputs _ _ _
  | sign => exact keeps_exportedOutput _ _
  | verify => exact keeps_noOutputs _
  | aeadSeal => exact keeps_exportedOutput _ _
  | aeadOpen => exact keeps_exportedOutput _ _
  | x25519Generate => exact keeps_exportedOutputs _ _ _
  | x25519SharedSecret => exact keeps_exportedOutput _ _
  | ed25519Generate => exact keeps_exportedOutputs _ _ _
  | ed25519PublicFromSeed => exact keeps_exportedOutput _ _
  | ed25519Sign => exact keeps_exportedOutput _ _
  | ed25519Verify => exact keeps_noOutputs _
  | runFile => exact keeps_noOutputs _

end NativeCall

/-- Copying one output ends as the operation does. -/
theorem ending_oneOutput
    (op : String)
    (call : Int × CallerOutput) :
    (Conclusion.copies op).ending call.1 [call.2] =
      (NativeBackend.returned call op).ending.map fun output =>
        .outputs [output] := by
  rw [Conclusion.ending, NativeBackend.returned]
  split <;> rfl

/-- Copying two outputs ends as the operation does. -/
theorem ending_twoOutputs
    {Output : Type}
    (op : String)
    (together : Bytes → Bytes → Output)
    (pieces : Output → NativeAnswer)
    (apart :
      ∀ first second,
        pieces (together first second) = .outputs [first, second])
    (call : Int × CallerOutput × CallerOutput) :
    (Conclusion.copies op).ending call.1 [call.2.1, call.2.2] =
      (NativeBackend.returnedBoth together call op).ending.map
        pieces := by
  rw [Conclusion.ending, NativeBackend.returnedBoth]
  split
  · rfl
  · exact congrArg Except.ok (apart _ _).symm

namespace NativeCall

variable (libraries : NativeLibraries)

/-- The seed argument of a key generation is the same in memory. -/
theorem seedArgument_value (seed : Option Bytes) :
    (seedArgument seed).value = NativeBackend.seedArgument seed := by
  cases seed <;> rfl

/-- A call that is not refused ends as its marshalling does. -/
theorem marshalling_ending
    {call : NativeCall}
    (passes : call.refusal = none) :
    (call.marshalling libraries).ending = call.ending libraries := by
  cases call with
  | kemGenerate =>
      exact ending_twoOutputs _ PqKeyPair.mk keyPieces
        (fun _ _ => rfl) _
  | kemEncapsulate =>
      exact ending_twoOutputs _ PqKemEncapsulation.mk
        (fun encapsulation =>
          .outputs
            [encapsulation.ciphertext, encapsulation.sharedSecret])
        (fun _ _ => rfl) _
  | kemDecapsulate => exact ending_oneOutput _ _
  | signGenerate =>
      exact ending_twoOutputs _ PqKeyPair.mk keyPieces
        (fun _ _ => rfl) _
  | signGenerateFromSeed =>
      exact ending_twoOutputs _ PqKeyPair.mk keyPieces
        (fun _ _ => rfl) _
  | sign => exact ending_oneOutput _ _
  | verify => rfl
  | aeadSeal => exact ending_oneOutput _ _
  | aeadOpen => exact ending_oneOutput _ _
  | x25519Generate rng seed =>
      rw [ending, NativeBackend.x25519Generate,
        NativeBackend.classicalKeygen, ← seedArgument_value]
      exact ending_twoOutputs _ Prod.mk
        (fun keys => .outputs [keys.1, keys.2]) (fun _ _ => rfl) _
  | x25519SharedSecret => exact ending_oneOutput _ _
  | ed25519Generate rng seed =>
      rw [ending, NativeBackend.ed25519Generate,
        NativeBackend.classicalKeygen, ← seedArgument_value]
      exact ending_twoOutputs _ Prod.mk
        (fun keys => .outputs [keys.1, keys.2]) (fun _ _ => rfl) _
  | ed25519PublicFromSeed => exact ending_oneOutput _ _
  | ed25519Sign => exact ending_oneOutput _ _
  | ed25519Verify => rfl
  | runFile fn args =>
      by_cases nonpositive : args.chunkSize.toInt ≤ 0
      · rw [refusal, if_pos nonpositive] at passes
        cases passes
      · rw [ending, if_neg nonpositive]
        rfl

end NativeCall

/-! ## Runs -/

/-- How a call ended. -/
abbrev Ending : Type :=
  Except DartThrow NativeAnswer

/-- One call after the other, each of them caught; `none` is undefined. -/
def runCalls
    (libraries : NativeLibraries)
    (allocator : Allocator Block) :
    List NativeCall →
      Heap Block →
      Option (List Ending × Heap Block)
  | [], heap =>
      some ([], heap)
  | call :: calls, heap => do
      let (ending, behind) ← call.program libraries allocator heap
      let (endings, final) ← runCalls libraries allocator calls behind
      some (ending :: endings, final)

/--
What a call does to memory: it ends as its operation and gives back everything,
or an allocation fails and the blocks before it are left behind.
-/
inductive CallAccount
    (libraries : NativeLibraries)
    (call : NativeCall) :
    Ending → (left back : List Block) → Prop where
  | completed :
      CallAccount libraries call (call.ending libraries) []
        (call.releases libraries)
  | starved
      {error : DartThrow}
      {left : List Block}
      (outOfMemory : OutOfMemory error)
      (front : left <+: call.requests libraries)
      (short : left.length < (call.requests libraries).length) :
      CallAccount libraries call (.error error) left []

/-- What the calls of a run do to memory, one after the other. -/
inductive RunAccount (libraries : NativeLibraries) :
    List NativeCall →
      List Ending →
      (left back : List Block) →
      Prop where
  | nil :
      RunAccount libraries [] [] [] []
  | cons
      {call : NativeCall}
      {calls : List NativeCall}
      {ending : Ending}
      {endings : List Ending}
      {left back lefts backs : List Block}
      (here : CallAccount libraries call ending left back)
      (later : RunAccount libraries calls endings lefts backs) :
      RunAccount libraries (call :: calls) (ending :: endings)
        (left ++ lefts) (back ++ backs)

variable {libraries : NativeLibraries}

/-- A call does to memory what its account says. -/
theorem program_account
    (call : NativeCall)
    (allocator : Allocator Block)
    (heap : Heap Block) :
    ∃ ending final leaked back,
      call.program libraries allocator heap = some (ending, final) ∧
        Owns heap.live leaked final ∧
        final.freed = heap.freed ++ back ∧
        CallAccount libraries call ending (leaked.map Prod.snd) back := by
  cases refused : call.refusal with
  | some thrown =>
      have ends : call.ending libraries = .error thrown := by
        cases call with
        | runFile fn args =>
            rw [NativeCall.refusal] at refused
            split at refused
            · rename_i nonpositive
              cases refused
              rw [NativeCall.ending, if_pos nonpositive]
            · cases refused
        | _ =>
            cases refused
      have account :
          CallAccount libraries call (call.ending libraries) []
            (call.releases libraries) := .completed
      rw [ends, NativeCall.releases, refused] at account
      refine
        ⟨.error thrown, heap, [], [], ?_, Owns.start heap, ?_, account⟩
      · rw [NativeCall.program, refused]
        rfl
      · rw [List.append_nil]
  | none =>
      have program :
          call.program libraries allocator =
            (call.marshalling libraries).program allocator := by
        rw [NativeCall.program, refused]
      rcases Marshalling.program_cases (call.measured libraries)
          (call.keeps libraries) allocator heap with
          ⟨final, ran, live, freed⟩ |
            ⟨error, leaked, final, ran, isFailure, leaks, freed⟩
      · rw [NativeCall.marshalling_ending libraries refused] at ran
        have owns : Owns heap.live [] final := by
          rw [← live]
          exact Owns.start final
        refine
          ⟨call.ending libraries, final, [], _,
            (congrFun program heap).trans ran, owns, freed, ?_⟩
        have account :
            CallAccount libraries call (call.ending libraries) []
              (call.releases libraries) := .completed
        rw [NativeCall.releases, refused] at account
        exact account
      · have asked :
            call.requests libraries =
              (call.marshalling libraries).requested.filterMap id := by
          rw [NativeCall.requests, refused]
        refine
          ⟨.error error, final, leaked, [],
            (congrFun program heap).trans ran, leaks.owns, ?_, ?_⟩
        · rw [freed, List.append_nil]
        · refine .starved isFailure ?_ ?_
          · rw [asked]
            exact leaks.front
          · rw [asked, List.length_map]
            exact leaks.short

/-- A run does to memory what its account says. -/
theorem runCalls_account
    (allocator : Allocator Block)
    (calls : List NativeCall)
    (heap : Heap Block) :
    ∃ endings final leaked back,
      runCalls libraries allocator calls heap =
          some (endings, final) ∧
        Owns heap.live leaked final ∧
        final.freed = heap.freed ++ back ∧
        RunAccount libraries calls endings (leaked.map Prod.snd)
          back := by
  induction calls generalizing heap with
  | nil =>
      exact
        ⟨[], heap, [], [], rfl, Owns.start heap,
          (List.append_nil _).symm, .nil⟩
  | cons call calls inductionHypothesis =>
      obtain ⟨ending, behind, leaked, back, ran, owns, freed, account⟩ :=
        @program_account libraries call allocator heap
      obtain ⟨endings, final, leakedLater, backLater, ranLater,
          ownsLater, freedLater, accountLater⟩ :=
        inductionHypothesis behind
      refine
        ⟨ending :: endings, final, leaked ++ leakedLater,
          back ++ backLater, ?_, owns.trans ownsLater, ?_, ?_⟩
      · simp only [runCalls, ran, ranLater, Option.bind_eq_bind,
          Option.bind_some]
      · rw [freedLater, freed, List.append_assoc]
      · rw [List.map_append]
        exact .cons account accountLater

/-- Where no allocation failed, nothing is left behind. -/
theorem RunAccount.of_fed
    {calls : List NativeCall}
    {endings : List Ending}
    {left back : List Block}
    (account : RunAccount libraries calls endings left back)
    (fed :
      ∀ error, .error error ∈ endings → ¬OutOfMemory error) :
    endings = calls.map (NativeCall.ending libraries) ∧
      left = [] ∧
      back = calls.flatMap (NativeCall.releases libraries) := by
  induction account with
  | nil =>
      exact ⟨rfl, rfl, rfl⟩
  | cons here later inductionHypothesis =>
      obtain ⟨endings, left, back⟩ :=
        inductionHypothesis fun error member =>
          fed error (List.mem_cons_of_mem _ member)
      subst left back
      cases here with
      | completed =>
          exact ⟨by rw [endings, List.map_cons], rfl, rfl⟩
      | starved outOfMemory front short =>
          exact (fed _ List.mem_cons_self outOfMemory).elim

/--
No run of native calls ever touches memory that is not its own, whatever the
allocator does.  Behind it exactly the blocks that its failed allocations left
are live beside those from before; where none failed, every call has ended as
its operation does and each of its blocks was given back once, with the bytes
that it held.
-/
theorem native_calls_balance_memory
    (libraries : NativeLibraries)
    (allocator : Allocator Block)
    (calls : List NativeCall)
    (heap : Heap Block) :
    ∃ endings final leaked back,
      runCalls libraries allocator calls heap =
          some (endings, final) ∧
        Owns heap.live leaked final ∧
        final.freed = heap.freed ++ back ∧
        RunAccount libraries calls endings (leaked.map Prod.snd) back ∧
        ((∀ error, .error error ∈ endings → ¬OutOfMemory error) →
          endings = calls.map (NativeCall.ending libraries) ∧
            final.live = heap.live ∧
            final.freed =
              heap.freed ++
                calls.flatMap (NativeCall.releases libraries)) := by
  obtain ⟨endings, final, leaked, back, ran, owns, freed, account⟩ :=
    @runCalls_account libraries allocator calls heap
  refine
    ⟨endings, final, leaked, back, ran, owns, freed, account, ?_⟩
  intro fed
  obtain ⟨ended, nothing, all⟩ := account.of_fed fed
  obtain rfl : leaked = [] := List.map_eq_nil_iff.mp nothing
  exact ⟨ended, owns.live_eq, all ▸ freed⟩

end PqForgeFfi.NativeMemory
