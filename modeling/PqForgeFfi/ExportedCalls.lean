import PqForgeFfi.MemoryRuns
import PqForgeFfi.NativeLibrary
import PqForgeFfi.Transitions.Machine

namespace PqForgeFfi

open ByteOrder Transitions

/-!
# Calls from C

A caller in C may call the exported functions in any order, with any arguments
and with output buffers that it uses again.  What each buffer then holds is
decided by the calls that reported success: a failing call delivers nothing, and
no call writes where it was not told to.
-/

namespace PqForgeStatus

/-- `from_code`: unknown codes fold to `internal`. -/
def fromCode : Int → PqForgeStatus
  | 0 => .ok
  | 1 => .invalidKey
  | 2 => .invalidCiphertext
  | 3 => .authFailed
  | 4 => .unaligned
  | 5 => .io
  | 6 => .device
  | 7 => .anchor
  | 8 => .unsupported
  | 10 => .nullArgument
  | 11 => .bufferTooSmall
  | _ => .internal

/-- `name`. -/
def name : PqForgeStatus → String
  | .ok => "ok"
  | .invalidKey => "invalid_key"
  | .invalidCiphertext => "invalid_ciphertext"
  | .authFailed => "auth_failed"
  | .unaligned => "unaligned"
  | .io => "io"
  | .device => "device"
  | .anchor => "anchor"
  | .unsupported => "unsupported"
  | .internal => "internal"
  | .nullArgument => "null_argument"
  | .bufferTooSmall => "buffer_too_small"

/-- `name().as_bytes()`. -/
def nameBytes (status : PqForgeStatus) : Bytes :=
  status.name.toList.map fun letter => UInt8.ofNat letter.toNat

@[simp] theorem fromCode_code (status : PqForgeStatus) :
    fromCode status.code = status := by
  cases status <;> rfl

end PqForgeStatus

/-- `pqforge_status_echo`. -/
def pqforgeStatusEcho (code : Int) : Int :=
  (PqForgeStatus.fromCode code).code

/-- `pqforge_selftest_panic`. -/
def pqforgeSelftestPanic : Int :=
  finish (guard
    (.error (.panicked "intentional pqforge self-test panic")))

/-- `pqforge_status_message`, whose closure repeats `write_out`. -/
def pqforgeStatusMessage
    (code : Int)
    (caller : CallerOutput) :
    Int × CallerOutput :=
  let written :=
    writeOut (PqForgeStatus.fromCode code).nameBytes caller
  (written.1.code, written.2)

/-! ## Calls -/

/-- An exported function that reports a status, with its inputs. -/
inductive ExportedCall where
  | statusEcho (code : Int)
  | selftestPanic
  | cryptoSelftest (digest : Except String Bytes)
  | statusMessage (code : Int)
  | mlkemKeygen
      (algId : Int)
      (coins : Bytes)
  | mlkemEncapsulate
      (algId : Int)
      (pubkey : CSlice)
      (coins : Bytes)
  | mlkemDecapsulate
      (algId : Int)
      (seckey ct : CSlice)
  | mldsaKeygen
      (algId : Int)
      (coins : Bytes)
  | mldsaKeygenFromSeed
      (algId : Int)
      (seed : CSlice)
  | mldsaSign
      (algId : Int)
      (seckey msg : CSlice)
      (coins : Bytes)
  | mldsaVerify
      (algId : Int)
      (pubkey msg sig : CSlice)
  | aeadSeal (args : NativeAead.AeadArgs)
  | aeadOpen (args : NativeAead.AeadArgs)
  | x25519Keygen
      (rng : Rng)
      (seed : CSlice)
  | x25519Ecdh (secret peerPub : CSlice)
  | ed25519Keygen
      (rng : Rng)
      (seed : CSlice)
  | ed25519PublicFromSeed (seed : CSlice)
  | ed25519Sign (seed msg : CSlice)
  | ed25519Verify (pubkey msg sig : CSlice)
  | streamSealFile
      (files : StreamFile.FileSystem)
      (args : StreamFile.StreamArgs)
  | streamOpenFile
      (files : StreamFile.FileSystem)
      (args : StreamFile.StreamArgs)

/-- A call that leaves the outputs alone. -/
def withoutOutputs
    (code : Int)
    (outputs : CallerOutput × CallerOutput) :
    Int × CallerOutput × CallerOutput :=
  (code, outputs)

/-- A call that takes the first output. -/
def withOutput
    (function : CallerOutput → Int × CallerOutput)
    (outputs : CallerOutput × CallerOutput) :
    Int × CallerOutput × CallerOutput :=
  let (code, first) := function outputs.1
  (code, first, outputs.2)

/-- A call that takes both outputs. -/
def withOutputs
    (function :
      CallerOutput →
        CallerOutput →
        Int × CallerOutput × CallerOutput)
    (outputs : CallerOutput × CallerOutput) :
    Int × CallerOutput × CallerOutput :=
  function outputs.1 outputs.2

/-- The status that a call returns, and what the caller's outputs then hold. -/
def ExportedCall.call
    (libraries : NativeMemory.NativeLibraries) :
    ExportedCall →
      (outputs : CallerOutput × CallerOutput) →
      Int × CallerOutput × CallerOutput
  | .statusEcho code =>
      withoutOutputs (pqforgeStatusEcho code)
  | .selftestPanic =>
      withoutOutputs pqforgeSelftestPanic
  | .cryptoSelftest digest =>
      withoutOutputs (pqforgeCryptoSelftest digest)
  | .statusMessage code =>
      withOutput (pqforgeStatusMessage code)
  | .mlkemKeygen algId coins =>
      withOutputs
        (NativeKem.pqforgeMlkemKeygen libraries.kem coins algId)
  | .mlkemEncapsulate algId pubkey coins =>
      withOutputs
        (NativeKem.pqforgeMlkemEncapsulate libraries.kem coins algId
          pubkey)
  | .mlkemDecapsulate algId seckey ct =>
      withOutput
        (NativeKem.pqforgeMlkemDecapsulate libraries.kem algId seckey ct)
  | .mldsaKeygen algId coins =>
      withOutputs
        (NativeSign.pqforgeMldsaKeygen libraries.pqdsa coins algId)
  | .mldsaKeygenFromSeed algId seed =>
      withOutputs
        (NativeSign.pqforgeMldsaKeygenFromSeed libraries.pqdsa algId seed)
  | .mldsaSign algId seckey msg coins =>
      withOutput
        (NativeSign.pqforgeMldsaSign libraries.pqdsa coins algId seckey
          msg)
  | .mldsaVerify algId pubkey msg sig =>
      withoutOutputs
        (NativeSign.pqforgeMldsaVerify libraries.pqdsa algId pubkey msg
          sig)
  | .aeadSeal args =>
      withOutput (NativeAead.pqforgeAeadSeal libraries.aead args)
  | .aeadOpen args =>
      withOutput (NativeAead.pqforgeAeadOpen libraries.aead args)
  | .x25519Keygen rng seed =>
      withOutputs
        (NativeClassical.pqforgeX25519Keygen libraries.classical rng seed)
  | .x25519Ecdh secret peerPub =>
      withOutput
        (NativeClassical.pqforgeX25519Ecdh libraries.classical secret
          peerPub)
  | .ed25519Keygen rng seed =>
      withOutputs
        (NativeClassical.pqforgeEd25519Keygen libraries.classical rng
          seed)
  | .ed25519PublicFromSeed seed =>
      withOutput
        (NativeClassical.pqforgeEd25519PublicFromSeed libraries.classical
          seed)
  | .ed25519Sign seed msg =>
      withOutput
        (NativeClassical.pqforgeEd25519Sign libraries.classical seed msg)
  | .ed25519Verify pubkey msg sig =>
      withoutOutputs
        (NativeClassical.pqforgeEd25519Verify libraries.ed25519 pubkey msg
          sig)
  | .streamSealFile files args =>
      withoutOutputs
        (StreamFile.pqforgeStreamSealFile libraries.aead files args).code
  | .streamOpenFile files args =>
      withoutOutputs
        (StreamFile.pqforgeStreamOpenFile libraries.aead files args).code

/-- What the closure of a call computes for its outputs, if it gets there. -/
def ExportedCall.computed
    (libraries : NativeMemory.NativeLibraries) :
    ExportedCall →
      Except Exit (List Bytes)
  | .statusEcho _ => .ok []
  | .selftestPanic => .ok []
  | .cryptoSelftest _ => .ok []
  | .statusMessage code =>
      .ok [(PqForgeStatus.fromCode code).nameBytes]
  | .mlkemKeygen algId coins =>
      (NativeKem.keygenBody libraries.kem algId coins).map
        fun outputs => [outputs.1, outputs.2]
  | .mlkemEncapsulate algId pubkey coins =>
      (NativeKem.encapsulateBody libraries.kem algId pubkey coins).map
        fun outputs => [outputs.1, outputs.2]
  | .mlkemDecapsulate algId seckey ct =>
      (NativeKem.decapsulateBody libraries.kem algId seckey ct).map
        fun output => [output]
  | .mldsaKeygen algId coins =>
      (NativeSign.keygenBody libraries.pqdsa algId coins).map
        fun outputs => [outputs.1, outputs.2]
  | .mldsaKeygenFromSeed algId seed =>
      (NativeSign.keygenFromSeedBody libraries.pqdsa algId seed).map
        fun outputs => [outputs.1, outputs.2]
  | .mldsaSign algId seckey msg coins =>
      (NativeSign.signBody libraries.pqdsa algId seckey msg coins).map
        fun output => [output]
  | .mldsaVerify _ _ _ _ => .ok []
  | .aeadSeal args =>
      (NativeAead.sealBody libraries.aead args).map
        fun output => [output]
  | .aeadOpen args =>
      (NativeAead.openBody libraries.aead args).map
        fun output => [output]
  | .x25519Keygen rng seed =>
      (NativeClassical.x25519KeygenBody libraries.classical rng
          seed).map
        fun outputs => [outputs.1, outputs.2]
  | .x25519Ecdh secret peerPub =>
      (NativeClassical.x25519EcdhBody libraries.classical secret
          peerPub).map
        fun output => [output]
  | .ed25519Keygen rng seed =>
      (NativeClassical.ed25519KeygenBody libraries.classical rng
          seed).map
        fun outputs => [outputs.1, outputs.2]
  | .ed25519PublicFromSeed seed =>
      (NativeClassical.ed25519PublicFromSeedBody libraries.classical
          seed).map
        fun output => [output]
  | .ed25519Sign seed msg =>
      (NativeClassical.ed25519SignBody libraries.classical seed msg).map
        fun output => [output]
  | .ed25519Verify _ _ _ => .ok []
  | .streamSealFile _ _ => .ok []
  | .streamOpenFile _ _ => .ok []

/-- An exit that reports a failure, and not one of a buffer's size. -/
structure Exit.FailsEarly (exit : Exit) : Prop where
  notOk : exit.status ≠ .ok
  notTooSmall : exit.status ≠ .bufferTooSmall

theorem Exit.failsEarly_failed (error : PqForgeError) :
    (Exit.failed error).FailsEarly :=
  ⟨(Exit.refuses_failed error).1, (Exit.refuses_failed error).2.2⟩

theorem Exit.failsEarly_returned
    {status : PqForgeStatus}
    (fails : status ≠ .ok ∧ status ≠ .bufferTooSmall) :
    (Exit.returned status).FailsEarly :=
  ⟨fails.1, fails.2⟩

/-- A closure that is left early fails there. -/
def FailsOnly
    {Output : Type}
    (body : Except Exit Output) : Prop :=
  ∀ exit, body = .error exit → exit.FailsEarly

namespace FailsOnly

variable {Output First : Type}

theorem ok (output : Output) : FailsOnly (.ok output) := by
  intro exit failed
  cases failed

theorem returned
    {status : PqForgeStatus}
    (fails : status ≠ .ok ∧ status ≠ .bufferTooSmall) :
    FailsOnly (.error (.returned status) : Except Exit Output) := by
  intro exit failed
  cases failed
  exact Exit.failsEarly_returned fails

theorem failed (error : PqForgeError) :
    FailsOnly (.error (.failed error) : Except Exit Output) := by
  intro exit failed
  cases failed
  exact Exit.failsEarly_failed error

theorem orExit
    {exit : Exit}
    (fails : exit.FailsEarly)
    (answer : Option Output) :
    FailsOnly (PqForgeFfi.orExit exit answer) := by
  intro other failed
  cases answer with
  | none =>
      cases failed
      exact fails
  | some output =>
      cases failed

theorem orInvalidKey (answer : Option Output) :
    FailsOnly (PqForgeFfi.orExit (.returned .invalidKey) answer) :=
  FailsOnly.orExit (Exit.failsEarly_returned (by decide)) answer

theorem bind
    {first : Except Exit First}
    {next : First → Except Exit Output}
    (here : FailsOnly first)
    (later : ∀ result, FailsOnly (next result)) :
    FailsOnly (first >>= next) := by
  intro exit failed
  rcases except_bind_eq_error failed with
      early | ⟨result, _, late⟩
  · exact here exit early
  · exact later result exit late

theorem ite
    {condition : Prop}
    [Decidable condition]
    {first second : Except Exit Output}
    (here : FailsOnly first)
    (there : FailsOnly second) :
    FailsOnly (if condition then first else second) := by
  split
  · exact here
  · exact there

end FailsOnly

section Closures

theorem NativeKem.keygenBody_fails
    (aws : AwsLcKem)
    (algId : Int)
    (coins : Bytes) :
    FailsOnly (keygenBody aws algId coins) := by
  rw [keygenBody]
  split
  · exact .returned (by decide)
  · refine (FailsOnly.orExit (Exit.failsEarly_failed _) _).bind
      fun dk => ?_
    refine (FailsOnly.orExit (Exit.failsEarly_failed _) _).bind
      fun ek => ?_
    refine (FailsOnly.orExit (Exit.failsEarly_failed _) _).bind
      fun pubBytes => ?_
    exact (FailsOnly.orExit (Exit.failsEarly_failed _) _).bind
      fun secBytes => .ok _

theorem NativeKem.encapsulateBody_fails
    (aws : AwsLcKem)
    (algId : Int)
    (pubkey : CSlice)
    (coins : Bytes) :
    FailsOnly (encapsulateBody aws algId pubkey coins) := by
  rw [encapsulateBody]
  split
  · exact .returned (by decide)
  · refine .ite (.returned (by decide)) ?_
    exact (FailsOnly.orInvalidKey _).bind fun ek =>
      .orExit (Exit.failsEarly_failed _) _

theorem NativeKem.decapsulateBody_fails
    (aws : AwsLcKem)
    (algId : Int)
    (seckey ct : CSlice) :
    FailsOnly (decapsulateBody aws algId seckey ct) := by
  rw [decapsulateBody]
  split
  · exact .returned (by decide)
  · refine .ite (.returned (by decide)) ?_
    exact (FailsOnly.orInvalidKey _).bind fun dk =>
      .orExit (Exit.failsEarly_failed _) _

theorem NativeSign.exportKeys_fails
    (aws : AwsLcPqdsa)
    (kp : aws.KeyPair) :
    FailsOnly (exportKeys aws kp) :=
  (FailsOnly.orExit (Exit.failsEarly_failed _) _).bind fun _ => .ok _

theorem NativeSign.keygenBody_fails
    (aws : AwsLcPqdsa)
    (algId : Int)
    (coins : Bytes) :
    FailsOnly (keygenBody aws algId coins) := by
  rw [keygenBody]
  split
  · exact .returned (by decide)
  · exact (FailsOnly.orExit (Exit.failsEarly_failed _) _).bind fun kp =>
      exportKeys_fails aws kp

theorem NativeSign.keygenFromSeedBody_fails
    (aws : AwsLcPqdsa)
    (algId : Int)
    (seed : CSlice) :
    FailsOnly (keygenFromSeedBody aws algId seed) := by
  rw [keygenFromSeedBody]
  refine .ite (.returned (by decide)) ?_
  split
  · exact .returned (by decide)
  · exact (FailsOnly.orInvalidKey _).bind fun kp =>
      exportKeys_fails aws kp

theorem NativeSign.signBody_fails
    (aws : AwsLcPqdsa)
    (algId : Int)
    (seckey msg : CSlice)
    (coins : Bytes) :
    FailsOnly (signBody aws algId seckey msg coins) := by
  rw [signBody]
  refine .ite (.returned (by decide)) ?_
  split
  · exact .returned (by decide)
  · exact (FailsOnly.orInvalidKey _).bind fun kp =>
      .orExit (Exit.failsEarly_failed _) _

theorem NativeAead.sealBody_fails
    (aws : AwsLc)
    (args : AeadArgs) :
    FailsOnly (sealBody aws args) := by
  rw [sealBody]
  split
  · exact .returned (by decide)
  · refine .ite (.returned (by decide)) ?_
    dsimp only
    split
    · exact .returned (by decide)
    · split
      · exact .returned (by decide)
      · split
        · exact .failed _
        · exact .ok _

theorem NativeAead.openBody_fails
    (aws : AwsLc)
    (args : AeadArgs) :
    FailsOnly (openBody aws args) := by
  rw [openBody]
  split
  · exact .returned (by decide)
  · refine .ite (.returned (by decide)) (.ite (.returned (by decide)) ?_)
    dsimp only
    split
    · exact .returned (by decide)
    · split
      · exact .returned (by decide)
      · split
        · exact .returned (by decide)
        · exact .ok _

theorem NativeClassical.secretOf_fails
    (rng : Rng)
    (rngFailed : String)
    (seedLen : Nat)
    (seed : CSlice) :
    FailsOnly (secretOf rng rngFailed seedLen seed) :=
  .ite (.orExit (Exit.failsEarly_failed _) _)
    (.ite (.returned (by decide)) (.ok _))

theorem NativeClassical.x25519KeygenBody_fails
    (aws : AwsLcClassical)
    (rng : Rng)
    (seed : CSlice) :
    FailsOnly (x25519KeygenBody aws rng seed) := by
  refine (secretOf_fails _ _ _ _).bind fun secret => ?_
  refine (FailsOnly.orExit (Exit.failsEarly_failed _) _).bind
    fun privateKey => ?_
  exact (FailsOnly.orExit (Exit.failsEarly_failed _) _).bind
    fun publicKey => .ok _

theorem NativeClassical.x25519EcdhBody_fails
    (aws : AwsLcClassical)
    (secret peerPub : CSlice) :
    FailsOnly (x25519EcdhBody aws secret peerPub) := by
  refine .ite (.returned (by decide)) (.ite (.returned (by decide)) ?_)
  exact (FailsOnly.orExit (Exit.failsEarly_failed _) _).bind
    fun privateKey => .orExit (Exit.failsEarly_failed _) _

theorem NativeClassical.ed25519KeygenBody_fails
    (aws : AwsLcClassical)
    (rng : Rng)
    (seed : CSlice) :
    FailsOnly (ed25519KeygenBody aws rng seed) := by
  refine (secretOf_fails _ _ _ _).bind fun seedBuf => ?_
  exact (FailsOnly.orExit (Exit.failsEarly_failed _) _).bind
    fun kp => .ok _

theorem NativeClassical.ed25519PublicFromSeedBody_fails
    (aws : AwsLcClassical)
    (seed : CSlice) :
    FailsOnly (ed25519PublicFromSeedBody aws seed) := by
  refine .ite (.returned (by decide)) (.ite (.returned (by decide)) ?_)
  exact (FailsOnly.orExit (Exit.failsEarly_failed _) _).bind
    fun kp => .ok _

theorem NativeClassical.ed25519SignBody_fails
    (aws : AwsLcClassical)
    (seed msg : CSlice) :
    FailsOnly (ed25519SignBody aws seed msg) := by
  refine .ite (.returned (by decide)) (.ite (.returned (by decide)) ?_)
  exact (FailsOnly.orExit (Exit.failsEarly_failed _) _).bind
    fun kp => .ok _

end Closures

/--
What a call delivers: nothing, or the first of two outputs where the other one
has no place, or everything that its closure computed.
-/
inductive Delivers
    (computed : Except Exit (List Bytes))
    (before : CallerOutput × CallerOutput) :
    PqForgeStatus →
    CallerOutput × CallerOutput →
    Prop where
  | nothing
      {status : PqForgeStatus}
      {after : CallerOutput × CallerOutput}
      (fails : status ≠ .ok)
      (first : LeftAlone before.1 after.1)
      (second : LeftAlone before.2 after.2) :
      Delivers computed before status after
  | half
      {status : PqForgeStatus}
      {after : CallerOutput × CallerOutput}
      {source other : Bytes}
      (both : computed = .ok [source, other])
      (noPlace : NoPlace status)
      (first : WrittenWith source before.1 after.1)
      (second : LeftAlone before.2 after.2) :
      Delivers computed before status after
  | verdict
      {status : PqForgeStatus}
      (none : computed = .ok []) :
      Delivers computed before status before
  | one
      {source : Bytes}
      {after : CallerOutput}
      (single : computed = .ok [source])
      (first : WrittenWith source before.1 after) :
      Delivers computed before .ok (after, before.2)
  | both
      {source other : Bytes}
      {after : CallerOutput × CallerOutput}
      (both : computed = .ok [source, other])
      (first : WrittenWith source before.1 after.1)
      (second : WrittenWith other before.2 after.2) :
      Delivers computed before .ok after

/-- A call ends with a status and delivers accordingly. -/
def DeliversIn
    (computed : Except Exit (List Bytes))
    (before : CallerOutput × CallerOutput)
    (result : Int × CallerOutput × CallerOutput) : Prop :=
  ∃ status : PqForgeStatus,
    result.1 = status.code ∧ Delivers computed before status result.2

section Exported

variable (outputs : CallerOutput × CallerOutput)

/-- A verdict leaves the outputs alone. -/
theorem withoutOutputs_delivers (status : PqForgeStatus) :
    DeliversIn (.ok []) outputs (withoutOutputs status.code outputs) :=
  ⟨status, rfl, .verdict rfl⟩

/-- Whatever comes out of a guarded verdict is a status. -/
theorem finish_guard_code (body : Except Exit PqForgeStatus) :
    ∃ status : PqForgeStatus, finish (guard body) = status.code := by
  cases body with
  | ok status =>
      exact ⟨status, finish_guard_ok status⟩
  | error exit =>
      exact ⟨exit.status, finish_guard_error exit⟩

/-- What `write_out` is given is delivered, or it has no place. -/
theorem written_delivers
    (source : Bytes) :
    DeliversIn (.ok [source]) outputs
      ((writeOut source outputs.1).1.code, (writeOut source outputs.1).2,
        outputs.2) := by
  refine ⟨(writeOut source outputs.1).1, rfl, ?_⟩
  rcases writeOut_delivers source outputs.1 with
      ⟨written, first⟩ | ⟨noPlace, first⟩
  · rw [written]
    exact .one rfl first
  · exact .nothing noPlace.ne_ok first (.refl outputs.2)

/-- A function with one output delivers it, or delivers nothing. -/
theorem exported_delivers
    {body : Except Exit Bytes}
    (fails : FailsOnly body) :
    DeliversIn (body.map fun output => [output]) outputs
      (withOutput (exportedOutput body) outputs) := by
  cases body with
  | error exit =>
      rw [withOutput, exportedOutput_error]
      exact ⟨exit.status, rfl,
        .nothing (fails exit rfl).notOk (.refl _) (.refl _)⟩
  | ok source =>
      exact written_delivers outputs source

/-- A function with two outputs may deliver the first of them alone. -/
theorem exportedBoth_delivers
    {body : Except Exit (Bytes × Bytes)}
    (fails : FailsOnly body) :
    DeliversIn (body.map fun both => [both.1, both.2]) outputs
      (withOutputs (exportedOutputs body) outputs) := by
  cases body with
  | error exit =>
      rw [withOutputs, exportedOutputs_error]
      exact ⟨exit.status, rfl,
        .nothing (fails exit rfl).notOk (.refl _) (.refl _)⟩
  | ok both =>
      rw [withOutputs, exportedOutputs]
      simp only [finish_guard_ok, writeOutputs]
      rcases writeOut_delivers both.1 outputs.1 with
          ⟨written, first⟩ | ⟨noPlace, first⟩
      · rw [written]
        simp only [ne_eq, not_true_eq_false, ↓reduceIte]
        refine ⟨_, rfl, ?_⟩
        rcases writeOut_delivers both.2 outputs.2 with
            ⟨alsoWritten, second⟩ | ⟨noPlace, second⟩
        · rw [alsoWritten]
          exact .both rfl first second
        · exact .half rfl noPlace first second
      · simp only [ne_eq, noPlace.ne_ok, not_false_eq_true, ↓reduceIte]
        exact ⟨_, rfl, .nothing noPlace.ne_ok first (.refl _)⟩

end Exported

/-- The self-test reports a status, whatever AWS-LC does. -/
theorem pqforgeCryptoSelftest_code (digest : Except String Bytes) :
    ∃ status : PqForgeStatus,
      pqforgeCryptoSelftest digest = status.code := by
  rw [pqforgeCryptoSelftest]
  split
  · exact ⟨_, rfl⟩
  · exact ⟨_, rfl⟩

/-- The number of outputs that an exported function has. -/
def ExportedCall.outputCount : ExportedCall → Nat
  | .statusEcho _ => 0
  | .selftestPanic => 0
  | .cryptoSelftest _ => 0
  | .statusMessage _ => 1
  | .mlkemKeygen _ _ => 2
  | .mlkemEncapsulate _ _ _ => 2
  | .mlkemDecapsulate _ _ _ => 1
  | .mldsaKeygen _ _ => 2
  | .mldsaKeygenFromSeed _ _ => 2
  | .mldsaSign _ _ _ _ => 1
  | .mldsaVerify _ _ _ _ => 0
  | .aeadSeal _ => 1
  | .aeadOpen _ => 1
  | .x25519Keygen _ _ => 2
  | .x25519Ecdh _ _ => 1
  | .ed25519Keygen _ _ => 2
  | .ed25519PublicFromSeed _ => 1
  | .ed25519Sign _ _ => 1
  | .ed25519Verify _ _ _ => 0
  | .streamSealFile _ _ => 0
  | .streamOpenFile _ _ => 0

/-- A call hands what its closure computes to `write_out`, once or twice. -/
inductive ExportedCall.Hands
    (libraries : NativeMemory.NativeLibraries)
    (call : ExportedCall) : Prop where
  | nothing
      {status : PqForgeStatus}
      (count : call.outputCount = 0)
      (computes : call.computed libraries = .ok [])
      (hands : call.call libraries = withoutOutputs status.code)
  | one
      {body : Except Exit Bytes}
      (count : call.outputCount = 1)
      (fails : FailsOnly body)
      (computes :
        call.computed libraries = body.map fun output => [output])
      (hands : call.call libraries = withOutput (exportedOutput body))
  | both
      {body : Except Exit (Bytes × Bytes)}
      (count : call.outputCount = 2)
      (fails : FailsOnly body)
      (computes :
        call.computed libraries = body.map fun both => [both.1, both.2])
      (hands : call.call libraries = withOutputs (exportedOutputs body))

namespace ExportedCall.Hands

variable {libraries : NativeMemory.NativeLibraries}
variable {call : ExportedCall}

/-- A guarded verdict hands nothing over. -/
theorem verdict
    {body : Except Exit PqForgeStatus}
    (count : call.outputCount = 0)
    (computes : call.computed libraries = .ok [])
    (hands :
      call.call libraries = withoutOutputs (finish (guard body))) :
    call.Hands libraries := by
  obtain ⟨status, reported⟩ := finish_guard_code body
  rw [reported] at hands
  exact .nothing count computes hands

end ExportedCall.Hands

/-- Every exported function hands what it computes to `write_out`. -/
theorem ExportedCall.hands
    (libraries : NativeMemory.NativeLibraries)
    (call : ExportedCall) :
    call.Hands libraries := by
  cases call with
  | statusEcho code =>
      exact .nothing rfl rfl rfl
  | selftestPanic =>
      exact .verdict rfl rfl rfl
  | cryptoSelftest digest =>
      obtain ⟨status, reported⟩ := pqforgeCryptoSelftest_code digest
      have hands :
          (ExportedCall.cryptoSelftest digest).call libraries =
            withoutOutputs status.code := by
        rw [ExportedCall.call, reported]
      exact .nothing rfl rfl hands
  | statusMessage code =>
      exact .one rfl (.ok (PqForgeStatus.fromCode code).nameBytes) rfl rfl
  | mlkemKeygen algId coins =>
      exact .both rfl
        (NativeKem.keygenBody_fails libraries.kem algId coins) rfl rfl
  | mlkemEncapsulate algId pubkey coins =>
      exact .both rfl
        (NativeKem.encapsulateBody_fails libraries.kem algId pubkey coins)
        rfl rfl
  | mlkemDecapsulate algId seckey ct =>
      exact .one rfl
        (NativeKem.decapsulateBody_fails libraries.kem algId seckey ct)
        rfl rfl
  | mldsaKeygen algId coins =>
      exact .both rfl
        (NativeSign.keygenBody_fails libraries.pqdsa algId coins) rfl rfl
  | mldsaKeygenFromSeed algId seed =>
      exact .both rfl
        (NativeSign.keygenFromSeedBody_fails libraries.pqdsa algId seed)
        rfl rfl
  | mldsaSign algId seckey msg coins =>
      exact .one rfl
        (NativeSign.signBody_fails libraries.pqdsa algId seckey msg coins)
        rfl rfl
  | mldsaVerify algId pubkey msg sig =>
      exact .verdict rfl rfl rfl
  | aeadSeal args =>
      exact .one rfl (NativeAead.sealBody_fails libraries.aead args)
        rfl rfl
  | aeadOpen args =>
      exact .one rfl (NativeAead.openBody_fails libraries.aead args)
        rfl rfl
  | x25519Keygen rng seed =>
      exact .both rfl
        (NativeClassical.x25519KeygenBody_fails libraries.classical rng
          seed)
        rfl rfl
  | x25519Ecdh secret peerPub =>
      exact .one rfl
        (NativeClassical.x25519EcdhBody_fails libraries.classical secret
          peerPub)
        rfl rfl
  | ed25519Keygen rng seed =>
      exact .both rfl
        (NativeClassical.ed25519KeygenBody_fails libraries.classical rng
          seed)
        rfl rfl
  | ed25519PublicFromSeed seed =>
      exact .one rfl
        (NativeClassical.ed25519PublicFromSeedBody_fails
          libraries.classical seed)
        rfl rfl
  | ed25519Sign seed msg =>
      exact .one rfl
        (NativeClassical.ed25519SignBody_fails libraries.classical seed
          msg)
        rfl rfl
  | ed25519Verify pubkey msg sig =>
      exact .verdict rfl rfl rfl
  | streamSealFile files args =>
      exact .verdict rfl rfl rfl
  | streamOpenFile files args =>
      exact .verdict rfl rfl rfl

/-- Every exported function ends with a status and delivers accordingly. -/
theorem ExportedCall.call_delivers
    (libraries : NativeMemory.NativeLibraries)
    (call : ExportedCall)
    (outputs : CallerOutput × CallerOutput) :
    DeliversIn (call.computed libraries) outputs
      (call.call libraries outputs) := by
  cases call.hands libraries with
  | @nothing status _ computes hands =>
      rw [computes, hands]
      exact withoutOutputs_delivers outputs status
  | one _ fails computes hands =>
      rw [computes, hands]
      exact exported_delivers outputs fails
  | both _ fails computes hands =>
      rw [computes, hands]
      exact exportedBoth_delivers outputs fails

/-! ## The caller's memory -/

/-- The outputs of a caller, by numbers of its own. -/
abbrev CallerMemory : Type :=
  Nat → CallerOutput

/-- A call with two different outputs, of which it takes those it has. -/
structure Invocation where
  call : ExportedCall
  first : Nat
  second : Nat
  apart : first ≠ second

namespace Invocation

variable (libraries : NativeMemory.NativeLibraries)

/-- What an invocation returns, and the memory behind it. -/
def step
    (memory : CallerMemory)
    (invocation : Invocation) :
    Int × CallerMemory :=
  let result :=
    invocation.call.call libraries
      (memory invocation.first, memory invocation.second)
  (result.1, fun slot =>
    if slot = invocation.first then
      result.2.1
    else if slot = invocation.second then
      result.2.2
    else
      memory slot)

/-- An invocation is given a slot. -/
def Uses (invocation : Invocation) (slot : Nat) : Prop :=
  slot = invocation.first ∨ slot = invocation.second

/--
A call that returned this code may have written to a slot: it returned `ok`, or
the slot is its first output and the second one had no place.
-/
def MayDeliver
    (invocation : Invocation)
    (code : Int)
    (slot : Nat) : Prop :=
  (code = PqForgeStatus.ok.code ∧ invocation.Uses slot) ∨
    slot = invocation.first ∧
      (code = PqForgeStatus.nullArgument.code ∨
        code = PqForgeStatus.bufferTooSmall.code) ∧
      ∃ source other,
        invocation.call.computed libraries = .ok [source, other]

variable {libraries}
variable {memory : CallerMemory}
variable {invocation : Invocation}

@[simp] theorem step_first :
    (invocation.step libraries memory).2 invocation.first =
      (invocation.call.call libraries
        (memory invocation.first, memory invocation.second)).2.1 :=
  if_pos rfl

@[simp] theorem step_second :
    (invocation.step libraries memory).2 invocation.second =
      (invocation.call.call libraries
        (memory invocation.first, memory invocation.second)).2.2 := by
  rw [step]
  exact (if_neg invocation.apart.symm).trans (if_pos rfl)

/-- A slot that a call is not given is not touched. -/
theorem step_unused
    {slot : Nat}
    (unused : ¬invocation.Uses slot) :
    (invocation.step libraries memory).2 slot = memory slot := by
  rw [Uses, not_or] at unused
  exact (if_neg unused.1).trans (if_neg unused.2)

end Invocation

section Delivered

variable {computed : Except Exit (List Bytes)}
variable {before after : CallerOutput × CallerOutput}
variable {status : PqForgeStatus}

/-- Whatever is delivered stays in its place. -/
theorem Delivers.framed (delivers : Delivers computed before status after) :
    before.1.Framed after.1 ∧ before.2.Framed after.2 := by
  cases delivers with
  | nothing _ first second =>
      exact ⟨first.framed, second.framed⟩
  | half _ _ first second =>
      exact ⟨first.framed, second.framed⟩
  | verdict _ =>
      exact ⟨.refl _, .refl _⟩
  | one _ first =>
      exact ⟨first.framed, .refl _⟩
  | both _ first second =>
      exact ⟨first.framed, second.framed⟩

/-- The second output is written only by a call that returns `ok`. -/
theorem Delivers.second_out
    (delivers : Delivers computed before status after)
    (fails : status ≠ .ok) :
    after.2.out = before.2.out := by
  cases delivers with
  | nothing _ _ second =>
      exact second.out
  | half _ _ _ second =>
      exact second.out
  | verdict _ =>
      rfl
  | one _ _ =>
      exact (fails rfl).elim
  | both _ _ _ =>
      exact (fails rfl).elim

/-- A failed call writes the first output only if the second had no place. -/
theorem Delivers.first_out
    (delivers : Delivers computed before status after)
    (fails : status ≠ .ok)
    (whole :
      NoPlace status →
      ¬∃ source other, computed = .ok [source, other]) :
    after.1.out = before.1.out := by
  cases delivers with
  | nothing _ first _ =>
      exact first.out
  | half both noPlace _ _ =>
      exact (whole noPlace ⟨_, _, both⟩).elim
  | verdict _ =>
      rfl
  | one _ _ =>
      exact (fails rfl).elim
  | both _ _ _ =>
      exact (fails rfl).elim

/-- A call that returns `ok` delivers all that was computed. -/
theorem Delivers.contents
    (delivers : Delivers computed before .ok after) :
    ∃ outputs,
      computed = .ok outputs ∧
        (∀ source, outputs[0]? = some source →
          after.1.contents = source) ∧
        ∀ source, outputs[1]? = some source →
          after.2.contents = source := by
  generalize succeeded : PqForgeStatus.ok = reported at delivers
  cases delivers with
  | nothing fails _ _ =>
      exact (fails succeeded.symm).elim
  | half _ noPlace _ _ =>
      exact (noPlace.ne_ok succeeded.symm).elim
  | verdict none =>
      exact ⟨_, none, nofun, nofun⟩
  | one single first =>
      refine ⟨_, single, ?_, nofun⟩
      rintro _ ⟨⟩
      exact first.contents
  | both both first second =>
      refine ⟨_, both, ?_, ?_⟩
      · rintro _ ⟨⟩
        exact first.contents
      · rintro _ ⟨⟩
        exact second.contents

end Delivered

namespace Invocation

variable {libraries : NativeMemory.NativeLibraries}

/-- An invocation returns the code of a status. -/
theorem step_code
    (memory : CallerMemory)
    (invocation : Invocation) :
    ∃ status : PqForgeStatus,
      (invocation.step libraries memory).1 = status.code := by
  obtain ⟨status, reported, _⟩ :=
    invocation.call.call_delivers libraries
      (memory invocation.first, memory invocation.second)
  exact ⟨status, reported⟩

/-- An invocation keeps the frame of every slot. -/
theorem step_framed
    (memory : CallerMemory)
    (invocation : Invocation)
    (slot : Nat) :
    (memory slot).Framed ((invocation.step libraries memory).2 slot) := by
  obtain ⟨status, _, delivers⟩ :=
    invocation.call.call_delivers libraries
      (memory invocation.first, memory invocation.second)
  by_cases used : invocation.Uses slot
  · rcases used with rfl | rfl
    · rw [step_first]
      exact delivers.framed.1
    · rw [step_second]
      exact delivers.framed.2
  · rw [step_unused used]
    exact .refl _

/-- An invocation writes to no slot that it may not deliver to. -/
theorem step_spared
    (memory : CallerMemory)
    (invocation : Invocation)
    {slot : Nat}
    (spared :
      ¬invocation.MayDeliver libraries
        (invocation.step libraries memory).1 slot) :
    ((invocation.step libraries memory).2 slot).out =
      (memory slot).out := by
  obtain ⟨status, reported, delivers⟩ :=
    invocation.call.call_delivers libraries
      (memory invocation.first, memory invocation.second)
  have code : (invocation.step libraries memory).1 = status.code :=
    reported
  rw [MayDeliver, code, not_or] at spared
  simp only [PqForgeStatus.code_inj] at spared
  by_cases used : invocation.Uses slot
  · have fails : status ≠ .ok := fun isOk => spared.1 ⟨isOk, used⟩
    rcases used with rfl | rfl
    · rw [step_first]
      exact delivers.first_out fails fun noPlace both =>
        spared.2 ⟨rfl, noPlace, both⟩
    · rw [step_second]
      exact delivers.second_out fails
  · rw [step_unused used]

/-- The slots of an invocation that returned `ok` hold what it computed. -/
theorem step_contents
    (memory : CallerMemory)
    (invocation : Invocation)
    (succeeded :
      (invocation.step libraries memory).1 = PqForgeStatus.ok.code) :
    ∃ outputs,
      invocation.call.computed libraries = .ok outputs ∧
        (∀ source, outputs[0]? = some source →
          ((invocation.step libraries memory).2
              invocation.first).contents =
            source) ∧
        ∀ source, outputs[1]? = some source →
          ((invocation.step libraries memory).2
              invocation.second).contents =
            source := by
  obtain ⟨status, reported, delivers⟩ :=
    invocation.call.call_delivers libraries
      (memory invocation.first, memory invocation.second)
  obtain rfl : status = .ok :=
    PqForgeStatus.code_injective (reported.symm.trans succeeded)
  rw [step_first, step_second]
  exact delivers.contents

end Invocation

section Runs

variable (libraries : NativeMemory.NativeLibraries)

/-- The codes of a run of calls, and the memory behind it. -/
abbrev callerRun
    (memory : CallerMemory)
    (invocations : List Invocation) :
    List Int × CallerMemory :=
  answers (fun memory (invocation : Invocation) =>
    invocation.step libraries memory) memory invocations

variable {libraries}

/-- Every code of a run is that of a status. -/
theorem callerRun_codes
    (memory : CallerMemory)
    (invocations : List Invocation) :
    ∀ code ∈ (callerRun libraries memory invocations).1,
      ∃ status : PqForgeStatus, code = status.code := by
  induction invocations generalizing memory with
  | nil =>
      intro code member
      cases member
  | cons invocation rest inductionHypothesis =>
      intro code member
      rw [callerRun, answers_cons] at member
      rcases List.mem_cons.mp member with here | later
      · obtain ⟨status, reported⟩ := invocation.step_code memory
        exact ⟨status, here.trans reported⟩
      · exact inductionHypothesis _ code later

/-- A run leaves every slot in its place. -/
theorem callerRun_framed
    (memory : CallerMemory)
    (invocations : List Invocation)
    (slot : Nat) :
    (memory slot).Framed
      ((callerRun libraries memory invocations).2 slot) := by
  induction invocations generalizing memory with
  | nil =>
      exact .refl _
  | cons invocation rest inductionHypothesis =>
      exact (invocation.step_framed memory slot).trans
        (inductionHypothesis _)

/-- A buffer that no call of a run may have delivered to is unchanged. -/
theorem callerRun_spared
    (memory : CallerMemory)
    (invocations : List Invocation)
    {slot : Nat}
    (spared :
      ∀ entry ∈ invocations.zip
          (callerRun libraries memory invocations).1,
        ¬entry.1.MayDeliver libraries entry.2 slot) :
    ((callerRun libraries memory invocations).2 slot).out =
      (memory slot).out := by
  induction invocations generalizing memory with
  | nil =>
      rfl
  | cons invocation rest inductionHypothesis =>
      rw [callerRun, answers_cons, List.zip_cons_cons] at spared
      have here := spared _ List.mem_cons_self
      have later := inductionHypothesis
        (invocation.step libraries memory).2
        fun entry member => spared entry (List.mem_cons_of_mem _ member)
      exact later.trans (invocation.step_spared memory here)

/-- A slot that no call of a run is given is not touched. -/
theorem callerRun_unused
    (memory : CallerMemory)
    (invocations : List Invocation)
    {slot : Nat}
    (unused : ∀ invocation ∈ invocations, ¬invocation.Uses slot) :
    (callerRun libraries memory invocations).2 slot = memory slot := by
  induction invocations generalizing memory with
  | nil =>
      rfl
  | cons invocation rest inductionHypothesis =>
      have later := inductionHypothesis
        (invocation.step libraries memory).2
        fun other member => unused other (List.mem_cons_of_mem _ member)
      exact later.trans
        (Invocation.step_unused (unused invocation List.mem_cons_self))

end Runs

/-- Nothing that a caller does not use again has been lost behind a run. -/
structure KeepsDelivered
    (libraries : NativeMemory.NativeLibraries)
    (memory : CallerMemory)
    (earlier : List Invocation)
    (invocation : Invocation)
    (later : List Invocation) : Prop where
  delivered :
    (invocation.step libraries
        (callerRun libraries memory earlier).2).1 =
      PqForgeStatus.ok.code →
    ∃ outputs,
      invocation.call.computed libraries = .ok outputs ∧
        (∀ source,
          outputs[0]? = some source →
          (∀ other ∈ later, ¬other.Uses invocation.first) →
          ((callerRun libraries memory
              (earlier ++ invocation :: later)).2
                invocation.first).contents =
            source) ∧
        ∀ source,
          outputs[1]? = some source →
          (∀ other ∈ later, ¬other.Uses invocation.second) →
          ((callerRun libraries memory
              (earlier ++ invocation :: later)).2
                invocation.second).contents =
            source

/--
Over any run of the exported functions, with any arguments and any output
buffers: every code is one that both sides know; buffers keep their places and
all bytes beyond their capacities; a buffer changes only where a call returned
`ok`, or it was the first of two outputs of which the second had no place; and
the outputs of a call that returned `ok` stay until their slots are used again.
-/
theorem calls_keep_caller_memory
    (libraries : NativeMemory.NativeLibraries)
    (memory : CallerMemory)
    (invocations : List Invocation) :
    (∀ code ∈ (callerRun libraries memory invocations).1,
      pqforgeStatusEcho code = code ∧
        ∃ status : PqForgeStatus,
          code = status.code ∧
            PqForgeErrorCode.fromValue code = status.mirror) ∧
      (∀ slot,
        (memory slot).Framed
          ((callerRun libraries memory invocations).2 slot)) ∧
      (∀ slot,
        (∀ entry ∈ invocations.zip
            (callerRun libraries memory invocations).1,
          ¬entry.1.MayDeliver libraries entry.2 slot) →
        ((callerRun libraries memory invocations).2 slot).out =
          (memory slot).out) ∧
      ∀ earlier invocation later,
        invocations = earlier ++ invocation :: later →
        KeepsDelivered libraries memory earlier invocation later := by
  refine ⟨?_, callerRun_framed memory invocations,
    fun slot spared => callerRun_spared memory invocations spared, ?_⟩
  · intro code member
    obtain ⟨status, rfl⟩ := callerRun_codes memory invocations code member
    exact
      ⟨congrArg PqForgeStatus.code (PqForgeStatus.fromCode_code status),
        status, rfl, PqForgeErrorCode.fromValue_code status⟩
  · rintro earlier invocation later rfl
    constructor
    intro succeeded
    obtain ⟨outputs, computed, first, second⟩ :=
      invocation.step_contents (callerRun libraries memory earlier).2
        succeeded
    have behind : ∀ slot,
        (∀ other ∈ later, ¬other.Uses slot) →
        (callerRun libraries memory (earlier ++ invocation :: later)).2
            slot =
          (invocation.step libraries
            (callerRun libraries memory earlier).2).2 slot := by
      intro slot unused
      rw [callerRun, answers_append]
      exact callerRun_unused _ later unused
    refine ⟨outputs, computed, ?_, ?_⟩
    · intro source found unused
      rw [behind invocation.first unused]
      exact first source found
    · intro source found unused
      rw [behind invocation.second unused]
      exact second source found

end PqForgeFfi
