import PqForgeFfi.NativeStatus

namespace PqForgeFfi

/-!
# Opening the native library

`NativeBackend.open` and `PqForgeFileCipher.open` look a library up, bind its
symbols and, for the backend, compare the ABI version and run the self-test.
What they ask of a library is what the exported functions of the core provide.
-/

/--
A loaded shared library: why the lookup of a symbol fails, if it does, what the
two probes return, and which build of the core it is.
-/
structure SharedLibrary (Build : Type) where
  lookup : String → Except String Unit
  abiVersion : Int
  cryptoSelftest : Int
  build : Build

/-- How `DynamicLibrary.open` ends for each path. -/
abbrev Loader (Build : Type) : Type :=
  String → Except String (SharedLibrary Build)

/-- `kPqForgeAbiVersion`. -/
def kPqForgeAbiVersion : Int :=
  1

/-! ## The Rust side -/

/-- `pqforge_abi_version`. -/
def pqforgeAbiVersion : Int :=
  1

/--
`aws_lc_live`, of the SHA-256 digest that AWS-LC gives of `"pqforge"`, or of the
message that it panics with.
-/
def awsLcLive (digest : Except String Bytes) : Except Exit Bool :=
  match digest with
  | .ok bytes => .ok (bytes.length == 32)
  | .error message => .error (.panicked message)

/-- `pqforge_crypto_selftest`: `unwrap_or` reports any error as internal. -/
def pqforgeCryptoSelftest (digest : Except String Bytes) : Int :=
  let body :=
    (awsLcLive digest).map fun live =>
      if live then PqForgeStatus.ok else PqForgeStatus.internal
  match guard body with
  | .ok status => status.code
  | .error _ => PqForgeStatus.internal.code

/-- The functions that the core exports. -/
def exportedSymbols : List String :=
  ["pqforge_abi_version", "pqforge_status_echo",
    "pqforge_selftest_panic", "pqforge_status_message",
    "pqforge_crypto_selftest",
    "pqforge_mlkem_keygen", "pqforge_mlkem_encapsulate",
    "pqforge_mlkem_decapsulate",
    "pqforge_mldsa_keygen", "pqforge_mldsa_keygen_from_seed",
    "pqforge_mldsa_sign", "pqforge_mldsa_verify",
    "pqforge_aead_seal", "pqforge_aead_open",
    "pqforge_x25519_keygen", "pqforge_x25519_ecdh",
    "pqforge_ed25519_keygen", "pqforge_ed25519_public_from_seed",
    "pqforge_ed25519_sign", "pqforge_ed25519_verify",
    "pqforge_stream_seal_file", "pqforge_stream_open_file"]

/-- The core, as a library that is loaded. -/
def pqforgeCore
    {Build : Type}
    (build : Build)
    (digest : Except String Bytes) :
    SharedLibrary Build where
  lookup := fun name =>
    if name ∈ exportedSymbols then
      .ok ()
    else
      .error s!"Failed to lookup symbol '{name}'"
  abiVersion := pqforgeAbiVersion
  cryptoSelftest := pqforgeCryptoSelftest digest
  build := build

/-! ## The Dart side -/

variable {Build : Type}

namespace SharedLibrary

/-- Look up one symbol after the other. -/
def bind
    (library : SharedLibrary Build)
    (names : List String) :
    Except String Unit :=
  names.forM library.lookup

/-- Binding succeeds exactly if every lookup does. -/
theorem bind_eq_ok
    (library : SharedLibrary Build)
    (names : List String) :
    library.bind names = .ok () ↔
      ∀ name ∈ names, library.lookup name = .ok () := by
  induction names with
  | nil =>
      refine iff_of_true rfl ?_
      intro name member
      cases member
  | cons name rest inductionHypothesis =>
      rw [List.forall_mem_cons, ← inductionHypothesis]
      cases found : library.lookup name with
      | error reason =>
          have stops : library.bind (name :: rest) = .error reason := by
            simp only [SharedLibrary.bind, List.forM_eq_forM,
              List.forM_cons, found]
            rfl
          rw [stops]
          refine iff_of_false (fun bound => ?_) (fun both => ?_)
          · cases bound
          · cases both.1
      | ok _ =>
          have goesOn :
              library.bind (name :: rest) = library.bind rest := by
            simp only [SharedLibrary.bind, List.forM_eq_forM,
              List.forM_cons, found]
            rfl
          rw [goesOn]
          exact ⟨fun bound => ⟨rfl, bound⟩, fun both => both.2⟩

end SharedLibrary

/-- The symbols of `_Bindings`, in the order of its initialisers. -/
def bindings : List String :=
  ["pqforge_abi_version", "pqforge_crypto_selftest",
    "pqforge_mlkem_keygen", "pqforge_mlkem_encapsulate",
    "pqforge_mlkem_decapsulate", "pqforge_mldsa_keygen",
    "pqforge_mldsa_sign", "pqforge_mldsa_verify",
    "pqforge_aead_seal", "pqforge_aead_open",
    "pqforge_mldsa_keygen_from_seed",
    "pqforge_x25519_keygen", "pqforge_x25519_ecdh",
    "pqforge_ed25519_keygen", "pqforge_ed25519_public_from_seed",
    "pqforge_ed25519_sign", "pqforge_ed25519_verify"]

/-- The symbols of the file pipeline. -/
def filePipelineBindings : List String :=
  ["pqforge_stream_seal_file", "pqforge_stream_open_file"]

/-- `NativeBackend.open`, up to the backend around the bound library. -/
def NativeBackend.open
    (loader : Loader Build)
    (libraryPath : String) :
    Except PqForgeFfiException (SharedLibrary Build) := do
  let lib ← (loader libraryPath).mapError fun e =>
    PqForgeFfiException.nativeBinding
      ("cannot open \"" ++ libraryPath ++ "\": " ++ e)
  (lib.bind bindings).mapError fun e =>
    PqForgeFfiException.nativeBinding
      ("symbol lookup failed in \"" ++ libraryPath ++ "\": " ++ e)
  if lib.abiVersion ≠ kPqForgeAbiVersion then
    .error (.nativeBinding
      s!"ABI mismatch: native={lib.abiVersion} expected={kPqForgeAbiVersion}")
  else if lib.cryptoSelftest ≠ PqForgeErrorCode.ok.value then
    .error (.nativeBinding "AWS-LC crypto self-test failed")
  else
    .ok lib

/-- `PqForgeFileCipher.open`, up to the cipher around the bound library. -/
def PqForgeFileCipher.openLibrary
    (loader : Loader Build)
    (libraryPath : String) :
    Except PqForgeFfiException (SharedLibrary Build) := do
  let lib ← (loader libraryPath).mapError fun e =>
    PqForgeFfiException.nativeBinding
      ("cannot open \"" ++ libraryPath ++ "\": " ++ e)
  (lib.bind filePipelineBindings).mapError fun e =>
    PqForgeFfiException.nativeBinding
      ("file-pipeline symbol lookup failed: " ++ e)
  .ok lib

/-- A library that passes all checks of the backend. -/
structure SharedLibrary.Valid (library : SharedLibrary Build) : Prop where
  symbols : ∀ name ∈ bindings, library.lookup name = .ok ()
  abiVersion : library.abiVersion = kPqForgeAbiVersion
  selftest : library.cryptoSelftest = PqForgeErrorCode.ok.value

section Opening

variable {loader : Loader Build}
variable {libraryPath : String}
variable {library : SharedLibrary Build}

/-- The native backend is opened over the library at the path if that is valid. -/
theorem NativeBackend.open_eq_ok_iff :
    NativeBackend.open loader libraryPath = .ok library ↔
      loader libraryPath = .ok library ∧ library.Valid := by
  constructor
  · intro opened
    obtain ⟨lib, loads, checked⟩ := except_bind_eq_ok opened
    obtain ⟨_, binds, checked⟩ := except_bind_eq_ok checked
    have symbols := (lib.bind_eq_ok bindings).mp (mapError_eq_ok binds)
    by_cases sameAbi : lib.abiVersion = kPqForgeAbiVersion
    · rw [if_neg (not_not.mpr sameAbi)] at checked
      by_cases passes :
          lib.cryptoSelftest = PqForgeErrorCode.ok.value
      · rw [if_neg (not_not.mpr passes)] at checked
        obtain rfl := Except.ok.inj checked
        exact ⟨mapError_eq_ok loads, symbols, sameAbi, passes⟩
      · rw [if_pos passes] at checked
        cases checked
    · rw [if_pos sameAbi] at checked
      cases checked
  · rintro ⟨loads, valid⟩
    have binds := (library.bind_eq_ok bindings).mpr valid.symbols
    simp [NativeBackend.open, loads, binds, valid.abiVersion,
      valid.selftest, Except.mapError, bind, Except.bind]

/-- Whatever is wrong, it is reported as a `NativeBindingException`. -/
theorem NativeBackend.open_eq_error
    {exception : PqForgeFfiException}
    (failed :
      NativeBackend.open loader libraryPath = .error exception) :
    exception.runtimeType = .nativeBinding := by
  rw [NativeBackend.open] at failed
  rcases except_bind_eq_error failed with unloaded | ⟨lib, _, failed⟩
  · cases loaded : loader libraryPath with
    | error reason =>
        rw [loaded] at unloaded
        cases unloaded
        rfl
    | ok lib =>
        rw [loaded] at unloaded
        cases unloaded
  · rcases except_bind_eq_error failed with unbound | ⟨_, _, failed⟩
    · cases bound : lib.bind bindings with
      | error reason =>
          rw [bound] at unbound
          cases unbound
          rfl
      | ok _ =>
          rw [bound] at unbound
          cases unbound
    · split at failed
      · cases failed
        rfl
      · split at failed
        · cases failed
          rfl
        · cases failed

/-- The core is valid exactly where AWS-LC's SHA-256 is live. -/
theorem pqforgeCore_valid_iff
    (build : Build)
    (digest : Except String Bytes) :
    (pqforgeCore build digest).Valid ↔
      ∃ bytes, digest = .ok bytes ∧ bytes.length = 32 := by
  have exported :
      ∀ name ∈ bindings,
        (pqforgeCore build digest).lookup name = .ok () := by
    intro name member
    have provided : bindings ⊆ exportedSymbols := by
      decide
    exact if_pos (provided member)
  constructor
  · intro valid
    have passes := valid.selftest
    cases digest with
    | error message =>
        cases passes
    | ok bytes =>
        refine ⟨bytes, rfl, ?_⟩
        by_contra other
        have dead : (bytes.length == 32) = false := by
          simpa using other
        simp only [pqforgeCore, pqforgeCryptoSelftest, awsLcLive,
          Except.map, dead] at passes
        cases passes
  · rintro ⟨bytes, same, length⟩
    subst same
    refine ⟨exported, rfl, ?_⟩
    have live : (bytes.length == 32) = true := by
      simpa using length
    simp only [pqforgeCore, pqforgeCryptoSelftest, awsLcLive, Except.map,
      live]
    rfl

end Opening

end PqForgeFfi
