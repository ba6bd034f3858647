import PqForgeFfi.AeadContract
import PqForgeFfi.NativeAead

namespace PqForgeFfi.NativeBackend

open NativeAead

/-!
# AEAD of the native backend

`NativeBackend.aeadSeal` and `NativeBackend.aeadOpen`: the arguments are copied
into native memory, the exported function is called, and its status becomes an
exception or its output the result.
-/

/-- `_toNative`: a valid pointer, also to no bytes. -/
def toNative (data : Bytes) : CSlice :=
  .valid data

/-- The zeroed buffer and length cell that a call allocates. -/
def allocated (outBytes : Nat) : CallerOutput where
  out :=
    some (List.replicate (if outBytes = 0 then 1 else outBytes) 0)
  cap := outBytes
  len := some 0
  valid := by
    intro bytes same
    obtain rfl := Option.some.inj same
    rw [List.length_replicate]
    split <;> omega

/-- The exception that `_throwStatus` throws. -/
def throwStatus
    (rc : Int)
    (op : String) :
    PqForgeFfiException :=
  let code := PqForgeErrorCode.fromValue rc
  let unexpected :=
    s!"{op}: {code.name} (status {rc})"
  match code with
  | .invalidKey => .invalidKey s!"{op}: invalid key"
  | .invalidCiphertext =>
      .invalidCiphertext s!"{op}: invalid ciphertext"
  | .authFailed => .verificationFailed s!"{op}: verification failed"
  | .unsupported => .unsupportedBackend s!"{op}: unsupported"
  | .ok => .internalCrypto unexpected
  | .unaligned => .internalCrypto unexpected
  | .io => .internalCrypto unexpected
  | .device => .internalCrypto unexpected
  | .anchor => .internalCrypto unexpected
  | .internal => .internalCrypto unexpected
  | .nullArgument => .internalCrypto unexpected
  | .bufferTooSmall => .internalCrypto unexpected

/-- `_aead`. -/
def aead
    (fn : AeadArgs → CallerOutput → Int × CallerOutput)
    (algId : Int)
    (key nonce aad input : Bytes)
    (outBytes : Nat)
    (op : String) :
    Except DartThrow Bytes :=
  let args : AeadArgs := {
    algId
    key := toNative key
    nonce := toNative nonce
    aad := toNative aad
    input := toNative input }
  let (rc, caller) := fn args (allocated outBytes)
  if rc ≠ PqForgeErrorCode.ok.value then
    .error (.ffi (throwStatus rc op))
  else
    .ok caller.contents

/-- `aeadSeal`. -/
def aeadSeal
    (aws : AwsLc)
    (algorithm : PqAeadAlgorithm)
    (key nonce plaintext aad : Bytes) :
    Except DartThrow Bytes :=
  aead (pqforgeAeadSeal aws) algorithm.id key nonce aad plaintext
    (plaintext.length + algorithm.tagBytes) "AEAD seal"

/-- `aeadOpen`. -/
def aeadOpen
    (aws : AwsLc)
    (algorithm : PqAeadAlgorithm)
    (key nonce ciphertext aad : Bytes) :
    Except DartThrow Bytes :=
  let outBytes :=
    if ciphertext.length ≥ algorithm.tagBytes then
      ciphertext.length - algorithm.tagBytes
    else
      0
  aead (pqforgeAeadOpen aws) algorithm.id key nonce aad ciphertext
    outBytes "AEAD open"

/-! ## From the native body to the Dart result -/

/-- The Dart side recognises success by the native code for it. -/
theorem ok_value : PqForgeErrorCode.ok.value = PqForgeStatus.ok.code :=
  rfl

section Marshalling

variable {body : AeadArgs → Except Exit Bytes}
variable {algorithm : PqAeadAlgorithm}
variable {key nonce aad input : Bytes}

/-- A failure of the native body is thrown by its status. -/
theorem aead_of_failure
    {exit : Exit}
    (failed :
      body (validArgs algorithm key nonce aad input) = .error exit)
    (fails : exit.IsFailure)
    (outBytes : Nat)
    (op : String) :
    aead (fun args => exportedOutput (body args)) algorithm.id key nonce
        aad input outBytes op =
      .error (.ffi (throwStatus exit.status.code op)) := by
  have called :
      exportedOutput (body (validArgs algorithm key nonce aad input))
          (allocated outBytes) =
        (exit.status.code, allocated outBytes) := by
    rw [failed, exportedOutput_error]
  have differs : exit.status.code ≠ PqForgeErrorCode.ok.value := by
    rw [ok_value]
    exact mt PqForgeStatus.code_injective fails
  simp only [validArgs] at called
  simp only [aead, toNative, called]
  rw [if_pos differs]

/-- An output of the native body that fits is what the Dart side returns. -/
theorem aead_of_output
    {output : Bytes}
    (returned :
      body (validArgs algorithm key nonce aad input) = .ok output)
    {outBytes : Nat}
    (fits : output.length ≤ outBytes)
    (op : String) :
    aead (fun args => exportedOutput (body args)) algorithm.id key nonce
        aad input outBytes op =
      .ok output := by
  obtain ⟨succeeded, readBack⟩ :=
    exportedOutput_of_fits (allocated outBytes) rfl rfl fits
  rw [← returned] at succeeded readBack
  simp only [validArgs] at succeeded readBack
  simp only [aead, toNative, succeeded, readBack]
  rw [ok_value, if_neg (fun differs => differs rfl)]

end Marshalling

section Operations

variable {aws : AwsLc}
variable {algorithm : PqAeadAlgorithm}
variable {key nonce : Bytes}

/-- A wrong key or nonce length makes a seal throw `InvalidKeyException`. -/
theorem aeadSeal_of_sizes
    (sizes : aws.Sizes)
    (wrong : ¬(key.length = 32 ∧ nonce.length = 12))
    (plaintext aad : Bytes) :
    aeadSeal aws algorithm key nonce plaintext aad =
      .error (.ffi (.invalidKey "AEAD seal: invalid key")) :=
  aead_of_failure (sealBody_of_sizes sizes wrong aad plaintext)
    (fun isOk => by cases isOk) _ _

/-- With the right lengths a seal of the AWS-LC output's length returns it. -/
theorem aeadSeal_of_output
    (sizes : aws.Sizes)
    (keyLength : key.length = 32)
    (nonceLength : nonce.length = 12)
    {plaintext aad output : Bytes}
    (sealed :
      aws.sealInPlaceAppendTag algorithm key nonce aad plaintext =
        some output)
    (appendsTag : output.length = plaintext.length + 16) :
    aeadSeal aws algorithm key nonce plaintext aad = .ok output := by
  have returned :
      sealBody aws (validArgs algorithm key nonce aad plaintext) =
        .ok output := by
    rw [sealBody_eq sizes keyLength nonceLength, sealed]
  refine aead_of_output returned (Nat.le_of_eq ?_) _
  rw [appendsTag, PqAeadAlgorithm.tagBytes_eq]

/-- What cannot hold a tag makes an open throw before anything is checked. -/
theorem aeadOpen_of_short
    {ciphertext : Bytes}
    (short : ciphertext.length < 16)
    (aad : Bytes) :
    aeadOpen aws algorithm key nonce ciphertext aad =
      .error (.ffi (.invalidCiphertext
        "AEAD open: invalid ciphertext")) :=
  aead_of_failure (openBody_of_short short aad)
    (fun isOk => by cases isOk) _ _

/-- A wrong key or nonce length makes an open throw `InvalidKeyException`. -/
theorem aeadOpen_of_sizes
    (sizes : aws.Sizes)
    {ciphertext : Bytes}
    (holdsTag : 16 ≤ ciphertext.length)
    (wrong : ¬(key.length = 32 ∧ nonce.length = 12))
    (aad : Bytes) :
    aeadOpen aws algorithm key nonce ciphertext aad =
      .error (.ffi (.invalidKey "AEAD open: invalid key")) :=
  aead_of_failure (openBody_of_sizes sizes holdsTag wrong aad)
    (fun isOk => by cases isOk) _ _

/-- What AWS-LC refuses makes an open throw. -/
theorem aeadOpen_of_refusal
    (sizes : aws.Sizes)
    (keyLength : key.length = 32)
    (nonceLength : nonce.length = 12)
    {ciphertext aad : Bytes}
    (holdsTag : 16 ≤ ciphertext.length)
    (refused :
      aws.openInPlace algorithm key nonce aad ciphertext = none) :
    aeadOpen aws algorithm key nonce ciphertext aad =
      .error (.ffi (.verificationFailed
        "AEAD open: verification failed")) := by
  have failed :
      openBody aws (validArgs algorithm key nonce aad ciphertext) =
        .error (.returned .authFailed) := by
    rw [openBody_eq sizes keyLength nonceLength holdsTag, refused]
  exact aead_of_failure failed (fun isOk => by cases isOk) _ _

/-- What AWS-LC opens to the length of the input less a tag is returned. -/
theorem aeadOpen_of_output
    (sizes : aws.Sizes)
    (keyLength : key.length = 32)
    (nonceLength : nonce.length = 12)
    {ciphertext aad plaintext : Bytes}
    (opened :
      aws.openInPlace algorithm key nonce aad ciphertext =
        some plaintext)
    (removesTag : plaintext.length + 16 = ciphertext.length) :
    aeadOpen aws algorithm key nonce ciphertext aad =
      .ok plaintext := by
  have holdsTag : 16 ≤ ciphertext.length := by
    omega
  have returned :
      openBody aws (validArgs algorithm key nonce aad ciphertext) =
        .ok plaintext := by
    rw [openBody_eq sizes keyLength nonceLength holdsTag, opened]
  refine aead_of_output returned ?_ _
  rw [PqAeadAlgorithm.tagBytes_eq, if_pos holdsTag]
  omega

end Operations

end PqForgeFfi.NativeBackend
