import PqForgeFfi.NativeBackend
import PqForgeFfi.NativeClassical
import PqForgeFfi.NativeKem
import PqForgeFfi.NativeSign

namespace PqForgeFfi.NativeBackend

open NativeAead NativeClassical NativeKem NativeSign

/-!
# The operations of the native backend

Every operation of `NativeBackend` that returns bytes, composed with its
exported function: the status that the native call returned, and how the
operation then ended.
-/

/-- A native call's status, and how the operation around it ended. -/
structure Operation (Output : Type) where
  rc : Int
  ending : Except DartThrow Output

/-- `calloc<Uint8>(outBytes)` and `calloc<Size>()`. -/
def calloc (outBytes : Nat) : CallerOutput where
  out := some (List.replicate outBytes 0)
  cap := outBytes
  len := some 0
  valid := by
    intro bytes same
    obtain rfl := Option.some.inj same
    exact Nat.le_of_eq List.length_replicate.symm

/-- A status that is not `ok` is thrown, else the one output is copied. -/
def returned
    (call : Int × CallerOutput)
    (op : String) :
    Operation Bytes where
  rc := call.1
  ending :=
    if call.1 ≠ PqForgeErrorCode.ok.value then
      .error (.ffi (throwStatus call.1 op))
    else
      .ok call.2.contents

/-- A status that is not `ok` is thrown, else the two outputs are copied. -/
def returnedBoth
    {Output : Type}
    (together : Bytes → Bytes → Output)
    (call : Int × CallerOutput × CallerOutput)
    (op : String) :
    Operation Output where
  rc := call.1
  ending :=
    if call.1 ≠ PqForgeErrorCode.ok.value then
      .error (.ffi (throwStatus call.1 op))
    else
      .ok (together call.2.1.contents call.2.2.contents)

/-! ## Marshalling helpers -/

/-- `_keygen`. -/
def keygen
    (fn :
      Int →
        CallerOutput →
        CallerOutput →
        Int × CallerOutput × CallerOutput)
    (algId : Int)
    (pubBytes secBytes : Nat)
    (op : String) :
    Operation PqKeyPair :=
  returnedBoth PqKeyPair.mk
    (fn algId (calloc pubBytes) (calloc secBytes)) op

/-- `_twoInOneOut`. -/
def twoInOneOut
    (fn :
      Int →
        CSlice →
        CSlice →
        CallerOutput →
        Int × CallerOutput)
    (algId : Int)
    (inA inB : Bytes)
    (outBytes : Nat)
    (op : String) :
    Operation Bytes :=
  returned
    (fn algId (toNative inA) (toNative inB) (calloc outBytes)) op

/-- The seed argument of `_classicalKeygen`: `nullptr` for no seed. -/
def seedArgument : Option Bytes → CSlice
  | none => .null 0
  | some seed => toNative seed

/-- `_classicalKeygen`. -/
def classicalKeygen
    (fn :
      CSlice →
        CallerOutput →
        CallerOutput →
        Int × CallerOutput × CallerOutput)
    (seed : Option Bytes)
    (pubBytes secBytes : Nat)
    (op : String) :
    Operation (Bytes × Bytes) :=
  returnedBoth Prod.mk
    (fn (seedArgument seed) (calloc pubBytes) (calloc secBytes)) op

/-- `_classicalTwoInOneOut`. -/
def classicalTwoInOneOut
    (fn :
      CSlice →
        CSlice →
        CallerOutput →
        Int × CallerOutput)
    (inA inB : Bytes)
    (outBytes : Nat)
    (op : String) :
    Operation Bytes :=
  returned (fn (toNative inA) (toNative inB) (calloc outBytes)) op

/-- The arguments that `_aead` passes. -/
def aeadArgs
    (algId : Int)
    (key nonce aad input : Bytes) :
    AeadArgs where
  algId := algId
  key := toNative key
  nonce := toNative nonce
  aad := toNative aad
  input := toNative input

/-- `_aead`, with the status of its native call. -/
def aeadOperation
    (fn : AeadArgs → CallerOutput → Int × CallerOutput)
    (algId : Int)
    (key nonce aad input : Bytes)
    (outBytes : Nat)
    (op : String) :
    Operation Bytes :=
  returned
    (fn (aeadArgs algId key nonce aad input) (allocated outBytes)) op

/-- The operation with its status ends as `_aead` does. -/
theorem aeadOperation_ending
    (fn : AeadArgs → CallerOutput → Int × CallerOutput)
    (algId : Int)
    (key nonce aad input : Bytes)
    (outBytes : Nat)
    (op : String) :
    (aeadOperation fn algId key nonce aad input outBytes op).ending =
      aead fn algId key nonce aad input outBytes op :=
  rfl

/-! ## Operations -/

/-- `kemGenerate`. -/
def kemGenerate
    (aws : AwsLcKem)
    (declared : DeclaredSizes)
    (coins : Bytes)
    (algorithm : PqKemAlgorithm) :
    Operation PqKeyPair :=
  keygen (pqforgeMlkemKeygen aws coins) algorithm.index
    (declared.kemPublicKeyBytes algorithm)
    (declared.kemSecretKeyBytes algorithm)
    "ML-KEM keygen"

/-- `kemEncapsulate`. -/
def kemEncapsulate
    (aws : AwsLcKem)
    (declared : DeclaredSizes)
    (coins : Bytes)
    (algorithm : PqKemAlgorithm)
    (publicKey : Bytes) :
    Operation PqKemEncapsulation :=
  returnedBoth PqKemEncapsulation.mk
    (pqforgeMlkemEncapsulate aws coins algorithm.index
      (toNative publicKey)
      (calloc (declared.ciphertextBytes algorithm))
      (calloc (declared.sharedSecretBytes algorithm)))
    "ML-KEM encapsulate"

/-- `kemDecapsulate`. -/
def kemDecapsulate
    (aws : AwsLcKem)
    (declared : DeclaredSizes)
    (algorithm : PqKemAlgorithm)
    (secretKey ciphertext : Bytes) :
    Operation Bytes :=
  twoInOneOut (pqforgeMlkemDecapsulate aws) algorithm.index secretKey
    ciphertext (declared.sharedSecretBytes algorithm)
    "ML-KEM decapsulate"

/-- `signGenerate`. -/
def signGenerate
    (aws : AwsLcPqdsa)
    (declared : DeclaredSizes)
    (coins : Bytes)
    (algorithm : PqSignatureAlgorithm) :
    Operation PqKeyPair :=
  keygen (pqforgeMldsaKeygen aws coins) algorithm.index
    (declared.signPublicKeyBytes algorithm)
    (declared.signSecretKeyBytes algorithm)
    "ML-DSA keygen"

/-- `signGenerateFromSeed`. -/
def signGenerateFromSeed
    (aws : AwsLcPqdsa)
    (declared : DeclaredSizes)
    (algorithm : PqSignatureAlgorithm)
    (seed : Bytes) :
    Operation PqKeyPair :=
  returnedBoth PqKeyPair.mk
    (pqforgeMldsaKeygenFromSeed aws algorithm.index (toNative seed)
      (calloc (declared.signPublicKeyBytes algorithm))
      (calloc (declared.signSecretKeyBytes algorithm)))
    "ML-DSA keygen from seed"

/-- `sign`. -/
def sign
    (aws : AwsLcPqdsa)
    (declared : DeclaredSizes)
    (coins : Bytes)
    (algorithm : PqSignatureAlgorithm)
    (secretKey message : Bytes) :
    Operation Bytes :=
  twoInOneOut (pqforgeMldsaSign aws coins) algorithm.index secretKey
    message (declared.signatureBytes algorithm) "ML-DSA sign"

/-- `verify`: every status but `ok` means that it did not verify. -/
def verify
    (aws : AwsLcPqdsa)
    (algorithm : PqSignatureAlgorithm)
    (publicKey message signature : Bytes) :
    Except DartThrow Bool :=
  let rc :=
    pqforgeMldsaVerify aws algorithm.index (toNative publicKey)
      (toNative message) (toNative signature)
  .ok (rc == PqForgeErrorCode.ok.value)

/-- `aeadSeal`, with the status of its native call. -/
def aeadSealOperation
    (aws : AwsLc)
    (algorithm : PqAeadAlgorithm)
    (key nonce plaintext aad : Bytes) :
    Operation Bytes :=
  aeadOperation (pqforgeAeadSeal aws) algorithm.id key nonce aad
    plaintext (plaintext.length + algorithm.tagBytes) "AEAD seal"

/-- The sealing operation with its status ends as `aeadSeal` does. -/
theorem aeadSealOperation_ending
    (aws : AwsLc)
    (algorithm : PqAeadAlgorithm)
    (key nonce plaintext aad : Bytes) :
    (aeadSealOperation aws algorithm key nonce plaintext aad).ending =
      aeadSeal aws algorithm key nonce plaintext aad :=
  aeadOperation_ending _ _ _ _ _ _ _ _

/-- `aeadOpen`, with the status of its native call. -/
def aeadOpenOperation
    (aws : AwsLc)
    (algorithm : PqAeadAlgorithm)
    (key nonce ciphertext aad : Bytes) :
    Operation Bytes :=
  let outBytes :=
    if ciphertext.length ≥ algorithm.tagBytes then
      ciphertext.length - algorithm.tagBytes
    else
      0
  aeadOperation (pqforgeAeadOpen aws) algorithm.id key nonce aad
    ciphertext outBytes "AEAD open"

/-- The opening operation with its status ends as `aeadOpen` does. -/
theorem aeadOpenOperation_ending
    (aws : AwsLc)
    (algorithm : PqAeadAlgorithm)
    (key nonce ciphertext aad : Bytes) :
    (aeadOpenOperation aws algorithm key nonce ciphertext aad).ending =
      aeadOpen aws algorithm key nonce ciphertext aad :=
  aeadOperation_ending _ _ _ _ _ _ _ _

/-- `x25519Generate`. -/
def x25519Generate
    (aws : AwsLcClassical)
    (rng : Rng)
    (seed : Option Bytes) :
    Operation (Bytes × Bytes) :=
  classicalKeygen (pqforgeX25519Keygen aws rng) seed 32 32
    "X25519 keygen"

/-- `x25519SharedSecret`. -/
def x25519SharedSecret
    (aws : AwsLcClassical)
    (secretKey remotePublicKey : Bytes) :
    Operation Bytes :=
  classicalTwoInOneOut (pqforgeX25519Ecdh aws) secretKey
    remotePublicKey 32 "X25519 ECDH"

/-- `ed25519Generate`. -/
def ed25519Generate
    (aws : AwsLcClassical)
    (rng : Rng)
    (seed : Option Bytes) :
    Operation (Bytes × Bytes) :=
  classicalKeygen (pqforgeEd25519Keygen aws rng) seed 32 32
    "Ed25519 keygen"

/-- `ed25519PublicFromSeed`. -/
def ed25519PublicFromSeed
    (aws : AwsLcClassical)
    (seed : Bytes) :
    Operation Bytes :=
  returned
    (pqforgeEd25519PublicFromSeed aws (toNative seed) (calloc 32))
    "Ed25519 public from seed"

/-- `ed25519Sign`. -/
def ed25519Sign
    (aws : AwsLcClassical)
    (seed message : Bytes) :
    Operation Bytes :=
  classicalTwoInOneOut (pqforgeEd25519Sign aws) seed message 64
    "Ed25519 sign"

end PqForgeFfi.NativeBackend
