import PqForgeFfi.DartErrors

namespace PqForgeFfi

/-!
# The backend contract

The algorithms, the operations that the envelope and the stream use of a
backend, and the record of one AEAD call.  The record is what the statements
about nonces, associated data and released plaintext are about.
-/

/-- AEAD suites supported across both backends. -/
inductive PqAeadAlgorithm where
  | aes256Gcm
  | chaCha20Poly1305
  deriving Repr, DecidableEq

namespace PqAeadAlgorithm

/-- The native C-ABI algorithm id. -/
def id : PqAeadAlgorithm → Int
  | .aes256Gcm => 0
  | .chaCha20Poly1305 => 1

def keyBytes : PqAeadAlgorithm → Nat
  | .aes256Gcm => 32
  | .chaCha20Poly1305 => 32

def nonceBytes : PqAeadAlgorithm → Nat
  | .aes256Gcm => 12
  | .chaCha20Poly1305 => 12

def tagBytes : PqAeadAlgorithm → Nat
  | .aes256Gcm => 16
  | .chaCha20Poly1305 => 16

/-- The name Dart gives the enumeration value. -/
def name : PqAeadAlgorithm → String
  | .aes256Gcm => "aes256Gcm"
  | .chaCha20Poly1305 => "chaCha20Poly1305"

@[simp] theorem keyBytes_eq (algorithm : PqAeadAlgorithm) :
    algorithm.keyBytes = 32 := by
  cases algorithm <;> rfl

@[simp] theorem nonceBytes_eq (algorithm : PqAeadAlgorithm) :
    algorithm.nonceBytes = 12 := by
  cases algorithm <;> rfl

@[simp] theorem tagBytes_eq (algorithm : PqAeadAlgorithm) :
    algorithm.tagBytes = 16 := by
  cases algorithm <;> rfl

end PqAeadAlgorithm

/-- ML-KEM parameter sets, in the order of `PqKemAlgorithm.index`. -/
inductive PqKemAlgorithm where
  | mlKem512
  | mlKem768
  | mlKem1024
  deriving Repr, DecidableEq

namespace PqKemAlgorithm

/-- The enumeration in declaration order. -/
def values : List PqKemAlgorithm :=
  [.mlKem512, .mlKem768, .mlKem1024]

def index : PqKemAlgorithm → Nat
  | .mlKem512 => 0
  | .mlKem768 => 1
  | .mlKem1024 => 2

/-- The index finds its algorithm in the enumeration. -/
@[simp] theorem getElem?_index (algorithm : PqKemAlgorithm) :
    values[algorithm.index]? = some algorithm := by
  cases algorithm <;> rfl

/-- An algorithm is found at its index only. -/
theorem index_of_getElem?
    {algorithm : PqKemAlgorithm}
    {position : Nat}
    (found : values[position]? = some algorithm) :
    position = algorithm.index := by
  match position with
  | 0 =>
      cases found
      rfl
  | 1 =>
      cases found
      rfl
  | 2 =>
      cases found
      rfl
  | _ + 3 =>
      cases found

end PqKemAlgorithm

/-- ML-DSA parameter sets, in the order of `PqSignatureAlgorithm.index`. -/
inductive PqSignatureAlgorithm where
  | mlDsa44
  | mlDsa65
  | mlDsa87
  deriving Repr, DecidableEq

def PqSignatureAlgorithm.index : PqSignatureAlgorithm → Nat
  | .mlDsa44 => 0
  | .mlDsa65 => 1
  | .mlDsa87 => 2

/-- A public key with its secret key. -/
structure PqKeyPair where
  publicKey : Bytes
  secretKey : Bytes
  deriving Repr, DecidableEq

/-- What KEM encapsulation returns. -/
structure PqKemEncapsulation where
  ciphertext : Bytes
  sharedSecret : Bytes
  deriving Repr, DecidableEq

/--
The operations of `PqForgeBackend` that the envelope and the stream call.
Encapsulation draws randomness; the drawn coins are an argument here.
-/
structure PqForgeBackend where
  kemEncapsulate :
    PqKemAlgorithm →
      (publicKey coins : Bytes) →
      Except DartThrow PqKemEncapsulation
  kemDecapsulate :
    PqKemAlgorithm →
      (secretKey ciphertext : Bytes) →
      Except DartThrow Bytes
  aeadSeal :
    PqAeadAlgorithm →
      (key nonce plaintext aad : Bytes) →
      Except DartThrow Bytes
  aeadOpen :
    PqAeadAlgorithm →
      (key nonce ciphertext aad : Bytes) →
      Except DartThrow Bytes

/-- One AEAD call with its arguments, and its output unless it was refused. -/
structure AeadCall where
  algorithm : PqAeadAlgorithm
  key : Bytes
  nonce : Bytes
  associated : Bytes
  input : Bytes
  output : Option Bytes
  deriving Repr, DecidableEq

/--
What a stream does to the outside: bytes one `read` returned, an AEAD call, and
a piece handed on, by `yield` in Dart and by `write_all` in Rust.
-/
inductive StreamEvent where
  | read (bytes : Bytes)
  | aead (call : AeadCall)
  | emit (piece : Bytes)
  deriving Repr, DecidableEq

namespace StreamEvent

def emitted? : StreamEvent → Option Bytes
  | .emit piece => some piece
  | _ => none

def aeadCall? : StreamEvent → Option AeadCall
  | .aead call => some call
  | _ => none

def bytesRead? : StreamEvent → Option Bytes
  | .read bytes => some bytes
  | _ => none

/-- Every event but reads. -/
def produced? : StreamEvent → Option StreamEvent
  | .read _ => none
  | event => some event

end StreamEvent

/-- The pieces handed on so far, in order. -/
def emitted (log : List StreamEvent) : List Bytes :=
  log.filterMap StreamEvent.emitted?

/-- The AEAD calls made so far, in order. -/
def aeadCalls (log : List StreamEvent) : List AeadCall :=
  log.filterMap StreamEvent.aeadCall?

/-- The bytes read so far. -/
def bytesRead (log : List StreamEvent) : Bytes :=
  (log.filterMap StreamEvent.bytesRead?).flatten

@[simp] theorem bytesRead_append (earlier later : List StreamEvent) :
    bytesRead (earlier ++ later) = bytesRead earlier ++ bytesRead later := by
  simp [bytesRead]

/-- Hiding the reads does not change what is handed on. -/
@[simp] theorem emitted_produced (log : List StreamEvent) :
    emitted (log.filterMap StreamEvent.produced?) = emitted log := by
  rw [emitted, emitted, List.filterMap_filterMap]
  congr 1
  funext event
  cases event <;> rfl

/-- Hiding the reads does not change the AEAD calls. -/
@[simp] theorem aeadCalls_produced (log : List StreamEvent) :
    aeadCalls (log.filterMap StreamEvent.produced?) = aeadCalls log := by
  rw [aeadCalls, aeadCalls, List.filterMap_filterMap]
  congr 1
  funext event
  cases event <;> rfl

end PqForgeFfi
