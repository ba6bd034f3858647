import Mathlib.Algebra.Ring.Int.Defs
import Mathlib.Algebra.Ring.Nat

namespace PqForgeFfi

/-!
# What Dart code throws

The package's own error taxonomy, and the other objects that reach its code:
argument errors of the Dart core library, exceptions of the `pqforge` package,
and anything else a library throws.
-/

/-- Byte strings: Dart's `Uint8List`, Rust's `Vec<u8>` and `&[u8]`. -/
abbrev Bytes := List UInt8

/-- Stable status codes shared with the Rust `extern "C"` boundary. -/
inductive PqForgeErrorCode where
  | ok
  | invalidKey
  | invalidCiphertext
  | authFailed
  | unaligned
  | io
  | device
  | anchor
  | unsupported
  | internal
  | nullArgument
  | bufferTooSmall
  deriving Repr, DecidableEq

namespace PqForgeErrorCode

/-- The on-the-wire integer returned by the native C-ABI. -/
def value : PqForgeErrorCode → Int
  | .ok => 0
  | .invalidKey => 1
  | .invalidCiphertext => 2
  | .authFailed => 3
  | .unaligned => 4
  | .io => 5
  | .device => 6
  | .anchor => 7
  | .unsupported => 8
  | .internal => 9
  | .nullArgument => 10
  | .bufferTooSmall => 11

/-- The enumeration in declaration order. -/
def values : List PqForgeErrorCode :=
  [.ok, .invalidKey, .invalidCiphertext, .authFailed, .unaligned, .io,
    .device, .anchor, .unsupported, .internal, .nullArgument,
    .bufferTooSmall]

/-- The code with a raw status value; unknown values fold to `internal`. -/
def fromValue (raw : Int) : PqForgeErrorCode :=
  (values.find? fun code => code.value == raw).getD .internal

/-- The name Dart gives the enumeration value. -/
def name : PqForgeErrorCode → String
  | .ok => "ok"
  | .invalidKey => "invalidKey"
  | .invalidCiphertext => "invalidCiphertext"
  | .authFailed => "authFailed"
  | .unaligned => "unaligned"
  | .io => "io"
  | .device => "device"
  | .anchor => "anchor"
  | .unsupported => "unsupported"
  | .internal => "internal"
  | .nullArgument => "nullArgument"
  | .bufferTooSmall => "bufferTooSmall"

/-- A code survives the trip over the C-ABI. -/
@[simp] theorem fromValue_value
    (code : PqForgeErrorCode) :
    fromValue code.value = code := by
  cases code <;> rfl

end PqForgeErrorCode

/-- The sealed class of every error the package raises, with its message. -/
inductive PqForgeFfiException where
  | invalidKey (message : String)
  | invalidCiphertext (message : String)
  | verificationFailed (message : String)
  | unsupportedBackend (message : String)
  | nativeBinding (message : String)
  | internalCrypto (message : String)
  deriving Repr, DecidableEq

/-- The subclasses of `PqForgeFfiException`, which callers `switch` over. -/
inductive PqForgeFfiExceptionClass where
  | invalidKey
  | invalidCiphertext
  | verificationFailed
  | unsupportedBackend
  | nativeBinding
  | internalCrypto
  deriving Repr, DecidableEq

/-- The name of a subclass. -/
def PqForgeFfiExceptionClass.name : PqForgeFfiExceptionClass → String
  | .invalidKey => "InvalidKeyException"
  | .invalidCiphertext => "InvalidCiphertextException"
  | .verificationFailed => "VerificationFailedException"
  | .unsupportedBackend => "UnsupportedBackendException"
  | .nativeBinding => "NativeBindingException"
  | .internalCrypto => "InternalCryptoException"

namespace PqForgeFfiException

/-- The subclass an exception belongs to. -/
def runtimeType : PqForgeFfiException → PqForgeFfiExceptionClass
  | .invalidKey _ => .invalidKey
  | .invalidCiphertext _ => .invalidCiphertext
  | .verificationFailed _ => .verificationFailed
  | .unsupportedBackend _ => .unsupportedBackend
  | .nativeBinding _ => .nativeBinding
  | .internalCrypto _ => .internalCrypto

def message : PqForgeFfiException → String
  | .invalidKey message => message
  | .invalidCiphertext message => message
  | .verificationFailed message => message
  | .unsupportedBackend message => message
  | .nativeBinding message => message
  | .internalCrypto message => message

/-- The code that the constructor of each subclass passes on. -/
def code : PqForgeFfiException → PqForgeErrorCode
  | .invalidKey _ => .invalidKey
  | .invalidCiphertext _ => .invalidCiphertext
  | .verificationFailed _ => .authFailed
  | .unsupportedBackend _ => .unsupported
  | .nativeBinding _ => .internal
  | .internalCrypto _ => .internal

/-- `'$runtimeType(${code.name}): $message'`. -/
def toString (exception : PqForgeFfiException) : String :=
  s!"{exception.runtimeType.name}({exception.code.name}): {exception.message}"

end PqForgeFfiException

/--
Any object that reaches the package as a thrown error, with its `toString` text
where that is the object's own.
-/
inductive DartThrow where
  | ffi (exception : PqForgeFfiException)
  | pqForgeException (message text : String)
  | argumentError (text : String)
  | rangeError (text : String)
  | other (text : String)
  deriving Repr, DecidableEq

namespace DartThrow

/-- Caught by `on ArgumentError`: `RangeError` is a subclass of it. -/
def isArgumentError : DartThrow → Bool
  | .argumentError _ => true
  | .rangeError _ => true
  | _ => false

/-- `e.toString()`. -/
def toString : DartThrow → String
  | .ffi exception => exception.toString
  | .pqForgeException _ text => text
  | .argumentError text => text
  | .rangeError text => text
  | .other text => text

end DartThrow

end PqForgeFfi
