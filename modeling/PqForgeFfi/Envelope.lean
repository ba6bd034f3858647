import PqForgeFfi.Backend
import PqForgeFfi.DartBytes
import PqForgeFfi.Segmentation.Trace

namespace PqForgeFfi.PqForgeEnvelope

open Segmentation

/-!
# The Dart envelope

`PqForgeEnvelope.seal` and `PqForgeEnvelope.open` over a backend and the
`pqforge` package, whose draws and key derivation may throw.  What a call draws
is an argument here.  A run is the trace of its AEAD calls; every buffer access
is checked.
-/

/-- What the envelope uses of the `pqforge` package. -/
structure PqForgePackage where
  ciphertextBytes : PqKemAlgorithm → Nat
  hkdfSha256 :
    (ikm salt info : Bytes) →
      (outputBytes : Nat) →
      Except DartThrow Bytes

/-- `_magic`: "PFE1". -/
def magic : Bytes := [0x50, 0x46, 0x45, 0x31]

/-- `_version`. -/
def version : Nat := 1

/-- `_aeadAes256Gcm`. -/
def aeadAes256Gcm : Nat := 0

/-- `_saltLen`. -/
def saltLen : Nat := 16

/-- `_nonceLen`. -/
def nonceLen : Nat := 12

/-- `_headerFixedLen`. -/
def headerFixedLen : Nat :=
  4 + 1 + 1 + 1 + saltLen + nonceLen + 4

/-- `_info`. -/
def info : Bytes :=
  "pqforge_ffi/v1/aes-256-gcm".toList.map fun unit =>
    UInt8.ofNat unit.toNat

/-- A salt, of its length. -/
abbrev Salt : Type :=
  { bytes : Bytes // bytes.length = saltLen }

/-- A nonce, of its length. -/
abbrev Nonce : Type :=
  { bytes : Bytes // bytes.length = nonceLen }

/--
What a call draws: the coins of the encapsulation, and from `PqBytes.randomBytes`
a salt and a nonce, unless it throws.
-/
structure Randomness where
  coins : Bytes
  salt : Except DartThrow Salt
  nonce : Except DartThrow Nonce

/-! ## Header codec -/

/-- `_writeU32`. -/
def writeU32
    (b : Bytes)
    (o v : Nat) :
    Except DartThrow Bytes := do
  let b ← setByte b o ((v >>> 24) &&& 0xFF)
  let b ← setByte b (o + 1) ((v >>> 16) &&& 0xFF)
  let b ← setByte b (o + 2) ((v >>> 8) &&& 0xFF)
  setByte b (o + 3) (v &&& 0xFF)

/-- `_readU32`. -/
def readU32
    (b : Bytes)
    (o : Nat) :
    Except DartThrow Nat := do
  let first ← byteAt b o
  let second ← byteAt b (o + 1)
  let third ← byteAt b (o + 2)
  let fourth ← byteAt b (o + 3)
  return (first.toNat <<< 24) ||| (second.toNat <<< 16) |||
    (third.toNat <<< 8) ||| fourth.toNat

/-- `_encodeHeader`. -/
def encodeHeader
    (kemAlg : PqKemAlgorithm)
    (salt nonce kemCt : Bytes) :
    Except DartThrow Bytes := do
  let header : Bytes :=
    List.replicate (headerFixedLen + kemCt.length) 0
  let header ← setAll header 0 magic
  let header ← setByte header 4 version
  let header ← setByte header 5 kemAlg.index
  let header ← setByte header 6 aeadAes256Gcm
  let header ← setAll header 7 salt
  let header ← setAll header (7 + saltLen) nonce
  let header ← writeU32 header (7 + saltLen + nonceLen) kemCt.length
  setAll header (7 + saltLen + nonceLen + 4) kemCt

/-- `_ParsedEnvelope`. -/
structure ParsedEnvelope where
  kemAlgorithm : PqKemAlgorithm
  salt : Bytes
  nonce : Bytes
  kemCiphertext : Bytes
  header : Bytes
  «sealed» : Bytes
  deriving Repr, DecidableEq

/-- `InvalidCiphertextException(message)`. -/
def malformed (message : String) : DartThrow :=
  .ffi (.invalidCiphertext message)

/-- The loop of `_decode` over the magic bytes, from index `i` on. -/
def checkMagic
    (e : Bytes)
    (i : Nat) :
    Bytes → Except DartThrow Unit
  | [] =>
      .ok ()
  | expected :: rest => do
      let byte ← byteAt e i
      if byte ≠ expected then
        .error (malformed "bad envelope magic")
      else
        checkMagic e (i + 1) rest

/-- `_decode`, behind the checks of the ids, at the offset of the salt. -/
def decodeFields
    (pqforge : PqForgePackage)
    (e : Bytes)
    (kemAlg : PqKemAlgorithm) :
    Except DartThrow ParsedEnvelope := do
  let salt ← sublistView e 7 (7 + saltLen : Nat)
  let nonce ← sublistView e (7 + saltLen : Nat)
    (7 + saltLen + nonceLen : Nat)
  let kemCtLen ← readU32 e (7 + saltLen + nonceLen)
  let o := 7 + saltLen + nonceLen + 4
  if kemCtLen ≠ pqforge.ciphertextBytes kemAlg then
    .error (malformed
      ("KEM ciphertext length " ++ toString kemCtLen ++ " != " ++
        toString (pqforge.ciphertextBytes kemAlg)))
  else if e.length < o + kemCtLen then
    .error (malformed "truncated KEM ciphertext")
  else do
    let kemCt ← sublistView e o (o + kemCtLen : Nat)
    let header ← sublistView e 0 (o + kemCtLen : Nat)
    let rest ← sublistView e (o + kemCtLen : Nat) e.length
    .ok {
      kemAlgorithm := kemAlg
      salt := salt
      nonce := nonce
      kemCiphertext := kemCt
      header := header
      «sealed» := rest }

/-- `_decode`. -/
def decode
    (pqforge : PqForgePackage)
    (e : Bytes) :
    Except DartThrow ParsedEnvelope :=
  if e.length < headerFixedLen then
    .error (malformed "envelope too short for header")
  else do
    checkMagic e 0 magic
    let version ← byteAt e 4
    if version.toNat ≠ PqForgeEnvelope.version then
      .error (malformed
        ("unsupported envelope version " ++ toString version.toNat))
    else do
      let kemAlgId ← byteAt e 5
      match PqKemAlgorithm.values[kemAlgId.toNat]? with
      | none =>
          .error (malformed
            ("bad KEM algorithm id " ++ toString kemAlgId.toNat))
      | some kemAlg => do
          let aeadId ← byteAt e 6
          if aeadId.toNat ≠ aeadAes256Gcm then
            .error (malformed
              ("unsupported AEAD id " ++ toString aeadId.toNat))
          else
            decodeFields pqforge e kemAlg

/-! ## Sealing and opening -/

/-- `_authData`. -/
def authData
    (header : Bytes)
    (aad : Option Bytes) :
    Except DartThrow Bytes :=
  match aad with
  | none =>
      .ok header
  | some aad =>
      if aad.isEmpty then
        .ok header
      else do
        let out : Bytes :=
          List.replicate (header.length + aad.length) 0
        let out ← setRange out 0 header.length header
        setRange out header.length (header.length + aad.length) aad

/-- One AES-256-GCM call, and its output unless it throws. -/
def aeadCall
    (operation :
      PqAeadAlgorithm →
        (key nonce input aad : Bytes) →
        Except DartThrow Bytes)
    (key nonce input associated : Bytes) :
    Trace AeadCall DartThrow Bytes :=
  let answer :=
    operation .aes256Gcm key nonce input associated
  Trace.record {
      algorithm := .aes256Gcm
      key := key
      nonce := nonce
      associated := associated
      input := input
      output := answer.toOption } >>= fun _ =>
    Trace.ofExcept answer

/-- `PqForgeEnvelope.seal`. -/
def «seal»
    (pqforge : PqForgePackage)
    (backend : PqForgeBackend)
    (kemAlgorithm : PqKemAlgorithm)
    (recipientPublicKey plaintext : Bytes)
    (aad : Option Bytes)
    (random : Randomness) :
    Trace AeadCall DartThrow Bytes := do
  let enc ← Trace.ofExcept
    (backend.kemEncapsulate kemAlgorithm recipientPublicKey random.coins)
  let salt ← Trace.ofExcept random.salt
  let nonce ← Trace.ofExcept random.nonce
  let key ← Trace.ofExcept
    (pqforge.hkdfSha256 enc.sharedSecret salt.val info
      PqAeadAlgorithm.aes256Gcm.keyBytes)
  let header ← Trace.ofExcept
    (encodeHeader kemAlgorithm salt.val nonce.val enc.ciphertext)
  let associated ← Trace.ofExcept (authData header aad)
  let frame ←
    aeadCall backend.aeadSeal key nonce.val plaintext associated
  let out : Bytes :=
    List.replicate (header.length + frame.length) 0
  let out ← Trace.ofExcept (setRange out 0 header.length header)
  Trace.ofExcept
    (setRange out header.length (header.length + frame.length) frame)

/-- `PqForgeEnvelope.open`. -/
def «open»
    (pqforge : PqForgePackage)
    (backend : PqForgeBackend)
    (recipientSecretKey envelope : Bytes)
    (aad : Option Bytes) :
    Trace AeadCall DartThrow Bytes := do
  let parsed ← Trace.ofExcept (decode pqforge envelope)
  let sharedSecret ← Trace.ofExcept
    (backend.kemDecapsulate parsed.kemAlgorithm recipientSecretKey
      parsed.kemCiphertext)
  let key ← Trace.ofExcept
    (pqforge.hkdfSha256 sharedSecret parsed.salt info
      PqAeadAlgorithm.aes256Gcm.keyBytes)
  let associated ← Trace.ofExcept (authData parsed.header aad)
  aeadCall backend.aeadOpen key parsed.nonce parsed.«sealed» associated

end PqForgeFfi.PqForgeEnvelope
