import PqForgeFfi.Backend

namespace PqForgeFfi

/-!
# AWS-LC and the C boundary

The parts of `aws_lc_rs::aead` that the native library calls, as parameters,
and the pointer arguments of its exported functions.
-/

/-- A pointer argument with its length: null, or valid for its bytes. -/
inductive CSlice where
  | null (len : Nat)
  | valid (bytes : Bytes)
  deriving Repr, DecidableEq

namespace CSlice

def isNull : CSlice → Bool
  | .null _ => true
  | .valid _ => false

def len : CSlice → Nat
  | .null len => len
  | .valid bytes => bytes.length

/-- `slice::from_raw_parts`, after the null check. -/
def bytes : CSlice → Bytes
  | .null _ => []
  | .valid bytes => bytes

end CSlice

/-- The operations of `aws_lc_rs::aead`; `none` is its `Unspecified` error. -/
structure AwsLc where
  unboundKey :
    PqAeadAlgorithm →
      (key : Bytes) →
      Bool
  assumeUnique : (nonce : Bytes) → Bool
  sealInPlaceAppendTag :
    PqAeadAlgorithm →
      (key nonce aad plaintext : Bytes) →
      Option Bytes
  openInPlace :
    PqAeadAlgorithm →
      (key nonce aad ciphertext : Bytes) →
      Option Bytes

/-- `LessSafeKey`: an algorithm with a key that `UnboundKey::new` accepted. -/
structure LessSafeKey where
  algorithm : PqAeadAlgorithm
  key : Bytes
  deriving Repr, DecidableEq

namespace AwsLc

/-- `UnboundKey::new(algorithm, key).map(LessSafeKey::new)`. -/
def lessSafeKey
    (aws : AwsLc)
    (algorithm : PqAeadAlgorithm)
    (key : Bytes) :
    Option LessSafeKey :=
  if aws.unboundKey algorithm key then
    some { algorithm, key }
  else
    none

/-- `Nonce::try_assume_unique_for_key`. -/
def tryAssumeUniqueForKey
    (aws : AwsLc)
    (nonce : Bytes) :
    Option Bytes :=
  if aws.assumeUnique nonce then
    some nonce
  else
    none

/-- Sealing under a raw key and nonce. -/
def sealWith
    (aws : AwsLc)
    (algorithm : PqAeadAlgorithm)
    (key nonce plaintext aad : Bytes) :
    Option Bytes := do
  let sealing ← aws.lessSafeKey algorithm key
  let nonce ← aws.tryAssumeUniqueForKey nonce
  aws.sealInPlaceAppendTag sealing.algorithm sealing.key nonce aad
    plaintext

/-- Opening under a raw key and nonce. -/
def openWith
    (aws : AwsLc)
    (algorithm : PqAeadAlgorithm)
    (key nonce ciphertext aad : Bytes) :
    Option Bytes := do
  let opening ← aws.lessSafeKey algorithm key
  let nonce ← aws.tryAssumeUniqueForKey nonce
  aws.openInPlace opening.algorithm opening.key nonce aad ciphertext

/-- Sealing appends a tag of 16 bytes, and opening takes it off. -/
structure OutputSizes (aws : AwsLc) : Prop where
  sealed :
    ∀ algorithm key nonce plaintext aad output,
      aws.sealWith algorithm key nonce plaintext aad = some output →
      output.length = plaintext.length + 16
  opened :
    ∀ algorithm key nonce ciphertext aad output,
      aws.openWith algorithm key nonce ciphertext aad = some output →
      output.length + 16 = ciphertext.length

/-- The documented sizes: keys of 32 bytes and nonces of 12, and no others. -/
structure Sizes (aws : AwsLc) : Prop where
  key :
    ∀ algorithm key,
      aws.unboundKey algorithm key = true ↔ key.length = 32
  nonce :
    ∀ nonce, aws.assumeUnique nonce = true ↔ nonce.length = 12

namespace Sizes

theorem lessSafeKey
    {aws : AwsLc}
    (sizes : aws.Sizes)
    (algorithm : PqAeadAlgorithm)
    {key : Bytes}
    (length : key.length = 32) :
    aws.lessSafeKey algorithm key = some { algorithm, key } := by
  rw [AwsLc.lessSafeKey, if_pos ((sizes.key algorithm key).mpr length)]

theorem lessSafeKey_none
    {aws : AwsLc}
    (sizes : aws.Sizes)
    (algorithm : PqAeadAlgorithm)
    {key : Bytes}
    (length : key.length ≠ 32) :
    aws.lessSafeKey algorithm key = none := by
  rw [AwsLc.lessSafeKey,
    if_neg (mt (sizes.key algorithm key).mp length)]

theorem tryAssumeUniqueForKey
    {aws : AwsLc}
    (sizes : aws.Sizes)
    {nonce : Bytes}
    (length : nonce.length = 12) :
    aws.tryAssumeUniqueForKey nonce = some nonce := by
  rw [AwsLc.tryAssumeUniqueForKey,
    if_pos ((sizes.nonce nonce).mpr length)]

theorem tryAssumeUniqueForKey_none
    {aws : AwsLc}
    (sizes : aws.Sizes)
    {nonce : Bytes}
    (length : nonce.length ≠ 12) :
    aws.tryAssumeUniqueForKey nonce = none := by
  rw [AwsLc.tryAssumeUniqueForKey,
    if_neg (mt (sizes.nonce nonce).mp length)]

end Sizes

end AwsLc

end PqForgeFfi
