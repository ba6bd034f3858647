import PqForgeFfi.AwsLc
import PqForgeFfi.CBoundary

namespace PqForgeFfi.NativeAead

/-!
# AEAD over AWS-LC

`pqforge_aead_seal` and `pqforge_aead_open`.  A body is what the exported
closure computes before it writes its output.
-/

/-- `TAG_LEN`. -/
def tagLen : Nat := 16

/-- `aead_alg`. -/
def aeadAlg : Int → Option PqAeadAlgorithm
  | 0 => some .aes256Gcm
  | 1 => some .chaCha20Poly1305
  | _ => none

/-- `empty_or`. -/
def emptyOr (slice : CSlice) : Bytes :=
  if slice.len = 0 then
    []
  else
    slice.bytes

/-- The input arguments of an exported AEAD function. -/
structure AeadArgs where
  algId : Int
  key : CSlice
  nonce : CSlice
  aad : CSlice
  input : CSlice
  deriving Repr, DecidableEq

/-- The closure of `pqforge_aead_seal`. -/
def sealBody
    (aws : AwsLc)
    (args : AeadArgs) :
    Except Exit Bytes :=
  match aeadAlg args.algId with
  | none =>
      .error (.returned .invalidKey)
  | some alg =>
      if args.key.isNull || args.nonce.isNull ||
          (args.aad.isNull && args.aad.len != 0) ||
          (args.input.isNull && args.input.len != 0) then
        .error (.returned .nullArgument)
      else
        let aad := emptyOr args.aad
        let plaintext := emptyOr args.input
        match aws.lessSafeKey alg args.key.bytes with
        | none =>
            .error (.returned .invalidKey)
        | some sealing =>
            match aws.tryAssumeUniqueForKey args.nonce.bytes with
            | none =>
                .error (.returned .invalidKey)
            | some nonce =>
                match aws.sealInPlaceAppendTag sealing.algorithm
                    sealing.key nonce aad plaintext with
                | none =>
                    .error (.failed (.internal "AEAD seal failed"))
                | some output =>
                    .ok output

/-- The closure of `pqforge_aead_open`. -/
def openBody
    (aws : AwsLc)
    (args : AeadArgs) :
    Except Exit Bytes :=
  match aeadAlg args.algId with
  | none =>
      .error (.returned .invalidKey)
  | some alg =>
      if args.key.isNull || args.nonce.isNull || args.input.isNull ||
          (args.aad.isNull && args.aad.len != 0) then
        .error (.returned .nullArgument)
      else if args.input.len < tagLen then
        .error (.returned .invalidCiphertext)
      else
        let aad := emptyOr args.aad
        match aws.lessSafeKey alg args.key.bytes with
        | none =>
            .error (.returned .invalidKey)
        | some opening =>
            match aws.tryAssumeUniqueForKey args.nonce.bytes with
            | none =>
                .error (.returned .invalidKey)
            | some nonce =>
                match aws.openInPlace opening.algorithm opening.key
                    nonce aad args.input.bytes with
                | none =>
                    .error (.returned .authFailed)
                | some plaintext =>
                    .ok plaintext

/-- `pqforge_aead_seal`. -/
def pqforgeAeadSeal
    (aws : AwsLc)
    (args : AeadArgs)
    (caller : CallerOutput) :
    Int × CallerOutput :=
  exportedOutput (sealBody aws args) caller

/-- `pqforge_aead_open`. -/
def pqforgeAeadOpen
    (aws : AwsLc)
    (args : AeadArgs)
    (caller : CallerOutput) :
    Int × CallerOutput :=
  exportedOutput (openBody aws args) caller

/-! ## Arguments that are all valid -/

/-- The Dart-side ids are the ids of the native library. -/
@[simp] theorem aeadAlg_id (algorithm : PqAeadAlgorithm) :
    aeadAlg algorithm.id = some algorithm := by
  cases algorithm <;> rfl

/-- A valid slice is read whole. -/
@[simp] theorem emptyOr_valid (bytes : Bytes) :
    emptyOr (.valid bytes) = bytes := by
  rw [emptyOr]
  split
  · rename_i empty
    exact (List.eq_nil_of_length_eq_zero empty).symm
  · rfl

/-- Arguments without a null pointer, under a known algorithm. -/
def validArgs
    (algorithm : PqAeadAlgorithm)
    (key nonce aad input : Bytes) :
    AeadArgs where
  algId := algorithm.id
  key := .valid key
  nonce := .valid nonce
  aad := .valid aad
  input := .valid input

section Valid

variable {aws : AwsLc}
variable {algorithm : PqAeadAlgorithm}
variable {key nonce : Bytes}

/-- A wrong key or nonce length leaves the library without one of the two. -/
theorem refused_of_sizes
    (sizes : aws.Sizes)
    (algorithm : PqAeadAlgorithm)
    (wrong : ¬(key.length = 32 ∧ nonce.length = 12)) :
    aws.lessSafeKey algorithm key = none ∨
      aws.lessSafeKey algorithm key = some { algorithm, key } ∧
        aws.tryAssumeUniqueForKey nonce = none := by
  by_cases keyLength : key.length = 32
  · have nonceLength : nonce.length ≠ 12 :=
      fun same => wrong ⟨keyLength, same⟩
    exact .inr
      ⟨sizes.lessSafeKey algorithm keyLength,
        sizes.tryAssumeUniqueForKey_none nonceLength⟩
  · exact .inl (sizes.lessSafeKey_none algorithm keyLength)

/-- Valid arguments leave a seal to the library. -/
theorem sealBody_valid (aad plaintext : Bytes) :
    sealBody aws (validArgs algorithm key nonce aad plaintext) =
      match aws.lessSafeKey algorithm key with
      | none =>
          .error (.returned .invalidKey)
      | some sealing =>
          match aws.tryAssumeUniqueForKey nonce with
          | none =>
              .error (.returned .invalidKey)
          | some nonce =>
              match aws.sealInPlaceAppendTag sealing.algorithm
                  sealing.key nonce aad plaintext with
              | none =>
                  .error (.failed (.internal "AEAD seal failed"))
              | some output =>
                  .ok output := by
  simp only [sealBody, validArgs, aeadAlg_id, CSlice.isNull,
    Bool.false_and, Bool.or_self, Bool.false_eq_true, ↓reduceIte,
    CSlice.bytes, emptyOr_valid]

/-- A wrong key or nonce length is an invalid key to a seal. -/
theorem sealBody_of_sizes
    (sizes : aws.Sizes)
    (wrong : ¬(key.length = 32 ∧ nonce.length = 12))
    (aad plaintext : Bytes) :
    sealBody aws (validArgs algorithm key nonce aad plaintext) =
      .error (.returned .invalidKey) := by
  rw [sealBody_valid]
  rcases refused_of_sizes sizes algorithm wrong with
      noKey | ⟨asKey, noNonce⟩
  · simp only [noKey]
  · simp only [asKey, noNonce]

/-- With the right lengths a seal is the library's. -/
theorem sealBody_eq
    (sizes : aws.Sizes)
    (keyLength : key.length = 32)
    (nonceLength : nonce.length = 12)
    (aad plaintext : Bytes) :
    sealBody aws (validArgs algorithm key nonce aad plaintext) =
      match aws.sealInPlaceAppendTag algorithm key nonce aad
          plaintext with
      | none => .error (.failed (.internal "AEAD seal failed"))
      | some output => .ok output := by
  rw [sealBody_valid]
  simp only [sizes.lessSafeKey algorithm keyLength,
    sizes.tryAssumeUniqueForKey nonceLength]

/-- Before anything else an open refuses what cannot hold a tag. -/
theorem openBody_of_short
    {ciphertext : Bytes}
    (short : ciphertext.length < 16)
    (aad : Bytes) :
    openBody aws (validArgs algorithm key nonce aad ciphertext) =
      .error (.returned .invalidCiphertext) := by
  simp only [openBody, validArgs, aeadAlg_id, CSlice.isNull,
    Bool.false_and, Bool.or_self, Bool.false_eq_true, ↓reduceIte,
    CSlice.len, tagLen, short]

/-- Valid arguments that can hold a tag leave an open to the library. -/
theorem openBody_valid
    {ciphertext : Bytes}
    (holdsTag : 16 ≤ ciphertext.length)
    (aad : Bytes) :
    openBody aws (validArgs algorithm key nonce aad ciphertext) =
      match aws.lessSafeKey algorithm key with
      | none =>
          .error (.returned .invalidKey)
      | some opening =>
          match aws.tryAssumeUniqueForKey nonce with
          | none =>
              .error (.returned .invalidKey)
          | some nonce =>
              match aws.openInPlace opening.algorithm opening.key
                  nonce aad ciphertext with
              | none =>
                  .error (.returned .authFailed)
              | some plaintext =>
                  .ok plaintext := by
  simp only [openBody, validArgs, aeadAlg_id, CSlice.isNull,
    Bool.false_and, Bool.or_self, Bool.false_eq_true, ↓reduceIte,
    CSlice.len, tagLen, Nat.not_lt.mpr holdsTag, CSlice.bytes,
    emptyOr_valid]

/-- An open that can hold a tag takes a wrong length for an invalid key. -/
theorem openBody_of_sizes
    (sizes : aws.Sizes)
    {ciphertext : Bytes}
    (holdsTag : 16 ≤ ciphertext.length)
    (wrong : ¬(key.length = 32 ∧ nonce.length = 12))
    (aad : Bytes) :
    openBody aws (validArgs algorithm key nonce aad ciphertext) =
      .error (.returned .invalidKey) := by
  rw [openBody_valid holdsTag]
  rcases refused_of_sizes sizes algorithm wrong with
      noKey | ⟨asKey, noNonce⟩
  · simp only [noKey]
  · simp only [asKey, noNonce]

/-- With the right lengths an open is the library's. -/
theorem openBody_eq
    (sizes : aws.Sizes)
    (keyLength : key.length = 32)
    (nonceLength : nonce.length = 12)
    {ciphertext : Bytes}
    (holdsTag : 16 ≤ ciphertext.length)
    (aad : Bytes) :
    openBody aws (validArgs algorithm key nonce aad ciphertext) =
      match aws.openInPlace algorithm key nonce aad ciphertext with
      | none => .error (.returned .authFailed)
      | some plaintext => .ok plaintext := by
  rw [openBody_valid holdsTag]
  simp only [sizes.lessSafeKey algorithm keyLength,
    sizes.tryAssumeUniqueForKey nonceLength]

/-- A seal of valid arguments computes that of AWS-LC. -/
theorem sealBody_computes
    (aws : AwsLc)
    (algorithm : PqAeadAlgorithm)
    (key nonce plaintext aad : Bytes) :
    Computes
      (sealBody aws (validArgs algorithm key nonce aad plaintext))
      (aws.sealWith algorithm key nonce plaintext aad) := by
  have refusesKey : (Exit.returned .invalidKey).Refuses :=
    Exit.refuses_returned (by decide)
  rw [sealBody_valid, AwsLc.sealWith]
  cases aws.lessSafeKey algorithm key with
  | none =>
      exact Computes.refuse refusesKey rfl
  | some sealing =>
      cases aws.tryAssumeUniqueForKey nonce with
      | none =>
          exact Computes.refuse refusesKey rfl
      | some nonce =>
          show Computes _
            (aws.sealInPlaceAppendTag sealing.algorithm sealing.key
              nonce aad plaintext)
          cases sealed :
              aws.sealInPlaceAppendTag sealing.algorithm sealing.key
                nonce aad plaintext with
          | none =>
              simp only [sealed]
              exact Computes.refuse (Exit.refuses_failed _) rfl
          | some output =>
              simp only [sealed]
              exact Computes.done output

/-- An open of valid arguments computes that of AWS-LC. -/
theorem openBody_computes
    (sizes : aws.OutputSizes)
    (algorithm : PqAeadAlgorithm)
    (key nonce ciphertext aad : Bytes) :
    Computes
      (openBody aws (validArgs algorithm key nonce aad ciphertext))
      (aws.openWith algorithm key nonce ciphertext aad) := by
  by_cases short : ciphertext.length < 16
  · rw [openBody_of_short short]
    refine Computes.refuse (Exit.refuses_returned (by decide)) ?_
    cases opened : aws.openWith algorithm key nonce ciphertext aad with
    | none =>
        rfl
    | some output =>
        have length := sizes.opened _ _ _ _ _ _ opened
        omega
  · have refusesKey : (Exit.returned .invalidKey).Refuses :=
      Exit.refuses_returned (by decide)
    have refusesTag : (Exit.returned .authFailed).Refuses :=
      Exit.refuses_returned (by decide)
    rw [openBody_valid (Nat.le_of_not_lt short), AwsLc.openWith]
    cases aws.lessSafeKey algorithm key with
    | none =>
        exact Computes.refuse refusesKey rfl
    | some opening =>
        cases aws.tryAssumeUniqueForKey nonce with
        | none =>
            exact Computes.refuse refusesKey rfl
        | some nonce =>
            show Computes _
              (aws.openInPlace opening.algorithm opening.key nonce aad
                ciphertext)
            cases opened :
                aws.openInPlace opening.algorithm opening.key nonce aad
                  ciphertext with
            | none =>
                simp only [opened]
                exact Computes.refuse refusesTag rfl
            | some output =>
                simp only [opened]
                exact Computes.done output

end Valid

end PqForgeFfi.NativeAead
