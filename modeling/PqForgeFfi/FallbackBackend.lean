import PqForgeFfi.Backend
import PqForgeFfi.DartBytes

namespace PqForgeFfi.FallbackBackend

/-!
# AEAD of the fallback backend

`FallbackBackend.aeadSeal` and `FallbackBackend.aeadOpen` over the libraries
that they call: AES-256-GCM of the `pqforge` package, and ChaCha20-Poly1305 of
PointyCastle, which is driven over a buffer of its own.
-/

/-- A call that writes into a buffer, also when it throws. -/
structure Written (Result : Type) where
  out : Bytes
  result : Except DartThrow Result

/-- PointyCastle's ChaCha20-Poly1305 ciphers. -/
structure PointyCastle where
  Cipher : Type
  chaCha20Poly1305 :
    (forEncryption : Bool) →
      (key : Bytes) →
      (macSize : Nat) →
      (nonce aad : Bytes) →
      Except DartThrow Cipher
  getOutputSize : Cipher → Nat → Nat
  processBytes :
    Cipher →
      (data out : Bytes) →
      Written (Cipher × Nat)
  doFinal :
    Cipher →
      (out : Bytes) →
      (outOff : Nat) →
      Written Nat

/-- The libraries that the fallback's AEAD calls. -/
structure Libraries where
  aesGcmEncrypt :
    (key nonce plaintext aad : Bytes) →
      Except DartThrow Bytes
  aesGcmDecrypt :
    (key nonce ciphertext aad : Bytes) →
      Except DartThrow Bytes
  pointyCastle : PointyCastle

/-- `_requireSizes`. -/
def requireSizes
    (algorithm : PqAeadAlgorithm)
    (key nonce : Bytes) :
    Except DartThrow Unit :=
  if key.length ≠ algorithm.keyBytes then
    .error (.ffi (.invalidKey
      s!"{algorithm.name} key must be {algorithm.keyBytes} bytes"))
  else if nonce.length ≠ algorithm.nonceBytes then
    .error (.ffi (.invalidKey
      s!"{algorithm.name} nonce must be {algorithm.nonceBytes} bytes"))
  else
    .ok ()

/-- `_chacha`. -/
def chacha
    (pc : PointyCastle)
    (forEncryption : Bool)
    (key nonce aad : Bytes) :
    Except DartThrow pc.Cipher :=
  pc.chaCha20Poly1305 forEncryption key 128 nonce aad

/-- The `try` block of `_runAead`. -/
def driveAead
    (pc : PointyCastle)
    (cipher : pc.Cipher)
    (data out : Bytes) :
    Written Bytes :=
  let processed := pc.processBytes cipher data out
  match processed.result with
  | .error thrown =>
      ⟨processed.out, .error thrown⟩
  | .ok (cipher, n) =>
      let finished := pc.doFinal cipher processed.out n
      match finished.result with
      | .error thrown =>
          ⟨finished.out, .error thrown⟩
      | .ok more =>
          let written := n + more
          ⟨finished.out,
            if written = finished.out.length then
              .ok finished.out
            else
              sublistView finished.out 0 written⟩

/-- `_runAead`: what it returns or throws, and what its buffer then holds. -/
def runAead
    (pc : PointyCastle)
    (cipher : pc.Cipher)
    (data : Bytes) :
    Written Bytes :=
  let out := List.replicate (pc.getOutputSize cipher data.length) 0
  let driven := driveAead pc cipher data out
  match driven.result with
  | .ok output =>
      ⟨driven.out, .ok output⟩
  | .error thrown =>
      ⟨List.replicate driven.out.length 0, .error thrown⟩

/-- `aeadSeal`. -/
def aeadSeal
    (libraries : Libraries)
    (algorithm : PqAeadAlgorithm)
    (key nonce plaintext aad : Bytes) :
    Except DartThrow Bytes :=
  match algorithm with
  | .aes256Gcm =>
      match libraries.aesGcmEncrypt key nonce plaintext aad with
      | .ok ciphertext =>
          .ok ciphertext
      | .error thrown =>
          if thrown.isArgumentError then
            .error (.ffi (.invalidKey thrown.toString))
          else
            .error thrown
  | .chaCha20Poly1305 => do
      requireSizes algorithm key nonce
      let cipher ← chacha libraries.pointyCastle true key nonce aad
      (runAead libraries.pointyCastle cipher plaintext).result

/-- `aeadOpen`. -/
def aeadOpen
    (libraries : Libraries)
    (algorithm : PqAeadAlgorithm)
    (key nonce ciphertext aad : Bytes) :
    Except DartThrow Bytes :=
  match algorithm with
  | .aes256Gcm =>
      match libraries.aesGcmDecrypt key nonce ciphertext aad with
      | .ok plaintext =>
          .ok plaintext
      | .error thrown =>
          if thrown.isArgumentError then
            .error (.ffi (.invalidKey thrown.toString))
          else
            .error (.ffi (.verificationFailed
              "AEAD tag verification failed"))
  | .chaCha20Poly1305 => do
      requireSizes algorithm key nonce
      if ciphertext.length < algorithm.tagBytes then
        .error (.ffi (.invalidCiphertext
          "ciphertext shorter than the AEAD tag"))
      else
        let opened := do
          let cipher ← chacha libraries.pointyCastle false key nonce aad
          (runAead libraries.pointyCastle cipher ciphertext).result
        match opened with
        | .ok plaintext =>
            .ok plaintext
        | .error _ =>
            .error (.ffi (.verificationFailed
              "AEAD tag verification failed"))

/-! ## Driving a cipher -/

/-- A cipher that throws leaves only zeros in the buffer. -/
theorem runAead_wipes
    {pc : PointyCastle}
    {cipher : pc.Cipher}
    {data : Bytes}
    {thrown : DartThrow}
    (failed : (runAead pc cipher data).result = .error thrown) :
    ∀ byte ∈ (runAead pc cipher data).out, byte = 0 := by
  intro byte member
  simp only [runAead] at failed member
  split at failed
  · cases failed
  · rename_i caught driven
    rw [driven] at member
    exact List.eq_of_mem_replicate member

namespace PointyCastle

/--
What it means that a cipher turns its input into an output, in the terms of
its two calls: they write the output to the start of the buffer.
-/
def Produces
    (pc : PointyCastle)
    (cipher : pc.Cipher)
    (data output : Bytes) : Prop :=
  ∃ (out : Bytes) (after : pc.Cipher) (n : Nat) (rest : Bytes)
      (more : Nat),
    pc.processBytes cipher data
        (List.replicate (pc.getOutputSize cipher data.length) 0) =
      ⟨out, .ok (after, n)⟩ ∧
    pc.doFinal after out n = ⟨output ++ rest, .ok more⟩ ∧
    n + more = output.length

/-- One of the two calls of a cipher throws. -/
def Throws
    (pc : PointyCastle)
    (cipher : pc.Cipher)
    (data : Bytes) : Prop :=
  let processed :=
    pc.processBytes cipher data
      (List.replicate (pc.getOutputSize cipher data.length) 0)
  (∃ thrown, processed.result = .error thrown) ∨
    ∃ (after : pc.Cipher) (n : Nat) (thrown : DartThrow),
      processed.result = .ok (after, n) ∧
        (pc.doFinal after processed.out n).result = .error thrown

end PointyCastle

/-- What a cipher produces is what `_runAead` returns. -/
theorem runAead_of_produces
    {pc : PointyCastle}
    {cipher : pc.Cipher}
    {data output : Bytes}
    (produces : pc.Produces cipher data output) :
    (runAead pc cipher data).result = .ok output := by
  obtain ⟨out, after, n, rest, more, processed, finished, written⟩ :=
    produces
  have driven :
      driveAead pc cipher data
          (List.replicate (pc.getOutputSize cipher data.length) 0) =
        ⟨output ++ rest, .ok output⟩ := by
    simp only [driveAead, processed, finished, written,
      List.length_append]
    split
    · rename_i whole
      have noRest : rest = [] :=
        List.eq_nil_of_length_eq_zero (by omega)
      rw [noRest, List.append_nil]
    · rw [sublistView_front rfl]
  simp only [runAead, driven]

/-- When one of a cipher's calls throws, `_runAead` throws. -/
theorem runAead_of_throws
    {pc : PointyCastle}
    {cipher : pc.Cipher}
    {data : Bytes}
    (throws : pc.Throws cipher data) :
    ∃ thrown, (runAead pc cipher data).result = .error thrown := by
  rcases throws with
      ⟨thrown, processed⟩ | ⟨after, n, thrown, processed, finished⟩
  · exact ⟨thrown, by simp only [runAead, driveAead, processed]⟩
  · exact
      ⟨thrown, by simp only [runAead, driveAead, processed, finished]⟩

/-! ## The checks of the ChaCha branch -/

theorem requireSizes_of_sizes
    (algorithm : PqAeadAlgorithm)
    {key nonce : Bytes}
    (keyLength : key.length = 32)
    (nonceLength : nonce.length = 12) :
    requireSizes algorithm key nonce = .ok () := by
  simp only [requireSizes, PqAeadAlgorithm.keyBytes_eq, keyLength,
    PqAeadAlgorithm.nonceBytes_eq, nonceLength, ne_eq,
    not_true_eq_false, ↓reduceIte]

/-- A wrong key or nonce length is an `InvalidKeyException`. -/
theorem requireSizes_of_wrong
    (algorithm : PqAeadAlgorithm)
    {key nonce : Bytes}
    (wrong : ¬(key.length = 32 ∧ nonce.length = 12)) :
    ∃ message,
      requireSizes algorithm key nonce =
        .error (.ffi (.invalidKey message)) := by
  rw [requireSizes, PqAeadAlgorithm.keyBytes_eq,
    PqAeadAlgorithm.nonceBytes_eq]
  split
  · exact ⟨_, rfl⟩
  · rename_i keyLength
    rw [if_pos (fun nonceLength =>
      wrong ⟨not_not.mp keyLength, nonceLength⟩)]
    exact ⟨_, rfl⟩

end PqForgeFfi.FallbackBackend
