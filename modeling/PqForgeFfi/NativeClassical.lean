import PqForgeFfi.NativeSign

namespace PqForgeFfi.NativeClassical

open NativeSign (msgSlice)

/-!
# X25519 and Ed25519 over AWS-LC

`pqforge_x25519_keygen`, `pqforge_x25519_ecdh`, `pqforge_ed25519_keygen`,
`pqforge_ed25519_public_from_seed` and `pqforge_ed25519_sign`.  A null seed asks
the key generations for a random key.
-/

/-- `X25519_KEY_LEN`. -/
def x25519KeyLen : Nat := 32

/-- `ED25519_SEED_LEN`. -/
def ed25519SeedLen : Nat := 32

/-- The secret of a key generation: drawn for a null seed, else the seed. -/
def secretOf
    (rng : Rng)
    (rngFailed : String)
    (seedLen : Nat)
    (seed : CSlice) :
    Except Exit Bytes :=
  if seed.isNull then
    orExit (.failed (.internal rngFailed)) (rng.fill seedLen)
  else if seed.len ≠ seedLen then
    .error (.returned .invalidKey)
  else
    .ok seed.bytes

/-- The closure of `pqforge_x25519_keygen`. -/
def x25519KeygenBody
    (aws : AwsLcClassical)
    (rng : Rng)
    (seed : CSlice) :
    Except Exit (Bytes × Bytes) := do
  let secret ← secretOf rng "x25519 rng failed" x25519KeyLen seed
  let privateKey ← orExit
    (.failed (.invalidKey "x25519 private key rejected"))
    (aws.fromPrivateKey secret)
  let publicKey ← orExit
    (.failed (.internal "x25519 public key failed"))
    (aws.computePublicKey privateKey)
  .ok (publicKey, secret)

/-- The closure of `pqforge_x25519_ecdh`. -/
def x25519EcdhBody
    (aws : AwsLcClassical)
    (secret peerPub : CSlice) :
    Except Exit Bytes :=
  if secret.isNull || peerPub.isNull then
    .error (.returned .nullArgument)
  else if secret.len ≠ x25519KeyLen || peerPub.len ≠ x25519KeyLen then
    .error (.returned .invalidKey)
  else do
    let privateKey ← orExit
      (.failed (.invalidKey "x25519 private key rejected"))
      (aws.fromPrivateKey secret.bytes)
    orExit (.failed (.invalidKey "x25519 ecdh failed"))
      (aws.agree privateKey peerPub.bytes)

/-- The closure of `pqforge_ed25519_keygen`. -/
def ed25519KeygenBody
    (aws : AwsLcClassical)
    (rng : Rng)
    (seed : CSlice) :
    Except Exit (Bytes × Bytes) := do
  let seedBuf ← secretOf rng "ed25519 rng failed" ed25519SeedLen seed
  let kp ← orExit
    (.failed (.invalidKey "ed25519 seed rejected"))
    (aws.fromSeedUnchecked seedBuf)
  .ok (aws.ed25519PublicKey kp, seedBuf)

/-- The closure of `pqforge_ed25519_public_from_seed`. -/
def ed25519PublicFromSeedBody
    (aws : AwsLcClassical)
    (seed : CSlice) :
    Except Exit Bytes :=
  if seed.isNull then
    .error (.returned .nullArgument)
  else if seed.len ≠ ed25519SeedLen then
    .error (.returned .invalidKey)
  else do
    let kp ← orExit
      (.failed (.invalidKey "ed25519 seed rejected"))
      (aws.fromSeedUnchecked seed.bytes)
    .ok (aws.ed25519PublicKey kp)

/-- The closure of `pqforge_ed25519_sign`. -/
def ed25519SignBody
    (aws : AwsLcClassical)
    (seed msg : CSlice) :
    Except Exit Bytes :=
  if seed.isNull || (msg.isNull && msg.len != 0) then
    .error (.returned .nullArgument)
  else if seed.len ≠ ed25519SeedLen then
    .error (.returned .invalidKey)
  else do
    let kp ← orExit
      (.failed (.invalidKey "ed25519 seed rejected"))
      (aws.fromSeedUnchecked seed.bytes)
    .ok (aws.ed25519Sign kp (msgSlice msg))

/-- `pqforge_x25519_keygen`. -/
def pqforgeX25519Keygen
    (aws : AwsLcClassical)
    (rng : Rng)
    (seed : CSlice)
    (pub sec : CallerOutput) :
    Int × CallerOutput × CallerOutput :=
  exportedOutputs (x25519KeygenBody aws rng seed) pub sec

/-- `pqforge_x25519_ecdh`. -/
def pqforgeX25519Ecdh
    (aws : AwsLcClassical)
    (secret peerPub : CSlice)
    (out : CallerOutput) :
    Int × CallerOutput :=
  exportedOutput (x25519EcdhBody aws secret peerPub) out

/-- `pqforge_ed25519_keygen`. -/
def pqforgeEd25519Keygen
    (aws : AwsLcClassical)
    (rng : Rng)
    (seed : CSlice)
    (pub sec : CallerOutput) :
    Int × CallerOutput × CallerOutput :=
  exportedOutputs (ed25519KeygenBody aws rng seed) pub sec

/-- `pqforge_ed25519_public_from_seed`. -/
def pqforgeEd25519PublicFromSeed
    (aws : AwsLcClassical)
    (seed : CSlice)
    (pub : CallerOutput) :
    Int × CallerOutput :=
  exportedOutput (ed25519PublicFromSeedBody aws seed) pub

/-- `pqforge_ed25519_sign`. -/
def pqforgeEd25519Sign
    (aws : AwsLcClassical)
    (seed msg : CSlice)
    (sig : CallerOutput) :
    Int × CallerOutput :=
  exportedOutput (ed25519SignBody aws seed msg) sig

/-! ## What the bodies compute -/

/-- What is computed of a key of the length that the functions let through. -/
def ofKeyLength
    {Output : Type}
    (key : Bytes)
    (primitive : Option Output) :
    Option Output :=
  if key.length = 32 then primitive else none

/-- What was computed was computed by the primitive. -/
theorem eq_some_of_ofKeyLength
    {Output : Type}
    {key : Bytes}
    {primitive : Option Output}
    {output : Output}
    (computed : ofKeyLength key primitive = some output) :
    primitive = some output := by
  rw [ofKeyLength] at computed
  split at computed
  · exact computed
  · cases computed

/-- The secret that a seed argument asks for: a drawn one, or 32 given bytes. -/
def askedSecret (rng : Rng) : CSlice → Option Bytes
  | .null _ => rng.fill 32
  | .valid seed => ofKeyLength seed (some seed)

/-- Every asked secret is of 32 bytes. -/
theorem length_askedSecret
    {rng : Rng}
    {seed : CSlice}
    {secret : Bytes}
    (asked : askedSecret rng seed = some secret) :
    secret.length = 32 := by
  cases seed with
  | null length =>
      exact Rng.length_fill asked
  | valid seed =>
      rw [askedSecret, ofKeyLength] at asked
      split at asked
      · rename_i length
        cases asked
        exact length
      · cases asked

/-- The X25519 keys that a seed argument asks for. -/
def x25519Asked
    (aws : AwsLcClassical)
    (rng : Rng)
    (seed : CSlice) :
    Option (Bytes × Bytes) := do
  let secret ← askedSecret rng seed
  aws.x25519Keys secret

/-- The Ed25519 keys that a seed argument asks for. -/
def ed25519Asked
    (aws : AwsLcClassical)
    (rng : Rng)
    (seed : CSlice) :
    Option (Bytes × Bytes) := do
  let secret ← askedSecret rng seed
  aws.ed25519Keys secret

/-- A seed of the right length is the secret. -/
theorem secretOf_valid
    (rng : Rng)
    (rngFailed : String)
    {seedLen : Nat}
    {seed : Bytes}
    (length : seed.length = seedLen) :
    secretOf rng rngFailed seedLen (.valid seed) = .ok seed := by
  simp [secretOf, CSlice.isNull, CSlice.len, CSlice.bytes, length]

/-- A seed of any other length is refused, an empty one too. -/
theorem secretOf_of_length
    (rng : Rng)
    (rngFailed : String)
    {seedLen : Nat}
    {seed : Bytes}
    (wrong : seed.length ≠ seedLen) :
    secretOf rng rngFailed seedLen (.valid seed) =
      .error (.returned .invalidKey) := by
  simp [secretOf, CSlice.isNull, CSlice.len, wrong]

/-- What a body computes of the secret is computed of the asked one. -/
theorem secretOf_computes
    {Output : Type}
    (rng : Rng)
    (rngFailed : String)
    (seed : CSlice)
    {next : Bytes → Except Exit Output}
    {after : Bytes → Option Output}
    (later : ∀ secret, Computes (next secret) (after secret)) :
    Computes (secretOf rng rngFailed 32 seed >>= next)
      (askedSecret rng seed >>= after) := by
  cases seed with
  | null length =>
      exact
        (Computes.call (Exit.refuses_failed _) (rng.fill 32)).bind later
  | valid seed =>
      rw [askedSecret, ofKeyLength]
      by_cases length : seed.length = 32
      · rw [secretOf_valid rng rngFailed length, if_pos length]
        exact later seed
      · rw [secretOf_of_length rng rngFailed length, if_neg length]
        exact Computes.refuse (Exit.refuses_returned (by decide)) rfl

section Computations

variable (aws : AwsLcClassical)

/-- X25519 key generation computes the asked keys. -/
theorem x25519KeygenBody_computes
    (rng : Rng)
    (seed : CSlice) :
    Computes (x25519KeygenBody aws rng seed)
      (x25519Asked aws rng seed) := by
  refine secretOf_computes rng _ seed fun secret => ?_
  refine (Computes.call (Exit.refuses_failed _) _).bind
    fun privateKey => ?_
  refine (Computes.call (Exit.refuses_failed _) _).bind
    fun publicKey => ?_
  exact Computes.done (publicKey, secret)

/-- Ed25519 key generation computes the asked keys. -/
theorem ed25519KeygenBody_computes
    (rng : Rng)
    (seed : CSlice) :
    Computes (ed25519KeygenBody aws rng seed)
      (ed25519Asked aws rng seed) := by
  refine secretOf_computes rng _ seed fun secret => ?_
  have keys :
      aws.ed25519Keys secret =
        (aws.fromSeedUnchecked secret >>= fun kp =>
          some (aws.ed25519PublicKey kp, secret)) := by
    rw [AwsLcClassical.ed25519Keys, AwsLcClassical.ed25519Public]
    cases aws.fromSeedUnchecked secret <;> rfl
  rw [keys]
  refine (Computes.call (Exit.refuses_failed _) _).bind fun kp => ?_
  exact Computes.done (aws.ed25519PublicKey kp, secret)

/-- X25519 agreement on valid pointers computes that of 32-byte keys. -/
theorem x25519EcdhBody_computes (secret peer : Bytes) :
    Computes (x25519EcdhBody aws (.valid secret) (.valid peer))
      (ofKeyLength secret
        (ofKeyLength peer (aws.x25519Agree secret peer))) := by
  rw [ofKeyLength, ofKeyLength]
  by_cases secretLength : secret.length = 32 <;>
    by_cases peerLength : peer.length = 32
  · have passed :
        x25519EcdhBody aws (.valid secret) (.valid peer) =
          (orExit (.failed (.invalidKey "x25519 private key rejected"))
              (aws.fromPrivateKey secret) >>= fun privateKey =>
            orExit (.failed (.invalidKey "x25519 ecdh failed"))
              (aws.agree privateKey peer)) := by
      simp [x25519EcdhBody, CSlice.isNull, CSlice.len, CSlice.bytes,
        x25519KeyLen, secretLength, peerLength]
    rw [passed, if_pos secretLength, if_pos peerLength]
    refine (Computes.call (Exit.refuses_failed _) _).bind
      fun privateKey => ?_
    exact Computes.call (Exit.refuses_failed _) _
  all_goals
    have refused :
        x25519EcdhBody aws (.valid secret) (.valid peer) =
          .error (.returned .invalidKey) := by
      simp [x25519EcdhBody, CSlice.isNull, CSlice.len, x25519KeyLen,
        secretLength, peerLength]
    rw [refused]
    exact Computes.refuse (Exit.refuses_returned (by decide))
      (by simp [secretLength, peerLength])

/-- The public key of a valid seed computes that of 32 bytes. -/
theorem ed25519PublicFromSeedBody_computes (seed : Bytes) :
    Computes (ed25519PublicFromSeedBody aws (.valid seed))
      (ofKeyLength seed (aws.ed25519Public seed)) := by
  rw [ofKeyLength, AwsLcClassical.ed25519Public]
  by_cases length : seed.length = 32
  · have passed :
        ed25519PublicFromSeedBody aws (.valid seed) =
          (orExit (.failed (.invalidKey "ed25519 seed rejected"))
              (aws.fromSeedUnchecked seed) >>= fun kp =>
            .ok (aws.ed25519PublicKey kp)) := by
      simp [ed25519PublicFromSeedBody, CSlice.isNull, CSlice.len,
        CSlice.bytes, ed25519SeedLen, length]
    rw [passed, if_pos length]
    refine (Computes.call (Exit.refuses_failed _) _).bind fun kp => ?_
    exact Computes.done (aws.ed25519PublicKey kp)
  · have refused :
        ed25519PublicFromSeedBody aws (.valid seed) =
          .error (.returned .invalidKey) := by
      simp [ed25519PublicFromSeedBody, CSlice.isNull, CSlice.len,
        ed25519SeedLen, length]
    rw [refused, if_neg length]
    exact Computes.refuse (Exit.refuses_returned (by decide)) rfl

/-- Signing valid pointers computes the signature of a 32-byte seed. -/
theorem ed25519SignBody_computes (seed message : Bytes) :
    Computes (ed25519SignBody aws (.valid seed) (.valid message))
      (ofKeyLength seed (aws.ed25519SignWith seed message)) := by
  rw [ofKeyLength, AwsLcClassical.ed25519SignWith]
  by_cases length : seed.length = 32
  · have passed :
        ed25519SignBody aws (.valid seed) (.valid message) =
          (orExit (.failed (.invalidKey "ed25519 seed rejected"))
              (aws.fromSeedUnchecked seed) >>= fun kp =>
            .ok (aws.ed25519Sign kp message)) := by
      simp [ed25519SignBody, CSlice.isNull, CSlice.len, CSlice.bytes,
        ed25519SeedLen, NativeSign.msgSlice_valid, length]
    rw [passed, if_pos length]
    refine (Computes.call (Exit.refuses_failed _) _).bind fun kp => ?_
    exact Computes.done (aws.ed25519Sign kp message)
  · have refused :
        ed25519SignBody aws (.valid seed) (.valid message) =
          .error (.returned .invalidKey) := by
      simp [ed25519SignBody, CSlice.isNull, CSlice.len,
        ed25519SeedLen, length]
    rw [refused, if_neg length]
    exact Computes.refuse (Exit.refuses_returned (by decide)) rfl

end Computations

section Sizes

variable {aws : AwsLcClassical}

/-- The asked X25519 keys are of 32 bytes each. -/
theorem x25519Asked_lengths
    (sizes : aws.KeySizes)
    {rng : Rng}
    {seed : CSlice}
    {publicKey secretKey : Bytes}
    (asked :
      x25519Asked aws rng seed = some (publicKey, secretKey)) :
    publicKey.length = 32 ∧ secretKey.length = 32 := by
  obtain ⟨secret, drawn, generated⟩ := Option.bind_eq_some_iff.mp asked
  obtain ⟨publicLength, rfl⟩ := sizes.x25519Keys generated
  exact ⟨publicLength, length_askedSecret drawn⟩

/-- The asked Ed25519 keys are of 32 bytes each. -/
theorem ed25519Asked_lengths
    (sizes : aws.KeySizes)
    {rng : Rng}
    {seed : CSlice}
    {publicKey secretKey : Bytes}
    (asked :
      ed25519Asked aws rng seed = some (publicKey, secretKey)) :
    publicKey.length = 32 ∧ secretKey.length = 32 := by
  obtain ⟨secret, drawn, generated⟩ := Option.bind_eq_some_iff.mp asked
  obtain ⟨publicLength, rfl⟩ := sizes.ed25519Keys generated
  exact ⟨publicLength, length_askedSecret drawn⟩

end Sizes

end PqForgeFfi.NativeClassical
