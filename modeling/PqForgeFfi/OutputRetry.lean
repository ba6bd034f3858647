import PqForgeFfi.NativeClassical
import PqForgeFfi.NativeKem
import PqForgeFfi.NativeSign

namespace PqForgeFfi

/-!
# Retrying with larger buffers

`write_out` sets the length cell to the required length, so that a caller can
retry.  A function with two outputs writes the second one only behind the
first, and promises the same.
-/

/-- An exported function with two outputs, applied to its inputs. -/
abbrev TwoOutputCall (Coins : Type) : Type :=
  Coins →
    CallerOutput →
    CallerOutput →
    Int × CallerOutput × CallerOutput

/--
One call keeps the retry protocol: it finds a buffer too small exactly when one
is, then reports both required lengths, and buffers of the reported lengths are
not found too small by any later call.
-/
structure RetryWorks
    {Coins : Type}
    (call : TwoOutputCall Coins)
    (coins : Coins)
    (firstLen secondLen : Nat)
    (first second : CallerOutput) : Prop where
  tooSmall :
    (call coins first second).1 = PqForgeStatus.bufferTooSmall.code ↔
      first.cap < firstLen ∨ second.cap < secondLen
  reported :
    (call coins first second).1 = PqForgeStatus.bufferTooSmall.code →
    (call coins first second).2.1.len = some firstLen ∧
      (call coins first second).2.2.len = some secondLen
  retried :
    (call coins first second).1 = PqForgeStatus.bufferTooSmall.code →
    ∀ laterCoins laterFirst laterSecond,
      CallerOutput.Given laterFirst →
      CallerOutput.Given laterSecond →
      (call coins first second).2.1.len = some laterFirst.cap →
      (call coins first second).2.2.len = some laterSecond.cap →
      (call laterCoins laterFirst laterSecond).1 ≠
        PqForgeStatus.bufferTooSmall.code

/--
The calls that keep the retry protocol, among those on which the primitive
produces its outputs: the first buffer is large enough, or the second length
cell held the required length already.
-/
def RetriesExactly
    {Coins : Type}
    (call : TwoOutputCall Coins)
    (primitive : Coins → Option (Bytes × Bytes))
    (firstLen secondLen : Nat) : Prop :=
  ∀ coins outputs first second,
    primitive coins = some outputs →
    CallerOutput.Given first →
    CallerOutput.Given second →
    (RetryWorks call coins firstLen secondLen first second ↔
      firstLen ≤ first.cap ∨ second.len = some secondLen)

section Retries

variable {Coins : Type}
variable {body : Coins → Except Exit (Bytes × Bytes)}
variable {primitive : Coins → Option (Bytes × Bytes)}
variable {firstLen secondLen : Nat}

/-- The outputs of a primitive have these lengths. -/
def OutputLengths
    (primitive : Coins → Option (Bytes × Bytes))
    (firstLen secondLen : Nat) : Prop :=
  ∀ coins firstOutput secondOutput,
    primitive coins = some (firstOutput, secondOutput) →
    firstOutput.length = firstLen ∧ secondOutput.length = secondLen

/-- A call finds a buffer too small when its primitive's output is larger. -/
theorem bufferTooSmall_iff
    (computes : ∀ coins, Computes (body coins) (primitive coins))
    (coins : Coins)
    {first second : CallerOutput}
    (firstGiven : first.Given)
    (secondGiven : second.Given) :
    (exportedOutputs (body coins) first second).1 =
        PqForgeStatus.bufferTooSmall.code ↔
      ∃ outputs,
        primitive coins = some outputs ∧
          (first.cap < outputs.1.length ∨
            second.cap < outputs.2.length) := by
  cases answered : primitive coins with
  | none =>
      obtain ⟨exit, failed, refuses⟩ :=
        (computes coins).refuses answered
      rw [failed, exportedOutputs_error]
      constructor
      · intro same
        exact (refuses.2.2 (PqForgeStatus.code_injective same)).elim
      · rintro ⟨outputs, produced, _⟩
        cases produced
  | some outputs =>
      rw [(computes coins).returns outputs answered, exportedOutputs]
      simp only [finish_guard_ok, PqForgeStatus.code_inj]
      rw [writeOutputs_bufferTooSmall firstGiven secondGiven]
      constructor
      · intro small
        exact ⟨outputs, rfl, small⟩
      · rintro ⟨produced, same, small⟩
        cases same
        exact small

/-- Where the lengths are fixed, capacities of them are never too small. -/
theorem not_bufferTooSmall
    (computes : ∀ coins, Computes (body coins) (primitive coins))
    (lengths : OutputLengths primitive firstLen secondLen)
    (coins : Coins)
    {first second : CallerOutput}
    (firstGiven : first.Given)
    (secondGiven : second.Given)
    (firstFits : firstLen ≤ first.cap)
    (secondFits : secondLen ≤ second.cap) :
    (exportedOutputs (body coins) first second).1 ≠
      PqForgeStatus.bufferTooSmall.code := by
  intro found
  obtain ⟨outputs, produced, small⟩ :=
    (bufferTooSmall_iff computes coins firstGiven secondGiven).mp found
  obtain ⟨firstLength, secondLength⟩ :=
    lengths coins outputs.1 outputs.2 produced
  rcases small with small | small <;> omega

/-- The first length cell is set to the length of the first output. -/
theorem first_len_of_produced
    (computes : ∀ coins, Computes (body coins) (primitive coins))
    {coins : Coins}
    {outputs : Bytes × Bytes}
    (produced : primitive coins = some outputs)
    {first : CallerOutput}
    (firstGiven : first.Given)
    (second : CallerOutput) :
    (exportedOutputs (body coins) first second).2.1.len =
      some outputs.1.length := by
  rw [(computes coins).returns outputs produced, exportedOutputs]
  exact writeOutputs_first_len firstGiven outputs

/-- The second length cell is set when the first output has fitted. -/
theorem second_len_of_produced
    (computes : ∀ coins, Computes (body coins) (primitive coins))
    {coins : Coins}
    {outputs : Bytes × Bytes}
    (produced : primitive coins = some outputs)
    {first second : CallerOutput}
    (firstGiven : first.Given)
    (secondGiven : second.Given) :
    (exportedOutputs (body coins) first second).2.2.len =
      if first.cap < outputs.1.length then
        second.len
      else
        some outputs.2.length := by
  rw [(computes coins).returns outputs produced, exportedOutputs]
  exact writeOutputs_second_len firstGiven secondGiven outputs

/-- A body over a primitive keeps the retry protocol under one condition. -/
theorem retriesExactly_of_computes
    (computes : ∀ coins, Computes (body coins) (primitive coins))
    (lengths : OutputLengths primitive firstLen secondLen) :
    RetriesExactly (fun coins => exportedOutputs (body coins)) primitive
      firstLen secondLen := by
  intro coins outputs first second produced firstGiven secondGiven
  obtain ⟨firstLength, secondLength⟩ :=
    lengths coins outputs.1 outputs.2 produced
  have tooSmall :
      (exportedOutputs (body coins) first second).1 =
          PqForgeStatus.bufferTooSmall.code ↔
        first.cap < firstLen ∨ second.cap < secondLen := by
    rw [bufferTooSmall_iff computes coins firstGiven secondGiven,
      produced]
    simp [firstLength, secondLength]
  have firstCell :=
    first_len_of_produced computes produced firstGiven second
  have secondCell :=
    second_len_of_produced computes produced firstGiven secondGiven
  rw [firstLength] at firstCell
  rw [firstLength, secondLength] at secondCell
  constructor
  · intro works
    by_cases room : firstLen ≤ first.cap
    · exact .inl room
    · have small : first.cap < firstLen := Nat.lt_of_not_le room
      have reported :=
        (works.reported (tooSmall.mpr (.inl small))).2
      rw [secondCell, if_pos small] at reported
      exact .inr reported
  · intro condition
    have secondReported :
        (exportedOutputs (body coins) first second).2.2.len =
          some secondLen := by
      rw [secondCell]
      rcases condition with room | already
      · rw [if_neg (Nat.not_lt.mpr room)]
      · rw [already, ite_self]
    refine ⟨tooSmall, fun _ => ⟨firstCell, secondReported⟩, ?_⟩
    intro _ laterCoins laterFirst laterSecond laterFirstGiven
      laterSecondGiven firstCap secondCap
    rw [firstCell] at firstCap
    rw [secondReported] at secondCap
    exact not_bufferTooSmall computes lengths laterCoins laterFirstGiven
      laterSecondGiven (Nat.le_of_eq (Option.some.inj firstCap))
      (Nat.le_of_eq (Option.some.inj secondCap))

end Retries

/-! ## The functions with two outputs -/

/--
Each of the six functions with two outputs keeps the retry protocol exactly
when its first buffer is large enough or its second length cell was right.
-/
theorem twoOutputFunctions_retry
    {kem : AwsLcKem}
    {pqdsa : AwsLcPqdsa}
    {classical : AwsLcClassical}
    {declared : DeclaredSizes}
    (kemSizes : kem.Sizes declared)
    (pqdsaSizes : pqdsa.Sizes declared)
    (classicalSizes : classical.KeySizes) :
    (∀ algorithm : PqKemAlgorithm,
      RetriesExactly
        (fun coins =>
          NativeKem.pqforgeMlkemKeygen kem coins algorithm.index)
        (kem.keyPair algorithm)
        (declared.kemPublicKeyBytes algorithm)
        (declared.kemSecretKeyBytes algorithm)) ∧
    (∀ (algorithm : PqKemAlgorithm) (publicKey : Bytes),
      RetriesExactly
        (fun coins =>
          NativeKem.pqforgeMlkemEncapsulate kem coins algorithm.index
            (.valid publicKey))
        (kem.encapsulateTo algorithm publicKey)
        (declared.ciphertextBytes algorithm)
        (declared.sharedSecretBytes algorithm)) ∧
    (∀ algorithm : PqSignatureAlgorithm,
      RetriesExactly
        (fun coins =>
          NativeSign.pqforgeMldsaKeygen pqdsa coins algorithm.index)
        (pqdsa.generated algorithm)
        (declared.signPublicKeyBytes algorithm)
        (declared.signSecretKeyBytes algorithm)) ∧
    (∀ (algorithm : PqSignatureAlgorithm) (seed : Bytes),
      RetriesExactly
        (fun _ : Unit =>
          NativeSign.pqforgeMldsaKeygenFromSeed pqdsa algorithm.index
            (.valid seed))
        (fun _ => pqdsa.seeded algorithm seed)
        (declared.signPublicKeyBytes algorithm)
        (declared.signSecretKeyBytes algorithm)) ∧
    (∀ seed : CSlice,
      RetriesExactly
        (fun rng =>
          NativeClassical.pqforgeX25519Keygen classical rng seed)
        (fun rng => NativeClassical.x25519Asked classical rng seed)
        32 32) ∧
    (∀ seed : CSlice,
      RetriesExactly
        (fun rng =>
          NativeClassical.pqforgeEd25519Keygen classical rng seed)
        (fun rng => NativeClassical.ed25519Asked classical rng seed)
        32 32) := by
  refine ⟨fun algorithm => ?_, fun algorithm publicKey => ?_,
    fun algorithm => ?_, fun algorithm seed => ?_, fun seed => ?_,
    fun seed => ?_⟩
  · exact retriesExactly_of_computes
      (NativeKem.keygenBody_computes kem algorithm)
      (kemSizes.keyPair algorithm)
  · exact retriesExactly_of_computes
      (NativeKem.encapsulateBody_computes kem algorithm publicKey)
      (kemSizes.encapsulation algorithm publicKey)
  · exact retriesExactly_of_computes
      (NativeSign.keygenBody_computes pqdsa algorithm)
      (pqdsaSizes.generated algorithm)
  · exact retriesExactly_of_computes
      (fun _ =>
        NativeSign.keygenFromSeedBody_computes pqdsa algorithm seed)
      fun _ => pqdsaSizes.seeded algorithm seed
  · exact retriesExactly_of_computes
      (fun rng =>
        NativeClassical.x25519KeygenBody_computes classical rng
          seed)
      fun _ _ _ asked =>
        NativeClassical.x25519Asked_lengths classicalSizes asked
  · exact retriesExactly_of_computes
      (fun rng =>
        NativeClassical.ed25519KeygenBody_computes classical rng
          seed)
      fun _ _ _ asked =>
        NativeClassical.ed25519Asked_lengths classicalSizes asked

/-- A caller without room, and with a stale length cell. -/
def CallerOutput.noRoom : CallerOutput where
  out := some []
  cap := 0
  len := some 0
  valid := fun _ _ => Nat.zero_le _

theorem CallerOutput.noRoom_given : CallerOutput.noRoom.Given :=
  ⟨[], 0, rfl, rfl⟩

/-- ML-KEM-512 key generation into two buffers of no bytes. -/
theorem twoOutputFunctions_retry_of_noRoom :
    RetryWorks
        (fun coins =>
          NativeKem.pqforgeMlkemKeygen (.zeros .standard) coins
            (PqKemAlgorithm.index .mlKem512))
        [] 800 1632 .noRoom .noRoom ↔
      800 ≤ CallerOutput.noRoom.cap ∨
        CallerOutput.noRoom.len = some 1632 :=
  (twoOutputFunctions_retry
      (AwsLcKem.zeros_sizes .standard)
      (AwsLcPqdsa.zeros_sizes .standard)
      AwsLcClassical.zeros_sizes.toKeySizes).1
    .mlKem512 []
    (List.replicate 800 0, List.replicate 1632 0)
    .noRoom .noRoom rfl
    CallerOutput.noRoom_given CallerOutput.noRoom_given

/-- With no room for either key the secret key's length cell stays stale. -/
theorem mlkemKeygen_stale_length :
    (NativeKem.pqforgeMlkemKeygen (.zeros .standard) []
        (PqKemAlgorithm.index .mlKem512) .noRoom .noRoom).1 =
      PqForgeStatus.bufferTooSmall.code ∧
    (NativeKem.pqforgeMlkemKeygen (.zeros .standard) []
        (PqKemAlgorithm.index .mlKem512) .noRoom .noRoom).2.2.len =
      some 0 ∧
    ¬RetryWorks
        (fun coins =>
          NativeKem.pqforgeMlkemKeygen (.zeros .standard) coins
            (PqKemAlgorithm.index .mlKem512))
        [] 800 1632 .noRoom .noRoom := by
  have computes :=
    NativeKem.keygenBody_computes (.zeros .standard) .mlKem512
  have produced :
      (AwsLcKem.zeros .standard).keyPair .mlKem512 [] =
        some (List.replicate 800 0, List.replicate 1632 0) :=
    rfl
  have small :
      CallerOutput.noRoom.cap < (List.replicate 800 (0 : UInt8)).length := by
    rw [List.length_replicate]
    exact Nat.zero_lt_succ 799
  have refused :
      (NativeKem.pqforgeMlkemKeygen (.zeros .standard) []
          (PqKemAlgorithm.index .mlKem512) .noRoom .noRoom).1 =
        PqForgeStatus.bufferTooSmall.code :=
    (bufferTooSmall_iff computes [] CallerOutput.noRoom_given
      CallerOutput.noRoom_given).mpr ⟨_, produced, .inl small⟩
  have stale :
      (NativeKem.pqforgeMlkemKeygen (.zeros .standard) []
          (PqKemAlgorithm.index .mlKem512) .noRoom .noRoom).2.2.len =
        some 0 := by
    rw [NativeKem.pqforgeMlkemKeygen,
      second_len_of_produced computes produced
        CallerOutput.noRoom_given CallerOutput.noRoom_given,
      if_pos small]
    rfl
  refine ⟨refused, stale, ?_⟩
  intro works
  have reported := (works.reported refused).2
  cases stale.symm.trans reported

end PqForgeFfi
