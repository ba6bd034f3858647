import PqForgeFfi.DartFraming
import PqForgeFfi.FileFraming

namespace PqForgeFfi.NonceEncoding

open ByteOrder
open PqForgeStream (nonce nonceLoop)
open StreamFile (streamNonce)

/-!
# The nonce encoding of the two streams

The Dart loop writes the counter from its low byte upwards and stops as soon as
nothing of it is left; `stream_nonce` copies eight fixed bytes.  Both are the
big-endian counter followed by the flag, and reading that back gives the pair.
-/

/-! ## What the Dart loop leaves -/

/-- The byte loop of `_nonce` with the variable `c` it ends on. -/
def nonceLoopState (nonce : Bytes) : Nat → Int → Bytes × Int
  | 0, c =>
      (nonce, c)
  | i + 1, c =>
      if 0 < c then
        nonceLoopState
          (nonce.set i (UInt8.ofNat (c % 256).toNat)) i (c >>> (8 : Nat))
      else
        (nonce, c)

/-- The bytes that the loop ends on are those that `_nonce` goes on with. -/
theorem nonceLoopState_fst
    (bytes : Bytes)
    (room : Nat)
    (c : Int) :
    (nonceLoopState bytes room c).1 = nonceLoop bytes room c := by
  induction room generalizing bytes c with
  | zero =>
      rfl
  | succ room inductionHypothesis =>
      rw [nonceLoopState, nonceLoop]
      by_cases positive : 0 < c
      · rw [if_pos positive, if_pos positive]
        exact inductionHypothesis _ _
      · rw [if_neg positive, if_neg positive]

/-- The loop takes one base-256 digit off the counter for each byte of room. -/
theorem nonceLoopState_snd
    (bytes : Bytes)
    (room counter : Nat) :
    (nonceLoopState bytes room counter).2 =
      (counter / 256 ^ room : Nat) := by
  induction room generalizing bytes counter with
  | zero =>
      simp [nonceLoopState]
  | succ room inductionHypothesis =>
      rw [nonceLoopState]
      by_cases positive : (0 : Int) < counter
      · have shifted : ((counter : Int) >>> (8 : Nat)) =
            (counter / 256 : Nat) := by
          rw [Int.shiftRight_eq_div_pow]
          rfl
        rw [if_pos positive, shifted, inductionHypothesis,
          Nat.div_div_eq_div_mul, Nat.pow_succ, Nat.mul_comm]
      · have empty : counter = 0 := by
          omega
        rw [if_neg positive, empty]
        simp

/-- Nothing of a counter is left exactly when the room holds its digits. -/
theorem nonceLoopState_finished_iff
    (bytes : Bytes)
    (room counter : Nat) :
    (nonceLoopState bytes room counter).2 = 0 ↔
      counter < 256 ^ room := by
  rw [nonceLoopState_snd]
  have base : 0 < 256 ^ room := Nat.pow_pos (by decide)
  constructor
  · intro finished
    have quotient : counter / 256 ^ room = 0 := by
      exact_mod_cast finished
    exact (Nat.div_eq_zero_iff_lt base).mp quotient
  · intro fits
    exact_mod_cast Nat.div_eq_of_lt fits

/-- A counter of the Dart stream fits the leading bytes from nine bytes on. -/
theorem counter_fits
    {counter nonceBytes : Nat}
    (inRange : counter < 2 ^ 63)
    (wide : 9 ≤ nonceBytes) :
    counter < 256 ^ (nonceBytes - 1) := by
  calc
    counter < 256 ^ 8 := by
      omega
    _ ≤ 256 ^ (nonceBytes - 1) :=
      Nat.pow_le_pow_right (by decide) (by omega)

/-! ## Reading a nonce back -/

/-- The flag that the last byte of a nonce stands for. -/
def readFlag (byte : UInt8) : Option Bool :=
  if byte = 0 then
    some false
  else if byte = 1 then
    some true
  else
    none

/-- The leading bytes of a nonce as a number and its last byte as a flag. -/
def readNonce
    (nonceBytes : Nat)
    (bytes : Bytes) :
    Nat × Option Bool :=
  (fromBigEndian (bytes.take (nonceBytes - 1)),
    (bytes[nonceBytes - 1]?).bind readFlag)

/-- Either flag is read back from the byte it is written as. -/
theorem readFlag_written (last : Bool) :
    readFlag (if last then 1 else 0) = some last := by
  cases last <;> rfl

/-- Reading the nonce of a counter that fits gives the counter and the flag. -/
theorem readNonce_written
    {counter room : Nat}
    (fits : counter < 256 ^ room)
    (last : Bool) :
    readNonce (room + 1)
        (bigEndian room counter ++ [if last then 1 else 0]) =
      (counter, some last) := by
  have width := length_bigEndian room counter
  have leading :
      (bigEndian room counter ++ [if last then (1 : UInt8) else 0]).take
          room = bigEndian room counter := by
    rw [List.take_left' width]
  have flag :
      (bigEndian room counter ++ [if last then (1 : UInt8) else 0])[room]? =
        some (if last then 1 else 0) := by
    rw [List.getElem?_append_right (Nat.le_of_eq width), width, Nat.sub_self]
    rfl
  rw [readNonce, Nat.add_sub_cancel, leading, flag,
    fromBigEndian_bigEndian fits, Option.bind_some, readFlag_written]

/-- A Dart nonce of nine bytes or more reads back as the pair it encodes. -/
theorem readNonce_nonce
    {counter nonceBytes : Nat}
    (inRange : counter < 2 ^ 63)
    (wide : 9 ≤ nonceBytes)
    (last : Bool) :
    readNonce nonceBytes
        (nonce (Int64.ofNat counter) last nonceBytes) =
      (counter, some last) := by
  obtain ⟨room, rfl⟩ : ∃ room, nonceBytes = room + 1 :=
    ⟨nonceBytes - 1, by omega⟩
  rw [PqForgeStream.nonce_eq inRange (by omega)]
  exact readNonce_written (counter_fits inRange wide) last

/-- A native nonce reads back as the pair it encodes. -/
theorem readNonce_streamNonce
    (counter : UInt64)
    (last : Bool) :
    readNonce 12 (streamNonce counter last) =
      (counter.toNat, some last) := by
  have inRange := counter.toNat_lt
  have fits : counter.toNat < 256 ^ 8 := by
    omega
  have fitsWide : counter.toNat < 256 ^ 11 := by
    omega
  have written := StreamFile.streamNonce_ofNat inRange last
  rw [UInt64.ofNat_toNat] at written
  have padded := bigEndian_of_lt 3 fits
  have bytes : streamNonce counter last =
      bigEndian 11 counter.toNat ++ [if last then 1 else 0] := by
    rw [written, StreamFormat.frameNonce, padded]
  rw [bytes]
  exact readNonce_written fitsWide last

/-- The two encoders agree on every counter that Dart can count to. -/
theorem nonce_eq_streamNonce
    {counter : Nat}
    (inRange : counter < 2 ^ 63)
    (last : Bool) :
    nonce (Int64.ofNat counter) last 12 =
      streamNonce (UInt64.ofNat counter) last := by
  have inWord : counter < 2 ^ 64 := by
    omega
  rw [PqForgeStream.nonce_of_lt inRange last,
    StreamFile.streamNonce_ofNat inWord last]

/-- From nine bytes on, Dart nonces are pairwise distinct. -/
theorem nonce_injective
    {nonceBytes first second : Nat}
    {firstLast secondLast : Bool}
    (wide : 9 ≤ nonceBytes)
    (firstInRange : first < 2 ^ 63)
    (secondInRange : second < 2 ^ 63)
    (same :
      nonce (Int64.ofNat first) firstLast nonceBytes =
        nonce (Int64.ofNat second) secondLast nonceBytes) :
    first = second ∧ firstLast = secondLast := by
  have readFirst := readNonce_nonce firstInRange wide firstLast
  have readSecond := readNonce_nonce secondInRange wide secondLast
  rw [same, readSecond] at readFirst
  obtain ⟨sameCounter, sameFlag⟩ := Prod.mk.inj readFirst
  exact ⟨sameCounter.symm, (Option.some.inj sameFlag).symm⟩

/--
The Dart and the native nonce are one encoding of a counter and a flag.  Both
read back as the pair, the native one separates all pairs of a 64-bit counter
and a flag, and at nine or more bytes the Dart loop encodes the whole counter
and separates all pairs it can be given.
-/
theorem nonceEncoders_injective_and_equal :
    (∀ counter < 2 ^ 63, ∀ last : Bool,
      nonce (Int64.ofNat counter) last 12 =
          streamNonce (UInt64.ofNat counter) last ∧
        readNonce 12 (nonce (Int64.ofNat counter) last 12) =
          (counter, some last)) ∧
      (∀ (counter : UInt64) (last : Bool),
        readNonce 12 (streamNonce counter last) =
          (counter.toNat, some last)) ∧
      (∀ (counter counter' : UInt64) (last last' : Bool),
        streamNonce counter last = streamNonce counter' last' →
          counter = counter' ∧ last = last') ∧
      ∀ nonceBytes ≥ 9,
        (∀ counter < 2 ^ 63,
          nonceLoopState (List.replicate nonceBytes 0)
              (nonceBytes - 1) (Int64.ofNat counter).toInt =
            (nonceLoop (List.replicate nonceBytes 0)
              (nonceBytes - 1) (Int64.ofNat counter).toInt, 0)) ∧
          ∀ counter < 2 ^ 63, ∀ counter' < 2 ^ 63,
            ∀ last last' : Bool,
              nonce (Int64.ofNat counter) last nonceBytes =
                  nonce (Int64.ofNat counter') last' nonceBytes →
                counter = counter' ∧ last = last' := by
  refine ⟨?_, readNonce_streamNonce, ?_, ?_⟩
  · intro counter inRange last
    exact ⟨nonce_eq_streamNonce inRange last,
      readNonce_nonce inRange (by decide) last⟩
  · intro counter counter' last last' same
    exact StreamFile.streamNonce_injective same
  · intro nonceBytes wide
    refine ⟨?_, ?_⟩
    · intro counter inRange
      apply Prod.ext
      · exact nonceLoopState_fst _ _ _
      · rw [Int64.toInt_ofNat_of_lt inRange]
        exact (nonceLoopState_finished_iff _ _ _).mpr
          (counter_fits inRange wide)
    · intro counter inRange counter' inRange' last last' same
      exact nonce_injective wide inRange inRange' same

/-- The encoders on the frame at position 258, and a nonce of 24 bytes. -/
theorem nonceEncoders_at_258 :
    nonce (Int64.ofNat 258) true 12 =
        streamNonce (UInt64.ofNat 258) true ∧
      readNonce 12 (nonce (Int64.ofNat 258) true 12) =
        (258, some true) ∧
      streamNonce (UInt64.ofNat 258) true ≠
        streamNonce (UInt64.ofNat 258) false ∧
      (nonceLoopState (List.replicate 24 0) 23
        (Int64.ofNat 258).toInt).2 = 0 ∧
      nonce (Int64.ofNat 258) false 24 ≠
        nonce (Int64.ofNat 259) false 24 := by
  obtain ⟨agree, -, injective, wide⟩ :=
    nonceEncoders_injective_and_equal
  obtain ⟨finished, distinct⟩ := wide 24 (by decide)
  obtain ⟨equal, reads⟩ := agree 258 (by decide) true
  refine ⟨equal, reads, ?_, ?_, ?_⟩
  · intro same
    exact absurd (injective _ _ _ _ same).2 (by decide)
  · rw [finished 258 (by decide)]
  · intro same
    exact absurd
      (distinct 258 (by decide) 259 (by decide) _ _ same).1
      (by decide)

end PqForgeFfi.NonceEncoding
