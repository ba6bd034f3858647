import Mathlib.Algebra.Ring.Int.Defs
import Mathlib.Algebra.Ring.Nat
import Mathlib.Data.List.Induction

namespace ByteOrder

/-!
# Big-endian numbers and buffer writes

A number in a fixed number of bytes, most significant byte first, and the
operation that byte formats are assembled with: writing one list over a part
of another.
-/

/-- The last `width` base-256 digits of a number, most significant first. -/
def bigEndian : Nat → Nat → List UInt8
  | 0, _ =>
      []
  | width + 1, value =>
      bigEndian width (value / 256) ++ [UInt8.ofNat (value % 256)]

/-- The number that a list of base-256 digits denotes. -/
def fromBigEndian (bytes : List UInt8) : Nat :=
  bytes.foldl (fun value byte => value * 256 + byte.toNat) 0

@[simp] theorem length_bigEndian
    (width value : Nat) :
    (bigEndian width value).length = width := by
  induction width generalizing value with
  | zero =>
      rfl
  | succ width inductionHypothesis =>
      rw [bigEndian, List.length_append, inductionHypothesis]
      rfl

/-- A further digit shifts the number by one place. -/
theorem fromBigEndian_concat
    (bytes : List UInt8)
    (byte : UInt8) :
    fromBigEndian (bytes ++ [byte]) =
      fromBigEndian bytes * 256 + byte.toNat := by
  simp [fromBigEndian]

/-- Reading back a number that fits its width gives the number. -/
theorem fromBigEndian_bigEndian
    {width value : Nat}
    (fits : value < 256 ^ width) :
    fromBigEndian (bigEndian width value) = value := by
  induction width generalizing value with
  | zero =>
      have : value = 0 := by
        simpa using fits
      subst this
      rfl
  | succ width inductionHypothesis =>
      have fitsRest : value / 256 < 256 ^ width := by
        rw [Nat.pow_succ] at fits
        exact Nat.div_lt_of_lt_mul (by rwa [Nat.mul_comm])
      have lowByte : (UInt8.ofNat (value % 256)).toNat = value % 256 := by
        rw [UInt8.toNat_ofNat']
        omega
      rw [bigEndian, fromBigEndian_concat,
        inductionHypothesis fitsRest, lowByte]
      omega

/-- Writing back the number that a list of bytes denotes gives the list. -/
theorem bigEndian_fromBigEndian
    (bytes : List UInt8) :
    bigEndian bytes.length (fromBigEndian bytes) = bytes := by
  induction bytes using List.reverseRecOn with
  | nil =>
      rfl
  | append_singleton front byte inductionHypothesis =>
      have byteBound : byte.toNat < 256 :=
        byte.toNat_lt
      have quotient :
          (fromBigEndian front * 256 + byte.toNat) / 256 =
            fromBigEndian front := by
        omega
      have remainder :
          (fromBigEndian front * 256 + byte.toNat) % 256 =
            byte.toNat := by
        omega
      rw [List.length_append, List.length_singleton, bigEndian,
        fromBigEndian_concat, quotient, remainder,
        inductionHypothesis, UInt8.ofNat_toNat]

/-- The number that a list of bytes denotes fits its length. -/
theorem fromBigEndian_lt
    (bytes : List UInt8) :
    fromBigEndian bytes < 256 ^ bytes.length := by
  induction bytes using List.reverseRecOn with
  | nil =>
      decide
  | append_singleton front byte inductionHypothesis =>
      have byteBound : byte.toNat < 256 :=
        byte.toNat_lt
      rw [fromBigEndian_concat, List.length_append,
        List.length_singleton, Nat.pow_succ]
      omega

/-- Two numbers that fit one width have different representations. -/
theorem bigEndian_injective
    {width first second : Nat}
    (firstFits : first < 256 ^ width)
    (secondFits : second < 256 ^ width)
    (same : bigEndian width first = bigEndian width second) :
    first = second := by
  rw [← fromBigEndian_bigEndian firstFits, same,
    fromBigEndian_bigEndian secondFits]

/-- Zero is written as zero bytes. -/
theorem bigEndian_zero (width : Nat) :
    bigEndian width 0 = List.replicate width 0 := by
  induction width with
  | zero =>
      rfl
  | succ width inductionHypothesis =>
      rw [bigEndian, Nat.zero_div, Nat.zero_mod, inductionHypothesis,
        List.replicate_succ']
      rfl

/-- A number that fits its width is padded with zero bytes in a wider one. -/
theorem bigEndian_of_lt
    {width value : Nat}
    (extra : Nat)
    (fits : value < 256 ^ width) :
    bigEndian (extra + width) value =
      List.replicate extra 0 ++ bigEndian width value := by
  induction width generalizing value with
  | zero =>
      obtain rfl : value = 0 := by
        simpa using fits
      rw [Nat.add_zero, bigEndian_zero, bigEndian, List.append_nil]
  | succ width inductionHypothesis =>
      have fitsRest : value / 256 < 256 ^ width := by
        rw [Nat.pow_succ] at fits
        exact Nat.div_lt_of_lt_mul (by rwa [Nat.mul_comm])
      rw [← Nat.add_assoc, bigEndian, inductionHypothesis fitsRest,
        List.append_assoc, bigEndian]

/-! ## Writing into a buffer -/

/-- Replace the part of a buffer that starts at an offset. -/
def overwrite
    {Item : Type}
    (buffer : List Item)
    (offset : Nat)
    (source : List Item) :
    List Item :=
  buffer.take offset ++ source ++ buffer.drop (offset + source.length)

/-- A write inside a buffer keeps its length. -/
theorem length_overwrite
    {Item : Type}
    {buffer : List Item}
    {offset : Nat}
    {source : List Item}
    (inside : offset + source.length ≤ buffer.length) :
    (overwrite buffer offset source).length = buffer.length := by
  rw [overwrite, List.length_append, List.length_append,
    List.length_take, List.length_drop]
  omega

/-- Writing at the end of what is filled extends the filled part. -/
theorem overwrite_replicate
    {Item : Type}
    (filled source : List Item)
    (blank : Item)
    (room : Nat) :
    overwrite (filled ++ List.replicate room blank)
        filled.length source =
      filled ++ source ++
        List.replicate (room - source.length) blank := by
  rw [overwrite, List.take_left, ← List.drop_drop,
    List.drop_left, List.drop_replicate]

end ByteOrder
