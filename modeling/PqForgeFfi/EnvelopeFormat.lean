import PqForgeFfi.Backend
import PqForgeFfi.ByteOrder.BigEndian

namespace PqForgeFfi.EnvelopeFormat

open ByteOrder

/-!
# The envelope format

The header of an envelope as a list of fields.  Its KEM ciphertext has the
length that its algorithm declares, so a header carries its own length: no
header is an initial segment of another header with something behind it.
-/

/-- The fields of a header, with the lengths that the format gives them. -/
@[ext] structure Header (ciphertextBytes : PqKemAlgorithm → Nat) where
  kemAlgorithm : PqKemAlgorithm
  salt : Bytes
  nonce : Bytes
  kemCiphertext : Bytes
  saltLength : salt.length = 16
  nonceLength : nonce.length = 12
  declared : kemCiphertext.length = ciphertextBytes kemAlgorithm

namespace Header

variable {ciphertextBytes : PqKemAlgorithm → Nat}

/-- The bytes of a header: "PFE1", version 1, the ids, and the fields. -/
def bytes (header : Header ciphertextBytes) : Bytes :=
  [0x50, 0x46, 0x45, 0x31] ++
    ([1, UInt8.ofNat header.kemAlgorithm.index, 0] ++
      (header.salt ++
        (header.nonce ++
          (bigEndian 4 header.kemCiphertext.length ++
            header.kemCiphertext))))

/-- An algorithm is known from the byte that holds its index. -/
theorem algorithm_injective
    {first second : PqKemAlgorithm}
    (same : UInt8.ofNat first.index = UInt8.ofNat second.index) :
    first = second := by
  cases first <;> cases second <;>
    first | rfl | exact absurd same (by decide)

/--
A header is self-delimiting: bytes that start with two headers start with the
same header, and the same bytes follow it.
-/
theorem append_injective
    {first second : Header ciphertextBytes}
    {firstTail secondTail : Bytes}
    (same :
      first.bytes ++ firstTail = second.bytes ++ secondTail) :
    first = second ∧ firstTail = secondTail := by
  simp only [bytes, List.append_assoc] at same
  have sameIds := List.append_cancel_left same
  obtain ⟨ids, sameSalt⟩ := List.append_inj sameIds rfl
  have sameAlgorithm : first.kemAlgorithm = second.kemAlgorithm := by
    simp only [List.cons.injEq, true_and, and_true] at ids
    exact algorithm_injective ids
  obtain ⟨salt, sameNonce⟩ := List.append_inj sameSalt
    (first.saltLength.trans second.saltLength.symm)
  obtain ⟨nonce, sameSize⟩ := List.append_inj sameNonce
    (first.nonceLength.trans second.nonceLength.symm)
  obtain ⟨_, sameCiphertext⟩ := List.append_inj sameSize
    ((length_bigEndian _ _).trans (length_bigEndian _ _).symm)
  have ciphertextLength :
      first.kemCiphertext.length = second.kemCiphertext.length := by
    rw [first.declared, second.declared, sameAlgorithm]
  obtain ⟨ciphertext, tail⟩ :=
    List.append_inj sameCiphertext ciphertextLength
  exact ⟨Header.ext sameAlgorithm salt nonce ciphertext, tail⟩

end Header

end PqForgeFfi.EnvelopeFormat
