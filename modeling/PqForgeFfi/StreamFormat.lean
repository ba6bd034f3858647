import PqForgeFfi.DartErrors
import PqForgeFfi.ByteOrder.BigEndian
import PqForgeFfi.Segmentation.HoldBack
import PqForgeFfi.Segmentation.Sealing

namespace PqForgeFfi.StreamFormat

open Segmentation ByteOrder

/-!
# The stream format

What both implementations of the stream are meant to write: the plaintext in
chunks of one size, each sealed under the nonce of its position, the last one
under a nonce of its own.
-/

/-- The nonce of a position: three zero bytes, the position, the flag. -/
def frameNonce
    (position : Nat)
    (last : Bool) :
    Bytes :=
  List.replicate 3 0 ++ bigEndian 8 position ++ [if last then 1 else 0]

/-- The frames of a list of chunks, given how one is sealed under a nonce. -/
def framesOf
    (sealUnder : Bytes → Bytes → Bytes)
    (chunks : List Bytes) :
    List Bytes :=
  flaggedMap
    (fun position last chunk =>
      sealUnder (frameNonce position last) chunk)
    0 chunks

/-- The frames of a plaintext: those of its chunks of one size. -/
def frames
    (sealUnder : Bytes → Bytes → Bytes)
    (chunkSize : Nat)
    (plaintext : Bytes) :
    List Bytes :=
  framesOf sealUnder (blocks chunkSize plaintext)

theorem length_frameNonce
    (position : Nat)
    (last : Bool) :
    (frameNonce position last).length = 12 := by
  simp [frameNonce]

/-- Positions below `2^64` and flags have nonces of their own. -/
theorem frameNonce_injective
    {first second : Nat}
    {firstLast secondLast : Bool}
    (firstFits : first < 2 ^ 64)
    (secondFits : second < 2 ^ 64)
    (same :
      frameNonce first firstLast = frameNonce second secondLast) :
    first = second ∧ firstLast = secondLast := by
  obtain ⟨sameFront, sameFlag⟩ := List.append_inj' same rfl
  have samePosition := List.append_cancel_left sameFront
  refine ⟨bigEndian_injective firstFits secondFits samePosition, ?_⟩
  cases firstLast <;> cases secondLast <;>
    first | rfl | exact absurd sameFlag (by decide)

/-- Frame `position` is chunk `position`, sealed under its nonce. -/
theorem getElem?_frames
    (sealUnder : Bytes → Bytes → Bytes)
    {chunkSize : Nat}
    (chunked : 0 < chunkSize)
    (plaintext : Bytes)
    (position : Nat) :
    (frames sealUnder chunkSize plaintext)[position]? =
      if position = 0 ∨ position * chunkSize < plaintext.length then
        some
          (sealUnder
            (frameNonce position
              (decide (position + 1 =
                (blocks chunkSize plaintext).length)))
            ((plaintext.drop (position * chunkSize)).take chunkSize))
      else
        none := by
  rw [frames, framesOf, getElem?_flaggedMap, getElem?_blocks chunked,
    Nat.zero_add]
  split <;> rfl

/-- The frames of a plaintext, when sealing lengthens chunks alike. -/
theorem framed_frames
    {sealUnder : Bytes → Bytes → Bytes}
    {overhead chunkSize : Nat}
    (lengthens :
      ∀ nonce chunk,
        nonce.length = 12 →
        (sealUnder nonce chunk).length = chunk.length + overhead)
    (positive : 0 < overhead)
    (chunked : 0 < chunkSize)
    (plaintext : Bytes) :
    Framed (chunkSize + overhead)
      (frames sealUnder chunkSize plaintext) :=
  Framed.flaggedMap
    (fun position last _ =>
      lengthens _ _ (length_frameNonce position last))
    positive
    (framed_blocks chunked plaintext) 0

end PqForgeFfi.StreamFormat
