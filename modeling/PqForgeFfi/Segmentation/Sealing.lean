import PqForgeFfi.Segmentation.FlaggedRun
import PqForgeFfi.Segmentation.HoldBack

namespace Segmentation

/-!
# Sealed sequences of chunks

A sequence of chunks is sealed chunk by chunk, each under its position and a
flag that marks the last one.  An opener treats frames the same way: at each
position it either releases one chunk or refuses.

Three properties of the sealing of single chunks carry over to sequences:
opening undoes sealing, an opener that accepts only genuine frames releases
only a genuine prefix, and sealing again what was opened gives the sequence that
was received exactly when no empty chunk was opened behind others.
-/

variable {Chunk Frame Refusal : Type}

/-- At every position the opener releases one chunk or refuses. -/
def ReleasesOrRefuses
    (openAt : Nat → Bool → Frame → Trace Chunk Refusal Unit) : Prop :=
  ∀ position final frame,
    (∃ chunk, openAt position final frame = .record chunk) ∨
      ∃ refusal, openAt position final frame = .fail refusal

/-- Opening undoes sealing, chunk by chunk. -/
theorem flaggedRun_flaggedMap
    {sealAt : Nat → Bool → Chunk → Frame}
    {openAt : Nat → Bool → Frame → Trace Chunk Refusal Unit}
    {position : Nat}
    {chunks : List Chunk}
    (opens :
      ∀ index < chunks.length,
        ∀ final chunk,
          chunk ∈ chunks →
          openAt (position + index) final
              (sealAt (position + index) final chunk) =
            .record chunk) :
    flaggedRun openAt position (flaggedMap sealAt position chunks) =
      ⟨chunks, .ok ()⟩ := by
  induction chunks generalizing position with
  | nil =>
      rfl
  | cons chunk rest inductionHypothesis =>
      have here := fun final =>
        opens 0 (Nat.succ_pos _) final chunk List.mem_cons_self
      rw [Nat.add_zero] at here
      have later :
          flaggedRun openAt (position + 1)
              (flaggedMap sealAt (position + 1) rest) =
            ⟨rest, .ok ()⟩ :=
        inductionHypothesis fun index inBounds final laterChunk member => by
          have := opens (index + 1) (Nat.succ_lt_succ inBounds)
            final laterChunk (List.mem_cons_of_mem chunk member)
          rwa [← Nat.add_assoc, Nat.add_right_comm] at this
      by_cases alone : rest = []
      · subst alone
        exact here true
      · have framesFollow :
            flaggedMap sealAt (position + 1) rest ≠ [] := by
          rw [← List.length_pos_iff, length_flaggedMap]
          exact List.length_pos_iff.mpr alone
        rw [flaggedMap_cons_of_ne_nil sealAt position chunk alone,
          flaggedRun_cons_of_ne_nil openAt position _ framesFollow,
          here false, Trace.bind_of_ok rfl, later]
        rfl

/--
`Genuine openAt chunks frames` says that the opener releases a chunk only from
the frame that belongs to its position, and then the chunk that belongs there.
-/
def Genuine
    (openAt : Nat → Bool → Frame → Trace Chunk Refusal Unit)
    (chunks : List Chunk)
    (frames : List Frame) : Prop :=
  ∀ position ≤ chunks.length,
    ∀ final frame chunk,
      openAt position final frame = .record chunk →
      chunks[position]? = some chunk ∧
        frames[position]? = some frame ∧
        (final = true ↔ position + 1 = chunks.length)

/--
An opener that accepts only genuine frames releases only an initial segment of
the genuine chunks, and accepts a whole sequence only if it is genuine.
-/
theorem Genuine.flaggedRun
    {openAt : Nat → Bool → Frame → Trace Chunk Refusal Unit}
    {chunks : List Chunk}
    {frames : List Frame}
    (releases : ReleasesOrRefuses openAt)
    (genuine : Genuine openAt chunks frames)
    (sameLength : frames.length = chunks.length)
    (position : Nat)
    (inRange : position ≤ chunks.length)
    (received : List Frame) :
    (Segmentation.flaggedRun openAt position received).log <+:
        chunks.drop position ∧
      ((Segmentation.flaggedRun openAt position received).outcome =
          .ok () →
        received ≠ [] →
        received = frames.drop position ∧
          (Segmentation.flaggedRun openAt position received).log =
            chunks.drop position) := by
  induction received generalizing position with
  | nil =>
      exact ⟨List.nil_prefix, fun _ nonempty => (nonempty rfl).elim⟩
  | cons frame rest inductionHypothesis =>
      by_cases alone : rest = []
      · subst alone
        rcases releases position true frame with
            ⟨chunk, released⟩ | ⟨refusal, refused⟩
        · obtain ⟨chunkHere, frameHere, isLast⟩ :=
            genuine position inRange true frame chunk released
          have last : position + 1 = chunks.length := isLast.mp rfl
          have chunksLeft : chunks.drop position = [chunk] := by
            rw [List.drop_eq_getElem?_toList_append, chunkHere,
              List.drop_of_length_le (by omega)]
            rfl
          have framesLeft : frames.drop position = [frame] := by
            rw [List.drop_eq_getElem?_toList_append, frameHere,
              List.drop_of_length_le (by omega)]
            rfl
          rw [Segmentation.flaggedRun, released, chunksLeft, framesLeft]
          exact ⟨List.prefix_refl _, fun _ _ => ⟨rfl, rfl⟩⟩
        · rw [Segmentation.flaggedRun, refused]
          exact ⟨List.nil_prefix, fun returned => by cases returned⟩
      · rw [flaggedRun_cons_of_ne_nil openAt position frame alone]
        rcases releases position false frame with
            ⟨chunk, released⟩ | ⟨refusal, refused⟩
        · obtain ⟨chunkHere, frameHere, isLast⟩ :=
            genuine position inRange false frame chunk released
          obtain ⟨inBounds, _⟩ :=
            List.getElem?_eq_some_iff.mp chunkHere
          have chunksLeft :
              chunks.drop position =
                chunk :: chunks.drop (position + 1) := by
            rw [List.drop_eq_getElem?_toList_append, chunkHere]
            rfl
          have framesLeft :
              frames.drop position =
                frame :: frames.drop (position + 1) := by
            rw [List.drop_eq_getElem?_toList_append, frameHere]
            rfl
          obtain ⟨laterLog, laterOk⟩ :=
            inductionHypothesis (position + 1) inBounds
          rw [released, Trace.bind_of_ok (Trace.record_outcome chunk),
            chunksLeft, framesLeft]
          refine ⟨?_, ?_⟩
          · exact (List.prefix_append_right_inj [chunk]).mpr laterLog
          · intro returned _
            obtain ⟨sameFrames, sameChunks⟩ := laterOk returned alone
            exact ⟨congrArg (frame :: ·) sameFrames,
              congrArg (chunk :: ·) sameChunks⟩
        · rw [refused, Trace.fail_bind]
          exact ⟨List.nil_prefix, fun returned => by cases returned⟩

/-- Mapping each image back to its item gives the items. -/
theorem flaggedMap_flaggedMap
    {image : Nat → Bool → Frame → Chunk}
    {back : Nat → Bool → Chunk → Frame}
    {position : Nat}
    {items : List Frame}
    (undoes :
      ∀ index item,
        items[index]? = some item →
        let last := decide (index + 1 = items.length)
        back (position + index) last
            (image (position + index) last item) =
          item) :
    flaggedMap back position (flaggedMap image position items) =
      items := by
  apply List.ext_getElem?
  intro index
  rw [getElem?_flaggedMap, getElem?_flaggedMap, length_flaggedMap]
  cases present : items[index]? with
  | none =>
      rfl
  | some item =>
      exact congrArg some (undoes index item present)

/-! ## Framings of sealed sequences -/

/--
When sealing lengthens every chunk by the same positive amount, the sealed
sequence of a framing is a framing.
-/
theorem Framed.flaggedMap
    {Item Sealed : Type}
    {sealAt : Nat → Bool → List Item → List Sealed}
    {size overhead : Nat}
    (lengthens :
      ∀ position final chunk,
        (sealAt position final chunk).length =
          chunk.length + overhead)
    (positive : 0 < overhead)
    {chunks : List (List Item)}
    (framed : Framed size chunks)
    (position : Nat) :
    Framed (size + overhead)
      (Segmentation.flaggedMap sealAt position chunks) := by
  induction framed generalizing position with
  | last block fits =>
      refine .last _ ?_
      rw [lengthens]
      omega
  | cons block rest full followed framed inductionHypothesis =>
      have more : rest ≠ [] := by
        intro isEmpty
        subst isEmpty
        exact followed rfl
      rw [flaggedMap_cons_of_ne_nil sealAt position block more]
      refine .cons _ _ ?_ ?_ (inductionHypothesis (position + 1))
      · rw [lengthens, full]
      · obtain ⟨next, later, shape⟩ := List.exists_cons_of_ne_nil more
        subst shape
        intro isEmpty
        have headEmpty :=
          List.flatten_eq_nil_iff.mp isEmpty
        cases later with
        | nil =>
            have := headEmpty _ List.mem_cons_self
            rw [← List.length_eq_zero_iff, lengthens] at this
            omega
        | cons following others =>
            have := headEmpty _ List.mem_cons_self
            rw [← List.length_eq_zero_iff, lengthens] at this
            omega

/-- What the blocks of a framing are, told from the last one. -/
theorem Framed.of_concat
    {Item : Type}
    {size : Nat}
    {front : List (List Item)}
    {final : List Item}
    (framed : Framed size (front ++ [final])) :
    (∀ block ∈ front, block.length = size) ∧
      final.length ≤ size ∧
      (front ≠ [] → final ≠ []) := by
  induction front with
  | nil =>
      cases framed with
      | last _ fits =>
          exact ⟨by simp, fits, fun someFront => (someFront rfl).elim⟩
      | cons _ _ _ followed _ =>
          exact (followed rfl).elim
  | cons block rest inductionHypothesis =>
      rw [List.cons_append] at framed
      generalize shape : rest ++ [final] = later at framed
      cases framed with
      | last _ _ =>
          simp at shape
      | cons _ _ full followed framed =>
          subst shape
          obtain ⟨laterFull, fits, owed⟩ := inductionHypothesis framed
          refine ⟨?_, fits, fun _ => ?_⟩
          · intro other member
            rcases List.mem_cons.mp member with isHead | isLater
            · rw [isHead, full]
            · exact laterFull other isLater
          · by_cases alone : rest = []
            · subst alone
              simpa using followed
            · exact owed alone

/-- The length of full blocks. -/
theorem length_flatten_of_full
    {Item : Type}
    {size : Nat}
    {front : List (List Item)}
    (full : ∀ block ∈ front, block.length = size) :
    front.flatten.length = front.length * size := by
  rw [List.length_flatten, List.map_congr_left full,
    List.map_const', List.sum_replicate_nat]

/--
Chunks whose sealings are a framing are a framing themselves exactly when the
sealings do not end in the bare overhead behind full frames.
-/
theorem framed_iff_remainder
    {Item Sealed : Type}
    {sealAt : Nat → Bool → List Item → List Sealed}
    {size overhead : Nat}
    (lengthens :
      ∀ position final chunk,
        (sealAt position final chunk).length =
          chunk.length + overhead)
    (sized : 0 < size)
    (positive : 0 < overhead)
    {position : Nat}
    {chunks : List (List Item)}
    (framed :
      Framed (size + overhead) (flaggedMap sealAt position chunks)) :
    Framed size chunks ↔
      (flaggedMap sealAt position chunks).flatten.length ≤
          size + overhead ∨
        (flaggedMap sealAt position chunks).flatten.length %
            (size + overhead) ≠
          overhead := by
  cases chunks using List.reverseRecOn with
  | nil =>
      cases framed
  | append_singleton front final =>
      rw [flaggedMap_concat] at framed ⊢
      obtain ⟨full, fits, _⟩ := framed.of_concat
      rw [lengthens] at fits
      have length :
          (front.mapIdx (fun index item =>
              sealAt (position + index) false item) ++
            [sealAt (position + front.length) true
              final]).flatten.length =
            front.length * (size + overhead) +
              (final.length + overhead) := by
        rw [List.flatten_append, List.length_append,
          length_flatten_of_full full, List.length_mapIdx,
          List.flatten_singleton, lengthens]
      rw [length, Nat.mul_comm, Nat.mul_add_mod]
      constructor
      · intro framedChunks
        by_cases alone : front = []
        · subst alone
          left
          simpa using fits
        · right
          have owed := framedChunks.of_concat.2.2 alone
          have := List.length_pos_iff.mpr owed
          by_cases isFull : final.length = size
          · rw [isFull, Nat.mod_self]
            omega
          · rw [Nat.mod_eq_of_lt (by omega)]
            omega
      · intro remainder
        refine Framed.of_full ?_ (by omega) ?_
        · intro chunk member
          obtain ⟨index, inBounds, here⟩ := List.getElem_of_mem member
          have sealedFull :=
            full (sealAt (position + index) false chunk) (by
              rw [List.mem_mapIdx]
              exact ⟨index, inBounds, by rw [here]⟩)
          rw [lengthens] at sealedFull
          omega
        · intro someFront isEmpty
          subst isEmpty
          have := List.length_pos_iff.mpr someFront
          have := Nat.le_mul_of_pos_right (size + overhead) this
          rw [List.length_nil, Nat.zero_add,
            Nat.mod_eq_of_lt (by omega)] at remainder
          omega

/--
Sealing again, perhaps differently, what a framing of sealed chunks contains
gives the sequence back exactly when the two sealings agree on those chunks and
no empty chunk stands behind others.
-/
theorem resealed_iff
    {Item Sealed : Type}
    {sealAt other : Nat → Bool → List Item → List Sealed}
    {size overhead : Nat}
    (lengthens :
      ∀ position final chunk,
        (sealAt position final chunk).length =
          chunk.length + overhead)
    (otherLengthens :
      ∀ position final chunk,
        (other position final chunk).length =
          chunk.length + overhead)
    (sized : 0 < size)
    (positive : 0 < overhead)
    {items : List Sealed}
    {chunks : List (List Item)}
    (isSealed :
      flaggedMap sealAt 0 chunks = blocks (size + overhead) items) :
    (flaggedMap other 0 (blocks size chunks.flatten)).flatten = items ↔
      (items.length ≤ size + overhead ∨
          items.length % (size + overhead) ≠ overhead) ∧
        flaggedMap other 0 chunks = flaggedMap sealAt 0 chunks := by
  have received : Framed (size + overhead)
      (flaggedMap sealAt 0 chunks) := by
    rw [isSealed]
    exact framed_blocks (by omega) items
  have joined : (flaggedMap sealAt 0 chunks).flatten = items := by
    rw [isSealed, blocks_flatten]
  have chunksFramed :=
    framed_iff_remainder lengthens sized positive received
  rw [joined] at chunksFramed
  constructor
  · intro same
    have resealed :=
      Framed.flaggedMap otherLengthens positive
        (framed_blocks sized chunks.flatten) 0
    have remainder :=
      (framed_iff_remainder otherLengthens sized positive resealed).mp
        (framed_blocks sized chunks.flatten)
    rw [same] at remainder
    refine ⟨remainder, ?_⟩
    have sameChunks :=
      (chunksFramed.mpr remainder).blocks_eq sized
    have sameFrames := resealed.blocks_eq (by omega)
    rwa [same, ← isSealed, sameChunks, eq_comm] at sameFrames
  · rintro ⟨remainder, agree⟩
    rw [(chunksFramed.mpr remainder).blocks_eq sized, agree, joined]

end Segmentation
