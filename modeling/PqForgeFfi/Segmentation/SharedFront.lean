import PqForgeFfi.Segmentation.FlaggedRun
import PqForgeFfi.Segmentation.HoldBack

namespace Segmentation

/-!
# The front that two sequences share

Two sequences are compared item by item, and the last item of one is never the
item of the other that has more behind it.  A run that accepts exactly the items
of a known sequence, each where it belongs, therefore stops at the end of the
front that the two share.

Of a framed sequence that was cut short, or framed anew with blocks of another
size, the shared front is known.
-/

variable {Item Chunk Frame Refusal : Type}

/--
How many items two sequences share from their start, where the last item of a
sequence is only ever the last one of the other.
-/
def sharedFront [DecidableEq Item] : List Item → List Item → Nat
  | [final], [otherFinal] =>
      if final = otherFinal then 1 else 0
  | item :: next :: rest, other :: following :: others =>
      if item = other then
        sharedFront (next :: rest) (following :: others) + 1
      else
        0
  | _, _ =>
      0

section Front

variable [DecidableEq Item]

/-- Items with more behind them are compared and the rests as well. -/
theorem sharedFront_cons
    (item other : Item)
    {rest others : List Item}
    (followed : rest ≠ [])
    (otherFollowed : others ≠ []) :
    sharedFront (item :: rest) (other :: others) =
      if item = other then sharedFront rest others + 1 else 0 := by
  obtain ⟨next, later, shape⟩ := List.exists_cons_of_ne_nil followed
  obtain ⟨following, beyond, otherShape⟩ :=
    List.exists_cons_of_ne_nil otherFollowed
  subst shape otherShape
  rfl

/-- A last item is not shared with one that has more behind it. -/
theorem sharedFront_of_longer
    (final other : Item)
    {others : List Item}
    (followed : others ≠ []) :
    sharedFront [final] (other :: others) = 0 := by
  obtain ⟨following, beyond, shape⟩ :=
    List.exists_cons_of_ne_nil followed
  subst shape
  rfl

/-- An item with more behind it is not shared with a last one. -/
theorem sharedFront_of_shorter
    (item otherFinal : Item)
    {rest : List Item}
    (followed : rest ≠ []) :
    sharedFront (item :: rest) [otherFinal] = 0 := by
  obtain ⟨next, later, shape⟩ := List.exists_cons_of_ne_nil followed
  subst shape
  rfl

/-- A sequence shares all of itself with itself. -/
@[simp] theorem sharedFront_self (items : List Item) :
    sharedFront items items = items.length := by
  induction items with
  | nil =>
      rfl
  | cons item rest inductionHypothesis =>
      by_cases alone : rest = []
      · subst alone
        exact if_pos rfl
      · rw [sharedFront_cons item item alone alone, if_pos rfl,
          inductionHypothesis, List.length_cons]

/-- Two sequences share no more items than the first one has. -/
theorem sharedFront_le (items others : List Item) :
    sharedFront items others ≤ items.length := by
  fun_induction sharedFront items others with
  | case1 =>
      exact Nat.le_refl 1
  | case2 =>
      exact Nat.zero_le _
  | case3 next rest other following others inductionHypothesis =>
      exact Nat.succ_le_succ inductionHypothesis
  | case4 =>
      exact Nat.zero_le _
  | case5 =>
      exact Nat.zero_le _

/-- Only a sequence itself shares all items of a nonempty one. -/
theorem eq_of_sharedFront_eq_length
    {items others : List Item}
    (nonempty : items ≠ [])
    (all : sharedFront items others = items.length) :
    items = others := by
  fun_induction sharedFront items others with
  | case1 =>
      rfl
  | case2 =>
      cases all
  | case3 next rest other following others inductionHypothesis =>
      rw [inductionHypothesis (List.cons_ne_nil _ _) (Nat.succ.inj all)]
  | case4 =>
      cases all
  | case5 =>
      exact absurd (List.eq_nil_of_length_eq_zero all.symm) nonempty

end Front

/-! ## Runs along a known sequence -/

/--
At the positions of a known sequence of frames and chunks an opener releases the
chunk of the frame that belongs there, marked as it belongs, and refuses every
other frame that the run can meet.
-/
def OpensAlong
    [DecidableEq Frame]
    (openAt : Nat → Bool → Frame → Trace Chunk Refusal Unit)
    (refuses : Frame → Refusal → Prop)
    (position : Nat)
    (received : List Frame)
    (known : List (Frame × Chunk)) : Prop :=
  ∀ index frame genuine,
    received[index]? = some frame →
    known[index]? = some genuine →
    let last := decide (index + 1 = received.length)
    if frame = genuine.1 ∧ last = decide (index + 1 = known.length) then
      openAt (position + index) last frame = .record genuine.2
    else
      ∃ refusal,
        refuses frame refusal ∧
          openAt (position + index) last frame = .fail refusal

/-- How a run ends that stopped in front of a frame, or met no such frame. -/
def StopsAt
    (refuses : Frame → Refusal → Prop)
    (stopped : Option Frame)
    (ending : Except Refusal Unit) : Prop :=
  match stopped with
  | none =>
      ending = .ok ()
  | some frame =>
      ∃ refusal, refuses frame refusal ∧ ending = .error refusal

section Along

variable {openAt : Nat → Bool → Frame → Trace Chunk Refusal Unit}
variable {refuses : Frame → Refusal → Prop}

/-- A run whose first action fails fails as it does. -/
theorem flaggedRun_of_first
    {position : Nat}
    {frame : Frame}
    {rest : List Frame}
    {refusal : Refusal}
    (failed :
      openAt position (decide (1 = (frame :: rest).length)) frame =
        .fail refusal) :
    flaggedRun openAt position (frame :: rest) = .fail refusal := by
  by_cases alone : rest = []
  · subst alone
    exact failed
  · have notLast : decide (1 = (frame :: rest).length) = false := by
      simp [alone]
    rw [flaggedRun_cons_of_ne_nil openAt position frame alone,
      ← notLast, failed, Trace.fail_bind]

variable [DecidableEq Frame]

/-- Behind frames with more behind them, an opener opens along the rests. -/
theorem OpensAlong.rest
    {position : Nat}
    {frame : Frame}
    {rest : List Frame}
    {genuine : Frame × Chunk}
    {others : List (Frame × Chunk)}
    (opens :
      OpensAlong openAt refuses position (frame :: rest)
        (genuine :: others)) :
    OpensAlong openAt refuses (position + 1) rest others := by
  intro index later known present found
  have there := opens (index + 1) later known (by simpa) (by simpa)
  rw [Nat.add_assoc, Nat.add_comm 1 index]
  simpa using there

/--
An opener that opens along a known sequence releases the chunks of the front
that the received frames share with it, and is stopped by the next frame.
-/
theorem OpensAlong.flaggedRun
    {position : Nat}
    {received : List Frame}
    {known : List (Frame × Chunk)}
    (opens : OpensAlong openAt refuses position received known)
    (someKnown : known ≠ []) :
    let front := sharedFront received (known.map Prod.fst)
    let run := Segmentation.flaggedRun openAt position received
    run.log = (known.map Prod.snd).take front ∧
      StopsAt refuses received[front]? run.outcome := by
  induction received generalizing position known with
  | nil =>
      exact ⟨rfl, rfl⟩
  | cons frame rest inductionHypothesis =>
      obtain ⟨genuine, others, shape⟩ :=
        List.exists_cons_of_ne_nil someKnown
      subst shape
      have here := opens 0 frame genuine rfl rfl
      by_cases alone : rest = [] <;> by_cases lone : others = []
      · subst alone lone
        by_cases same : frame = genuine.1
        · rw [if_pos ⟨same, rfl⟩] at here
          have ran :
              Segmentation.flaggedRun openAt position [frame] =
                .record genuine.2 := here
          have shared :
              sharedFront [frame] ([genuine].map Prod.fst) = 1 :=
            if_pos same
          rw [shared, ran]
          exact ⟨rfl, rfl⟩
        · rw [if_neg fun belongs => same belongs.1] at here
          obtain ⟨refusal, refused, failed⟩ := here
          have ran :
              Segmentation.flaggedRun openAt position [frame] =
                .fail refusal := failed
          have shared :
              sharedFront [frame] ([genuine].map Prod.fst) = 0 :=
            if_neg same
          rw [shared, ran]
          exact ⟨rfl, refusal, refused, rfl⟩
      · subst alone
        rw [if_neg (by simp [lone])] at here
        obtain ⟨refusal, refused, failed⟩ := here
        have ran :
            Segmentation.flaggedRun openAt position [frame] =
              .fail refusal := failed
        rw [List.map_cons, sharedFront_of_longer _ _ (by simpa), ran]
        exact ⟨rfl, refusal, refused, rfl⟩
      · subst lone
        rw [if_neg (by simp [alone])] at here
        obtain ⟨refusal, refused, failed⟩ := here
        have ran :
            Segmentation.flaggedRun openAt position (frame :: rest) =
              .fail refusal := by
          rw [flaggedRun_cons_of_ne_nil openAt position frame alone]
          simp [alone] at failed
          rw [failed, Trace.fail_bind]
        rw [List.map_cons, List.map_nil,
          sharedFront_of_shorter _ _ alone, ran]
        exact ⟨rfl, refusal, refused, rfl⟩
      · have notLast : decide (0 + 1 = (frame :: rest).length) = false := by
          simp [alone]
        have alsoNotLast :
            decide (0 + 1 = (genuine :: others).length) = false := by
          simp [lone]
        rw [notLast, alsoNotLast] at here
        rw [List.map_cons, sharedFront_cons _ _ alone (by simpa),
          flaggedRun_cons_of_ne_nil openAt position frame alone]
        by_cases same : frame = genuine.1
        · rw [if_pos ⟨same, rfl⟩] at here
          obtain ⟨log, stops⟩ := inductionHypothesis opens.rest lone
          have returned :
              (openAt position false frame).outcome = .ok () := by
            rw [Nat.add_zero] at here
            rw [here]
            rfl
          rw [Trace.bind_of_ok returned, if_pos same]
          refine ⟨?_, stops⟩
          rw [Nat.add_zero] at here
          rw [here]
          exact congrArg (genuine.2 :: ·) log
        · rw [if_neg fun belongs => same belongs.1] at here
          obtain ⟨refusal, refused, failed⟩ := here
          rw [Nat.add_zero] at failed
          rw [failed, Trace.fail_bind, if_neg same]
          exact ⟨rfl, refusal, refused, rfl⟩

end Along

/-! ## Fronts of framed sequences -/

section Framed

variable [DecidableEq Item]

/--
A framed sequence cut short anywhere shares all frames before the last one that
the cut leaves something of.
-/
theorem Framed.sharedFront_take
    {size : Nat}
    (positive : 0 < size)
    {frames : List (List Item)}
    (framed : Framed size frames)
    {count : Nat}
    (short : count < frames.flatten.length) :
    sharedFront (blocks size (frames.flatten.take count)) frames =
      (count - 1) / size := by
  induction framed generalizing count with
  | last block fits =>
      rw [List.flatten_singleton] at short ⊢
      have cutLength : (block.take count).length = count :=
        List.length_take_of_le (Nat.le_of_lt short)
      have different : block.take count ≠ block := by
        intro same
        rw [same] at cutLength
        omega
      rw [blocks_of_le (by omega), Nat.div_eq_of_lt (by omega)]
      exact if_neg different
  | cons block rest full followed framed inductionHypothesis =>
      have more : rest ≠ [] := by
        intro isEmpty
        subst isEmpty
        exact followed rfl
      rw [List.flatten_cons] at short ⊢
      rw [List.length_append, full] at short
      by_cases within : count ≤ size
      · have fits : ((block ++ rest.flatten).take count).length ≤ size := by
          rw [List.length_take]
          omega
        rw [blocks_of_le fits, sharedFront_of_longer _ _ more,
          Nat.div_eq_of_lt (by omega)]
      · have taken :
            (block ++ rest.flatten).take count =
              block ++ rest.flatten.take (count - size) := by
          rw [List.take_append, full, List.take_of_length_le (by omega)]
        have longer :
            size < (block ++ rest.flatten.take (count - size)).length := by
          rw [List.length_append, List.length_take, full]
          omega
        have first :
            (block ++ rest.flatten.take (count - size)).take size =
              block := by
          rw [← full, List.take_left]
        have later :
            (block ++ rest.flatten.take (count - size)).drop size =
              rest.flatten.take (count - size) := by
          rw [← full, List.drop_left]
        rw [taken, blocks_of_lt positive longer, first, later,
          sharedFront_cons _ _ (blocks_ne_nil _ _) more, if_pos rfl,
          inductionHypothesis (by omega)]
        have further : count - 1 = (count - size - 1) + size := by
          omega
        rw [further, Nat.add_div_right _ positive]

omit [DecidableEq Item] in
/-- What a cut leaves behind its full blocks is its last block. -/
theorem getElem?_blocks_cut
    {size : Nat}
    (positive : 0 < size)
    {items : List Item}
    {count : Nat}
    (short : count < items.length) :
    (blocks size (items.take count))[(count - 1) / size]? =
      some ((items.take count).drop ((count - 1) / size * size)) := by
  have taken := List.length_take_of_le (Nat.le_of_lt short)
  have behind : (count - 1) / size * size ≤ count - 1 :=
    Nat.div_mul_le_self _ _
  have within : count - 1 < (count - 1) / size * size + size :=
    Nat.lt_div_mul_add positive
  rw [getElem?_blocks positive, taken, if_pos ?_,
    List.take_of_length_le ?_]
  · rw [List.length_drop, taken]
    omega
  · by_cases nothing : count = 0
    · subst nothing
      exact .inl (Nat.zero_div size)
    · right
      omega

/--
Framed with blocks of another size, a sequence shares its only frame where it
is a single one for both sizes, and nothing otherwise.
-/
theorem Framed.sharedFront_resized
    {size other : Nat}
    (positive : 0 < other)
    (different : other ≠ size)
    {frames : List (List Item)}
    (framed : Framed size frames) :
    sharedFront (blocks other frames.flatten) frames =
      if frames.flatten.length ≤ min size other then 1 else 0 := by
  cases framed with
  | last block fits =>
      rw [List.flatten_singleton]
      by_cases alsoFits : block.length ≤ other
      · rw [blocks_of_le alsoFits, if_pos (by omega)]
        exact if_pos rfl
      · rw [blocks_of_lt positive (by omega),
          sharedFront_of_shorter _ _ (blocks_ne_nil _ _),
          if_neg (by omega)]
  | cons block rest full followed framed =>
      have more : rest ≠ [] := by
        intro isEmpty
        subst isEmpty
        exact followed rfl
      have someLength := List.length_pos_iff.mpr followed
      rw [List.flatten_cons, List.length_append, full,
        if_neg (by omega)]
      by_cases single : (block ++ rest.flatten).length ≤ other
      · rw [blocks_of_le single, sharedFront_of_longer _ _ more]
      · have unlike : (block ++ rest.flatten).take other ≠ block := by
          intro same
          have lengths := congrArg List.length same
          rw [List.length_take, List.length_append] at lengths
          rw [List.length_append] at single
          omega
        rw [blocks_of_lt positive (by omega),
          sharedFront_cons _ _ (blocks_ne_nil _ _) more, if_neg unlike]

end Framed

end Segmentation
