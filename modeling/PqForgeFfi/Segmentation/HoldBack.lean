import Mathlib.Data.List.Induction

namespace Segmentation

/-!
# Cutting a sequence into blocks

A sequence that arrives piece by piece is cut into blocks of one size.  `cut`
takes full blocks off the front for as long as `slack` further elements are
known to follow, and returns what it holds back.  With `slack = 0` every full
block is cut; with `slack = 1` a full block is held back until something is
known to follow it.

`blocks` is the framing both strategies aim at: every block but the last is
full, the last one is no longer than that, and it is empty only when the whole
sequence is.  `Framed` says this of a list of blocks, and `Framed.blocks_eq`
says that no two lists of blocks of one sequence satisfy it.
-/

variable {Item : Type}

/-- Cut full blocks off the front while `slack` elements remain behind them. -/
def cut
    (size slack : Nat)
    (items : List Item) :
    List (List Item) × List Item :=
  if 0 < size ∧ size + slack ≤ items.length then
    let later := cut size slack (items.drop size)
    (items.take size :: later.1, later.2)
  else
    ([], items)
termination_by items.length
decreasing_by
  simp only [List.length_drop]
  omega

/-- Where a block can be cut, it is cut and the rest is treated alike. -/
theorem cut_step
    {size slack : Nat}
    {items : List Item}
    (positive : 0 < size)
    (room : size + slack ≤ items.length) :
    cut size slack items =
      (items.take size :: (cut size slack (items.drop size)).1,
        (cut size slack (items.drop size)).2) := by
  rw [cut]
  simp [positive, room]

/-- Where no block can be cut, everything is held back. -/
theorem cut_stop
    {size slack : Nat}
    {items : List Item}
    (short : items.length < size + slack) :
    cut size slack items = ([], items) := by
  rw [cut]
  simp only [Nat.not_le_of_lt short, and_false, ↓reduceIte]

/-- The blocks and what is held back concatenate to the sequence. -/
theorem cut_join
    (size slack : Nat)
    (items : List Item) :
    (cut size slack items).1.flatten ++ (cut size slack items).2 =
      items := by
  fun_induction cut size slack items with
  | case1 items room later inductionHypothesis =>
      rw [List.flatten_cons, List.append_assoc,
        inductionHypothesis, List.take_append_drop]
  | case2 items noRoom =>
      rfl

/-- Every block that is cut is full. -/
theorem length_of_mem_cut
    {size slack : Nat}
    {items block : List Item}
    (member : block ∈ (cut size slack items).1) :
    block.length = size := by
  fun_induction cut size slack items with
  | case1 items room later inductionHypothesis =>
      rcases List.mem_cons.mp member with isFirst | inLater
      · subst isFirst
        exact List.length_take_of_le (by omega)
      · exact inductionHypothesis inLater
  | case2 items noRoom =>
      cases member

/-- What is held back is too short to cut another block. -/
theorem cut_rest_lt
    {size slack : Nat}
    (positive : 0 < size)
    (items : List Item) :
    (cut size slack items).2.length < size + slack := by
  fun_induction cut size slack items with
  | case1 items room later inductionHypothesis =>
      exact inductionHypothesis
  | case2 items noRoom =>
      exact Nat.lt_of_not_le fun room => noRoom ⟨positive, room⟩

/-- The slack is never cut. -/
theorem slack_le_cut_rest
    {size slack : Nat}
    {items : List Item}
    (enough : slack ≤ items.length) :
    slack ≤ (cut size slack items).2.length := by
  fun_induction cut size slack items with
  | case1 items room later inductionHypothesis =>
      refine inductionHypothesis ?_
      rw [List.length_drop]
      omega
  | case2 items noRoom =>
      exact enough

/--
Cutting a longer sequence continues from what was held back of a shorter one,
so the result does not depend on how the sequence arrived.
-/
theorem cut_append
    {size slack : Nat}
    (positive : 0 < size)
    (earlier later : List Item) :
    cut size slack (earlier ++ later) =
      ((cut size slack earlier).1 ++
          (cut size slack ((cut size slack earlier).2 ++ later)).1,
        (cut size slack ((cut size slack earlier).2 ++ later)).2) := by
  fun_induction cut size slack earlier with
  | case1 items room rest inductionHypothesis =>
      have longer : size + slack ≤ (items ++ later).length := by
        rw [List.length_append]
        omega
      have fits : size ≤ items.length := by
        omega
      rw [cut_step positive longer,
        List.take_append_of_le_length fits,
        List.drop_append_of_le_length fits, inductionHypothesis]
      rfl
  | case2 items noRoom =>
      rfl

/-- The framing of a sequence: full blocks, and a last one that is never owed. -/
def blocks
    (size : Nat)
    (items : List Item) :
    List (List Item) :=
  (cut size 1 items).1 ++ [(cut size 1 items).2]

/--
A list of blocks in which every block but the last is full and followed by
something.
-/
inductive Framed (size : Nat) : List (List Item) → Prop where
  | last
      (block : List Item)
      (fits : block.length ≤ size) :
      Framed size [block]
  | cons
      (block : List Item)
      (rest : List (List Item))
      (full : block.length = size)
      (followed : rest.flatten ≠ [])
      (framed : Framed size rest) :
      Framed size (block :: rest)

/-- The framing has at least one block. -/
theorem blocks_ne_nil
    (size : Nat)
    (items : List Item) :
    blocks size items ≠ [] := by
  simp [blocks]

/-- The framing of a sequence concatenates to it. -/
@[simp] theorem blocks_flatten
    (size : Nat)
    (items : List Item) :
    (blocks size items).flatten = items := by
  simp [blocks, cut_join]

/-- A sequence that fits one block is one block. -/
theorem blocks_of_le
    {size : Nat}
    {items : List Item}
    (fits : items.length ≤ size) :
    blocks size items = [items] := by
  rw [blocks, cut_stop (by omega)]
  rfl

/-- A longer sequence starts with a full block. -/
theorem blocks_of_lt
    {size : Nat}
    {items : List Item}
    (positive : 0 < size)
    (longer : size < items.length) :
    blocks size items =
      items.take size :: blocks size (items.drop size) := by
  rw [blocks, cut_step positive longer]
  rfl

namespace Framed

/-- The flattened tail of a framed list is what dropping its head leaves. -/
theorem take_drop
    {size : Nat}
    {block : List Item}
    {rest : List (List Item)}
    (full : block.length = size) :
    (block :: rest).flatten.take size = block ∧
      (block :: rest).flatten.drop size = rest.flatten := by
  subst full
  simp

/-- A framed list is the framing of the sequence it concatenates to. -/
theorem blocks_eq
    {size : Nat}
    (positive : 0 < size)
    {framed : List (List Item)}
    (isFramed : Framed size framed) :
    blocks size framed.flatten = framed := by
  induction isFramed with
  | last block fits =>
      rw [List.flatten_singleton, blocks_of_le fits]
  | cons block rest full followed framed inductionHypothesis =>
      have longer : size < (block :: rest).flatten.length := by
        rw [List.flatten_cons, List.length_append, full]
        have := List.length_pos_iff.mpr followed
        omega
      rw [blocks_of_lt positive longer, (take_drop full).1,
        (take_drop full).2, inductionHypothesis]

/-- Full blocks before a last one that is owed form a framing. -/
theorem of_full
    {size : Nat}
    {front : List (List Item)}
    {final : List Item}
    (full : ∀ block ∈ front, block.length = size)
    (fits : final.length ≤ size)
    (owed : front ≠ [] → final ≠ []) :
    Framed size (front ++ [final]) := by
  induction front with
  | nil =>
      exact .last final fits
  | cons block rest inductionHypothesis =>
      have finalOwed : final ≠ [] :=
        owed (List.cons_ne_nil block rest)
      refine
        .cons block (rest ++ [final])
          (full block List.mem_cons_self) ?_ ?_
      · simp [finalOwed]
      · exact
          inductionHypothesis
            (fun later member =>
              full later (List.mem_cons_of_mem block member))
            fun _ => finalOwed

end Framed

/-- The framing of a sequence is framed. -/
theorem framed_blocks
    {size : Nat}
    (positive : 0 < size)
    (items : List Item) :
    Framed size (blocks size items) := by
  refine Framed.of_full (fun _ member => length_of_mem_cut member) ?_ ?_
  · have short : (cut size 1 items).2.length < size + 1 :=
      cut_rest_lt positive items
    omega
  · intro someCut isEmpty
    have nonempty : 1 ≤ items.length := by
      rw [← cut_join size 1 items, List.length_append]
      obtain ⟨block, rest, shape⟩ :=
        List.exists_cons_of_ne_nil someCut
      have full : block.length = size :=
        length_of_mem_cut (by rw [shape]; exact List.mem_cons_self)
      rw [shape, List.flatten_cons, List.length_append]
      omega
    have kept : 1 ≤ (cut size 1 items).2.length :=
      slack_le_cut_rest nonempty
    rw [isEmpty] at kept
    simp at kept

/-! ## Cutting every full block -/

/-- With something left over, the framing is the full blocks and the rest. -/
theorem blocks_of_rest
    {size : Nat}
    (positive : 0 < size)
    {items : List Item}
    (left : (cut size 0 items).2 ≠ []) :
    blocks size items =
      (cut size 0 items).1 ++ [(cut size 0 items).2] := by
  have framed : Framed size
      ((cut size 0 items).1 ++ [(cut size 0 items).2]) :=
    Framed.of_full (fun _ member => length_of_mem_cut member)
      (Nat.le_of_lt (cut_rest_lt positive items))
      (fun _ => left)
  have sameItems := framed.blocks_eq positive
  rw [List.flatten_append, List.flatten_singleton,
    cut_join] at sameItems
  exact sameItems

/-- With nothing left over, the framing is the full blocks. -/
theorem blocks_of_full
    {size : Nat}
    (positive : 0 < size)
    {items final : List Item}
    {front : List (List Item)}
    (shape : (cut size 0 items).1 = front ++ [final])
    (nothingLeft : (cut size 0 items).2 = []) :
    blocks size items = front ++ [final] := by
  have full : ∀ block ∈ front ++ [final], block.length = size := by
    intro block member
    rw [← shape] at member
    exact length_of_mem_cut member
  have finalFull : final.length = size :=
    full final (by simp)
  have framed : Framed size (front ++ [final]) := by
    refine Framed.of_full
      (fun block member => full block (by simp [member]))
      (Nat.le_of_eq finalFull) ?_
    intro _ isEmpty
    rw [isEmpty] at finalFull
    simp at finalFull
    omega
  have sameItems := framed.blocks_eq positive
  have joined := cut_join size 0 items
  rw [shape, nothingLeft, List.append_nil] at joined
  rw [joined] at sameItems
  exact sameItems

/-! ## Holding back the newest block -/

/-- All but the last of a concatenation, with the last of the first part held. -/
theorem dropLast_append_held
    {Block : Type}
    (earlier later : List Block) :
    (earlier ++ later).dropLast =
      earlier.dropLast ++
        (earlier.getLast?.toList ++ later).dropLast := by
  cases earlier using List.reverseRecOn with
  | nil =>
      rfl
  | append_singleton front newest =>
      rw [List.getLast?_concat, List.dropLast_concat, List.append_assoc,
        List.dropLast_append_of_ne_nil (by simp)]
      rfl

/-- The last of a concatenation, with the last of the first part held. -/
theorem getLast?_append_held
    {Block : Type}
    (earlier later : List Block) :
    (earlier ++ later).getLast? =
      (earlier.getLast?.toList ++ later).getLast? := by
  cases earlier using List.reverseRecOn with
  | nil =>
      rfl
  | append_singleton front newest =>
      simp [List.getLast?_cons]

/-- As many blocks are cut as fit in front of the slack. -/
theorem length_cut
    {size slack : Nat}
    (positive : 0 < size)
    (items : List Item) :
    (cut size slack items).1.length = (items.length - slack) / size := by
  fun_induction cut size slack items with
  | case1 items room later inductionHypothesis =>
      have shorter :
          items.length - slack =
            (items.drop size).length - slack + size := by
        rw [List.length_drop]
        omega
      rw [List.length_cons, inductionHypothesis, shorter,
        Nat.add_div_right _ positive]
  | case2 items noRoom =>
      have short : items.length < size + slack :=
        Nat.lt_of_not_le fun room => noRoom ⟨positive, room⟩
      have few : items.length - slack < size := by
        omega
      rw [Nat.div_eq_of_lt few]
      rfl

/-- What is held back is what the cut blocks leave. -/
theorem length_cut_rest
    {size slack : Nat}
    (items : List Item) :
    (cut size slack items).1.length * size +
        (cut size slack items).2.length =
      items.length := by
  fun_induction cut size slack items with
  | case1 items room later inductionHypothesis =>
      have shorter :
          later.1.length * size + later.2.length =
            items.length - size :=
        inductionHypothesis.trans List.length_drop
      show (later.1.length + 1) * size + later.2.length = items.length
      rw [Nat.succ_mul]
      omega
  | case2 items noRoom =>
      simp

/-- Block `index` holds the items of the sequence from its position on. -/
theorem getElem?_blocks
    {size : Nat}
    (positive : 0 < size)
    (items : List Item)
    (index : Nat) :
    (blocks size items)[index]? =
      if index = 0 ∨ index * size < items.length then
        some ((items.drop (index * size)).take size)
      else
        none := by
  induction index generalizing items with
  | zero =>
      by_cases longer : size < items.length
      · simp [blocks_of_lt positive longer]
      · rw [blocks_of_le (by omega)]
        simp only [List.getElem?_cons_zero, Nat.zero_mul, List.drop_zero,
          true_or, ↓reduceIte]
        rw [List.take_of_length_le (by omega)]
  | succ index inductionHypothesis =>
      have next : (index + 1) * size = size + index * size := by
        rw [Nat.succ_mul, Nat.add_comm]
      by_cases longer : size < items.length
      · rw [blocks_of_lt positive longer, List.getElem?_cons_succ,
          inductionHypothesis, List.drop_drop, List.length_drop, next]
        by_cases first : index = 0
        · subst first
          simp [longer]
        · have sameBound :
              (index = 0 ∨ index * size < items.length - size) =
                (index + 1 = 0 ∨
                  size + index * size < items.length) := by
            simp only [first, false_or, Nat.add_one_ne_zero]
            exact propext (by omega)
          simp only [sameBound]
      · have beyond :
            ¬ (index + 1 = 0 ∨ (index + 1) * size < items.length) := by
          rw [next]
          omega
        rw [blocks_of_le (by omega), if_neg beyond]
        rfl

/-- The framing of at most `count` full blocks' worth has at most `count` blocks. -/
theorem length_blocks_le
    {size count : Nat}
    (positive : 0 < size)
    {items : List Item}
    (short : items.length ≤ (count + 1) * size) :
    (blocks size items).length ≤ count + 1 := by
  induction count generalizing items with
  | zero =>
      rw [blocks_of_le (by omega)]
      simp
  | succ count inductionHypothesis =>
      by_cases longer : size < items.length
      · rw [blocks_of_lt positive longer, List.length_cons]
        have fewer : (items.drop size).length ≤ (count + 1) * size := by
          rw [Nat.succ_mul] at short
          rw [List.length_drop]
          omega
        have := inductionHypothesis fewer
        omega
      · rw [blocks_of_le (by omega)]
        simp

/-- Every block of a framing but the last one is full. -/
theorem length_of_getElem?_blocks
    {size : Nat}
    {items block : List Item}
    {index : Nat}
    (present : (blocks size items)[index]? = some block)
    (notLast : index + 1 ≠ (blocks size items).length) :
    block.length = size := by
  obtain ⟨inBounds, _⟩ := List.getElem?_eq_some_iff.mp present
  rw [blocks] at present
  rw [blocks, List.length_append, List.length_singleton]
    at notLast inBounds
  rw [List.getElem?_append_left (by omega)] at present
  exact length_of_mem_cut (List.mem_of_getElem? present)

end Segmentation
