import PqForgeFfi.Segmentation.HoldBack

namespace Segmentation

/-!
# Block reading from a source that stalls

A source delivers its items in pieces of arbitrary length.  Between pieces it
may stall, which a caller cannot tell from the end, or fail.  A schedule lists
what a source still has to deliver; `ReadStep` is one read of it.

`takeBlock` is the result of reading until a block is full or the source
stalls, and `readBlocks` of doing so until a block stays empty.  Neither
depends on the lengths of the pieces.  Where the schedule has no stalls and no
failures the blocks are the framing of the items; where it has stalls,
`stallsMidBlock` decides whether a short block is followed by another one.
-/

variable {Item Failure : Type}

/-- What a source delivers next: an item, a read without items, or a failure. -/
inductive Delivery (Item Failure : Type) where
  | item (item : Item)
  | stall
  | failure (failure : Failure)
  deriving Repr, DecidableEq

/-- One read of at most `limit` items, and the schedule it leaves. -/
inductive ReadStep (limit : Nat) :
    List (Delivery Item Failure) →
      Except Failure (List Item) →
      List (Delivery Item Failure) → Prop where
  | ended :
      ReadStep limit [] (.ok []) []
  | stalled (rest : List (Delivery Item Failure)) :
      ReadStep limit (.stall :: rest) (.ok []) rest
  | failed
      (failure : Failure)
      (rest : List (Delivery Item Failure)) :
      ReadStep limit (.failure failure :: rest) (.error failure) rest
  | served
      (piece : List Item)
      (rest : List (Delivery Item Failure))
      (nonempty : piece ≠ [])
      (short : piece.length ≤ limit) :
      ReadStep limit (piece.map .item ++ rest) (.ok piece) rest

/-- Handing on the front of items at hand is a read of them. -/
theorem ReadStep.front
    {limit : Nat}
    (positive : 0 < limit)
    {items : List Item}
    (nonempty : items ≠ [])
    (rest : List (Delivery Item Failure)) :
    ReadStep limit (items.map .item ++ rest)
      (.ok (items.take limit))
      ((items.drop limit).map .item ++ rest) := by
  have taken : items.take limit ≠ [] := by
    rw [← List.length_pos_iff, List.length_take]
    have := List.length_pos_iff.mpr nonempty
    omega
  have parts :
      items.map .item ++ rest =
        (items.take limit).map .item ++
          ((items.drop limit).map (.item : Item → Delivery Item Failure) ++
            rest) := by
    rw [← List.append_assoc, ← List.map_append, List.take_append_drop]
  rw [parts]
  exact .served _ _ taken (List.length_take_le limit items)

/-- Fetching ahead and handing on the front of it is a shorter read. -/
theorem ReadStep.fetch
    {ahead limit : Nat}
    (positive : 0 < limit)
    {schedule rest : List (Delivery Item Failure)}
    {fetched : List Item}
    (step : ReadStep ahead schedule (.ok fetched) rest) :
    ReadStep limit schedule (.ok (fetched.take limit))
      ((fetched.drop limit).map .item ++ rest) := by
  cases step with
  | ended =>
      rw [List.take_nil, List.drop_nil]
      exact .ended
  | stalled rest =>
      rw [List.take_nil, List.drop_nil]
      exact .stalled rest
  | served piece rest nonempty short =>
      exact .front positive nonempty rest

/-- A failed read fails for every request. -/
theorem ReadStep.fail
    {ahead limit : Nat}
    {schedule rest : List (Delivery Item Failure)}
    {failure : Failure}
    (step : ReadStep ahead schedule (.error failure) rest) :
    ReadStep limit schedule (.error failure) rest := by
  cases step with
  | failed failure rest =>
      exact .failed failure rest

/-- Read until `count` items are there or the source stalls. -/
def takeBlock :
    Nat → List (Delivery Item Failure) →
      Except Failure (List Item) × List (Delivery Item Failure)
  | 0, schedule =>
      (.ok [], schedule)
  | _ + 1, [] =>
      (.ok [], [])
  | _ + 1, .stall :: rest =>
      (.ok [], rest)
  | _ + 1, .failure failure :: rest =>
      (.error failure, rest)
  | count + 1, .item item :: rest =>
      let later := takeBlock count rest
      (later.1.map (item :: ·), later.2)

/-- A block starts with the items that are delivered before anything else. -/
theorem takeBlock_append
    (count : Nat)
    (items : List Item)
    (rest : List (Delivery Item Failure))
    (fits : items.length ≤ count) :
    takeBlock count (items.map .item ++ rest) =
      ((takeBlock (count - items.length) rest).1.map (items ++ ·),
        (takeBlock (count - items.length) rest).2) := by
  induction items generalizing count with
  | nil =>
      simp only [List.map_nil, List.nil_append, List.length_nil,
        Nat.sub_zero]
      cases (takeBlock count rest) with
      | mk outcome left =>
          cases outcome <;> rfl
  | cons item more inductionHypothesis =>
      obtain ⟨less, shape⟩ := Nat.exists_eq_succ_of_ne_zero
        (show count ≠ 0 by rw [List.length_cons] at fits; omega)
      subst shape
      have fitsRest : more.length ≤ less := by
        rw [List.length_cons] at fits
        omega
      have counts :
          less + 1 - (item :: more).length = less - more.length := by
        rw [List.length_cons]
        omega
      rw [List.map_cons, List.cons_append, takeBlock,
        inductionHypothesis less fitsRest, counts]
      dsimp only
      cases (takeBlock (less - more.length) rest).1 <;> rfl

/-- A block never has more items than were asked for. -/
theorem length_takeBlock_le
    {count : Nat}
    {schedule rest : List (Delivery Item Failure)}
    {block : List Item}
    (taken : takeBlock count schedule = (.ok block, rest)) :
    block.length ≤ count := by
  induction count generalizing schedule block with
  | zero =>
      cases taken
      exact Nat.le_refl 0
  | succ count inductionHypothesis =>
      match schedule with
      | [] =>
          cases taken
          exact Nat.zero_le _
      | .stall :: _ =>
          cases taken
          exact Nat.zero_le _
      | .failure _ :: _ =>
          cases taken
      | .item item :: later =>
          rw [takeBlock] at taken
          cases result : takeBlock count later with
          | mk outcome left =>
              rw [result] at taken
              cases outcome with
              | error failure =>
                  cases taken
              | ok front =>
                  cases taken
                  have := inductionHypothesis result
                  rw [List.length_cons]
                  omega

/-- A read without items ends the block. -/
theorem ReadStep.takeBlock_nil
    {limit : Nat}
    (positive : 0 < limit)
    {schedule rest : List (Delivery Item Failure)}
    (step : ReadStep limit schedule (.ok []) rest) :
    takeBlock limit schedule = (.ok [], rest) := by
  obtain ⟨less, shape⟩ :=
    Nat.exists_eq_succ_of_ne_zero (Nat.pos_iff_ne_zero.mp positive)
  subst shape
  cases step with
  | ended =>
      rfl
  | stalled rest =>
      rfl
  | served piece rest nonempty short =>
      exact (nonempty rfl).elim

/-- A failed read fails the block. -/
theorem ReadStep.takeBlock_error
    {limit : Nat}
    (positive : 0 < limit)
    {schedule rest : List (Delivery Item Failure)}
    {failure : Failure}
    (step : ReadStep limit schedule (.error failure) rest) :
    takeBlock limit schedule = (.error failure, rest) := by
  obtain ⟨less, shape⟩ :=
    Nat.exists_eq_succ_of_ne_zero (Nat.pos_iff_ne_zero.mp positive)
  subst shape
  cases step with
  | failed failure rest =>
      rfl

/-- A read of some items leaves the rest of the block to be read. -/
theorem ReadStep.takeBlock_served
    {limit : Nat}
    {schedule rest : List (Delivery Item Failure)}
    {piece : List Item}
    (nonempty : piece ≠ [])
    (step : ReadStep limit schedule (.ok piece) rest) :
    piece.length ≤ limit ∧
      takeBlock limit schedule =
        ((takeBlock (limit - piece.length) rest).1.map (piece ++ ·),
          (takeBlock (limit - piece.length) rest).2) := by
  cases step with
  | ended =>
      exact (nonempty rfl).elim
  | stalled rest =>
      exact (nonempty rfl).elim
  | served piece rest nonempty short =>
      exact ⟨short, takeBlock_append limit piece rest short⟩

/-- A block with items in it shortens the schedule. -/
theorem takeBlock_lt
    {count : Nat}
    {schedule rest : List (Delivery Item Failure)}
    {block : List Item}
    (taken : takeBlock count schedule = (.ok block, rest))
    (nonempty : block ≠ []) :
    rest.length < schedule.length := by
  have shrinks : ∀ (count : Nat)
      (schedule : List (Delivery Item Failure)),
      (takeBlock count schedule).2.length ≤ schedule.length := by
    intro count schedule
    fun_induction takeBlock count schedule with
    | case1 => exact Nat.le_refl _
    | case2 => exact Nat.le_refl _
    | case3 _ rest => exact Nat.le_succ _
    | case4 _ failure rest => exact Nat.le_succ _
    | case5 count item rest later inductionHypothesis =>
        exact Nat.le_succ_of_le inductionHypothesis
  match count, schedule with
  | 0, _ =>
      cases taken
      exact (nonempty rfl).elim
  | _ + 1, [] =>
      cases taken
      exact (nonempty rfl).elim
  | _ + 1, .stall :: _ =>
      cases taken
      exact (nonempty rfl).elim
  | _ + 1, .failure _ :: _ =>
      cases taken
  | count + 1, .item item :: later =>
      have left : (takeBlock count later).2 = rest :=
        congrArg Prod.snd taken
      have := shrinks count later
      rw [List.length_cons, ← left]
      exact Nat.lt_succ_of_le this

/-- Read blocks until one stays empty. -/
def readBlocks
    (size : Nat)
    (schedule : List (Delivery Item Failure)) :
    Except Failure (List (List Item)) :=
  match taken : takeBlock size schedule with
  | (.error failure, _) =>
      .error failure
  | (.ok block, rest) =>
      if nonempty : block = [] then
        .ok []
      else
        have : rest.length < schedule.length :=
          takeBlock_lt taken nonempty
        (readBlocks size rest).map (block :: ·)
termination_by schedule.length

/-- One block of a reading: an empty one ends it, another one is in front. -/
theorem readBlocks_of_ok
    {size : Nat}
    {schedule rest : List (Delivery Item Failure)}
    {block : List Item}
    (taken : takeBlock size schedule = (.ok block, rest)) :
    readBlocks size schedule =
      if block = [] then
        .ok []
      else
        (readBlocks size rest).map (block :: ·) := by
  rw [readBlocks]
  split
  · rename_i same
    rw [taken] at same
    cases same
  · rename_i same
    rw [taken] at same
    cases same
    rw [dite_eq_ite]

/-- An empty block ends the reading. -/
theorem readBlocks_of_empty
    {size : Nat}
    {schedule rest : List (Delivery Item Failure)}
    (taken : takeBlock size schedule = (.ok [], rest)) :
    readBlocks size schedule = .ok [] := by
  rw [readBlocks_of_ok taken, if_pos rfl]

/-- After a block with items in it the reading goes on. -/
theorem readBlocks_of_block
    {size : Nat}
    {schedule rest : List (Delivery Item Failure)}
    {block : List Item}
    (taken : takeBlock size schedule = (.ok block, rest))
    (nonempty : block ≠ []) :
    readBlocks size schedule =
      (readBlocks size rest).map (block :: ·) := by
  rw [readBlocks_of_ok taken, if_neg nonempty]

/-- A failure ends the reading. -/
theorem readBlocks_of_error
    {size : Nat}
    {schedule rest : List (Delivery Item Failure)}
    {failure : Failure}
    (taken : takeBlock size schedule = (.error failure, rest)) :
    readBlocks size schedule = .error failure := by
  rw [readBlocks]
  split
  · rename_i same
    rw [taken] at same
    cases same
    rfl
  · rename_i same
    rw [taken] at same
    cases same

/-- A reading that failed behind a block failed there. -/
theorem readBlocks_rest_error
    {size : Nat}
    {schedule rest : List (Delivery Item Failure)}
    {block : List Item}
    {failure : Failure}
    (taken : takeBlock size schedule = (.ok block, rest))
    (nonempty : block ≠ [])
    (failed : readBlocks size schedule = .error failure) :
    readBlocks size rest = .error failure := by
  rw [readBlocks_of_block taken nonempty] at failed
  cases later : readBlocks size rest with
  | error other =>
      rw [later] at failed
      exact failed
  | ok chunks =>
      rw [later] at failed
      cases failed

/-! ## Blocks and stalls -/

/-- With enough items at hand a block is full. -/
theorem takeBlock_of_le
    {size : Nat}
    {items : List Item}
    (enough : size ≤ items.length)
    (rest : List (Delivery Item Failure)) :
    takeBlock size (items.map .item ++ rest) =
      (.ok (items.take size), (items.drop size).map .item ++ rest) := by
  have taken : (items.take size).length = size :=
    List.length_take_of_le enough
  have parts := List.take_append_drop size items
  nth_rewrite 1 [← parts]
  rw [List.map_append, List.append_assoc,
    takeBlock_append size _ _ (Nat.le_of_eq taken), taken, Nat.sub_self,
    takeBlock]
  simp [Except.map]

/-- With too few items at hand a block ends at what comes next. -/
theorem takeBlock_of_lt
    {size : Nat}
    {items : List Item}
    (short : items.length < size)
    (rest : List (Delivery Item Failure)) :
    takeBlock size (items.map .item ++ rest) =
      ((takeBlock (size - items.length) rest).1.map (items ++ ·),
        (takeBlock (size - items.length) rest).2) :=
  takeBlock_append size items rest (Nat.le_of_lt short)

/-- A source that only delivers items is read in the framing of them. -/
theorem readBlocks_items
    {size : Nat}
    (positive : 0 < size)
    (items : List Item) :
    readBlocks size
        (items.map (.item : Item → Delivery Item Failure)) =
      .ok (if items = [] then [] else blocks size items) := by
  by_cases isEmpty : items = []
  · subst isEmpty
    obtain ⟨less, shape⟩ :=
      Nat.exists_eq_succ_of_ne_zero (Nat.pos_iff_ne_zero.mp positive)
    subst shape
    exact readBlocks_of_empty rfl
  · rw [if_neg isEmpty]
    by_cases longer : size < items.length
    · have taken := takeBlock_of_le (Nat.le_of_lt longer)
        ([] : List (Delivery Item Failure))
      rw [List.append_nil, List.append_nil] at taken
      have blockNonempty : items.take size ≠ [] := by
        rw [← List.length_pos_iff, List.length_take]
        omega
      have leftNonempty : items.drop size ≠ [] := by
        rw [← List.length_pos_iff, List.length_drop]
        omega
      rw [readBlocks_of_block taken blockNonempty,
        readBlocks_items positive (items.drop size),
        if_neg leftNonempty, blocks_of_lt positive longer]
      rfl
    · have taken :
          takeBlock size
              (items.map (.item : Item → Delivery Item Failure)) =
            (.ok items, []) := by
        have cutOff := takeBlock_append size items
          ([] : List (Delivery Item Failure)) (by omega)
        rw [List.append_nil] at cutOff
        rw [cutOff]
        cases size - items.length <;> simp [takeBlock, Except.map]
      have ended : takeBlock size ([] : List (Delivery Item Failure)) =
          (.ok [], []) := by
        cases size <;> rfl
      rw [readBlocks_of_block taken isEmpty, readBlocks_of_empty ended,
        blocks_of_le (by omega)]
      rfl
termination_by items.length
decreasing_by
  rw [List.length_drop]
  omega

/-- A source that fails behind some items fails the reading. -/
theorem readBlocks_failure
    {size : Nat}
    (positive : 0 < size)
    (items : List Item)
    (failure : Failure)
    (rest : List (Delivery Item Failure)) :
    readBlocks size (items.map .item ++ .failure failure :: rest) =
      .error failure := by
  by_cases enough : size ≤ items.length
  · have taken := takeBlock_of_le enough (.failure failure :: rest)
    have blockNonempty : items.take size ≠ [] := by
      rw [← List.length_pos_iff, List.length_take]
      omega
    rw [readBlocks_of_block taken blockNonempty,
      readBlocks_failure positive (items.drop size)]
    rfl
  · have taken :=
      takeBlock_of_lt (Nat.lt_of_not_le enough) (.failure failure :: rest)
    obtain ⟨less, shape⟩ :=
      Nat.exists_eq_succ_of_ne_zero
        (Nat.sub_ne_zero_of_lt (Nat.lt_of_not_le enough))
    rw [shape, takeBlock] at taken
    exact readBlocks_of_error taken
termination_by items.length
decreasing_by
  rw [List.length_drop]
  omega

/-- What a reading that returned did with its first block. -/
theorem readBlocks_eq_ok
    {size : Nat}
    {schedule : List (Delivery Item Failure)}
    {chunks : List (List Item)}
    (returned : readBlocks size schedule = .ok chunks) :
    (chunks = [] ∧ ∃ rest, takeBlock size schedule = (.ok [], rest)) ∨
      ∃ block rest later,
        takeBlock size schedule = (.ok block, rest) ∧
          block ≠ [] ∧
          readBlocks size rest = .ok later ∧
          chunks = block :: later := by
  cases taken : takeBlock size schedule with
  | mk outcome rest =>
      cases outcome with
      | error failure =>
          rw [readBlocks_of_error taken] at returned
          cases returned
      | ok block =>
          by_cases isEmpty : block = []
          · subst isEmpty
            rw [readBlocks_of_empty taken] at returned
            cases returned
            exact .inl ⟨rfl, rest, rfl⟩
          · rw [readBlocks_of_block taken isEmpty] at returned
            cases more : readBlocks size rest with
            | error failure =>
                rw [more] at returned
                cases returned
            | ok later =>
                rw [more] at returned
                cases returned
                exact .inr ⟨block, rest, later, rfl, isEmpty, more, rfl⟩

/-- Every block that is read has items in it, and no more than asked for. -/
theorem length_of_mem_readBlocks
    {size : Nat}
    {schedule : List (Delivery Item Failure)}
    {chunks : List (List Item)}
    (returned : readBlocks size schedule = .ok chunks)
    {chunk : List Item}
    (member : chunk ∈ chunks) :
    0 < chunk.length ∧ chunk.length ≤ size := by
  induction chunks generalizing schedule with
  | nil =>
      cases member
  | cons first others inductionHypothesis =>
      rcases readBlocks_eq_ok returned with
          ⟨isEmpty, _⟩ | ⟨block, rest, later, taken, nonempty, more, shape⟩
      · cases isEmpty
      · cases shape
        rcases List.mem_cons.mp member with isFirst | isLater
        · subst isFirst
          exact ⟨List.length_pos_iff.mpr nonempty,
            length_takeBlock_le taken⟩
        · exact inductionHypothesis more isLater

/--
The first stall comes when `position` items and those before it do not fill
whole blocks, and an item follows it.
-/
def stallsMidBlock
    (size : Nat) :
    Nat → List (Delivery Item Failure) → Bool
  | position, .item _ :: rest =>
      stallsMidBlock size (position + 1) rest
  | position, .stall :: .item _ :: _ =>
      position % size != 0
  | _, _ =>
      false

/-- Items delivered before the first stall move its position. -/
theorem stallsMidBlock_append
    (size position : Nat)
    (items : List Item)
    (rest : List (Delivery Item Failure)) :
    stallsMidBlock size position (items.map .item ++ rest) =
      stallsMidBlock size (position + items.length) rest := by
  induction items generalizing position with
  | nil =>
      rfl
  | cons item more inductionHypothesis =>
      rw [List.map_cons, List.cons_append, stallsMidBlock,
        inductionHypothesis, List.length_cons]
      congr 1
      omega

/-- A schedule is the items before the first mark, and what starts there. -/
theorem exists_items
    (schedule : List (Delivery Item Failure)) :
    ∃ (items : List Item) (rest : List (Delivery Item Failure)),
      schedule = items.map .item ++ rest ∧
        ∀ item more, rest ≠ .item item :: more := by
  induction schedule with
  | nil =>
      exact ⟨[], [], rfl, fun _ _ same => by cases same⟩
  | cons first rest inductionHypothesis =>
      cases first with
      | item item =>
          obtain ⟨items, left, shape, marked⟩ := inductionHypothesis
          exact ⟨item :: items, left, by rw [shape]; rfl, marked⟩
      | stall =>
          exact ⟨[], .stall :: rest, rfl, fun _ _ same => by cases same⟩
      | failure failure =>
          exact
            ⟨[], .failure failure :: rest, rfl,
              fun _ _ same => by cases same⟩

/-- A block is nonempty exactly when the schedule starts with an item. -/
theorem takeBlock_eq_nil
    {count : Nat}
    {schedule rest : List (Delivery Item Failure)}
    {block : List Item}
    (taken : takeBlock (count + 1) schedule = (.ok block, rest)) :
    block = [] ↔ ∀ item more, schedule ≠ .item item :: more := by
  match schedule with
  | [] =>
      cases taken
      simp
  | .stall :: _ =>
      cases taken
      simp
  | .failure _ :: _ =>
      cases taken
  | .item item :: later =>
      rw [takeBlock] at taken
      cases front : (takeBlock count later).1 with
      | error failure =>
          simp [front, Except.map] at taken
      | ok others =>
          simp only [front, Except.map, Prod.mk.injEq,
            Except.ok.injEq] at taken
          simp [← taken.1]

/-- After a reading returned, more blocks follow exactly when an item does. -/
theorem readBlocks_eq_nil
    {size : Nat}
    (positive : 0 < size)
    {schedule : List (Delivery Item Failure)}
    {chunks : List (List Item)}
    (returned : readBlocks size schedule = .ok chunks) :
    chunks = [] ↔ ∀ item more, schedule ≠ .item item :: more := by
  obtain ⟨less, shape⟩ :=
    Nat.exists_eq_succ_of_ne_zero (Nat.pos_iff_ne_zero.mp positive)
  subst shape
  rcases readBlocks_eq_ok returned with
      ⟨isEmpty, rest, taken⟩ |
        ⟨block, rest, later, taken, nonempty, _, shape⟩
  · have marked := (takeBlock_eq_nil taken).mp rfl
    simp [isEmpty, marked]
  · have started := mt (takeBlock_eq_nil taken).mpr nonempty
    simp [shape, started]

/-- At a stall the position decides, if an item follows. -/
theorem stallsMidBlock_stall
    {size position : Nat}
    {rest : List (Delivery Item Failure)} :
    stallsMidBlock size position (.stall :: rest) = false ↔
      (∀ item more, rest ≠ .item item :: more) ∨ position % size = 0 := by
  match rest with
  | [] =>
      simp [stallsMidBlock]
  | .stall :: _ =>
      simp [stallsMidBlock]
  | .failure _ :: _ =>
      simp [stallsMidBlock]
  | .item _ :: _ =>
      simp [stallsMidBlock]

/-- Where no item comes next, an aligned position has no stall in a block. -/
theorem stallsMidBlock_of_marked
    {size position : Nat}
    {schedule : List (Delivery Item Failure)}
    (aligned : position % size = 0)
    (marked : ∀ item more, schedule ≠ .item item :: more) :
    stallsMidBlock size position schedule = false := by
  match schedule with
  | [] =>
      rfl
  | .stall :: rest =>
      exact stallsMidBlock_stall.mpr (.inr aligned)
  | .failure _ :: _ =>
      rfl
  | .item item :: more =>
      exact (marked item more rfl).elim

/--
The blocks of a reading that returned are full, the last one apart, exactly
when no stall inside a block is followed by an item.
-/
theorem full_iff_stallsMidBlock
    {size position : Nat}
    (positive : 0 < size)
    {schedule : List (Delivery Item Failure)}
    {chunks : List (List Item)}
    (aligned : position % size = 0)
    (returned : readBlocks size schedule = .ok chunks) :
    (∀ chunk ∈ chunks.dropLast, chunk.length = size) ↔
      stallsMidBlock size position schedule = false := by
  induction chunks generalizing position schedule with
  | nil =>
      have marked := (readBlocks_eq_nil positive returned).mp rfl
      simp [stallsMidBlock_of_marked aligned marked]
  | cons first others inductionHypothesis =>
      rcases readBlocks_eq_ok returned with
          ⟨isEmpty, _⟩ | ⟨block, rest, later, taken, nonempty, more, shape⟩
      · cases isEmpty
      · cases shape
        obtain ⟨items, left, shape, marked⟩ := exists_items schedule
        subst shape
        by_cases enough : size ≤ items.length
        · rw [takeBlock_of_le enough] at taken
          cases taken
          have blockFull : (items.take size).length = size :=
            List.length_take_of_le enough
          have alignedNext : (position + size) % size = 0 := by
            rw [Nat.add_mod_right, aligned]
          have later := inductionHypothesis alignedNext more
          rw [stallsMidBlock_append] at later ⊢
          rw [List.length_drop, Nat.add_assoc,
            Nat.add_sub_cancel' enough] at later
          rw [← later]
          by_cases alone : others = []
          · subst alone
            simp
          · rw [List.dropLast_cons_of_ne_nil alone]
            simp [blockFull]
        · have short : items.length < size := by
            omega
          obtain ⟨less, missing⟩ := Nat.exists_eq_succ_of_ne_zero
            (show size - items.length ≠ 0 by omega)
          rw [takeBlock_of_lt short, missing] at taken
          rw [stallsMidBlock_append]
          match left with
          | [] =>
              simp only [takeBlock, Except.map, List.append_nil,
                Prod.mk.injEq, Except.ok.injEq] at taken
              obtain ⟨sameBlock, sameRest⟩ := taken
              subst sameBlock sameRest
              have noMore := (readBlocks_eq_nil positive more).mpr
                fun _ _ same => by cases same
              subst noMore
              simp [stallsMidBlock]
          | .failure failure :: _ =>
              cases taken
          | .item item :: others =>
              exact (marked item others rfl).elim
          | .stall :: next =>
              simp only [takeBlock, Except.map, List.append_nil,
                Prod.mk.injEq, Except.ok.injEq] at taken
              obtain ⟨sameBlock, sameRest⟩ := taken
              subst sameBlock sameRest
              have someItems := List.length_pos_iff.mpr nonempty
              have unaligned :
                  ¬ (position + items.length) % size = 0 := by
                rw [Nat.add_mod, aligned, Nat.zero_add,
                  Nat.mod_mod, Nat.mod_eq_of_lt short]
                omega
              rw [stallsMidBlock_stall, or_iff_left unaligned,
                ← readBlocks_eq_nil positive more]
              by_cases alone : others = []
              · simp [alone]
              · rw [List.dropLast_cons_of_ne_nil alone]
                simp only [List.mem_cons, forall_eq_or_imp, alone,
                  iff_false, not_and]
                omega

end Segmentation
