import PqForgeFfi.Segmentation.Sealing

namespace Segmentation

/-!
# Agreement of two runs

Two loops over the same items, with errors of their own, hand on images one by
one.  Whether they hand on the same images and end alike is decided by their
actions at the positions that the second loop gets to, and at no others.
-/

variable {Item Seen LeftError RightError Result : Type}
variable {corresponds : LeftError → RightError → Prop}

/--
Two computations hand on the same and end alike: both with the same result, or
with errors that correspond.
-/
def Agree
    (corresponds : LeftError → RightError → Prop)
    (left : Trace Seen LeftError Result)
    (right : Trace Seen RightError Result) : Prop :=
  left.log = right.log ∧
    match left.outcome, right.outcome with
    | .ok one, .ok other => one = other
    | .error one, .error other => corresponds one other
    | _, _ => False

/-- Agreement is preserved by sequencing. -/
theorem Agree.bind
    {First : Type}
    {left : Trace Seen LeftError First}
    {right : Trace Seen RightError First}
    {leftNext : First → Trace Seen LeftError Result}
    {rightNext : First → Trace Seen RightError Result}
    (first : Agree corresponds left right)
    (next :
      ∀ result,
        right.outcome = .ok result →
        Agree corresponds (leftNext result) (rightNext result)) :
    Agree corresponds (left >>= leftNext) (right >>= rightNext) := by
  obtain ⟨sameLog, sameEnd⟩ := first
  cases leftEnd : left.outcome with
  | error one =>
      cases rightEnd : right.outcome with
      | error other =>
          rw [leftEnd, rightEnd] at sameEnd
          rw [Trace.bind_of_error leftEnd, Trace.bind_of_error rightEnd]
          exact ⟨sameLog, sameEnd⟩
      | ok other =>
          rw [leftEnd, rightEnd] at sameEnd
          exact sameEnd.elim
  | ok one =>
      cases rightEnd : right.outcome with
      | error other =>
          rw [leftEnd, rightEnd] at sameEnd
          exact sameEnd.elim
      | ok other =>
          rw [leftEnd, rightEnd] at sameEnd
          obtain rfl : one = other := sameEnd
          obtain ⟨laterLog, laterEnd⟩ := next one rightEnd
          rw [Trace.bind_of_ok leftEnd, Trace.bind_of_ok rightEnd]
          exact ⟨by rw [sameLog, laterLog], laterEnd⟩

/--
At every position the action hands on one image or fails, and behind an image
it fails only with an error that nothing corresponds to.
-/
def ReleasesOrBreaks
    (corresponds : LeftError → RightError → Prop)
    (act : Nat → Bool → Item → Trace Seen RightError Unit) : Prop :=
  ∀ position last item,
    (∃ image, act position last item = .record image) ∨
      (∃ error, act position last item = .fail error) ∨
        ∃ image error,
          act position last item = ⟨[image], .error error⟩ ∧
            ∀ other, ¬ corresponds other error

/-- Two sequences that agree agree in their first actions, and then behind. -/
theorem Agree.of_bind
    {left : Trace Seen LeftError Unit}
    {right : Trace Seen RightError Unit}
    {leftNext : Trace Seen LeftError Unit}
    {rightNext : Trace Seen RightError Unit}
    (leftActs :
      (∃ image, left = .record image) ∨ ∃ error, left = .fail error)
    (rightActs :
      (∃ image, right = .record image) ∨
        (∃ error, right = .fail error) ∨
          ∃ image error,
            right = ⟨[image], .error error⟩ ∧
              ∀ other, ¬ corresponds other error)
    (agree :
      Agree corresponds (left >>= fun _ => leftNext)
        (right >>= fun _ => rightNext)) :
    Agree corresponds left right ∧
      (right.outcome = .ok () → Agree corresponds leftNext rightNext) := by
  rcases leftActs with ⟨image, rfl⟩ | ⟨error, rfl⟩ <;>
    rcases rightActs with
      ⟨other, rfl⟩ | ⟨refusal, rfl⟩ | ⟨other, refusal, rfl, unlike⟩
  · obtain ⟨sameLog, sameEnd⟩ := agree
    obtain ⟨rfl, sameRest⟩ := List.cons.inj sameLog
    exact ⟨⟨rfl, rfl⟩, fun _ => ⟨sameRest, sameEnd⟩⟩
  · exact absurd agree.1 (List.cons_ne_nil _ _)
  · obtain ⟨_, sameEnd⟩ := agree
    rw [Trace.bind_of_ok rfl, Trace.bind_of_error rfl] at sameEnd
    cases leftEnd : leftNext.outcome with
    | ok result =>
        simp only [leftEnd] at sameEnd
    | error thrown =>
        simp only [leftEnd] at sameEnd
        exact absurd sameEnd (unlike thrown)
  · exact absurd agree.1.symm (List.cons_ne_nil _ _)
  · exact ⟨agree, fun returned => by cases returned⟩
  · exact absurd agree.1.symm (List.cons_ne_nil _ _)

/-- A run gets to a position when the actions before it all return. -/
def Reaches
    (act : Nat → Bool → Item → Trace Seen RightError Unit)
    (position : Nat)
    (items : List Item)
    (index : Nat) : Prop :=
  ∀ earlier item,
    earlier < index →
    items[earlier]? = some item →
    (act (position + earlier) false item).outcome = .ok ()

section Runs

variable {leftAct : Nat → Bool → Item → Trace Seen LeftError Unit}
variable {rightAct : Nat → Bool → Item → Trace Seen RightError Unit}
variable {position : Nat}
variable {items : List Item}

/-- A run gets behind its first item exactly when that action returns. -/
theorem reaches_cons_iff
    {item : Item}
    {index : Nat} :
    Reaches rightAct position (item :: items) (index + 1) ↔
      (rightAct position false item).outcome = .ok () ∧
        Reaches rightAct (position + 1) items index := by
  constructor
  · intro reaches
    refine ⟨reaches 0 item (Nat.succ_pos _) rfl, ?_⟩
    intro earlier other before present
    have there := reaches (earlier + 1) other (Nat.succ_lt_succ before)
      (by simpa using present)
    rwa [Nat.add_assoc, Nat.add_comm 1]
  · rintro ⟨here, reaches⟩ earlier other before present
    cases earlier with
    | zero =>
        obtain rfl : item = other := Option.some.inj present
        exact here
    | succ earlier =>
        have there := reaches earlier other (Nat.lt_of_succ_lt_succ before)
          (by simpa using present)
        rwa [Nat.add_assoc, Nat.add_comm 1] at there

/--
Two runs agree exactly when their actions agree at every position that the
second run gets to.
-/
theorem agree_flaggedRun_iff
    (leftActs : ReleasesOrRefuses leftAct)
    (rightActs : ReleasesOrBreaks corresponds rightAct) :
    Agree corresponds
        (flaggedRun leftAct position items)
        (flaggedRun rightAct position items) ↔
      ∀ index item,
        items[index]? = some item →
        Reaches rightAct position items index →
        Agree corresponds
          (leftAct (position + index)
            (decide (index + 1 = items.length)) item)
          (rightAct (position + index)
            (decide (index + 1 = items.length)) item) := by
  induction items generalizing position with
  | nil =>
      constructor
      · intro _ index item present
        cases present
      · intro _
        exact ⟨rfl, rfl⟩
  | cons item rest inductionHypothesis =>
      have reachesFirst :
          Reaches rightAct position (item :: rest) 0 :=
        fun earlier other before => absurd before (Nat.not_lt_zero _)
      by_cases alone : rest = []
      · subst alone
        constructor
        · intro agree index other present _
          obtain ⟨inBounds, _⟩ := List.getElem?_eq_some_iff.mp present
          obtain rfl : index = 0 := by
            simpa using inBounds
          obtain rfl : item = other := Option.some.inj present
          exact agree
        · intro acts
          exact acts 0 item rfl reachesFirst
      · rw [flaggedRun_cons_of_ne_nil leftAct position item alone,
          flaggedRun_cons_of_ne_nil rightAct position item alone]
        have notLast : decide (0 + 1 = (item :: rest).length) = false := by
          simp [alone]
        constructor
        · intro agree index other present reaches
          obtain ⟨first, later⟩ :=
            agree.of_bind (leftActs _ _ _) (rightActs _ _ _)
          cases index with
          | zero =>
              obtain rfl : item = other := Option.some.inj present
              rw [notLast]
              exact first
          | succ index =>
              obtain ⟨returned, reachesRest⟩ :=
                reaches_cons_iff.mp reaches
              have there := inductionHypothesis.mp (later returned) index
                other (by simpa using present) reachesRest
              have sameFlag :
                  (index + 1 + 1 = (item :: rest).length) =
                    (index + 1 = rest.length) := by
                simp
              simp only [sameFlag]
              rwa [Nat.add_assoc, Nat.add_comm 1] at there
        · intro acts
          have here := acts 0 item rfl reachesFirst
          rw [notLast] at here
          refine here.bind fun _ returned => ?_
          refine inductionHypothesis.mpr fun index other present reaches => ?_
          have there := acts (index + 1) other (by simpa using present)
            (reaches_cons_iff.mpr ⟨returned, reaches⟩)
          have sameFlag :
              (index + 1 + 1 = (item :: rest).length) =
                (index + 1 = rest.length) := by
            simp
          simp only [sameFlag] at there
          rwa [Nat.add_assoc, Nat.add_comm 1]

end Runs

end Segmentation
