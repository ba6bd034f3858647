import PqForgeFfi.Segmentation.Trace
import Mathlib.Data.List.Basic

namespace Segmentation

/-!
# Runs over numbered items with a marked end

A loop that treats the items of a list in order, and treats each one by its
position and by whether it is the last one, is a `flaggedRun`.  The part of
such a loop that has not yet met the last item is a `heldRun`.

The run lemmas below reduce a statement about a whole run to one about the
action at each position: what a run that ends well records, and what any run
can have recorded.
-/

variable {Item Event Error Image : Type}

/-- Act on items none of which is the last one. -/
def heldRun
    (act : Nat → Bool → Item → Trace Event Error Unit) :
    Nat → List Item → Trace Event Error Unit
  | _, [] =>
      .done ()
  | position, item :: rest =>
      act position false item >>= fun _ =>
        heldRun act (position + 1) rest

/-- Act on the items of a list, told each position and which item is last. -/
def flaggedRun
    (act : Nat → Bool → Item → Trace Event Error Unit) :
    Nat → List Item → Trace Event Error Unit
  | _, [] =>
      .done ()
  | position, [final] =>
      act position true final
  | position, item :: next :: rest =>
      act position false item >>= fun _ =>
        flaggedRun act (position + 1) (next :: rest)

/-- Map the items of a list, told each position and which item is last. -/
def flaggedMap
    (image : Nat → Bool → Item → Image) :
    Nat → List Item → List Image
  | _, [] =>
      []
  | position, [final] =>
      [image position true final]
  | position, item :: next :: rest =>
      image position false item ::
        flaggedMap image (position + 1) (next :: rest)

/-! ## Splitting a run -/

/-- A held run over a concatenation is two held runs. -/
theorem heldRun_append
    (act : Nat → Bool → Item → Trace Event Error Unit)
    (position : Nat)
    (earlier later : List Item) :
    heldRun act position (earlier ++ later) =
      heldRun act position earlier >>= fun _ =>
        heldRun act (position + earlier.length) later := by
  induction earlier generalizing position with
  | nil =>
      simp [heldRun]
  | cons item rest inductionHypothesis =>
      simp only [List.cons_append, heldRun, inductionHypothesis,
        List.length_cons, Trace.bind_assoc]
      rw [Nat.add_assoc, Nat.add_comm 1]

/-- A run holds back its last item. -/
theorem flaggedRun_concat
    (act : Nat → Bool → Item → Trace Event Error Unit)
    (position : Nat)
    (front : List Item)
    (final : Item) :
    flaggedRun act position (front ++ [final]) =
      heldRun act position front >>= fun _ =>
        act (position + front.length) true final := by
  induction front generalizing position with
  | nil =>
      simp [heldRun, flaggedRun]
  | cons item rest inductionHypothesis =>
      obtain ⟨next, later, shape⟩ :=
        List.exists_cons_of_ne_nil
          (List.append_ne_nil_of_right_ne_nil rest
            (List.cons_ne_nil final []))
      have step :
          flaggedRun act position (item :: (rest ++ [final])) =
            act position false item >>= fun _ =>
              flaggedRun act (position + 1) (rest ++ [final]) := by
        rw [shape]
        rfl
      rw [List.cons_append, step, inductionHypothesis]
      simp only [heldRun, List.length_cons, Trace.bind_assoc]
      rw [Nat.add_assoc, Nat.add_comm 1]

/-- A map over a nonempty list marks exactly its last image. -/
theorem flaggedMap_cons_of_ne_nil
    (image : Nat → Bool → Item → Image)
    (position : Nat)
    (item : Item)
    {rest : List Item}
    (followed : rest ≠ []) :
    flaggedMap image position (item :: rest) =
      image position false item ::
        flaggedMap image (position + 1) rest := by
  obtain ⟨next, later, shape⟩ := List.exists_cons_of_ne_nil followed
  subst shape
  rfl

/-- A run over a nonempty list marks exactly its last action. -/
theorem flaggedRun_cons_of_ne_nil
    (act : Nat → Bool → Item → Trace Event Error Unit)
    (position : Nat)
    (item : Item)
    {rest : List Item}
    (followed : rest ≠ []) :
    flaggedRun act position (item :: rest) =
      act position false item >>= fun _ =>
        flaggedRun act (position + 1) rest := by
  obtain ⟨next, later, shape⟩ := List.exists_cons_of_ne_nil followed
  subst shape
  rfl

@[simp] theorem length_flaggedMap
    (image : Nat → Bool → Item → Image)
    (position : Nat)
    (items : List Item) :
    (flaggedMap image position items).length = items.length := by
  fun_induction flaggedMap image position items with
  | case1 => rfl
  | case2 => rfl
  | case3 position item next rest inductionHypothesis =>
      rw [List.length_cons, inductionHypothesis]
      rfl

/-- Each image is the one of its position, marked when nothing follows. -/
theorem getElem?_flaggedMap
    (image : Nat → Bool → Item → Image)
    (position : Nat)
    (items : List Item)
    (index : Nat) :
    (flaggedMap image position items)[index]? =
      items[index]?.map
        (image (position + index) (decide (index + 1 = items.length))) := by
  induction items generalizing position index with
  | nil =>
      rfl
  | cons item rest inductionHypothesis =>
      by_cases alone : rest = []
      · subst alone
        cases index with
        | zero =>
            rfl
        | succ index =>
            rfl
      · have restLength : 0 < rest.length :=
          List.length_pos_iff.mpr alone
        rw [flaggedMap_cons_of_ne_nil image position item alone]
        cases index with
        | zero =>
            have notLast : ¬ 0 + 1 = (item :: rest).length := by
              rw [List.length_cons]
              omega
            simp [alone]
        | succ index =>
            rw [List.getElem?_cons_succ, List.getElem?_cons_succ,
              inductionHypothesis, List.length_cons]
            have sameFlag :
                (index + 1 + 1 = rest.length + 1) =
                  (index + 1 = rest.length) := by
              simp
            simp only [sameFlag]
            rw [Nat.add_assoc, Nat.add_comm 1]

/-- The images of a list: those before the last item, and the marked last one. -/
theorem flaggedMap_concat
    (image : Nat → Bool → Item → Image)
    (position : Nat)
    (front : List Item)
    (final : Item) :
    flaggedMap image position (front ++ [final]) =
      front.mapIdx (fun index item =>
          image (position + index) false item) ++
        [image (position + front.length) true final] := by
  induction front generalizing position with
  | nil =>
      rfl
  | cons item rest inductionHypothesis =>
      rw [List.cons_append,
        flaggedMap_cons_of_ne_nil image position item (by simp),
        inductionHypothesis, List.mapIdx_cons, List.length_cons]
      simp only [List.cons_append, Nat.add_zero, Nat.add_assoc,
        Nat.add_comm 1]

/-- Equal images of the items at their positions give equal lists. -/
theorem flaggedMap_congr
    {image other : Nat → Bool → Item → Image}
    {position : Nat}
    {items : List Item}
    (same :
      ∀ index item,
        items[index]? = some item →
        image (position + index)
            (decide (index + 1 = items.length)) item =
          other (position + index)
            (decide (index + 1 = items.length)) item) :
    flaggedMap image position items =
      flaggedMap other position items := by
  apply List.ext_getElem?
  intro index
  rw [getElem?_flaggedMap, getElem?_flaggedMap]
  cases present : items[index]? with
  | none =>
      rfl
  | some item =>
      simp only [Option.map_some]
      rw [same index item present]

/-- Where each image shows its item, the images show the items. -/
theorem map_flaggedMap
    {image : Nat → Bool → Item → Image}
    {view : Image → Item}
    (shows : ∀ position last item, view (image position last item) = item)
    (position : Nat)
    (items : List Item) :
    (flaggedMap image position items).map view = items := by
  apply List.ext_getElem?
  intro index
  rw [List.getElem?_map, getElem?_flaggedMap]
  cases items[index]? with
  | none =>
      rfl
  | some item =>
      exact congrArg some (shows _ _ item)

/-! ## Run lemmas -/

/-- A held run only depends on what is done with items that are not the last. -/
theorem heldRun_congr
    {act other : Nat → Bool → Item → Trace Event Error Unit}
    (same :
      ∀ position item,
        act position false item = other position false item)
    (position : Nat)
    (items : List Item) :
    heldRun act position items = heldRun other position items := by
  induction items generalizing position with
  | nil =>
      rfl
  | cons item rest inductionHypothesis =>
      rw [heldRun, heldRun, same position item]
      simp only [inductionHypothesis]

/-- A run in which every action returns records every action's events. -/
theorem flaggedRun_of_ok
    {act : Nat → Bool → Item → Trace Event Error Unit}
    {events : Nat → Bool → Item → List Event}
    {position : Nat}
    {items : List Item}
    (returns :
      ∀ index < items.length,
        ∀ flag item,
          item ∈ items →
          act (position + index) flag item =
            ⟨events (position + index) flag item, .ok ()⟩) :
    flaggedRun act position items =
      ⟨(flaggedMap events position items).flatten, .ok ()⟩ := by
  induction items generalizing position with
  | nil =>
      rfl
  | cons item rest inductionHypothesis =>
      have here := fun flag =>
        returns 0 (Nat.succ_pos _) flag item List.mem_cons_self
      have later :
          flaggedRun act (position + 1) rest =
            ⟨(flaggedMap events (position + 1) rest).flatten, .ok ()⟩ :=
        inductionHypothesis fun index inBounds flag laterItem member => by
          have := returns (index + 1) (Nat.succ_lt_succ inBounds)
            flag laterItem (List.mem_cons_of_mem item member)
          rwa [← Nat.add_assoc, Nat.add_right_comm] at this
      rw [Nat.add_zero] at here
      by_cases alone : rest = []
      · subst alone
        simpa [flaggedRun, flaggedMap] using here true
      · rw [flaggedRun_cons_of_ne_nil act position item alone,
          flaggedMap_cons_of_ne_nil events position item alone,
          here false, Trace.bind_of_ok rfl, later]
        rfl

/-- Singletons of images concatenate to the images. -/
theorem flatten_flaggedMap_singleton
    (image : Nat → Bool → Item → Image)
    (position : Nat)
    (items : List Item) :
    (flaggedMap (fun index flag item => [image index flag item])
        position items).flatten =
      flaggedMap image position items := by
  fun_induction flaggedMap image position items with
  | case1 =>
      rfl
  | case2 =>
      rfl
  | case3 position item next rest inductionHypothesis =>
      rw [flaggedMap, List.flatten_cons, inductionHypothesis]
      rfl

/-- A run whose actions each record one image records the images. -/
theorem flaggedRun_record
    {act : Nat → Bool → Item → Trace Image Error Unit}
    {image : Nat → Bool → Item → Image}
    {position : Nat}
    {items : List Item}
    (records :
      ∀ index < items.length,
        ∀ flag item,
          item ∈ items →
          act (position + index) flag item =
            .record (image (position + index) flag item)) :
    flaggedRun act position items =
      ⟨flaggedMap image position items, .ok ()⟩ := by
  rw [← flatten_flaggedMap_singleton]
  exact flaggedRun_of_ok records

/-- Whatever a run has recorded is the start of what its actions record. -/
theorem flaggedRun_log_prefix
    (act : Nat → Bool → Item → Trace Event Error Unit)
    (position : Nat)
    (items : List Item) :
    (flaggedRun act position items).log <+:
      (flaggedMap
        (fun index flag item => (act index flag item).log)
        position items).flatten := by
  fun_induction flaggedRun act position items with
  | case1 =>
      exact List.prefix_refl []
  | case2 position final =>
      simp [flaggedMap]
  | case3 position item next rest inductionHypothesis =>
      rw [flaggedMap, List.flatten_cons]
      cases ended : (act position false item).outcome with
      | error error =>
          rw [Trace.bind_of_error ended]
          exact List.prefix_append _ _
      | ok result =>
          rw [Trace.bind_of_ok ended]
          exact (List.prefix_append_right_inj _).mpr inductionHypothesis

/--
What holds of every moment of an action, and stays true behind an action that
returned, holds of every moment of a run.
-/
theorem flaggedRun_moments
    (holds : List Event → Prop)
    {act : Nat → Bool → Item → Trace Event Error Unit}
    (acts :
      ∀ position last item moment,
        moment <+: (act position last item).log → holds moment)
    (behind :
      ∀ position last item later,
        (act position last item).outcome = .ok () →
        holds later →
        holds ((act position last item).log ++ later))
    (nothing : holds [])
    {position : Nat}
    {items : List Item}
    {moment : List Event}
    (earlier : moment <+: (flaggedRun act position items).log) :
    holds moment := by
  fun_induction flaggedRun act position items generalizing moment with
  | case1 =>
      obtain rfl := List.prefix_nil.mp earlier
      exact nothing
  | case2 position final =>
      exact acts position true final moment earlier
  | case3 position item next rest inductionHypothesis =>
      cases ended : (act position false item).outcome with
      | error error =>
          rw [Trace.bind_of_error ended] at earlier
          exact acts position false item moment earlier
      | ok result =>
          rw [Trace.bind_of_ok ended] at earlier
          obtain ⟨remaining, joined⟩ := earlier
          rcases List.append_eq_append_iff.mp joined with
              ⟨within, actLog, _⟩ | ⟨later, momentShape, laterLog⟩
          · exact acts position false item moment ⟨within, actLog.symm⟩
          · subst momentShape
            exact behind position false item later ended
              (inductionHypothesis ⟨remaining, laterLog.symm⟩)

/--
What holds of the items at their positions, the last one flagged, holds of the
first one unflagged and of the others at positions one further on.
-/
theorem positions_cons_iff
    (Holds : Nat → Bool → Item → Prop)
    {position : Nat}
    {item : Item}
    {rest : List Item}
    (nonempty : rest ≠ []) :
    (∀ index other,
      (item :: rest)[index]? = some other →
      Holds (position + index)
        (decide (index + 1 = (item :: rest).length)) other) ↔
      Holds position false item ∧
        ∀ index other,
          rest[index]? = some other →
          Holds (position + 1 + index)
            (decide (index + 1 = rest.length)) other := by
  have notLast : decide (0 + 1 = (item :: rest).length) = false := by
    simp [nonempty]
  have sameFlag : ∀ index,
      (index + 1 + 1 = (item :: rest).length) =
        (index + 1 = rest.length) := by
    simp
  constructor
  · intro all
    have here := all 0 item rfl
    rw [notLast] at here
    refine ⟨here, fun index other present => ?_⟩
    have there := all (index + 1) other (by simpa using present)
    simp only [sameFlag] at there
    rwa [Nat.add_assoc, Nat.add_comm 1]
  · rintro ⟨here, later⟩ index other present
    cases index with
    | zero =>
        obtain rfl : item = other := Option.some.inj present
        rw [notLast]
        exact here
    | succ index =>
        have there := later index other (by simpa using present)
        simp only [sameFlag]
        rwa [Nat.add_assoc, Nat.add_comm 1] at there

/-- A run whose actions record one image each, at their positions, records them. -/
theorem flaggedRun_of_records
    {act : Nat → Bool → Item → Trace Image Error Unit}
    {image : Nat → Bool → Item → Image}
    {position : Nat}
    {items : List Item}
    (records :
      ∀ index item,
        items[index]? = some item →
        act (position + index) (decide (index + 1 = items.length)) item =
          .record
            (image (position + index)
              (decide (index + 1 = items.length)) item)) :
    flaggedRun act position items =
      ⟨flaggedMap image position items, .ok ()⟩ := by
  induction items generalizing position with
  | nil =>
      rfl
  | cons item rest inductionHypothesis =>
      by_cases alone : rest = []
      · subst alone
        simpa [flaggedRun, flaggedMap, Trace.record] using
          records 0 item rfl
      · obtain ⟨first, later⟩ :=
          (positions_cons_iff
            (fun index flag other =>
              act index flag other = .record (image index flag other))
            alone).mp records
        rw [flaggedRun_cons_of_ne_nil act position item alone,
          flaggedMap_cons_of_ne_nil image position item alone, first,
          Trace.bind_of_ok rfl, inductionHypothesis later]
        rfl

/--
Images that are all longer than their items by one amount, or shorter by one,
are so together for each of the items.
-/
theorem length_flatten_flaggedMap
    {Letter Sign : Type}
    {image : Nat → Bool → List Letter → List Sign}
    {position more less : Nat}
    {items : List (List Letter)}
    (lengths :
      ∀ index item,
        items[index]? = some item →
        (image (position + index)
              (decide (index + 1 = items.length)) item).length + less =
          item.length + more) :
    (flaggedMap image position items).flatten.length +
        items.length * less =
      items.flatten.length + items.length * more := by
  induction items generalizing position with
  | nil =>
      simp [flaggedMap]
  | cons item rest inductionHypothesis =>
      by_cases alone : rest = []
      · subst alone
        simpa [flaggedMap] using lengths 0 item rfl
      · obtain ⟨first, later⟩ :=
          (positions_cons_iff
            (fun index flag other =>
              (image index flag other).length + less =
                other.length + more)
            alone).mp lengths
        have behind := inductionHypothesis later
        rw [flaggedMap_cons_of_ne_nil image position item alone,
          List.flatten_cons, List.flatten_cons, List.length_append,
          List.length_append, List.length_cons, Nat.add_mul, Nat.add_mul,
          Nat.one_mul, Nat.one_mul]
        omega

/-- In a run that returned every action returned and all was recorded. -/
theorem flaggedRun_eq_ok
    {act : Nat → Bool → Item → Trace Event Error Unit}
    {position : Nat}
    {items : List Item}
    (returned : (flaggedRun act position items).outcome = .ok ()) :
    (flaggedRun act position items).log =
        (flaggedMap
          (fun index flag item => (act index flag item).log)
          position items).flatten ∧
      ∀ index item,
        items[index]? = some item →
        (act (position + index)
          (decide (index + 1 = items.length)) item).outcome =
            .ok () := by
  induction items generalizing position with
  | nil =>
      exact ⟨rfl, fun index item present => by cases present⟩
  | cons item rest inductionHypothesis =>
      by_cases alone : rest = []
      · subst alone
        refine ⟨by simp [flaggedRun, flaggedMap], ?_⟩
        intro index other present
        obtain ⟨inBounds, _⟩ := List.getElem?_eq_some_iff.mp present
        obtain rfl : index = 0 := by
          simpa using inBounds
        obtain rfl : item = other := by
          simpa using present
        simpa [flaggedRun] using returned
      · rw [flaggedRun_cons_of_ne_nil act position item alone] at returned ⊢
        obtain ⟨_, first, later, joined⟩ := Trace.bind_eq_ok returned
        obtain ⟨laterLog, laterOk⟩ := inductionHypothesis later
        refine ⟨?_, ?_⟩
        · rw [joined, laterLog,
            flaggedMap_cons_of_ne_nil _ position item alone]
          rfl
        · exact
            (positions_cons_iff
              (fun index flag other =>
                (act index flag other).outcome = .ok ())
              alone).mpr ⟨first, laterOk⟩

/-- When every action fails as a kind, so does a run. -/
theorem flaggedRun_failsAs
    {kind : Error → Prop}
    {act : Nat → Bool → Item → Trace Event Error Unit}
    {position : Nat}
    {items : List Item}
    (fails :
      ∀ index item,
        items[index]? = some item →
        (act (position + index)
          (decide (index + 1 = items.length)) item).FailsAs kind) :
    (flaggedRun act position items).FailsAs kind := by
  induction items generalizing position with
  | nil =>
      exact Trace.failsAs_done ()
  | cons item rest inductionHypothesis =>
      by_cases alone : rest = []
      · subst alone
        exact fails 0 item rfl
      · obtain ⟨here, later⟩ :=
          (positions_cons_iff
            (fun index flag other => (act index flag other).FailsAs kind)
            alone).mp fails
        rw [flaggedRun_cons_of_ne_nil act position item alone]
        exact here.bind fun _ => inductionHypothesis later

/-- Observing a run is running the observed actions. -/
theorem observe_flaggedRun
    {Seen : Type}
    (see : Event → Option Seen)
    (act : Nat → Bool → Item → Trace Event Error Unit)
    (position : Nat)
    (items : List Item) :
    (flaggedRun act position items).observe see =
      flaggedRun
        (fun index flag item => (act index flag item).observe see)
        position items := by
  fun_induction flaggedRun act position items with
  | case1 =>
      rfl
  | case2 position final =>
      rfl
  | case3 position item next rest inductionHypothesis =>
      rw [Trace.observe_bind]
      simp only [inductionHypothesis]
      rfl

/-- What holds of all events of the actions holds of all events of a held run. -/
theorem forall_log_heldRun
    {holds : Event → Prop}
    {act : Nat → Bool → Item → Trace Event Error Unit}
    (acts :
      ∀ position item,
        ∀ event ∈ (act position false item).log, holds event)
    (position : Nat)
    (items : List Item) :
    ∀ event ∈ (heldRun act position items).log, holds event := by
  induction items generalizing position with
  | nil =>
      intro event member
      cases member
  | cons item rest inductionHypothesis =>
      exact Trace.forall_log_bind (acts position item)
        fun _ _ => inductionHypothesis (position + 1)

/-- What holds of all events of the actions holds of all events of a run. -/
theorem forall_log_flaggedRun
    {holds : Event → Prop}
    {act : Nat → Bool → Item → Trace Event Error Unit}
    (acts :
      ∀ position last item,
        ∀ event ∈ (act position last item).log, holds event)
    (position : Nat)
    (items : List Item) :
    ∀ event ∈ (flaggedRun act position items).log, holds event := by
  fun_induction flaggedRun act position items with
  | case1 =>
      intro event member
      cases member
  | case2 position final =>
      exact acts position true final
  | case3 position item next rest inductionHypothesis =>
      exact Trace.forall_log_bind (acts position false item)
        fun _ _ => inductionHypothesis

/-- A held run does what a run does that has one more item. -/
theorem heldRun_log_prefix
    (act : Nat → Bool → Item → Trace Event Error Unit)
    (position : Nat)
    (front : List Item)
    (final : Item) :
    (heldRun act position front).log <+:
      (flaggedRun act position (front ++ [final])).log := by
  rw [flaggedRun_concat]
  cases ended : (heldRun act position front).outcome with
  | error error =>
      refine ⟨[], ?_⟩
      rw [List.append_nil, Trace.bind_of_error ended]
  | ok _ =>
      rw [Trace.bind_of_ok ended]
      exact List.prefix_append _ _

/--
When each action that returned shows one image, a held run that returned shows
the images.
-/
theorem heldRun_shows
    {Seen : Type}
    {see : Event → Option Seen}
    {act : Nat → Bool → Item → Trace Event Error Unit}
    (image : Nat → Item → Seen)
    (shows :
      ∀ position item,
        (act position false item).outcome = .ok () →
        (act position false item).log.filterMap see =
          [image position item])
    {position : Nat}
    {items : List Item}
    (returned : (heldRun act position items).outcome = .ok ()) :
    (heldRun act position items).log.filterMap see =
      items.mapIdx fun index item => image (position + index) item := by
  induction items generalizing position with
  | nil =>
      rfl
  | cons item rest inductionHypothesis =>
      rw [heldRun] at returned ⊢
      obtain ⟨_, first, later, joined⟩ := Trace.bind_eq_ok returned
      rw [joined, List.filterMap_append, shows position item first,
        inductionHypothesis later, List.mapIdx_cons]
      simp only [List.singleton_append, Nat.add_zero, Nat.add_assoc,
        Nat.add_comm 1]

/-- A held run that failed ends with the action that failed. -/
theorem heldRun_eq_error
    {act : Nat → Bool → Item → Trace Event Error Unit}
    {position : Nat}
    {items : List Item}
    {error : Error}
    (failed : (heldRun act position items).outcome = .error error) :
    ∃ reached item,
      (act reached false item).outcome = .error error ∧
        (act reached false item).log <:+
          (heldRun act position items).log := by
  induction items generalizing position with
  | nil =>
      cases failed
  | cons item rest inductionHypothesis =>
      rw [heldRun] at failed ⊢
      cases ended : (act position false item).outcome with
      | error other =>
          rw [Trace.bind_of_error ended] at failed ⊢
          cases failed
          exact ⟨position, item, ended, List.suffix_refl _⟩
      | ok result =>
          rw [Trace.bind_of_ok ended] at failed ⊢
          obtain ⟨reached, stopped, stoppedHere, ends⟩ :=
            inductionHypothesis failed
          exact
            ⟨reached, stopped, stoppedHere,
              ends.trans (List.suffix_append _ _)⟩

/--
When each action that returned shows one image, a run that returned shows the
images.
-/
theorem flaggedRun_shows
    {Seen : Type}
    {see : Event → Option Seen}
    {act : Nat → Bool → Item → Trace Event Error Unit}
    {image : Nat → Bool → Item → Seen}
    {position : Nat}
    {items : List Item}
    (returned : (flaggedRun act position items).outcome = .ok ())
    (shows :
      ∀ index item,
        items[index]? = some item →
        let last := decide (index + 1 = items.length)
        (act (position + index) last item).outcome = .ok () →
        (act (position + index) last item).log.filterMap see =
          [image (position + index) last item]) :
    (flaggedRun act position items).log.filterMap see =
      flaggedMap image position items := by
  have observed := observe_flaggedRun see act position items
  have observedReturned :
      (flaggedRun
        (fun index flag item => (act index flag item).observe see)
        position items).outcome = .ok () := by
    rw [← observed, Trace.observe_outcome, returned]
  have log := congrArg Trace.log observed
  rw [(flaggedRun_eq_ok observedReturned).1] at log
  refine log.trans ?_
  rw [← flatten_flaggedMap_singleton image]
  congr 1
  refine flaggedMap_congr fun index item present => ?_
  exact shows index item present
    ((flaggedRun_eq_ok returned).2 index item present)

end Segmentation
