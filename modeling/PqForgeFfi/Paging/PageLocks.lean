import Mathlib.Data.List.Range
import Mathlib.Data.Nat.Init

namespace Paging

/-!
# Page locks

Memory is locked by whole pages, and locks do not nest: unlocking a region
unlocks every page of it, however often the page was locked and whatever else
lies on it.  A call acts on the region rounded outwards to whole pages, so a
call for no bytes inside a page still acts on that page.
-/

/-- A range of addresses. -/
structure Region where
  start : Nat
  len : Nat
  deriving Repr, DecidableEq

/-- The pages that contain a byte of a region. -/
def touchedPages
    (pageSize : Nat)
    (region : Region) :
    List Nat :=
  (List.range region.len).map fun offset =>
    (region.start + offset) / pageSize

/-- The pages of a region rounded outwards, which a call acts on. -/
def roundedPages
    (pageSize : Nat)
    (region : Region) :
    List Nat :=
  let first := region.start / pageSize
  let next := (region.start + region.len + (pageSize - 1)) / pageSize
  List.range' first (next - first)

/-- Lock the pages of a region. -/
def lock
    (pageSize : Nat)
    (region : Region)
    (lockedPages : List Nat) :
    List Nat :=
  roundedPages pageSize region ++ lockedPages

/-- Unlock the pages of a region. -/
def unlock
    (pageSize : Nat)
    (region : Region)
    (lockedPages : List Nat) :
    List Nat :=
  lockedPages.filter fun page => page ∉ roundedPages pageSize region

/-- Every byte of a region lies on a locked page. -/
def Held
    (pageSize : Nat)
    (region : Region)
    (lockedPages : List Nat) : Prop :=
  ∀ page ∈ touchedPages pageSize region, page ∈ lockedPages

instance
    (pageSize : Nat)
    (region : Region)
    (lockedPages : List Nat) :
    Decidable (Held pageSize region lockedPages) :=
  inferInstanceAs (Decidable (∀ _ ∈ _, _))

/-- No byte of a region lies on a page that a call for another acts on. -/
def Apart
    (pageSize : Nat)
    (region called : Region) : Prop :=
  ∀ page ∈ touchedPages pageSize region,
    page ∉ roundedPages pageSize called

instance
    (pageSize : Nat)
    (region called : Region) :
    Decidable (Apart pageSize region called) :=
  inferInstanceAs (Decidable (∀ _ ∈ _, _))

section Locks

variable {pageSize : Nat}
variable {region called : Region}
variable {lockedPages : List Nat}

/-- A call acts on every page that contains a byte of its region. -/
theorem touched_rounded
    (positive : 0 < pageSize)
    {page : Nat}
    (touched : page ∈ touchedPages pageSize region) :
    page ∈ roundedPages pageSize region := by
  obtain ⟨offset, inRange, isPage⟩ := List.mem_map.mp touched
  subst isPage
  have short : offset < region.len := List.mem_range.mp inRange
  have notBefore :
      region.start / pageSize ≤ (region.start + offset) / pageSize :=
    Nat.div_le_div_right (Nat.le_add_right _ _)
  have before :
      (region.start + offset) / pageSize + 1 ≤
        (region.start + region.len + (pageSize - 1)) / pageSize := by
    rw [← Nat.add_div_right _ positive]
    exact Nat.div_le_div_right (by omega)
  refine List.mem_range'_1.mpr ⟨notBefore, ?_⟩
  omega

/-- A region is held once it is locked. -/
theorem held_lock
    (positive : 0 < pageSize) :
    Held pageSize region (lock pageSize region lockedPages) :=
  fun _ touched =>
    List.mem_append_left _ (touched_rounded positive touched)

/-- Locking another region does not release one. -/
theorem Held.lock
    (held : Held pageSize region lockedPages)
    (called : Region) :
    Held pageSize region (lock pageSize called lockedPages) :=
  fun page touched => List.mem_append_right _ (held page touched)

/-- Unlocking keeps exactly those regions held that it is apart from. -/
theorem held_unlock_iff :
    Held pageSize region (unlock pageSize called lockedPages) ↔
      Held pageSize region lockedPages ∧
        Apart pageSize region called := by
  constructor
  · intro held
    constructor
    · intro page touched
      exact (List.mem_filter.mp (held page touched)).1
    · intro page touched
      exact of_decide_eq_true
        (List.mem_filter.mp (held page touched)).2
  · rintro ⟨held, apart⟩ page touched
    exact List.mem_filter.mpr
      ⟨held page touched, decide_eq_true (apart page touched)⟩

end Locks

end Paging
