import PqForgeFfi.DartErrors
import PqForgeFfi.Paging.PageLocks
import PqForgeFfi.Transitions.Schedule

namespace PqForgeFfi

open Paging Transitions

/-!
# Pinned secrets

`PinnedSecret` locks the pages of its buffer when it is made and unlocks them
when it is dropped.  Secrets that are live at the same time may lie on one
page, and the page is then unlocked under whichever of them is left.

`Vec::zeroize` of the `zeroize` crate is a parameter: `munlock` is called for
the length that it leaves, which is none where it clears the vector.
-/

/-- `PinnedSecret`, with the address of its buffer. -/
structure PinnedSecret where
  bytes : Bytes
  address : Nat
  locked : Bool
  deriving Repr, DecidableEq

namespace PinnedSecret

/-- The addresses of the buffer. -/
def region (secret : PinnedSecret) : Region where
  start := secret.address
  len := secret.bytes.length

/-- `lock`, given whether `mlock` succeeds. -/
def lock
    (pageSize : Nat)
    (mlockSucceeds : Bool)
    (secret : PinnedSecret)
    (lockedPages : List Nat) :
    PinnedSecret × List Nat :=
  if secret.bytes.isEmpty then
    (secret, lockedPages)
  else if mlockSucceeds then
    ({ secret with locked := true },
      Paging.lock pageSize secret.region lockedPages)
  else
    ({ secret with locked := false }, lockedPages)

/-- `from_slice`, given where the allocator puts the buffer. -/
def fromSlice
    (pageSize : Nat)
    (address : Nat)
    (mlockSucceeds : Bool)
    (src : Bytes)
    (lockedPages : List Nat) :
    PinnedSecret × List Nat :=
  lock pageSize mlockSucceeds
    { bytes := src, address, locked := false } lockedPages

/-- `drop`: the pages that are still locked. -/
def drop
    (zeroize : Bytes → Bytes)
    (pageSize : Nat)
    (secret : PinnedSecret)
    (lockedPages : List Nat) :
    List Nat :=
  let wiped := { secret with bytes := zeroize secret.bytes }
  if wiped.locked then
    Paging.unlock pageSize wiped.region lockedPages
  else
    lockedPages

end PinnedSecret

/-! ## A process -/

/-- The live secrets of a process, and the pages it has locked. -/
structure SecretMemory where
  live : List PinnedSecret
  lockedPages : List Nat
  deriving Repr, DecidableEq

/-- What a process does with its secrets. -/
inductive SecretAction where
  | fromSlice (src : Bytes) (address : Nat) (mlockSucceeds : Bool)
  | drop (index : Nat)
  deriving Repr, DecidableEq

namespace SecretMemory

/-- The range at an address meets no live buffer. -/
def Free
    (memory : SecretMemory)
    (address len : Nat) : Prop :=
  ∀ secret ∈ memory.live,
    address + len ≤ secret.address ∨
      secret.address + secret.bytes.length ≤ address

instance
    (memory : SecretMemory)
    (address len : Nat) :
    Decidable (memory.Free address len) :=
  inferInstanceAs (Decidable (∀ _ ∈ _, _))

/-- One call of `from_slice`, or one drop of a live secret. -/
def step
    (zeroize : Bytes → Bytes)
    (pageSize : Nat)
    (memory : SecretMemory) :
    SecretAction → Option SecretMemory
  | .fromSlice src address mlockSucceeds =>
      if memory.Free address src.length then
        let (secret, lockedPages) :=
          PinnedSecret.fromSlice pageSize address mlockSucceeds src
            memory.lockedPages
        some { live := secret :: memory.live, lockedPages }
      else
        none
  | .drop index =>
      match memory.live[index]? with
      | none =>
          none
      | some secret =>
          some {
            live := memory.live.eraseIdx index
            lockedPages :=
              secret.drop zeroize pageSize memory.lockedPages }

/-- Every byte of a live secret whose lock succeeded is on a locked page. -/
def Pinned
    (pageSize : Nat)
    (memory : SecretMemory) : Prop :=
  ∀ secret ∈ memory.live,
    secret.locked = true →
    Held pageSize secret.region memory.lockedPages

instance
    (pageSize : Nat)
    (memory : SecretMemory) :
    Decidable (memory.Pinned pageSize) :=
  inferInstanceAs (Decidable (∀ _ ∈ _, _))

/-- The region that dropping a locked secret unlocks. -/
def unlockedRegion
    (zeroize : Bytes → Bytes)
    (secret : PinnedSecret) :
    Region where
  start := secret.address
  len := (zeroize secret.bytes).length

/--
Dropping a locked secret is harmless: no page that it unlocks holds a byte of
another locked secret that stays alive.
-/
def DropsApart
    (zeroize : Bytes → Bytes)
    (pageSize : Nat)
    (memory : SecretMemory) :
    SecretAction → Prop
  | .fromSlice _ _ _ => True
  | .drop index =>
      ∀ secret ∈ memory.live[index]?,
        secret.locked = true →
        ∀ other ∈ memory.live.eraseIdx index,
          other.locked = true →
          Apart pageSize other.region (unlockedRegion zeroize secret)

instance
    (zeroize : Bytes → Bytes)
    (pageSize : Nat)
    (memory : SecretMemory) :
    ∀ action, Decidable (memory.DropsApart zeroize pageSize action)
  | .fromSlice _ _ _ => inferInstanceAs (Decidable True)
  | .drop _ => inferInstanceAs (Decidable (∀ _ ∈ _, _))

section Steps

variable {zeroize : Bytes → Bytes}
variable {pageSize : Nat}
variable {memory next : SecretMemory}

/-- A new secret is held if its lock succeeded. -/
theorem held_fromSlice
    (positive : 0 < pageSize)
    (address : Nat)
    (mlockSucceeds : Bool)
    (src : Bytes)
    (lockedPages : List Nat) :
    let made :=
      PinnedSecret.fromSlice pageSize address mlockSucceeds src
        lockedPages
    made.1.locked = true →
      Held pageSize made.1.region made.2 := by
  intro made isLocked
  simp only [made, PinnedSecret.fromSlice, PinnedSecret.lock]
    at isLocked ⊢
  split at isLocked
  · cases isLocked
  · split at isLocked
    · rename_i notEmpty succeeds
      rw [if_neg notEmpty, if_pos succeeds]
      exact held_lock positive
    · cases isLocked

/-- Making a secret releases no other. -/
theorem held_of_fromSlice
    {region : Region}
    {lockedPages : List Nat}
    (held : Held pageSize region lockedPages)
    (address : Nat)
    (mlockSucceeds : Bool)
    (src : Bytes) :
    Held pageSize region
      (PinnedSecret.fromSlice pageSize address mlockSucceeds src
        lockedPages).2 := by
  rw [PinnedSecret.fromSlice, PinnedSecret.lock]
  split
  · exact held
  · split
    · exact held.lock _
    · exact held

/-- A drop releases exactly the secrets that share a page with a locked one. -/
theorem held_drop_iff
    {region : Region}
    {lockedPages : List Nat}
    (secret : PinnedSecret) :
    Held pageSize region (secret.drop zeroize pageSize lockedPages) ↔
      Held pageSize region lockedPages ∧
        (secret.locked = true →
          Apart pageSize region (unlockedRegion zeroize secret)) := by
  rw [PinnedSecret.drop]
  cases locked : secret.locked with
  | true =>
      simp only [↓reduceIte, forall_const]
      exact held_unlock_iff
  | false =>
      simp

/-- Making a secret keeps every live one pinned. -/
theorem Pinned.fromSlice
    (positive : 0 < pageSize)
    (pinned : memory.Pinned pageSize)
    {src : Bytes}
    {address : Nat}
    {mlockSucceeds : Bool}
    (stepped :
      step zeroize pageSize memory
          (.fromSlice src address mlockSucceeds) =
        some next) :
    next.Pinned pageSize := by
  rw [step] at stepped
  split at stepped
  · cases stepped
    intro secret member isLocked
    rcases List.mem_cons.mp member with isNew | older
    · subst isNew
      exact held_fromSlice positive address mlockSucceeds src
        memory.lockedPages isLocked
    · exact held_of_fromSlice (pinned secret older isLocked) address
        mlockSucceeds src
  · cases stepped

/-- A drop keeps every secret pinned exactly when it is apart from the others. -/
theorem Pinned.drop_iff
    (pinned : memory.Pinned pageSize)
    {index : Nat}
    (stepped :
      step zeroize pageSize memory (.drop index) = some next) :
    next.Pinned pageSize ↔
      memory.DropsApart zeroize pageSize (.drop index) := by
  rw [step] at stepped
  split at stepped
  · cases stepped
  · rename_i dropped found
    cases stepped
    constructor
    · intro still secret same wasLocked other member isLocked
      obtain rfl := Option.some.inj (found.symm.trans same)
      exact ((held_drop_iff dropped).mp
        (still other member isLocked)).2 wasLocked
    · intro apart other member isLocked
      refine (held_drop_iff dropped).mpr
        ⟨pinned other (List.mem_of_mem_eraseIdx member) isLocked, ?_⟩
      intro wasLocked
      exact apart dropped found wasLocked other member isLocked

end Steps

/--
Wherever making and dropping secrets leads, every live locked secret is pinned
if no drop on the way unlocked a page under another live locked secret.
-/
theorem pinned_of_drops_apart
    {zeroize : Bytes → Bytes}
    {pageSize : Nat}
    (positive : 0 < pageSize)
    {lockedPages : List Nat}
    {actions : List SecretAction}
    {memory : SecretMemory}
    (apart :
      Along (step zeroize pageSize) (DropsApart zeroize pageSize)
        { live := [], lockedPages } actions)
    (reached :
      run (step zeroize pageSize) { live := [], lockedPages } actions =
        some memory) :
    memory.Pinned pageSize := by
  refine run_invariant ?_ ?_ apart reached
  · intro before action after pinned allowed stepped
    cases action with
    | fromSlice src address mlockSucceeds =>
        exact pinned.fromSlice positive stepped
    | drop index =>
        exact (pinned.drop_iff stepped).mpr allowed
  · intro secret member
    cases member

/-- A key of 32 bytes. -/
def someKey : Bytes :=
  List.replicate 32 7

/-- Two keys on different pages, the first of which is dropped. -/
theorem pinned_of_drops_apart_of_two :
    SecretMemory.Pinned 4096
      { live := [⟨someKey, 8208, true⟩], lockedPages := [2] } :=
  @pinned_of_drops_apart (fun _ => []) 4096 (by decide) []
    [.fromSlice someKey 16 true, .fromSlice someKey 8208 true, .drop 1]
    _ (by decide +kernel) (by decide +kernel)

/--
Two keys on one page: whether `zeroize` clears the vector or only fills it,
dropping the first key unlocks the page under the second.
-/
theorem drop_unpins_neighbour :
    (∃ memory,
      run (step (fun _ => []) 4096) { live := [], lockedPages := [] }
          [.fromSlice someKey 16 true, .fromSlice someKey 64 true,
            .drop 1] =
        some memory ∧
      ¬memory.Pinned 4096) ∧
    ∃ memory,
      run
          (step (fun bytes => List.replicate bytes.length 0) 4096)
          { live := [], lockedPages := [] }
          [.fromSlice someKey 16 true, .fromSlice someKey 64 true,
            .drop 1] =
        some memory ∧
      ¬memory.Pinned 4096 := by
  constructor
  · exact
      ⟨{ live := [⟨someKey, 64, true⟩], lockedPages := [] },
        by decide +kernel, by decide +kernel⟩
  · exact
      ⟨{ live := [⟨someKey, 64, true⟩], lockedPages := [] },
        by decide +kernel, by decide +kernel⟩

end SecretMemory

end PqForgeFfi
