import Mathlib.Data.List.Nodup
import Mathlib.Logic.Function.Basic

namespace Allocation

/-!
# Blocks of memory

A heap hands out blocks, each at an address of its own, and takes them back.
To touch an address at which no block lives is undefined, and so is a write of
another extent than the block's, and with them every computation that does so.
What a computation owns beside the blocks that were live before it is a list of
blocks; the rules here say how that list grows and shrinks.
-/

/--
The live block at each address, the number of blocks asked for so far, and the
contents of the blocks that were taken back, in order.
-/
structure Heap (Content : Type) where
  live : Nat → Option Content
  requests : Nat
  freed : List Content

namespace Heap

variable {Content : Type}

/-- The heap behind a further request. -/
def asked (heap : Heap Content) : Heap Content :=
  { heap with requests := heap.requests + 1 }

/-- A content at an address. -/
def put
    (heap : Heap Content)
    (address : Nat)
    (content : Content) :
    Heap Content :=
  { heap with live := Function.update heap.live address (some content) }

/-- A block taken back. -/
def take
    (heap : Heap Content)
    (address : Nat)
    (content : Content) :
    Heap Content :=
  { heap with
    live := Function.update heap.live address none
    freed := heap.freed ++ [content] }

end Heap

/-- Where a block is put, if anywhere: never at null, nor at a live one. -/
structure Allocator (Content : Type) where
  place : Heap Content → Content → Option Nat
  notNull :
    ∀ {heap content address},
      place heap content = some address → address ≠ 0
  unused :
    ∀ {heap content address},
      place heap content = some address → heap.live address = none

/-- A computation on a heap, which returns or throws; `none` is undefined. -/
def Program (Content Error Result : Type) : Type :=
  Heap Content → Option (Except Error Result × Heap Content)

variable {Content Error Result Next : Type}

namespace Program

def done (result : Result) : Program Content Error Result :=
  fun heap => some (.ok result, heap)

def fail (error : Error) : Program Content Error Result :=
  fun heap => some (.error error, heap)

/-- A computation without a meaning. -/
def undefined : Program Content Error Result :=
  fun _ => none

/-- The second computation runs behind a first one that returned. -/
def andThen
    (first : Program Content Error Result)
    (next : Result → Program Content Error Next) :
    Program Content Error Next :=
  fun heap =>
    match first heap with
    | none => none
    | some (.error error, behind) => some (.error error, behind)
    | some (.ok result, behind) => next result behind

instance : Monad (Program Content Error) where
  pure := done
  bind := andThen

/-- `try` and `finally`: the clean-up runs however the body has ended. -/
def tryFinally
    (body : Program Content Error Result)
    (cleanUp : Program Content Error Unit) :
    Program Content Error Result :=
  fun heap =>
    match body heap with
    | none => none
    | some (ending, behind) =>
        match cleanUp behind with
        | none => none
        | some (.error error, final) => some (.error error, final)
        | some (.ok (), final) => some (ending, final)

/-- Behind a computation that returned the next one goes on. -/
theorem bind_of_ok
    {first : Program Content Error Result}
    {heap behind : Heap Content}
    {result : Result}
    (returned : first heap = some (.ok result, behind))
    (next : Result → Program Content Error Next) :
    (first >>= next) heap = next result behind := by
  show andThen first next heap = _
  rw [andThen, returned]

/-- Behind a computation that threw nothing follows. -/
theorem bind_of_error
    {first : Program Content Error Result}
    {heap behind : Heap Content}
    {error : Error}
    (threw : first heap = some (.error error, behind))
    (next : Result → Program Content Error Next) :
    (first >>= next) heap = some (.error error, behind) := by
  show andThen first next heap = _
  rw [andThen, threw]

/-- A clean-up that returns lets the body end as it did. -/
theorem tryFinally_of_ok
    {body : Program Content Error Result}
    {cleanUp : Program Content Error Unit}
    {heap behind final : Heap Content}
    {ending : Except Error Result}
    (ended : body heap = some (ending, behind))
    (cleaned : cleanUp behind = some (.ok (), final)) :
    tryFinally body cleanUp heap = some (ending, final) := by
  rw [tryFinally, ended]
  simp only [cleaned]

end Program

/-! ## The operations of a heap -/

/-- Ask for a block, or throw where the allocator has no place for it. -/
def calloc
    (allocator : Allocator Content)
    (content : Content)
    (failure : Error) :
    Program Content Error Nat :=
  fun heap =>
    match allocator.place heap content with
    | none => some (.error failure, heap.asked)
    | some address => some (.ok address, heap.asked.put address content)

/-- Give a live block back. -/
def free (address : Nat) : Program Content Error Unit :=
  fun heap =>
    match heap.live address with
    | none => none
    | some content => some (.ok (), heap.take address content)

/-- The content of a live block. -/
def load (address : Nat) : Program Content Error Content :=
  fun heap =>
    match heap.live address with
    | none => none
    | some content => some (.ok content, heap)

/-- The number of bytes that a content takes. -/
class Extent (Content : Type) where
  extent : Content → Nat

export Extent (extent)

/-- Another content for a live block, of the extent that the block has. -/
def store
    [Extent Content]
    (address : Nat)
    (content : Content) :
    Program Content Error Unit :=
  fun heap =>
    match heap.live address with
    | none => none
    | some held =>
        if extent content = extent held then
          some (.ok (), heap.put address content)
        else
          none

/-- One acquisition after the other. -/
def acquireAll :
    List (Program Content Error Nat) →
      Program Content Error (List Nat)
  | [] =>
      pure []
  | acquire :: rest => do
      let address ← acquire
      let addresses ← acquireAll rest
      pure (address :: addresses)

/-- One release after the other. -/
def freeAll : List Nat → Program Content Error Unit
  | [] =>
      pure ()
  | address :: rest => do
      free address
      freeAll rest

/-- One read after the other. -/
def loadAll : List Nat → Program Content Error (List Content)
  | [] =>
      pure []
  | address :: rest => do
      let content ← load address
      let contents ← loadAll rest
      pure (content :: contents)

/-- One write after the other. -/
def storeAll [Extent Content] :
    List Nat →
      List Content →
      Program Content Error Unit
  | address :: addresses, content :: contents => do
      store address content
      storeAll addresses contents
  | _, _ =>
      pure ()

/-- Acquire, work, and release in the end, however the work has gone. -/
def within
    (acquisitions : List (Program Content Error Nat))
    (releases : List Nat → List Nat)
    (body : List Nat → Program Content Error Result) :
    Program Content Error Result := do
  let addresses ← acquireAll acquisitions
  Program.tryFinally (body addresses) (freeAll (releases addresses))

/--
Beside the blocks that were live in a base, exactly the listed ones are, each
at an address of its own.
-/
structure Owns
    (base : Nat → Option Content)
    (blocks : List (Nat × Content))
    (heap : Heap Content) : Prop where
  separate : (blocks.map Prod.fst).Nodup
  apart : ∀ block ∈ blocks, base block.1 = none
  notNull : ∀ block ∈ blocks, block.1 ≠ 0
  found : ∀ block ∈ blocks, heap.live block.1 = some block.2
  others :
    ∀ address,
      address ∉ blocks.map Prod.fst →
      heap.live address = base address

namespace Owns

variable {base : Nat → Option Content}
variable {blocks earlier later : List (Nat × Content)}
variable {heap : Heap Content}

/-- At first nothing is owned. -/
theorem start (heap : Heap Content) : Owns heap.live [] heap where
  separate := List.nodup_nil
  apart := fun _ member => by cases member
  notNull := fun _ member => by cases member
  found := fun _ member => by cases member
  others := fun _ _ => rfl

/-- Where nothing is owned the base is all there is. -/
theorem live_eq (owns : Owns base [] heap) : heap.live = base :=
  funext fun address => owns.others address List.not_mem_nil

/-- What is owned depends on the live blocks only. -/
theorem of_live_eq
    (owns : Owns base blocks heap)
    {other : Heap Content}
    (same : other.live = heap.live) :
    Owns base blocks other where
  separate := owns.separate
  apart := owns.apart
  notNull := owns.notNull
  found := fun block member => by rw [same, owns.found block member]
  others := fun address absent => by rw [same, owns.others address absent]

/-- A place that an allocator picks is not owned, and free in the base. -/
theorem place_fresh
    (owns : Owns base blocks heap)
    {allocator : Allocator Content}
    {content : Content}
    {address : Nat}
    (placed : allocator.place heap content = some address) :
    address ∉ blocks.map Prod.fst ∧ base address = none := by
  have unused := allocator.unused placed
  have absent : address ∉ blocks.map Prod.fst := by
    intro member
    obtain ⟨block, isBlock, rfl⟩ := List.mem_map.mp member
    have found := owns.found block isBlock
    rw [unused] at found
    cases found
  exact ⟨absent, (owns.others address absent).symm.trans unused⟩

/-- A new block is owned behind the others. -/
theorem allocated
    (owns : Owns base blocks heap)
    {allocator : Allocator Content}
    {content : Content}
    {address : Nat}
    (placed : allocator.place heap content = some address) :
    Owns base (blocks ++ [(address, content)])
      (heap.asked.put address content) := by
  obtain ⟨absent, baseFree⟩ := owns.place_fresh placed
  have other : ∀ block ∈ blocks, block.1 ≠ address := by
    intro block member same
    exact absent (List.mem_map.mpr ⟨block, member, same⟩)
  refine ⟨?_, ?_, ?_, ?_, ?_⟩
  · rw [List.map_append, List.nodup_append]
    refine ⟨owns.separate, List.nodup_singleton address, ?_⟩
    intro earlierAddress isEarlier lastAddress isLast same
    obtain rfl : lastAddress = address := by
      simpa using isLast
    exact absent (same ▸ isEarlier)
  · intro block member
    rcases List.mem_append.mp member with old | new
    · exact owns.apart block old
    · obtain rfl := List.mem_singleton.mp new
      exact baseFree
  · intro block member
    rcases List.mem_append.mp member with old | new
    · exact owns.notNull block old
    · obtain rfl := List.mem_singleton.mp new
      exact allocator.notNull placed
  · intro block member
    rcases List.mem_append.mp member with old | new
    · exact (Function.update_of_ne (other block old) _ _).trans
        (owns.found block old)
    · obtain rfl := List.mem_singleton.mp new
      exact Function.update_self _ _ _
  · intro position absentBehind
    rw [List.map_append, List.mem_append, not_or] at absentBehind
    obtain ⟨notOld, notNew⟩ := absentBehind
    have differs : position ≠ address := by
      simpa using notNew
    exact (Function.update_of_ne differs _ _).trans
      (owns.others position notOld)

/-- A block in the middle can be given another content. -/
theorem stored
    {address : Nat}
    {content : Content}
    (owns : Owns base (earlier ++ (address, content) :: later) heap)
    (other : Content) :
    Owns base (earlier ++ (address, other) :: later)
      (heap.put address other) := by
  have sameAddresses :
      (earlier ++ (address, other) :: later).map Prod.fst =
        (earlier ++ (address, content) :: later).map Prod.fst := by
    simp
  have separate := owns.separate
  rw [List.map_append, List.map_cons, List.nodup_append,
    List.nodup_cons] at separate
  obtain ⟨_, ⟨notLater, _⟩, disjoint⟩ := separate
  have differs :
      ∀ block ∈ earlier ++ later, block.1 ≠ address := by
    intro block member same
    rcases List.mem_append.mp member with isEarlier | isLater
    · exact disjoint block.1 (List.mem_map_of_mem isEarlier) address
        List.mem_cons_self same
    · exact notLater (List.mem_map.mpr ⟨block, isLater, same⟩)
  have shape :
      ∀ block ∈ earlier ++ (address, other) :: later,
        block = (address, other) ∨ block ∈ earlier ++ later := by
    intro block member
    simp only [List.mem_append, List.mem_cons] at member ⊢
    rcases member with isEarlier | same | isLater
    · exact .inr (.inl isEarlier)
    · exact .inl same
    · exact .inr (.inr isLater)
  have kept :
      ∀ block ∈ earlier ++ later,
        block ∈ earlier ++ (address, content) :: later := by
    intro block member
    simp only [List.mem_append, List.mem_cons] at member ⊢
    rcases member with isEarlier | isLater
    · exact .inl isEarlier
    · exact .inr (.inr isLater)
  have here :
      (address, content) ∈ earlier ++ (address, content) :: later := by
    simp
  refine ⟨?_, ?_, ?_, ?_, ?_⟩
  · rw [sameAddresses]
    exact owns.separate
  · intro block member
    rcases shape block member with rfl | old
    · exact owns.apart (address, content) here
    · exact owns.apart block (kept block old)
  · intro block member
    rcases shape block member with rfl | old
    · exact owns.notNull (address, content) here
    · exact owns.notNull block (kept block old)
  · intro block member
    rcases shape block member with rfl | old
    · exact Function.update_self _ _ _
    · exact (Function.update_of_ne (differs block old) _ _).trans
        (owns.found block (kept block old))
  · intro position absent
    rw [sameAddresses] at absent
    have notHere : position ≠ address := by
      rintro rfl
      exact absent (List.mem_map_of_mem here)
    exact (Function.update_of_ne notHere _ _).trans
      (owns.others position absent)

/-- The first block can be given back. -/
theorem released
    {address : Nat}
    {content : Content}
    (owns : Owns base ((address, content) :: blocks) heap) :
    Owns base blocks (heap.take address content) := by
  have separate := owns.separate
  rw [List.map_cons, List.nodup_cons] at separate
  obtain ⟨notLater, separate⟩ := separate
  have differs : ∀ block ∈ blocks, block.1 ≠ address := by
    intro block member same
    exact notLater (List.mem_map.mpr ⟨block, member, same⟩)
  refine ⟨separate, ?_, ?_, ?_, ?_⟩
  · exact fun block member =>
      owns.apart block (List.mem_cons_of_mem _ member)
  · exact fun block member =>
      owns.notNull block (List.mem_cons_of_mem _ member)
  · intro block member
    exact (Function.update_of_ne (differs block member) _ _).trans
      (owns.found block (List.mem_cons_of_mem _ member))
  · intro position absent
    by_cases here : position = address
    · subst here
      exact (Function.update_self _ _ _).trans
        (owns.apart (position, content) List.mem_cons_self).symm
    · refine (Function.update_of_ne here _ _).trans
        (owns.others position fun member => ?_)
      rcases List.mem_cons.mp member with same | isLater
      · exact here same
      · exact absent isLater

/-- What is owned beside what was owned already is owned with it. -/
theorem trans
    {middle final : Heap Content}
    (first : Owns base earlier middle)
    (second : Owns middle.live later final) :
    Owns base (earlier ++ later) final := by
  have disjoint :
      ∀ block ∈ earlier, block.1 ∉ later.map Prod.fst := by
    intro block isEarlier member
    obtain ⟨other, isLater, same⟩ := List.mem_map.mp member
    have found := first.found block isEarlier
    rw [← same, second.apart other isLater] at found
    cases found
  have apart : ∀ block ∈ later, block.1 ∉ earlier.map Prod.fst := by
    intro block isLater member
    obtain ⟨other, isEarlier, same⟩ := List.mem_map.mp member
    exact disjoint other isEarlier
      (List.mem_map.mpr ⟨block, isLater, same.symm⟩)
  refine ⟨?_, ?_, ?_, ?_, ?_⟩
  · rw [List.map_append, List.nodup_append]
    refine ⟨first.separate, second.separate, ?_⟩
    intro address isEarlier other isLater same
    obtain ⟨block, member, rfl⟩ := List.mem_map.mp isEarlier
    exact disjoint block member (same ▸ isLater)
  · intro block member
    rcases List.mem_append.mp member with isEarlier | isLater
    · exact first.apart block isEarlier
    · exact (first.others _ (apart block isLater)).symm.trans
        (second.apart block isLater)
  · intro block member
    rcases List.mem_append.mp member with isEarlier | isLater
    · exact first.notNull block isEarlier
    · exact second.notNull block isLater
  · intro block member
    rcases List.mem_append.mp member with isEarlier | isLater
    · exact (second.others _ (disjoint block isEarlier)).trans
        (first.found block isEarlier)
    · exact second.found block isLater
  · intro address absent
    rw [List.map_append, List.mem_append, not_or] at absent
    exact (second.others address absent.2).trans
      (first.others address absent.1)

end Owns

/-! ## Rules -/

section Rules

variable {base : Nat → Option Content}
variable {blocks earlier later : List (Nat × Content)}
variable {heap : Heap Content}

/-- An owned block can be read. -/
theorem load_owned
    (owns : Owns base blocks heap)
    {address : Nat}
    {content : Content}
    (member : (address, content) ∈ blocks) :
    (load address : Program Content Error Content) heap =
      some (.ok content, heap) := by
  rw [load, owns.found _ member]

/-- An owned block can be written with a content of its extent. -/
theorem store_owned
    [Extent Content]
    {address : Nat}
    {content other : Content}
    (owns : Owns base (earlier ++ (address, content) :: later) heap)
    (sameExtent : extent other = extent content) :
    ∃ behind,
      (store address other : Program Content Error Unit) heap =
          some (.ok (), behind) ∧
        Owns base (earlier ++ (address, other) :: later) behind ∧
        behind.freed = heap.freed := by
  have found := owns.found (address, content) (by simp)
  refine ⟨heap.put address other, ?_, owns.stored other, rfl⟩
  rw [store, found]
  exact if_pos sameExtent

/-- To write what a block holds already changes nothing. -/
theorem store_same
    [Extent Content]
    {address : Nat}
    {content : Content}
    (found : heap.live address = some content) :
    (store address content : Program Content Error Unit) heap =
      some (.ok (), heap) := by
  have unchanged : heap.put address content = heap := by
    rw [Heap.put, ← found, Function.update_eq_self]
  rw [store, found]
  simp only [unchanged, ↓reduceIte]

/-- Owned blocks can be given back one after the other, and once each. -/
theorem freeAll_owned
    (owns : Owns base blocks heap) :
    ∃ behind,
      (freeAll (blocks.map Prod.fst) : Program Content Error Unit) heap =
          some (.ok (), behind) ∧
        behind.live = base ∧
        behind.freed = heap.freed ++ blocks.map Prod.snd := by
  induction blocks generalizing heap with
  | nil =>
      exact ⟨heap, rfl, owns.live_eq, by simp⟩
  | cons block rest inductionHypothesis =>
      obtain ⟨address, content⟩ := block
      have found := owns.found (address, content) List.mem_cons_self
      have freed :
          (free address : Program Content Error Unit) heap =
            some (.ok (), heap.take address content) := by
        rw [free, found]
      obtain ⟨behind, ran, live, record⟩ :=
        inductionHypothesis owns.released
      refine ⟨behind, ?_, live, ?_⟩
      · rw [List.map_cons, freeAll, Program.bind_of_ok freed]
        exact ran
      · rw [record, Heap.take, List.append_assoc]
        rfl

/-- The block that an acquisition of an optional content comes to own. -/
def acquired (address : Nat) : Option Content → List (Nat × Content)
  | none => []
  | some content => [(address, content)]

/-- The blocks that acquisitions of optional contents come to own. -/
def acquiredAll :
    List Nat →
      List (Option Content) →
      List (Nat × Content)
  | address :: addresses, content :: contents =>
      acquired address content ++ acquiredAll addresses contents
  | _, _ => []

@[simp] theorem acquiredAll_nil (contents : List (Option Content)) :
    acquiredAll [] contents = [] := by
  rw [acquiredAll]
  intro address addresses content rest noAddress
  cases noAddress

/-- The addresses of acquisitions, null where nothing was to be acquired. -/
def Places
    (addresses : List Nat)
    (contents : List (Option Content)) : Prop :=
  List.Forall₂ (fun address content => content = none → address = 0)
    addresses contents

/--
An acquisition of a content, or of nothing: it owns one block more, or throws
and owns what it did.
-/
def Acquires
    (fails : Error → Prop)
    (acquire : Program Content Error Nat)
    (content : Option Content) : Prop :=
  ∀ (base : Nat → Option Content) (blocks : List (Nat × Content))
    (heap : Heap Content),
    Owns base blocks heap →
    (∃ address behind,
        acquire heap = some (.ok address, behind) ∧
          Owns base (blocks ++ acquired address content) behind ∧
          behind.freed = heap.freed ∧
          (content = none → address = 0)) ∨
      ∃ error behind,
        acquire heap = some (.error error, behind) ∧
          fails error ∧
          content ≠ none ∧
          Owns base blocks behind ∧
          behind.freed = heap.freed

section Acquiring

variable {fails : Error → Prop}

/-- Nothing is acquired as null. -/
theorem acquires_null :
    Acquires fails (pure 0 : Program Content Error Nat) none := by
  intro base blocks heap owns
  refine .inl ⟨0, heap, rfl, ?_, rfl, fun _ => rfl⟩
  rw [acquired, List.append_nil]
  exact owns

/-- A block is acquired with its content. -/
theorem acquires_calloc
    (allocator : Allocator Content)
    (content : Content)
    {failure : Error}
    (isFailure : fails failure) :
    Acquires fails (calloc allocator content failure)
      (some content) := by
  intro base blocks heap owns
  cases placed : allocator.place heap content with
  | none =>
      refine .inr
        ⟨failure, heap.asked, ?_, isFailure,
          Option.some_ne_none content, owns.of_live_eq rfl, rfl⟩
      rw [calloc, placed]
  | some address =>
      refine .inl
        ⟨address, heap.asked.put address content, ?_,
          owns.allocated placed, rfl,
          fun isNone => absurd isNone (Option.some_ne_none content)⟩
      rw [calloc, placed]

/-- What is acquired can be written before it is handed on. -/
theorem Acquires.thenStore
    [Extent Content]
    {acquire : Program Content Error Nat}
    {content other : Content}
    (acquires : Acquires fails acquire (some content))
    (sameExtent : extent other = extent content)
    {write : Nat → Program Content Error Unit}
    (writes :
      ∀ (heap : Heap Content) (address : Nat),
        heap.live address = some content →
        write address heap = store address other heap) :
    Acquires fails
      (acquire >>= fun address => write address >>= fun _ => pure address)
      (some other) := by
  intro base blocks heap owns
  rcases acquires base blocks heap owns with
      ⟨address, behind, ran, ownsBehind, freed, _⟩ |
        ⟨error, behind, ran, isFailure, _, ownsBehind, freed⟩
  · have found := ownsBehind.found (address, content) (by simp [acquired])
    obtain ⟨final, stored, ownsFinal, freedFinal⟩ :=
      @store_owned _ Error _ _ _ _ _ _ _ _ ownsBehind sameExtent
    refine .inl
      ⟨address, final, ?_, ownsFinal, freedFinal.trans freed,
        fun isNone => absurd isNone (Option.some_ne_none other)⟩
    rw [Program.bind_of_ok ran,
      Program.bind_of_ok ((writes behind address found).trans stored)]
    rfl
  · exact .inr
      ⟨error, behind, Program.bind_of_error ran _, isFailure,
        Option.some_ne_none other, ownsBehind, freed⟩

/-- What a list of acquisitions leaves behind where one of them throws. -/
structure Leaks
    (base : Nat → Option Content)
    (blocks : List (Nat × Content))
    (contents : List (Option Content))
    (leaked : List (Nat × Content))
    (behind : Heap Content) : Prop where
  owns : Owns base (blocks ++ leaked) behind
  front : leaked.map Prod.snd <+: contents.filterMap id
  short : leaked.length < (contents.filterMap id).length

/--
Acquisitions all succeed, or one throws and those before it are left behind.
-/
theorem acquireAll_cases
    {acquisitions : List (Program Content Error Nat)}
    {contents : List (Option Content)}
    (acquire : List.Forall₂ (Acquires fails) acquisitions contents)
    {base : Nat → Option Content}
    {blocks : List (Nat × Content)}
    {heap : Heap Content}
    (owns : Owns base blocks heap) :
    (∃ addresses behind,
        acquireAll acquisitions heap = some (.ok addresses, behind) ∧
          Owns base (blocks ++ acquiredAll addresses contents) behind ∧
          behind.freed = heap.freed ∧
          Places addresses contents) ∨
      ∃ error leaked behind,
        acquireAll acquisitions heap = some (.error error, behind) ∧
          fails error ∧
          Leaks base blocks contents leaked behind ∧
          behind.freed = heap.freed := by
  induction acquire generalizing blocks heap with
  | nil =>
      refine .inl ⟨[], heap, rfl, ?_, rfl, List.Forall₂.nil⟩
      rw [acquiredAll_nil, List.append_nil]
      exact owns
  | @cons acquire content acquisitions contents here _ inductionHypothesis =>
      rcases here base blocks heap owns with
          ⟨address, behind, ran, ownsBehind, freed, null⟩ |
            ⟨error, behind, ran, isFailure, isBlock, ownsBehind, freed⟩
      · rcases inductionHypothesis ownsBehind with
            ⟨addresses, final, ranRest, ownsFinal, freedRest, places⟩ |
              ⟨error, leaked, final, ranRest, isFailure, leaks, freedRest⟩
        · refine .inl
            ⟨address :: addresses, final, ?_, ?_, freedRest.trans freed,
              List.Forall₂.cons null places⟩
          · rw [acquireAll, Program.bind_of_ok ran,
              Program.bind_of_ok ranRest]
            rfl
          · rw [acquiredAll, ← List.append_assoc]
            exact ownsFinal
        · refine .inr
            ⟨error, acquired address content ++ leaked, final, ?_,
              isFailure, ⟨?_, ?_, ?_⟩, freedRest.trans freed⟩
          · rw [acquireAll, Program.bind_of_ok ran]
            exact Program.bind_of_error ranRest _
          · rw [← List.append_assoc]
            exact leaks.owns
          · cases content with
            | none =>
                exact leaks.front
            | some content =>
                exact List.cons_prefix_cons.mpr ⟨rfl, leaks.front⟩
          · have short := leaks.short
            cases content with
            | none =>
                exact short
            | some content =>
                exact Nat.succ_lt_succ short
      · refine .inr
          ⟨error, [], behind, Program.bind_of_error ran _, isFailure,
            ⟨?_, List.nil_prefix, ?_⟩, freed⟩
        · rw [List.append_nil]
          exact ownsBehind
        · cases content with
          | none =>
              exact absurd rfl isBlock
          | some content =>
              exact Nat.succ_pos _

end Acquiring

/-- The addresses of acquired blocks depend on which of them are blocks. -/
theorem acquiredAll_addresses
    {addresses : List Nat}
    {before after : List (Option Content)}
    (alike :
      before.map Option.isSome = after.map Option.isSome) :
    (acquiredAll addresses before).map Prod.fst =
      (acquiredAll addresses after).map Prod.fst := by
  induction addresses generalizing before after with
  | nil =>
      rw [acquiredAll_nil, acquiredAll_nil]
  | cons address rest inductionHypothesis =>
      cases before with
      | nil =>
          obtain rfl : after = [] := by
            simpa using alike.symm
          rfl
      | cons first before =>
          cases after with
          | nil =>
              cases alike
          | cons second after =>
              rw [List.map_cons, List.map_cons, List.cons.injEq] at alike
              obtain ⟨sameHere, sameRest⟩ := alike
              rw [acquiredAll, acquiredAll, List.map_append,
                List.map_append, inductionHypothesis sameRest]
              congr 1
              cases first <;> cases second <;>
                first | rfl | cases sameHere

/-- Addresses of some contents are addresses of others where blocks are alike. -/
theorem Places.of_alike
    {addresses : List Nat}
    {before after : List (Option Content)}
    (places : Places addresses before)
    (alike :
      before.map Option.isSome = after.map Option.isSome) :
    Places addresses after := by
  induction places generalizing after with
  | nil =>
      obtain rfl : after = [] := by
        simpa using alike.symm
      exact List.Forall₂.nil
  | @cons address content addresses contents null _ inductionHypothesis =>
      cases after with
      | nil =>
          cases alike
      | cons other after =>
          rw [List.map_cons, List.map_cons, List.cons.injEq] at alike
          obtain ⟨sameHere, sameRest⟩ := alike
          refine List.Forall₂.cons ?_ (inductionHypothesis sameRest)
          rintro rfl
          cases content with
          | none =>
              exact null rfl
          | some content =>
              cases sameHere

/-- The contents of acquired blocks are those that were asked for. -/
theorem acquiredAll_contents
    {addresses : List Nat}
    {contents : List (Option Content)}
    (places : Places addresses contents) :
    (acquiredAll addresses contents).map Prod.snd =
      contents.filterMap id := by
  induction places with
  | nil =>
      rfl
  | @cons address content addresses contents _ _ inductionHypothesis =>
      rw [acquiredAll, List.map_append, inductionHypothesis]
      cases content <;> rfl

/-- Blocks acquired one after the other are those of both lists. -/
theorem acquiredAll_append
    {addresses later : List Nat}
    {contents laterContents : List (Option Content)}
    (lengths : addresses.length = contents.length) :
    acquiredAll (addresses ++ later) (contents ++ laterContents) =
      acquiredAll addresses contents ++
        acquiredAll later laterContents := by
  induction addresses generalizing contents with
  | nil =>
      obtain rfl : contents = [] :=
        List.eq_nil_of_length_eq_zero lengths.symm
      rfl
  | cons address rest inductionHypothesis =>
      cases contents with
      | nil =>
          cases lengths
      | cons content contents =>
          rw [List.cons_append, List.cons_append, acquiredAll,
            acquiredAll, inductionHypothesis (Nat.succ.inj lengths),
            List.append_assoc]

section Lists

variable {base : Nat → Option Content}
variable {earlier later : List (Nat × Content)}
variable {heap : Heap Content}

/-- Owned blocks can be read one after the other. -/
theorem loadAll_owned
    {addresses : List Nat}
    {contents : List Content}
    (lengths : addresses.length = contents.length)
    (owns :
      Owns base
        (earlier ++ acquiredAll addresses (contents.map some) ++ later)
        heap) :
    (loadAll addresses : Program Content Error (List Content)) heap =
      some (.ok contents, heap) := by
  induction addresses generalizing earlier contents with
  | nil =>
      obtain rfl : contents = [] :=
        List.eq_nil_of_length_eq_zero lengths.symm
      rfl
  | cons address rest inductionHypothesis =>
      cases contents with
      | nil =>
          cases lengths
      | cons content contents =>
          have loaded :=
            @load_owned _ Error _ _ _ owns address content
              (by simp [acquiredAll, acquired])
          have loadedRest :=
            @inductionHypothesis (earlier ++ [(address, content)])
              contents (Nat.succ.inj lengths)
              (by simpa [acquiredAll, acquired] using owns)
          rw [loadAll, Program.bind_of_ok loaded,
            Program.bind_of_ok loadedRest]
          rfl

/-- Owned blocks can be written with contents of their extents. -/
theorem storeAll_owned
    [Extent Content]
    {addresses : List Nat}
    {contents others : List Content}
    (lengths : addresses.length = contents.length)
    (sameExtents : others.map extent = contents.map extent)
    (owns :
      Owns base
        (earlier ++ acquiredAll addresses (contents.map some) ++ later)
        heap) :
    ∃ behind,
      (storeAll addresses others : Program Content Error Unit) heap =
          some (.ok (), behind) ∧
        Owns base
          (earlier ++ acquiredAll addresses (others.map some) ++ later)
          behind ∧
        behind.freed = heap.freed := by
  induction addresses generalizing earlier contents others heap with
  | nil =>
      obtain rfl : contents = [] :=
        List.eq_nil_of_length_eq_zero lengths.symm
      obtain rfl : others = [] :=
        List.map_eq_nil_iff.mp sameExtents
      exact ⟨heap, rfl, owns, rfl⟩
  | cons address rest inductionHypothesis =>
      cases contents with
      | nil =>
          cases lengths
      | cons content contents =>
          cases others with
          | nil =>
              cases sameExtents
          | cons other others =>
              rw [List.map_cons, List.map_cons, List.cons.injEq]
                at sameExtents
              obtain ⟨sameExtent, sameExtents⟩ := sameExtents
              have shape :
                  Owns base
                    (earlier ++ (address, content) ::
                      (acquiredAll rest (contents.map some) ++ later))
                    heap := by
                simpa [acquiredAll, acquired] using owns
              obtain ⟨behind, stored, ownsBehind, freed⟩ :=
                @store_owned _ Error _ _ _ _ _ _ _ _ shape sameExtent
              obtain ⟨final, storedRest, ownsFinal, freedRest⟩ :=
                @inductionHypothesis (earlier ++ [(address, other)])
                  behind contents others (Nat.succ.inj lengths)
                  sameExtents (by simpa using ownsBehind)
              refine ⟨final, ?_, ?_, freedRest.trans freed⟩
              · rw [storeAll, Program.bind_of_ok stored]
                exact storedRest
              · simpa [acquiredAll, acquired] using ownsFinal

end Lists

/--
A scope whose work keeps to the acquired blocks ends as the work does, with
every block given back once; or an acquisition throws, nothing is given back,
and the blocks acquired before it stay live.
-/
theorem within_cases
    {fails : Error → Prop}
    {acquisitions : List (Program Content Error Nat)}
    {contents after : List (Option Content)}
    (acquire : List.Forall₂ (Acquires fails) acquisitions contents)
    (alike : contents.map Option.isSome = after.map Option.isSome)
    {releases : List Nat → List Nat}
    (releasesAll :
      ∀ addresses,
        Places addresses contents →
        releases addresses =
          (acquiredAll addresses contents).map Prod.fst)
    {body : List Nat → Program Content Error Result}
    {heap : Heap Content}
    {ending : Except Error Result}
    (works :
      ∀ addresses behind,
        Places addresses contents →
        Owns heap.live (acquiredAll addresses contents) behind →
        ∃ final,
          body addresses behind = some (ending, final) ∧
            Owns heap.live (acquiredAll addresses after) final ∧
            final.freed = behind.freed) :
    (∃ final,
        within acquisitions releases body heap = some (ending, final) ∧
          final.live = heap.live ∧
          final.freed = heap.freed ++ after.filterMap id) ∨
      ∃ error leaked final,
        within acquisitions releases body heap =
            some (.error error, final) ∧
          fails error ∧
          Leaks heap.live [] contents leaked final ∧
          final.freed = heap.freed := by
  rcases acquireAll_cases acquire (Owns.start heap) with
      ⟨addresses, behind, ran, owns, freed, places⟩ |
        ⟨error, leaked, behind, ran, isFailure, leaks, freed⟩
  · rw [List.nil_append] at owns
    obtain ⟨middle, ended, ownsMiddle, freedMiddle⟩ :=
      works addresses behind places owns
    obtain ⟨final, cleaned, live, record⟩ :=
      @freeAll_owned _ Error _ _ _ ownsMiddle
    refine .inl ⟨final, ?_, live, ?_⟩
    · rw [within, Program.bind_of_ok ran]
      refine Program.tryFinally_of_ok ended ?_
      rw [releasesAll addresses places, acquiredAll_addresses alike]
      exact cleaned
    · rw [record, acquiredAll_contents (places.of_alike alike),
        freedMiddle, freed]
  · exact .inr
      ⟨error, leaked, behind, Program.bind_of_error ran _, isFailure,
        leaks, freed⟩

end Rules

end Allocation
