import PqForgeFfi.NativeLibrary
import PqForgeFfi.Transitions.Machine
import Mathlib.Data.List.Induction

namespace PqForgeFfi

open Transitions

/-!
# The selector

`PqForge.instance` resolves a backend once and then returns the same object
until it is reset or another backend is installed.  What a call returns is
decided by one earlier call, which a history of calls shows.
-/

/--
A backend that a `PqForge` can hold: a native one over a library, the fallback,
or any other implementation of the interface.
-/
inductive ActiveBackend (Build Other : Type) where
  | native (library : SharedLibrary Build)
  | fallback
  | other (backend : Other)

/-- An object of the class `PqForge`, by a number of its own. -/
structure PqForge (Build Other : Type) where
  identity : Nat
  backend : ActiveBackend Build Other

/--
The static state of the class: the singleton, how many objects there have been,
and the paths that libraries have been opened at.
-/
structure Selector (Build Other : Type) where
  «instance» : Option (PqForge Build Other)
  made : Nat
  opened : List String

/-- A call of the class, with how libraries load at its time. -/
inductive SelectorCall (Build Other : Type) where
  | «instance»
      (preferNative : Bool)
      (nativeLibraryPath : Option String)
      (loader : Loader Build)
  | withBackend (backend : ActiveBackend Build Other)
  | reset

namespace Selector

variable {Build Other : Type}

/-- No call has been made. -/
def start : Selector Build Other where
  «instance» := none
  made := 0
  opened := []

/-- `_resolveBackend`, and the paths that it opens a library at. -/
def resolveBackend
    (preferNative : Bool)
    (nativeLibraryPath : Option String)
    (loader : Loader Build) :
    ActiveBackend Build Other × List String :=
  match preferNative, nativeLibraryPath with
  | true, some libraryPath =>
      match NativeBackend.open loader libraryPath with
      | .ok library => (.native library, [libraryPath])
      | .error _ => (.fallback, [libraryPath])
  | _, _ => (.fallback, [])

/-- `PqForge._`, kept as the singleton. -/
def install
    (selector : Selector Build Other)
    (backend : ActiveBackend Build Other)
    (paths : List String) :
    Option (PqForge Build Other) × Selector Build Other :=
  let object := {
    identity := selector.made
    backend := backend }
  (some object, {
    «instance» := some object
    made := selector.made + 1
    opened := selector.opened ++ paths })

/-- A call, and the object that it returns. -/
def step
    (selector : Selector Build Other) :
    SelectorCall Build Other →
      Option (PqForge Build Other) × Selector Build Other
  | .instance preferNative nativeLibraryPath loader =>
      match selector.instance with
      | some object =>
          (some object, selector)
      | none =>
          let (backend, paths) :=
            resolveBackend preferNative nativeLibraryPath loader
          selector.install backend paths
  | .withBackend backend =>
      selector.install backend []
  | .reset =>
      (none, { selector with «instance» := none })

/-- What a history of calls returned, and the state behind it. -/
def called
    (history : List (SelectorCall Build Other)) :
    List (Option (PqForge Build Other)) × Selector Build Other :=
  answers step start history

end Selector

/-! ## What a call is to give -/

namespace SelectorCall

variable {Build Other : Type}

/-- The call asks for the singleton. -/
def Asks : SelectorCall Build Other → Prop
  | .instance _ _ _ => True
  | _ => False

/--
The call makes an object: it installs one, or asks for one where there is none,
at the beginning or behind a reset.
-/
def Makes
    (before : List (SelectorCall Build Other)) :
    SelectorCall Build Other → Prop
  | .instance _ _ _ => before = [] ∨ before.getLast? = some .reset
  | .withBackend _ => True
  | .reset => False

/-- A call resolves to a native backend over this library. -/
def ResolvesTo
    (preferNative : Bool)
    (nativeLibraryPath : Option String)
    (loader : Loader Build)
    (library : SharedLibrary Build) : Prop :=
  preferNative = true ∧
    ∃ libraryPath,
      nativeLibraryPath = some libraryPath ∧
        loader libraryPath = .ok library ∧
        library.Valid

/--
The backend of the object that a call makes: the installed one, or native over
a library that is asked for, loads and is valid, or else the fallback.
-/
inductive Gives :
    SelectorCall Build Other →
      ActiveBackend Build Other →
      Prop where
  | installed (backend : ActiveBackend Build Other) :
      Gives (.withBackend backend) backend
  | native
      {preferNative : Bool}
      {nativeLibraryPath : Option String}
      {loader : Loader Build}
      {library : SharedLibrary Build}
      (resolves :
        ResolvesTo preferNative nativeLibraryPath loader library) :
      Gives (.instance preferNative nativeLibraryPath loader)
        (.native library)
  | fallback
      {preferNative : Bool}
      {nativeLibraryPath : Option String}
      {loader : Loader Build}
      (unresolved :
        ∀ library,
          ¬ResolvesTo preferNative nativeLibraryPath loader library) :
      Gives (.instance preferNative nativeLibraryPath loader) .fallback

/-- The paths that a call may open a library at. -/
def paths : SelectorCall Build Other → List String
  | .instance true (some libraryPath) _ => [libraryPath]
  | _ => []

end SelectorCall

section Selection

variable {Build Other : Type}

/-- What is resolved is what the call is to give. -/
theorem Selector.resolveBackend_gives
    (preferNative : Bool)
    (nativeLibraryPath : Option String)
    (loader : Loader Build) :
    let call : SelectorCall Build Other :=
      .instance preferNative nativeLibraryPath loader
    let resolved :=
      resolveBackend preferNative nativeLibraryPath loader
    call.Gives resolved.1 ∧ resolved.2 = call.paths := by
  intro call resolved
  have declined
      (without : preferNative = false ∨ nativeLibraryPath = none) :
      call.Gives .fallback := by
    refine .fallback ?_
    rintro library ⟨prefers, libraryPath, given, _⟩
    rcases without with declines | absent
    · rw [declines] at prefers
      cases prefers
    · rw [absent] at given
      cases given
  cases preferNative with
  | false =>
      exact ⟨declined (.inl rfl), rfl⟩
  | true =>
      cases nativeLibraryPath with
      | none =>
          exact ⟨declined (.inr rfl), rfl⟩
      | some libraryPath =>
          simp only [call, resolved, resolveBackend, SelectorCall.paths]
          cases opened : NativeBackend.open loader libraryPath with
          | ok library =>
              obtain ⟨loads, valid⟩ :=
                NativeBackend.open_eq_ok_iff.mp opened
              exact
                ⟨.native ⟨rfl, libraryPath, rfl, loads, valid⟩, rfl⟩
          | error exception =>
              refine ⟨.fallback ?_, rfl⟩
              rintro library ⟨_, other, given, loads, valid⟩
              obtain rfl := Option.some.inj given
              rw [NativeBackend.open_eq_ok_iff.mpr ⟨loads, valid⟩]
                at opened
              cases opened

/--
An object was made by one call of a history and has been returned ever since:
no call before it returned the same, all calls behind it only asked for it, and
libraries have been opened for it by that one call only.
-/
structure Settled
    (history : List (SelectorCall Build Other))
    (object : PqForge Build Other)
    (before rest : List (SelectorCall Build Other))
    (maker : SelectorCall Build Other) : Prop where
  shape : history = before ++ maker :: rest
  makes : maker.Makes before
  asked : ∀ call ∈ rest, call.Asks
  gives : maker.Gives object.backend
  returned :
    ∀ answer ∈ (Selector.called history).1.drop before.length,
      answer = some object
  own :
    ∀ other,
      some other ∈ (Selector.called before).1 →
      other.identity ≠ object.identity
  opened :
    (Selector.called history).2.opened =
      (Selector.called before).2.opened ++ maker.paths

/-- The singleton is the object that is settled, if there is one. -/
structure Standing
    (history : List (SelectorCall Build Other)) : Prop where
  absent :
    (Selector.called history).2.instance = none →
    history = [] ∨ history.getLast? = some .reset
  present :
    ∀ object,
      (Selector.called history).2.instance = some object →
      ∃ before rest maker,
        Settled history object before rest maker
  numbered :
    ∀ other,
      some other ∈ (Selector.called history).1 →
      other.identity < (Selector.called history).2.made

/-- What a history and one more call have returned and left. -/
theorem Selector.called_concat
    (history : List (SelectorCall Build Other))
    (call : SelectorCall Build Other) :
    called (history ++ [call]) =
      ((called history).1 ++ [((called history).2.step call).1],
        ((called history).2.step call).2) := by
  rw [called, answers_append]
  rfl

/-- A call that makes an object settles it. -/
theorem Standing.install
    {history : List (SelectorCall Build Other)}
    (standing : Standing history)
    {call : SelectorCall Build Other}
    (makes : call.Makes history)
    {backend : ActiveBackend Build Other}
    (gives : call.Gives backend)
    (installs :
      (Selector.called history).2.step call =
        (Selector.called history).2.install backend call.paths) :
    Standing (history ++ [call]) := by
  have behind := Selector.called_concat history call
  rw [installs] at behind
  refine ⟨?_, ?_, ?_⟩
  · intro absent
    rw [behind] at absent
    cases absent
  · intro object present
    rw [behind] at present
    obtain rfl := Option.some.inj present
    refine ⟨history, [], call, rfl, makes, ?_, gives, ?_, ?_, ?_⟩
    · intro other member
      cases member
    · have answered : (Selector.called history).1.length = history.length :=
        length_answers _ _
      rw [behind, ← answered, List.drop_left]
      intro answer member
      exact List.mem_singleton.mp member
    · intro other earlier same
      have below := standing.numbered other earlier
      rw [same] at below
      exact Nat.lt_irrefl _ below
    · rw [behind]
      rfl
  · intro other answered
    rw [behind] at answered ⊢
    rcases List.mem_append.mp answered with earlier | last
    · exact Nat.lt_succ_of_lt (standing.numbered other earlier)
    · obtain rfl := Option.some.inj (List.mem_singleton.mp last)
      exact Nat.lt_succ_self _

/-- A call that asks for the singleton leaves it settled. -/
theorem Standing.ask
    {history : List (SelectorCall Build Other)}
    (standing : Standing history)
    {call : SelectorCall Build Other}
    (asks : call.Asks)
    {object : PqForge Build Other}
    (present :
      (Selector.called history).2.instance = some object) :
    Standing (history ++ [call]) := by
  have asked :
      (Selector.called history).2.step call =
        (some object, (Selector.called history).2) := by
    cases call with
    | «instance» preferNative nativeLibraryPath loader =>
        simp only [Selector.step, present]
    | withBackend backend =>
        cases asks
    | reset =>
        cases asks
  have behind := Selector.called_concat history call
  rw [asked] at behind
  have answered :
      (Selector.called history).1.length = history.length :=
    length_answers _ _
  refine ⟨?_, ?_, ?_⟩
  · intro absent
    rw [behind] at absent
    rw [present] at absent
    cases absent
  · intro other stays
    rw [behind] at stays
    obtain rfl : object = other :=
      Option.some.inj (present.symm.trans stays)
    obtain ⟨before, rest, maker, settled⟩ :=
      standing.present object present
    have front : before.length ≤ (Selector.called history).1.length := by
      rw [answered, settled.shape, List.length_append]
      exact Nat.le_add_right _ _
    refine
      ⟨before, rest ++ [call], maker, ?_, settled.makes, ?_,
        settled.gives, ?_, settled.own, ?_⟩
    · rw [settled.shape, List.append_assoc, List.cons_append]
    · intro other member
      rcases List.mem_append.mp member with earlier | last
      · exact settled.asked other earlier
      · rw [List.mem_singleton.mp last]
        exact asks
    · rw [behind, List.drop_append_of_le_length front]
      intro answer member
      rcases List.mem_append.mp member with earlier | last
      · exact settled.returned answer earlier
      · exact List.mem_singleton.mp last
    · rw [behind]
      exact settled.opened
  · intro other member
    rw [behind] at member ⊢
    rcases List.mem_append.mp member with earlier | last
    · exact standing.numbered other earlier
    · obtain rfl := Option.some.inj (List.mem_singleton.mp last)
      obtain ⟨before, rest, maker, settled⟩ :=
        standing.present other present
      refine standing.numbered other ?_
      have nonempty :
          (Selector.called history).1.drop before.length ≠ [] := by
        rw [← List.length_pos_iff, List.length_drop, answered,
          settled.shape, List.length_append, List.length_cons]
        omega
      obtain ⟨answer, within⟩ := List.exists_mem_of_ne_nil _ nonempty
      rw [← settled.returned answer within]
      exact List.mem_of_mem_drop within

/-- Every call leaves the singleton settled. -/
theorem standing_of_calls (history : List (SelectorCall Build Other)) :
    Standing history := by
  induction history using List.reverseRecOn with
  | nil =>
      refine ⟨fun _ => .inl rfl, ?_, ?_⟩
      · intro object present
        cases present
      · intro other answered
        cases answered
  | append_singleton earlier call inductionHypothesis =>
      cases call with
      | «instance» preferNative nativeLibraryPath loader =>
          cases present : (Selector.called earlier).2.instance with
          | some object =>
              exact inductionHypothesis.ask trivial present
          | none =>
              obtain ⟨gives, paths⟩ :=
                @Selector.resolveBackend_gives Build Other preferNative
                  nativeLibraryPath loader
              refine
                inductionHypothesis.install
                  (inductionHypothesis.absent present) gives ?_
              rw [← paths]
              simp only [Selector.step, present]
      | withBackend backend =>
          exact inductionHypothesis.install trivial (.installed backend) rfl
      | reset =>
          have behind := Selector.called_concat earlier .reset
          refine ⟨?_, ?_, ?_⟩
          · intro _
            exact .inr List.getLast?_concat
          · intro object present
            rw [behind] at present
            cases present
          · intro other answered
            rw [behind] at answered ⊢
            rcases List.mem_append.mp answered with before | last
            · exact inductionHypothesis.numbered other before
            · cases List.mem_singleton.mp last

/-- Asking for the singleton returns what then is the singleton. -/
theorem Selector.step_instance
    (selector : Selector Build Other)
    (preferNative : Bool)
    (nativeLibraryPath : Option String)
    (loader : Loader Build) :
    ∃ object next,
      selector.step (.instance preferNative nativeLibraryPath loader) =
          (some object, next) ∧
        next.instance = some object := by
  cases present : selector.instance with
  | some object =>
      exact
        ⟨object, selector, by simp only [step, present], present⟩
  | none =>
      simp only [step, present]
      exact ⟨_, _, rfl, rfl⟩

/--
Whatever has been called before, `PqForge.instance` returns the object that one
call made: the last one installed, or else the one that the first call behind
the last reset resolved, by the native library or the fallback.
-/
theorem instance_returns_settled
    (earlier : List (SelectorCall Build Other))
    (preferNative : Bool)
    (nativeLibraryPath : Option String)
    (loader : Loader Build) :
    let history :=
      earlier ++ [.instance preferNative nativeLibraryPath loader]
    ∃ object before rest maker,
      (Selector.called history).1.getLast? = some (some object) ∧
        Settled history object before rest maker := by
  intro history
  obtain ⟨object, next, stepped, present⟩ :=
    (Selector.called earlier).2.step_instance preferNative
      nativeLibraryPath loader
  have behind :=
    Selector.called_concat earlier
      (.instance preferNative nativeLibraryPath loader)
  rw [stepped] at behind
  obtain ⟨before, rest, maker, settled⟩ :=
    (standing_of_calls history).present object
      (by rw [behind]; exact present)
  refine ⟨object, before, rest, maker, ?_, settled⟩
  rw [behind]
  exact List.getLast?_concat

end Selection

end PqForgeFfi
