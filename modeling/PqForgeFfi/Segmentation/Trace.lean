import Mathlib.Control.Basic

namespace Segmentation

/-!
# Traced computations

A sequential computation that records events while it runs and ends with a
result or an error.  Events recorded before an error stay recorded: the log is
what an observer has seen at the moment the computation stopped.

Sequencing is the only way to build larger computations, so a log can only
grow, and every moment of a run is an initial segment of its log.
-/

/-- The events recorded by one computation, and how it ended. -/
@[ext] structure Trace (Event Error Result : Type) where
  log : List Event
  outcome : Except Error Result

namespace Trace

variable {Event Seen Error Failure First Second Third : Type}

/-- End at once with a result. -/
def done (result : First) : Trace Event Error First :=
  ⟨[], .ok result⟩

/-- End at once with an error. -/
def fail (error : Error) : Trace Event Error First :=
  ⟨[], .error error⟩

/-- Record one event. -/
def record (event : Event) : Trace Event Error Unit :=
  ⟨[event], .ok ()⟩

/-- A computation without events. -/
def ofExcept (outcome : Except Error First) : Trace Event Error First :=
  ⟨[], outcome⟩

/--
Run `first`, then what `next` makes of its result.  The continuation is also
told that this is the result, which loops use to show that they end.
-/
def andThen
    (first : Trace Event Error First)
    (next :
      (result : First) →
        first.outcome = .ok result →
        Trace Event Error Second) :
    Trace Event Error Second :=
  match ended : first.outcome with
  | .error error =>
      ⟨first.log, .error error⟩
  | .ok result =>
      ⟨first.log ++ (next result ended).log,
        (next result ended).outcome⟩

instance : Monad (Trace Event Error) where
  pure := done
  bind first next := first.andThen fun result _ => next result

/-- Change the error a computation ends with, and nothing else. -/
def mapError
    (change : Error → Failure)
    (trace : Trace Event Error First) :
    Trace Event Failure First :=
  ⟨trace.log, trace.outcome.mapError change⟩

/-- A computation behind events that were recorded before. -/
def behind
    (log : List Event)
    (trace : Trace Event Error First) :
    Trace Event Error First :=
  ⟨log ++ trace.log, trace.outcome⟩

/-- Every error that the computation ends with is of a kind. -/
def FailsAs
    (kind : Error → Prop)
    (trace : Trace Event Error First) : Prop :=
  ∀ error, trace.outcome = .error error → kind error

/-- Observe only the events that `see` keeps, as `see` shows them. -/
def observe
    (see : Event → Option Seen)
    (trace : Trace Event Error First) :
    Trace Seen Error First :=
  ⟨trace.log.filterMap see, trace.outcome⟩

/-! ## Sequencing -/

/-- After a failed computation nothing else runs. -/
theorem bind_of_error
    {first : Trace Event Error First}
    {error : Error}
    (failed : first.outcome = .error error)
    (next : First → Trace Event Error Second) :
    first >>= next = ⟨first.log, .error error⟩ := by
  rcases first with ⟨log, outcome⟩
  subst failed
  rfl

/-- After a computation that returned, the logs are concatenated. -/
theorem bind_of_ok
    {first : Trace Event Error First}
    {result : First}
    (returned : first.outcome = .ok result)
    (next : First → Trace Event Error Second) :
    first >>= next =
      ⟨first.log ++ (next result).log, (next result).outcome⟩ := by
  rcases first with ⟨log, outcome⟩
  subst returned
  rfl

@[simp] theorem pure_eq_done (result : First) :
    (pure result : Trace Event Error First) = done result :=
  rfl

@[simp] theorem done_log (result : First) :
    (done result : Trace Event Error First).log = [] :=
  rfl

@[simp] theorem done_outcome (result : First) :
    (done result : Trace Event Error First).outcome = .ok result :=
  rfl

@[simp] theorem fail_log (error : Error) :
    (fail error : Trace Event Error First).log = [] :=
  rfl

@[simp] theorem fail_outcome (error : Error) :
    (fail error : Trace Event Error First).outcome = .error error :=
  rfl

@[simp] theorem record_log (event : Event) :
    (record event : Trace Event Error Unit).log = [event] :=
  rfl

@[simp] theorem record_outcome (event : Event) :
    (record event : Trace Event Error Unit).outcome = .ok () :=
  rfl

@[simp] theorem ofExcept_ok (result : First) :
    (ofExcept (.ok result) : Trace Event Error First) = done result :=
  rfl

@[simp] theorem ofExcept_error (error : Error) :
    (ofExcept (.error error) : Trace Event Error First) = fail error :=
  rfl

/-- Computations without events are sequenced as their outcomes are. -/
theorem ofExcept_bind
    (first : Except Error First)
    (next : First → Except Error Second) :
    (ofExcept (first >>= next) : Trace Event Error Second) =
      ofExcept first >>= fun result => ofExcept (next result) := by
  cases first <;> rfl

@[simp] theorem done_bind
    (result : First)
    (next : First → Trace Event Error Second) :
    done result >>= next = next result := by
  rw [bind_of_ok (done_outcome result)]
  simp

@[simp] theorem fail_bind
    (error : Error)
    (next : First → Trace Event Error Second) :
    fail error >>= next = fail error :=
  rfl

@[simp] theorem bind_done
    (trace : Trace Event Error First) :
    trace >>= done = trace := by
  cases ended : trace.outcome with
  | error error =>
      rw [bind_of_error ended, ← ended]
  | ok result =>
      rw [bind_of_ok ended]
      simp [Trace.ext_iff, ended]

@[simp] theorem bind_done_unit
    (trace : Trace Event Error Unit) :
    (trace >>= fun _ => done ()) = trace :=
  bind_done trace

/-- A constant result behind a computation keeps its log and its errors. -/
theorem bind_done_const
    (trace : Trace Event Error First)
    (result : Second) :
    (trace >>= fun _ => done result) =
      ⟨trace.log, trace.outcome.map fun _ => result⟩ := by
  cases ended : trace.outcome with
  | error error =>
      rw [bind_of_error ended]
      rfl
  | ok value =>
      rw [bind_of_ok ended, done_log, List.append_nil]
      rfl

/-- Sequencing is associative. -/
theorem bind_assoc
    (first : Trace Event Error First)
    (second : First → Trace Event Error Second)
    (third : Second → Trace Event Error Third) :
    first >>= second >>= third =
      first >>= fun result => second result >>= third := by
  cases ended : first.outcome with
  | error error =>
      rw [bind_of_error ended, bind_of_error ended,
        bind_of_error rfl]
  | ok result =>
      have joined := bind_of_ok ended second
      cases continued : (second result).outcome with
      | error error =>
          have stopped :
              (first >>= second).outcome = .error error := by
            rw [joined, continued]
          rw [bind_of_error stopped, joined,
            bind_of_ok ended fun result => second result >>= third,
            bind_of_error continued]
      | ok later =>
          have reached :
              (first >>= second).outcome = .ok later := by
            rw [joined, continued]
          rw [bind_of_ok reached, joined,
            bind_of_ok ended fun result => second result >>= third,
            bind_of_ok continued, List.append_assoc]

instance : LawfulMonad (Trace Event Error) :=
  LawfulMonad.mk' (Trace Event Error)
    bind_done done_bind bind_assoc

/-- A sequence that returned consists of two parts that returned. -/
theorem bind_eq_ok
    {first : Trace Event Error First}
    {next : First → Trace Event Error Second}
    {result : Second}
    (returned : (first >>= next).outcome = .ok result) :
    ∃ middle,
      first.outcome = .ok middle ∧
        (next middle).outcome = .ok result ∧
        (first >>= next).log = first.log ++ (next middle).log := by
  cases ended : first.outcome with
  | error error =>
      rw [bind_of_error ended] at returned
      cases returned
  | ok middle =>
      rw [bind_of_ok ended] at returned
      exact ⟨middle, rfl, returned, by rw [bind_of_ok ended]⟩

/-- After a computation that returned, the continuation sees how it ended. -/
theorem andThen_of_ok
    {first : Trace Event Error First}
    {result : First}
    (returned : first.outcome = .ok result)
    (next :
      (result : First) →
        first.outcome = .ok result →
        Trace Event Error Second) :
    first.andThen next =
      (next result returned).behind first.log := by
  rw [andThen]
  split
  · rename_i error ended
    rw [returned] at ended
    cases ended
  · rename_i other ended
    obtain rfl : result = other := by
      simpa [returned] using ended
    rfl

/-- After a failed computation the continuation does not run. -/
theorem andThen_of_error
    {first : Trace Event Error First}
    {error : Error}
    (failed : first.outcome = .error error)
    (next :
      (result : First) →
        first.outcome = .ok result →
        Trace Event Error Second) :
    first.andThen next = ⟨first.log, .error error⟩ := by
  rcases first with ⟨log, outcome⟩
  subst failed
  rfl

/-- A continuation that records nothing leaves the log as it is. -/
theorem log_bind_of_silent
    {first : Trace Event Error First}
    {next : First → Trace Event Error Second}
    (silent : ∀ result, (next result).log = []) :
    (first >>= next).log = first.log := by
  cases ended : first.outcome with
  | error error =>
      rw [bind_of_error ended]
  | ok result =>
      rw [bind_of_ok ended, silent result]
      exact List.append_nil first.log

/-! ## Errors and observations -/

@[simp] theorem mapError_log
    (change : Error → Failure)
    (trace : Trace Event Error First) :
    (trace.mapError change).log = trace.log :=
  rfl

@[simp] theorem mapError_outcome
    (change : Error → Failure)
    (trace : Trace Event Error First) :
    (trace.mapError change).outcome = trace.outcome.mapError change :=
  rfl

@[simp] theorem observe_log
    (see : Event → Option Seen)
    (trace : Trace Event Error First) :
    (trace.observe see).log = trace.log.filterMap see :=
  rfl

@[simp] theorem observe_outcome
    (see : Event → Option Seen)
    (trace : Trace Event Error First) :
    (trace.observe see).outcome = trace.outcome :=
  rfl

@[simp] theorem observe_done
    (see : Event → Option Seen)
    (result : First) :
    (done result : Trace Event Error First).observe see = done result :=
  rfl

@[simp] theorem observe_fail
    (see : Event → Option Seen)
    (error : Error) :
    (fail error : Trace Event Error First).observe see = fail error :=
  rfl

@[simp] theorem behind_log
    (log : List Event)
    (trace : Trace Event Error First) :
    (trace.behind log).log = log ++ trace.log :=
  rfl

@[simp] theorem behind_outcome
    (log : List Event)
    (trace : Trace Event Error First) :
    (trace.behind log).outcome = trace.outcome :=
  rfl

/-- Earlier events that are not seen do not show. -/
theorem observe_behind
    {see : Event → Option Seen}
    {log : List Event}
    (silent : log.filterMap see = [])
    (trace : Trace Event Error First) :
    (trace.behind log).observe see = trace.observe see := by
  simp [Trace.ext_iff, silent]

/-- Observation does not touch the error. -/
theorem observe_mapError
    (see : Event → Option Seen)
    (change : Error → Failure)
    (trace : Trace Event Error First) :
    (trace.mapError change).observe see =
      (trace.observe see).mapError change :=
  rfl

/-- A sequence of computations that do not show does not show. -/
theorem silent_bind
    {see : Event → Option Seen}
    {first : Trace Event Error First}
    {next : First → Trace Event Error Second}
    (firstSilent : first.log.filterMap see = [])
    (nextSilent : ∀ result, (next result).log.filterMap see = []) :
    (first >>= next).log.filterMap see = [] := by
  cases ended : first.outcome with
  | error error =>
      rw [bind_of_error ended]
      exact firstSilent
  | ok result =>
      rw [bind_of_ok ended, List.filterMap_append, firstSilent,
        nextSilent result]
      rfl

/-- Observation commutes with sequencing. -/
theorem observe_bind
    (see : Event → Option Seen)
    (first : Trace Event Error First)
    (next : First → Trace Event Error Second) :
    (first >>= next).observe see =
      first.observe see >>= fun result => (next result).observe see := by
  cases ended : first.outcome with
  | error error =>
      have observed : (first.observe see).outcome = .error error :=
        ended
      rw [bind_of_error ended, bind_of_error observed]
      rfl
  | ok result =>
      have observed : (first.observe see).outcome = .ok result :=
        ended
      rw [bind_of_ok ended, bind_of_ok observed]
      simp [Trace.ext_iff]

/-- What holds of all events of both parts holds of all events of a sequence. -/
theorem forall_log_bind
    {holds : Event → Prop}
    {first : Trace Event Error First}
    {next : First → Trace Event Error Second}
    (before : ∀ event ∈ first.log, holds event)
    (behind :
      ∀ result,
        first.outcome = .ok result →
        ∀ event ∈ (next result).log, holds event) :
    ∀ event ∈ (first >>= next).log, holds event := by
  cases ended : first.outcome with
  | error error =>
      rw [bind_of_error ended]
      exact before
  | ok result =>
      rw [bind_of_ok ended]
      intro event member
      rcases List.mem_append.mp member with inFirst | inNext
      · exact before event inFirst
      · exact behind result ended event inNext

section Kinds

variable {kind : Error → Prop}

theorem failsAs_done (result : First) :
    (done result : Trace Event Error First).FailsAs kind :=
  fun _ failed => by cases failed

theorem failsAs_fail
    {error : Error}
    (ofKind : kind error) :
    (fail error : Trace Event Error First).FailsAs kind := by
  intro other failed
  obtain rfl : error = other := by
    simpa using failed
  exact ofKind

/-- When every changed error is of a kind, only such errors remain. -/
theorem failsAs_mapError
    {change : Failure → Error}
    (ofKind : ∀ failure, kind (change failure))
    (trace : Trace Event Failure First) :
    (trace.mapError change).FailsAs kind := by
  intro error failed
  rw [mapError_outcome] at failed
  cases ended : trace.outcome with
  | ok result =>
      rw [ended] at failed
      cases failed
  | error failure =>
      rw [ended] at failed
      cases failed
      exact ofKind failure

/-- Errors of one kind are errors of every wider kind. -/
theorem FailsAs.mono
    {wider : Error → Prop}
    {trace : Trace Event Error First}
    (fails : trace.FailsAs kind)
    (widens : ∀ error, kind error → wider error) :
    trace.FailsAs wider :=
  fun error failed => widens error (fails error failed)

/-- A sequence fails as its parts do. -/
theorem FailsAs.andThen
    {first : Trace Event Error First}
    {next :
      (result : First) →
        first.outcome = .ok result →
        Trace Event Error Second}
    (firstFails : first.FailsAs kind)
    (nextFails :
      ∀ result returned, (next result returned).FailsAs kind) :
    (first.andThen next).FailsAs kind := by
  intro error failed
  cases ended : first.outcome with
  | error other =>
      rw [andThen_of_error ended] at failed
      obtain rfl : other = error := by
        simpa using failed
      exact firstFails other ended
  | ok result =>
      rw [andThen_of_ok ended, behind_outcome] at failed
      exact nextFails result ended error failed

theorem FailsAs.bind
    {first : Trace Event Error First}
    {next : First → Trace Event Error Second}
    (firstFails : first.FailsAs kind)
    (nextFails : ∀ result, (next result).FailsAs kind) :
    (first >>= next).FailsAs kind :=
  firstFails.andThen fun result _ => nextFails result

end Kinds

end Trace

end Segmentation
