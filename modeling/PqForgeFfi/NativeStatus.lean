import PqForgeFfi.DartErrors

namespace PqForgeFfi

/-!
# Status codes and the panic boundary of the native library

Every exported function runs its body as a closure inside `guard`, which turns
a panic into an internal error, and hands the guarded result to `finish`,
which reduces it to a status code.
-/

/-- Stable status codes shared with the Dart side. -/
inductive PqForgeStatus where
  | ok
  | invalidKey
  | invalidCiphertext
  | authFailed
  | unaligned
  | io
  | device
  | anchor
  | unsupported
  | internal
  | nullArgument
  | bufferTooSmall
  deriving Repr, DecidableEq

/-- The `#[repr(i32)]` value of a status. -/
def PqForgeStatus.code : PqForgeStatus → Int
  | .ok => 0
  | .invalidKey => 1
  | .invalidCiphertext => 2
  | .authFailed => 3
  | .unaligned => 4
  | .io => 5
  | .device => 6
  | .anchor => 7
  | .unsupported => 8
  | .internal => 9
  | .nullArgument => 10
  | .bufferTooSmall => 11

/-- Different statuses have different codes. -/
theorem PqForgeStatus.code_injective
    {first second : PqForgeStatus}
    (same : first.code = second.code) :
    first = second := by
  cases first <;> cases second <;> first | rfl | cases same

@[simp] theorem PqForgeStatus.code_inj
    {first second : PqForgeStatus} :
    first.code = second.code ↔ first = second :=
  ⟨code_injective, fun same => congrArg code same⟩

/-- The Dart enumeration value that mirrors a status. -/
def PqForgeStatus.mirror : PqForgeStatus → PqForgeErrorCode
  | .ok => .ok
  | .invalidKey => .invalidKey
  | .invalidCiphertext => .invalidCiphertext
  | .authFailed => .authFailed
  | .unaligned => .unaligned
  | .io => .io
  | .device => .device
  | .anchor => .anchor
  | .unsupported => .unsupported
  | .internal => .internal
  | .nullArgument => .nullArgument
  | .bufferTooSmall => .bufferTooSmall

/-- Dart reads a native status code as the mirroring enumeration value. -/
@[simp] theorem PqForgeErrorCode.fromValue_code
    (status : PqForgeStatus) :
    PqForgeErrorCode.fromValue status.code = status.mirror := by
  cases status <;> rfl

/-! ## Results -/

/-- A fallible sequence that returned consists of two parts that returned. -/
theorem except_bind_eq_ok
    {Error First Second : Type}
    {first : Except Error First}
    {next : First → Except Error Second}
    {result : Second}
    (returned : first >>= next = .ok result) :
    ∃ middle, first = .ok middle ∧ next middle = .ok result := by
  cases first with
  | error error =>
      cases returned
  | ok middle =>
      exact ⟨middle, rfl, returned⟩

/-- Changing the error of a result does not make it return. -/
theorem mapError_eq_ok
    {Error Failure First : Type}
    {change : Error → Failure}
    {first : Except Error First}
    {result : First}
    (returned : first.mapError change = .ok result) :
    first = .ok result := by
  cases first with
  | error error =>
      cases returned
  | ok middle =>
      cases returned
      rfl

/-- A fallible sequence fails in its first part or behind it. -/
theorem except_bind_eq_error
    {Error First Second : Type}
    {first : Except Error First}
    {next : First → Except Error Second}
    {error : Error}
    (failed : first >>= next = .error error) :
    first = .error error ∨
      ∃ middle, first = .ok middle ∧ next middle = .error error := by
  cases first with
  | error other =>
      cases failed
      exact .inl rfl
  | ok middle =>
      exact .inr ⟨middle, rfl, failed⟩

/-- Rich internal error, mapped to a status at the FFI boundary. -/
inductive PqForgeError where
  | invalidKey (reason : String)
  | invalidCiphertext
  | authFailed
  | io (reason : String)
  | unsupported (reason : String)
  | internal (reason : String)
  deriving Repr, DecidableEq

/-- The status that an error is reported as. -/
def PqForgeError.status : PqForgeError → PqForgeStatus
  | .invalidKey _ => .invalidKey
  | .invalidCiphertext => .invalidCiphertext
  | .authFailed => .authFailed
  | .io _ => .io
  | .unsupported _ => .unsupported
  | .internal _ => .internal

/--
How control leaves the closure of an exported function before its end: by
`return Ok(status)`, by `?` on an error, or by a panic.
-/
inductive Exit where
  | returned (status : PqForgeStatus)
  | failed (error : PqForgeError)
  | panicked (message : String)
  deriving Repr, DecidableEq

/-- `.map_err(..)?`, or a `match` that leaves the closure on `Err`. -/
def orExit
    {Result : Type}
    (exit : Exit) :
    Option Result →
      Except Exit Result
  | some result => .ok result
  | none => .error exit

/-- `guard`: run a closure and convert a panic into an internal error. -/
def guard :
    Except Exit PqForgeStatus →
      Except PqForgeError PqForgeStatus
  | .ok status => .ok status
  | .error (.returned status) => .ok status
  | .error (.failed error) => .error error
  | .error (.panicked message) => .error (.internal message)

/-- `finish`: the status code of a guarded result. -/
def finish : Except PqForgeError PqForgeStatus → Int
  | .ok status => status.code
  | .error error => error.status.code

/-- The status a guarded closure is reported as. -/
def Exit.status : Exit → PqForgeStatus
  | .returned status => status
  | .failed error => error.status
  | .panicked _ => .internal

/-- An exit that the caller sees as a failure. -/
def Exit.IsFailure (exit : Exit) : Prop :=
  exit.status ≠ .ok

/-- An error is never reported as success. -/
theorem Exit.isFailure_failed (error : PqForgeError) :
    (Exit.failed error).IsFailure := by
  cases error <;> exact fun isOk => by cases isOk

/-- Errors that are all changed to exits of a kind leave as such exits. -/
theorem Exit.kind_of_mapError
    {Error First : Type}
    {kind : Exit → Prop}
    {change : Error → Exit}
    (ofKind : ∀ error, kind (change error))
    {first : Except Error First}
    {exit : Exit}
    (failed : first.mapError change = .error exit) :
    kind exit := by
  cases first with
  | error error =>
      cases failed
      exact ofKind error
  | ok result =>
      cases failed

/-- Returning a status leaves as that status. -/
theorem Exit.kind_of_returned
    {First : Type}
    {kind : Exit → Prop}
    {status : PqForgeStatus}
    (ofKind : kind (.returned status))
    {exit : Exit}
    (failed :
      (.error (.returned status) : Except Exit First) = .error exit) :
    kind exit := by
  cases failed
  exact ofKind

@[simp] theorem finish_guard_ok
    (status : PqForgeStatus) :
    finish (guard (.ok status)) = status.code :=
  rfl

/-- However a closure is left early, `finish` reports that exit's status. -/
@[simp] theorem finish_guard_error
    (exit : Exit) :
    finish (guard (.error exit)) = exit.status.code := by
  cases exit <;> rfl

/-! ## Bodies over a primitive -/

/-- An exit that reports a failure, and not one of the caller's pointers. -/
def Exit.Refuses (exit : Exit) : Prop :=
  exit.status ≠ .ok ∧
    exit.status ≠ .nullArgument ∧
    exit.status ≠ .bufferTooSmall

/-- An error is never about the caller's pointers. -/
theorem Exit.refuses_failed (error : PqForgeError) :
    (Exit.failed error).Refuses := by
  cases error <;>
    refine ⟨?_, ?_, ?_⟩ <;>
    intro same <;>
    cases same

/-- Returning a status of none of these kinds refuses. -/
theorem Exit.refuses_returned
    {status : PqForgeStatus}
    (other :
      status ≠ .ok ∧
        status ≠ .nullArgument ∧
        status ≠ .bufferTooSmall) :
    (Exit.returned status).Refuses :=
  other

/-- A body that returns what a primitive returns, and refuses where it fails. -/
structure Computes
    {Output : Type}
    (body : Except Exit Output)
    (primitive : Option Output) : Prop where
  returns :
    ∀ output, primitive = some output → body = .ok output
  refuses :
    primitive = none → ∃ exit, body = .error exit ∧ exit.Refuses

namespace Computes

variable {Output First : Type}

theorem done (output : Output) :
    Computes (.ok output) (some output) where
  returns := fun _ same => congrArg Except.ok (Option.some.inj same)
  refuses := fun failed => by cases failed

/-- Refusing what the primitive fails on computes it. -/
theorem refuse
    {exit : Exit}
    (refuses : exit.Refuses)
    {primitive : Option Output}
    (failed : primitive = none) :
    Computes (.error exit) primitive where
  returns := fun output same => by
    rw [failed] at same
    cases same
  refuses := fun _ => ⟨exit, rfl, refuses⟩

/-- Leaving on a failed call computes the call. -/
theorem call
    {exit : Exit}
    (refuses : exit.Refuses)
    (answer : Option Output) :
    Computes (orExit exit answer) answer := by
  cases answer with
  | none =>
      exact refuse refuses rfl
  | some output =>
      exact done output

/-- Leaving on a failed call, and computing on, computes the sequence. -/
theorem bind
    {first : Except Exit First}
    {answer : Option First}
    (here : Computes first answer)
    {next : First → Except Exit Output}
    {after : First → Option Output}
    (later : ∀ result, Computes (next result) (after result)) :
    Computes (first >>= next) (answer >>= after) := by
  cases answered : answer with
  | none =>
      obtain ⟨exit, failed, refuses⟩ := here.refuses answered
      rw [failed]
      exact refuse refuses rfl
  | some result =>
      rw [here.returns result answered]
      exact later result

/-- What a body returns is what its primitive produces. -/
theorem produced
    {body : Except Exit Output}
    {primitive : Option Output}
    (computes : Computes body primitive)
    {output : Output}
    (returned : body = .ok output) :
    primitive = some output := by
  cases answered : primitive with
  | none =>
      obtain ⟨exit, failed, _⟩ := computes.refuses answered
      cases failed.symm.trans returned
  | some produced =>
      cases (computes.returns produced answered).symm.trans returned
      rfl

end Computes

end PqForgeFfi
