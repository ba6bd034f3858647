import PqForgeFfi.ExportedCalls
import PqForgeFfi.Interoperation

namespace PqForgeFfi

open Transitions

/-!
# Retry loops

A caller that is told of a buffer that is too small asks again, with buffers of
at least the lengths in its length cells.  The second cell is stale when the
first buffer was too small, and random functions draw anew each time.  The loop
ends all the same, with at most one attempt lost on each output.
-/

/-- What the random sources underneath answer during one call. -/
structure Draw where
  coins : Bytes
  rng : Rng

/-- An exported function on its inputs, with another draw. -/
def ExportedCall.drawing (draw : Draw) : ExportedCall → ExportedCall
  | .mlkemKeygen algId _ =>
      .mlkemKeygen algId draw.coins
  | .mlkemEncapsulate algId pubkey _ =>
      .mlkemEncapsulate algId pubkey draw.coins
  | .mldsaKeygen algId _ =>
      .mldsaKeygen algId draw.coins
  | .mldsaSign algId seckey msg _ =>
      .mldsaSign algId seckey msg draw.coins
  | .x25519Keygen _ seed =>
      .x25519Keygen draw.rng seed
  | .ed25519Keygen _ seed =>
      .ed25519Keygen draw.rng seed
  | call =>
      call

/-- Whatever is drawn, the outputs that are computed have these lengths. -/
structure ExportedCall.HasLengths
    (libraries : NativeMemory.NativeLibraries)
    (call : ExportedCall)
    (lengths : List Nat) : Prop where
  count : lengths.length = call.outputCount
  lengths :
    ∀ draw outputs,
      (call.drawing draw).computed libraries = .ok outputs →
      outputs.map List.length = lengths

theorem ExportedCall.outputCount_drawing
    (draw : Draw)
    (call : ExportedCall) :
    (call.drawing draw).outputCount = call.outputCount := by
  cases call <;> rfl

theorem ExportedCall.outputCount_le_two (call : ExportedCall) :
    call.outputCount ≤ 2 := by
  cases call <;> simp [outputCount]

/-- A closure that gets through computes as many outputs as there are. -/
theorem ExportedCall.length_computed
    {libraries : NativeMemory.NativeLibraries}
    {call : ExportedCall}
    {outputs : List Bytes}
    (computed : call.computed libraries = .ok outputs) :
    outputs.length = call.outputCount := by
  cases call.hands libraries with
  | nothing count computes _ =>
      cases computes.symm.trans computed
      exact count.symm
  | @one body count _ computes _ =>
      rw [computes] at computed
      cases body with
      | error exit =>
          cases computed
      | ok source =>
          cases computed
          exact count.symm
  | @both body count _ computes _ =>
      rw [computes] at computed
      cases body with
      | error exit =>
          cases computed
      | ok sources =>
          cases computed
          exact count.symm

/-! ## Lengths do not depend on the draw -/

section Lengths

variable {libraries : NativeMemory.NativeLibraries}

/-- A function that draws nothing computes the same each time. -/
theorem exists_lengths_of_undrawn
    {call : ExportedCall}
    (undrawn : ∀ draw, call.drawing draw = call) :
    ∃ lengths, call.HasLengths libraries lengths := by
  cases computed : call.computed libraries with
  | error exit =>
      refine ⟨List.replicate call.outputCount 0,
        List.length_replicate, ?_⟩
      intro draw outputs drawn
      rw [undrawn, computed] at drawn
      cases drawn
  | ok outputs =>
      refine ⟨outputs.map List.length, ?_, ?_⟩
      · rw [List.length_map]
        exact ExportedCall.length_computed computed
      · intro draw drawnOutputs drawn
        rw [undrawn, computed] at drawn
        cases drawn
        rfl

/--
A function whose closure has outputs of fixed lengths has them each time.
-/
theorem exists_lengths_of_bodies
    {Output : Type}
    {call : ExportedCall}
    {body : Draw → Except Exit Output}
    {listed : Output → List Bytes}
    (computes :
      ∀ draw,
        (call.drawing draw).computed libraries = (body draw).map listed)
    {lengths : List Nat}
    (fixed :
      ∀ draw output,
        body draw = .ok output →
        (listed output).map List.length = lengths)
    (count : lengths.length = call.outputCount) :
    ∃ lengths, call.HasLengths libraries lengths := by
  refine ⟨lengths, count, ?_⟩
  intro draw outputs computed
  rw [computes] at computed
  cases returned : body draw with
  | error exit =>
      rw [returned] at computed
      cases computed
  | ok output =>
      rw [returned] at computed
      cases computed
      exact fixed draw output returned

/-- The outputs of a closure with two outputs have these lengths. -/
def BothLengths
    (body : Draw → Except Exit (Bytes × Bytes))
    (first second : Nat) : Prop :=
  ∀ draw both,
    body draw = .ok both →
    [both.1, both.2].map List.length = [first, second]

theorem bothLengths_of_computes
    {body : Draw → Except Exit (Bytes × Bytes)}
    {primitive : Draw → Option (Bytes × Bytes)}
    {first second : Nat}
    (computes : ∀ draw, Computes (body draw) (primitive draw))
    (sizes :
      ∀ draw source other,
        primitive draw = some (source, other) →
        source.length = first ∧ other.length = second) :
    BothLengths body first second := by
  intro draw both returned
  obtain ⟨rfl, rfl⟩ :=
    sizes draw both.1 both.2 ((computes draw).produced returned)
  rfl

variable {declared : DeclaredSizes}

/-- Key pairs of ML-KEM have the declared sizes. -/
theorem NativeKem.keygenBody_lengths
    (sizes : libraries.kem.Sizes declared)
    (algId : Int) :
    ∃ first second,
      BothLengths
        (fun draw => keygenBody libraries.kem algId draw.coins)
        first second := by
  cases found : kemAlg algId with
  | none =>
      refine ⟨0, 0, fun draw both returned => ?_⟩
      beta_reduce at returned
      rw [keygenBody, found] at returned
      cases returned
  | some algorithm =>
      obtain rfl := kemAlg_eq_some found
      exact ⟨_, _, bothLengths_of_computes
        (fun draw => keygenBody_computes _ algorithm draw.coins)
        fun draw => sizes.keyPair algorithm draw.coins⟩

/-- Ciphertexts and shared secrets of ML-KEM have the declared sizes. -/
theorem NativeKem.encapsulateBody_lengths
    (sizes : libraries.kem.Sizes declared)
    (algId : Int)
    (pubkey : CSlice) :
    ∃ first second,
      BothLengths
        (fun draw =>
          encapsulateBody libraries.kem algId pubkey draw.coins)
        first second := by
  cases found : kemAlg algId with
  | none =>
      refine ⟨0, 0, fun draw both returned => ?_⟩
      beta_reduce at returned
      rw [encapsulateBody, found] at returned
      cases returned
  | some algorithm =>
      obtain rfl := kemAlg_eq_some found
      cases pubkey with
      | null length =>
          refine ⟨0, 0, fun draw both returned => ?_⟩
          beta_reduce at returned
          rw [encapsulateBody, found] at returned
          cases returned
      | valid publicKey =>
          exact ⟨_, _, bothLengths_of_computes
            (fun draw =>
              encapsulateBody_computes _ algorithm publicKey draw.coins)
            fun draw =>
              sizes.encapsulation algorithm publicKey draw.coins⟩

/-- Key pairs of ML-DSA have the declared sizes. -/
theorem NativeSign.keygenBody_lengths
    (sizes : libraries.pqdsa.Sizes declared)
    (algId : Int) :
    ∃ first second,
      BothLengths
        (fun draw => keygenBody libraries.pqdsa algId draw.coins)
        first second := by
  cases found : signAlg algId with
  | none =>
      refine ⟨0, 0, fun draw both returned => ?_⟩
      beta_reduce at returned
      rw [keygenBody, found] at returned
      cases returned
  | some algorithm =>
      obtain rfl := signAlg_eq_some found
      exact ⟨_, _, bothLengths_of_computes
        (fun draw => keygenBody_computes _ algorithm draw.coins)
        fun draw => sizes.generated algorithm draw.coins⟩

/-- A signature that is returned is one that AWS-LC made. -/
theorem NativeSign.signBody_produced
    {algId : Int}
    {seckey msg : CSlice}
    {coins signature : Bytes}
    (signed :
      signBody libraries.pqdsa algId seckey msg coins = .ok signature) :
    ∃ algorithm,
      signAlg algId = some algorithm ∧
        libraries.pqdsa.signWith algorithm seckey.bytes (msgSlice msg)
            coins =
          some signature := by
  rw [signBody] at signed
  split at signed
  · cases signed
  · cases found : signAlg algId with
    | none =>
        rw [found] at signed
        cases signed
    | some algorithm =>
        rw [found] at signed
        refine ⟨algorithm, rfl, ?_⟩
        have refusesKey : (Exit.returned .invalidKey).Refuses :=
          Exit.refuses_returned (by decide)
        have computes :=
          (Computes.call refusesKey
              (libraries.pqdsa.fromRawPrivateKey algorithm
                seckey.bytes)).bind
            fun kp => Computes.call
              (Exit.refuses_failed (.internal "ML-DSA sign failed"))
              (libraries.pqdsa.sign kp (msgSlice msg) coins)
        exact computes.produced signed

/-- The outputs of every function have fixed lengths. -/
theorem ExportedCall.exists_lengths
    (kemSizes : libraries.kem.Sizes declared)
    (pqdsaSizes : libraries.pqdsa.Sizes declared)
    (classicalSizes : libraries.classical.KeySizes)
    (call : ExportedCall) :
    ∃ lengths, call.HasLengths libraries lengths := by
  cases call with
  | mlkemKeygen algId coins =>
      obtain ⟨first, second, fixed⟩ :=
        NativeKem.keygenBody_lengths kemSizes algId
      exact exists_lengths_of_bodies (fun _ => rfl) fixed rfl
  | mlkemEncapsulate algId pubkey coins =>
      obtain ⟨first, second, fixed⟩ :=
        NativeKem.encapsulateBody_lengths kemSizes algId pubkey
      exact exists_lengths_of_bodies (fun _ => rfl) fixed rfl
  | mldsaKeygen algId coins =>
      obtain ⟨first, second, fixed⟩ :=
        NativeSign.keygenBody_lengths pqdsaSizes algId
      exact exists_lengths_of_bodies (fun _ => rfl) fixed rfl
  | mldsaSign algId seckey msg coins =>
      cases found : NativeSign.signAlg algId with
      | none =>
          refine exists_lengths_of_bodies (fun _ => rfl)
            (fun draw signature signed => ?_)
            (show [0].length = 1 from rfl)
          obtain ⟨algorithm, selected, _⟩ :=
            NativeSign.signBody_produced signed
          cases found.symm.trans selected
      | some algorithm =>
          refine exists_lengths_of_bodies (fun _ => rfl)
            (fun draw signature signed => ?_)
            (show [declared.signatureBytes algorithm].length = 1 from rfl)
          obtain ⟨selected, same, produced⟩ :=
            NativeSign.signBody_produced signed
          cases found.symm.trans same
          exact congrArg (fun length => [length])
            (pqdsaSizes.signature algorithm _ _ _ signature produced)
  | x25519Keygen rng seed =>
      exact exists_lengths_of_bodies (fun _ => rfl)
        (bothLengths_of_computes
          (fun draw =>
            NativeClassical.x25519KeygenBody_computes libraries.classical
              draw.rng seed)
          fun _ _ _ asked =>
            NativeClassical.x25519Asked_lengths classicalSizes asked)
        rfl
  | ed25519Keygen rng seed =>
      exact exists_lengths_of_bodies (fun _ => rfl)
        (bothLengths_of_computes
          (fun draw =>
            NativeClassical.ed25519KeygenBody_computes libraries.classical
              draw.rng seed)
          fun _ _ _ asked =>
            NativeClassical.ed25519Asked_lengths classicalSizes asked)
        rfl
  | _ =>
      exact exists_lengths_of_undrawn fun _ => rfl

end Lengths

/-! ## Attempts -/

/-- One attempt: what is drawn, and the two outputs that the call is given. -/
structure Attempt where
  draw : Draw
  outputs : CallerOutput × CallerOutput

namespace Attempt

variable (libraries : NativeMemory.NativeLibraries)
variable (call : ExportedCall)
variable (attempt : Attempt)

/-- What the attempt returns, and what its outputs then hold. -/
def result : Int × CallerOutput × CallerOutput :=
  (call.drawing attempt.draw).call libraries attempt.outputs

/-- What its closure computes. -/
def computed : Except Exit (List Bytes) :=
  (call.drawing attempt.draw).computed libraries

/-- The caller is told that a buffer is too small. -/
def TooSmall : Prop :=
  (attempt.result libraries call).1 = PqForgeStatus.bufferTooSmall.code

/-- Neither the buffers nor the length cells that the call has are null. -/
structure Given : Prop where
  first : attempt.outputs.1.Given
  second : 2 ≤ call.outputCount → attempt.outputs.2.Given

/-- The attempt gets through: its outputs are those that it computed. -/
structure Succeeds : Prop where
  code : (attempt.result libraries call).1 = PqForgeStatus.ok.code
  contents :
    ∃ outputs,
      attempt.computed libraries call = .ok outputs ∧
        (∀ source, outputs[0]? = some source →
          (attempt.result libraries call).2.1.contents = source) ∧
        ∀ source, outputs[1]? = some source →
          (attempt.result libraries call).2.2.contents = source

/-- The attempt is refused with an error of its closure, and writes nothing. -/
structure IsRefused : Prop where
  computed :
    ∃ exit,
      attempt.computed libraries call = .error exit ∧
        exit.FailsEarly ∧
        (attempt.result libraries call).1 = exit.status.code
  outputs : (attempt.result libraries call).2 = attempt.outputs

end Attempt

/-- A buffer in place of another: no smaller, and of the reported length. -/
structure Regrown (after next : CallerOutput) : Prop where
  given : next.Given
  cap : after.cap ≤ next.cap
  reported : ∀ length, after.len = some length → length ≤ next.cap

/-- A caller that is told so tries again, with buffers that have grown. -/
structure Retried
    (libraries : NativeMemory.NativeLibraries)
    (call : ExportedCall)
    (attempt next : Attempt) : Prop where
  tooSmall : attempt.TooSmall libraries call
  first : Regrown (attempt.result libraries call).2.1 next.outputs.1
  second :
    2 ≤ call.outputCount →
    Regrown (attempt.result libraries call).2.2 next.outputs.2

/-- The attempts of a caller that tries again whenever it is told to. -/
structure Retries
    (libraries : NativeMemory.NativeLibraries)
    (call : ExportedCall)
    (attempts : List Attempt) : Prop where
  hasOutputs : call.outputCount ≠ 0
  given : ∀ first ∈ attempts.head?, first.Given call
  chain : attempts.IsChain (Retried libraries call)

/-- `write_out` to a caller with both pointers only depends on its capacity. -/
theorem writeOut_given
    {caller : CallerOutput}
    (given : caller.Given)
    (source : Bytes) :
    caller.cap < source.length ∧
        (writeOut source caller).1 = .bufferTooSmall ∧
        LeftAlone caller (writeOut source caller).2 ∨
      source.length ≤ caller.cap ∧
        (writeOut source caller).1 = .ok ∧
        WrittenWith source caller (writeOut source caller).2 := by
  have status := writeOut_status given source
  rcases writeOut_delivers source caller with
      ⟨succeeded, written⟩ | ⟨noPlace, alone⟩
  · exact .inr ⟨written.fits, succeeded, written⟩
  · by_cases small : caller.cap < source.length
    · rw [if_pos small] at status
      exact .inl ⟨small, status, alone⟩
    · rw [if_neg small] at status
      exact (noPlace.ne_ok status).elim

/-- What an attempt leaves behind for which one of its buffers is too small. -/
inductive Attempt.FindsSmall
    (libraries : NativeMemory.NativeLibraries)
    (call : ExportedCall)
    (attempt : Attempt) : Prop where
  | first
      {source : Bytes}
      {others : List Bytes}
      (computed :
        attempt.computed libraries call = .ok (source :: others))
      (small : attempt.outputs.1.cap < source.length)
      (cell :
        (attempt.result libraries call).2.1.len = some source.length)
      (second :
        (attempt.result libraries call).2.2 = attempt.outputs.2)
  | second
      {source other : Bytes}
      (computed :
        attempt.computed libraries call = .ok [source, other])
      (fits : source.length ≤ attempt.outputs.1.cap)
      (small : attempt.outputs.2.cap < other.length)
      (cap :
        (attempt.result libraries call).2.1.cap = attempt.outputs.1.cap)
      (cell :
        (attempt.result libraries call).2.2.len = some other.length)

/-- How an attempt with all its pointers ends. -/
inductive Attempt.Ends
    (libraries : NativeMemory.NativeLibraries)
    (call : ExportedCall)
    (attempt : Attempt) : Prop where
  | refused (refused : attempt.IsRefused libraries call)
  | succeeded (succeeds : attempt.Succeeds libraries call)
  | small
      (told : attempt.TooSmall libraries call)
      (found : attempt.FindsSmall libraries call)

section Ends

variable {libraries : NativeMemory.NativeLibraries}
variable {call : ExportedCall}
variable {attempt : Attempt}

/-- An attempt of a function with one output ends in one of the three ways. -/
theorem Attempt.ends_of_one
    {body : Except Exit Bytes}
    (fails : FailsOnly body)
    (computes :
      attempt.computed libraries call =
        body.map fun output => [output])
    (hands :
      attempt.result libraries call =
        withOutput (exportedOutput body) attempt.outputs)
    (given : attempt.outputs.1.Given) :
    attempt.Ends libraries call := by
  cases body with
  | error exit =>
      rw [withOutput, exportedOutput_error] at hands
      have code := congrArg Prod.fst hands
      exact .refused
        ⟨⟨exit, computes, fails exit rfl, code⟩, congrArg Prod.snd hands⟩
  | ok source =>
      rw [withOutput, exportedOutput] at hands
      simp only [finish_guard_ok] at hands
      rcases writeOut_given given source with
          ⟨small, tooSmall, _⟩ | ⟨_, succeeded, written⟩
      · have cell := writeOut_len given source
        refine .small ?_ (.first computes small ?_ ?_)
        · rw [TooSmall, hands, tooSmall]
        · rw [hands]
          exact cell
        · rw [hands]
      · refine .succeeded ⟨?_, [source], computes, ?_, ?_⟩
        · rw [hands, succeeded]
        · rintro _ ⟨⟩
          rw [hands]
          exact written.contents
        · rintro _ ⟨⟩

/-- An attempt of a function with two outputs ends in one of the three ways. -/
theorem Attempt.ends_of_both
    {body : Except Exit (Bytes × Bytes)}
    (fails : FailsOnly body)
    (computes :
      attempt.computed libraries call =
        body.map fun both => [both.1, both.2])
    (hands :
      attempt.result libraries call =
        withOutputs (exportedOutputs body) attempt.outputs)
    (firstGiven : attempt.outputs.1.Given)
    (secondGiven : attempt.outputs.2.Given) :
    attempt.Ends libraries call := by
  cases body with
  | error exit =>
      rw [withOutputs, exportedOutputs_error] at hands
      have code := congrArg Prod.fst hands
      exact .refused
        ⟨⟨exit, computes, fails exit rfl, code⟩, congrArg Prod.snd hands⟩
  | ok both =>
      rw [withOutputs, exportedOutputs] at hands
      simp only [finish_guard_ok, writeOutputs] at hands
      rcases writeOut_given firstGiven both.1 with
          ⟨small, tooSmall, _⟩ | ⟨fits, succeeded, written⟩
      · have cell := writeOut_len firstGiven both.1
        rw [tooSmall, if_pos (by decide)] at hands
        refine .small ?_ (.first computes small ?_ ?_)
        · rw [TooSmall, hands]
        · rw [hands]
          exact cell
        · rw [hands]
      · rw [succeeded, if_neg (by decide)] at hands
        rcases writeOut_given secondGiven both.2 with
            ⟨small, tooSmall, _⟩ | ⟨_, alsoSucceeded, alsoWritten⟩
        · have cell := writeOut_len secondGiven both.2
          refine .small ?_ (.second computes fits small ?_ ?_)
          · rw [TooSmall, hands, tooSmall]
          · rw [hands]
            exact written.cap
          · rw [hands]
            exact cell
        · refine .succeeded ⟨?_, [both.1, both.2], computes, ?_, ?_⟩
          · rw [hands, alsoSucceeded]
          · rintro _ ⟨⟩
            rw [hands]
            exact written.contents
          · rintro _ ⟨⟩
            rw [hands]
            exact alsoWritten.contents

/-- Every attempt of a function with outputs ends in one of the three ways. -/
theorem Attempt.ends
    (libraries : NativeMemory.NativeLibraries)
    (hasOutputs : call.outputCount ≠ 0)
    (given : attempt.Given call) :
    attempt.Ends libraries call := by
  have sameCount := call.outputCount_drawing attempt.draw
  cases (call.drawing attempt.draw).hands libraries with
  | nothing count _ _ =>
      exact (hasOutputs (sameCount.symm.trans count)).elim
  | one _ fails computes hands =>
      exact ends_of_one fails computes
        (congrFun hands attempt.outputs) given.first
  | both count fails computes hands =>
      have two := Nat.le_of_eq (count.symm.trans sameCount)
      exact ends_of_both fails computes
        (congrFun hands attempt.outputs) given.first (given.second two)

/-- A caller is told of a buffer that is too small only where one is. -/
theorem Attempt.TooSmall.found
    (hasOutputs : call.outputCount ≠ 0)
    (given : attempt.Given call)
    (tooSmall : attempt.TooSmall libraries call) :
    attempt.FindsSmall libraries call := by
  cases attempt.ends libraries hasOutputs given with
  | refused refused =>
      obtain ⟨exit, _, fails, code⟩ := refused.computed
      exact (fails.notTooSmall
        (PqForgeStatus.code_injective (code.symm.trans tooSmall))).elim
  | succeeded succeeds =>
      cases succeeds.code.symm.trans tooSmall
  | small _ found =>
      exact found

end Ends

/-- The number one for an output without room for so many bytes. -/
def misfit (length : Nat) (output : CallerOutput) : Nat :=
  if output.cap < length then
    1
  else
    0

/-- How many of the outputs have no room for bytes of these lengths. -/
def misfits (outputs : CallerOutput × CallerOutput) : List Nat → Nat
  | [] =>
      0
  | [length] =>
      misfit length outputs.1
  | first :: second :: _ =>
      misfit first outputs.1 + misfit second outputs.2

section Misfits

variable {length : Nat}
variable {output other : CallerOutput}

theorem misfit_le_one
    (length : Nat)
    (output : CallerOutput) :
    misfit length output ≤ 1 := by
  rw [misfit]
  split <;> omega

theorem misfit_of_small (small : output.cap < length) :
    misfit length output = 1 :=
  if_pos small

theorem misfit_of_fits (fits : length ≤ output.cap) :
    misfit length output = 0 :=
  if_neg (Nat.not_lt.mpr fits)

theorem misfit_of_grown
    (length : Nat)
    (grown : output.cap ≤ other.cap) :
    misfit length other ≤ misfit length output := by
  rw [misfit, misfit]
  split <;> split <;> omega

theorem misfits_le_length
    (outputs : CallerOutput × CallerOutput)
    (lengths : List Nat) :
    misfits outputs lengths ≤ lengths.length := by
  match lengths with
  | [] =>
      exact Nat.zero_le _
  | [length] =>
      exact misfit_le_one length outputs.1
  | first :: second :: rest =>
      have here := misfit_le_one first outputs.1
      have there := misfit_le_one second outputs.2
      simp only [misfits, List.length_cons]
      omega

/-- Two outputs without room are both of the outputs. -/
theorem small_of_misfits
    {outputs : CallerOutput × CallerOutput}
    {first second : Nat}
    {rest : List Nat}
    (both : 2 ≤ misfits outputs (first :: second :: rest)) :
    outputs.1.cap < first ∧ outputs.2.cap < second := by
  have here := misfit_le_one first outputs.1
  have there := misfit_le_one second outputs.2
  rw [misfits] at both
  constructor
  · by_contra fits
    rw [misfit_of_fits (Nat.not_lt.mp fits)] at both
    omega
  · by_contra fits
    rw [misfit_of_fits (Nat.not_lt.mp fits)] at both
    omega

end Misfits

section Loop

variable {libraries : NativeMemory.NativeLibraries}
variable {call : ExportedCall}
variable {attempt next : Attempt}
variable {lengths : List Nat}

/-- A buffer that is too small has no room. -/
theorem Attempt.FindsSmall.misfits_pos
    (fixed : call.HasLengths libraries lengths)
    (found : attempt.FindsSmall libraries call) :
    0 < misfits attempt.outputs lengths := by
  cases found with
  | @first source others computed small _ _ =>
      rw [← fixed.lengths attempt.draw _ computed]
      have here := misfit_of_small small
      cases others with
      | nil =>
          simp only [List.map_cons, List.map_nil, misfits]
          omega
      | cons other rest =>
          simp only [List.map_cons, misfits]
          omega
  | second computed _ small _ _ =>
      rw [← fixed.lengths attempt.draw _ computed]
      have there := misfit_of_small small
      simp only [List.map_cons, List.map_nil, misfits]
      omega

/-- Each attempt that follows another one has more outputs with room. -/
theorem Retried.lowers_misfits
    (fixed : call.HasLengths libraries lengths)
    (hasOutputs : call.outputCount ≠ 0)
    (given : attempt.Given call)
    (retried : Retried libraries call attempt next) :
    next.Given call ∧
      misfits next.outputs lengths < misfits attempt.outputs lengths := by
  refine
    ⟨⟨retried.first.given, fun two => (retried.second two).given⟩, ?_⟩
  cases retried.tooSmall.found hasOutputs given with
  | @first source others computed small cell second =>
      have count := fixed.count
      rw [← fixed.lengths attempt.draw _ computed] at count ⊢
      have before := misfit_of_small small
      have after := misfit_of_fits (retried.first.reported _ cell)
      cases others with
      | nil =>
          simp only [List.map_cons, List.map_nil, misfits]
          omega
      | cons other rest =>
          simp only [List.map_cons, List.length_cons] at count
          have grown := (retried.second (by omega)).cap
          rw [second] at grown
          have kept := misfit_of_grown other.length grown
          simp only [List.map_cons, misfits]
          omega
  | second computed fits small cap cell =>
      have count := fixed.count
      rw [← fixed.lengths attempt.draw _ computed] at count ⊢
      simp only [List.map_cons, List.map_nil, List.length_cons,
        List.length_nil] at count
      have before := misfit_of_small small
      have after :=
        misfit_of_fits ((retried.second (by omega)).reported _ cell)
      have grown := retried.first.cap
      rw [cap] at grown
      have kept := misfit_of_fits (Nat.le_trans fits grown)
      simp only [List.map_cons, List.map_nil, misfits]
      omega

/-- After two attempts in vain, neither of the buffers was large enough. -/
theorem Retries.third
    (fixed : call.HasLengths libraries lengths)
    {first second third : Attempt}
    {later : List Attempt}
    (retries :
      Retries libraries call (first :: second :: third :: later)) :
    ∃ source other,
      first.computed libraries call = .ok [source, other] ∧
        first.outputs.1.cap < source.length ∧
        second.outputs.2.cap < other.length ∧
        ∀ stale,
          first.outputs.2.len = some stale →
          stale < other.length := by
  obtain ⟨hasOutputs, given, chain⟩ := retries
  obtain ⟨again, chain⟩ := List.isChain_cons_cons.mp chain
  obtain ⟨inVain, _⟩ := List.isChain_cons_cons.mp chain
  have firstGiven := given first rfl
  obtain ⟨secondGiven, lower⟩ :=
    again.lowers_misfits fixed hasOutputs firstGiven
  have left :=
    (inVain.tooSmall.found hasOutputs secondGiven).misfits_pos fixed
  have count := fixed.count
  have two := call.outputCount_le_two
  cases again.tooSmall.found hasOutputs firstGiven with
  | @first source others computed small cell unwritten =>
      rw [← fixed.lengths first.draw _ computed] at count lower left
      match others with
      | [] =>
          have most := misfits_le_length first.outputs [source.length]
          simp only [List.map_cons, List.map_nil, List.length_cons,
            List.length_nil] at lower left most
          omega
      | [other] =>
          simp only [List.map_cons, List.map_nil, List.length_cons,
            List.length_nil] at count left
          have grown := again.second (by omega)
          rw [unwritten] at grown
          have fits :=
            misfit_of_fits (again.first.reported _ cell)
          have unfit : second.outputs.2.cap < other.length := by
            by_contra enough
            have alsoFits := misfit_of_fits (Nat.not_lt.mp enough)
            rw [misfits] at left
            omega
          refine ⟨source, other, computed, small, unfit, ?_⟩
          intro stale held
          exact Nat.lt_of_le_of_lt (grown.reported stale held) unfit
      | other :: more :: rest =>
          simp only [List.map_cons, List.length_cons] at count
          omega
  | second computed fits small _ _ =>
      rw [← fixed.lengths first.draw _ computed] at lower left
      have unfit :=
        small_of_misfits (Nat.lt_of_le_of_lt (Nat.succ_le_of_lt left) lower)
      omega

end Loop

/-- How a loop of attempts ends, and what each of them was lost on. -/
structure LoopEnds
    (libraries : NativeMemory.NativeLibraries)
    (call : ExportedCall)
    (attempts : List Attempt) : Prop where
  few : attempts.length ≤ call.outputCount + 1
  third :
    ∀ first second third later,
      attempts = first :: second :: third :: later →
      ∃ source other,
        first.computed libraries call = .ok [source, other] ∧
          first.outputs.1.cap < source.length ∧
          second.outputs.2.cap < other.length ∧
          ∀ stale,
            first.outputs.2.len = some stale →
            stale < other.length
  last :
    ∀ last ∈ attempts.getLast?,
      last.Succeeds libraries call ∨
        last.IsRefused libraries call ∨
        last.TooSmall libraries call ∧
          attempts.length ≤ call.outputCount

/--
A caller that tries again with larger buffers whenever it is told to needs at
most one attempt more than the function has outputs.  A third one is needed only
where both buffers were too small and the second length cell was stale.  If the
last attempt is not told so again, its outputs are those that it computed, or
its closure has failed and nothing was written.
-/
theorem retries_end
    {libraries : NativeMemory.NativeLibraries}
    {declared : DeclaredSizes}
    (kemSizes : libraries.kem.Sizes declared)
    (pqdsaSizes : libraries.pqdsa.Sizes declared)
    (classicalSizes : libraries.classical.KeySizes)
    {call : ExportedCall}
    {attempts : List Attempt}
    (retries : Retries libraries call attempts) :
    LoopEnds libraries call attempts := by
  obtain ⟨lengths, fixed⟩ :=
    call.exists_lengths kemSizes pqdsaSizes classicalSizes
  have bounded : ∀ last ∈ attempts.getLast?,
      last.Given call ∧
        attempts.length + misfits last.outputs lengths ≤
          call.outputCount + 1 := by
    intro last isLast
    cases attempts with
    | nil =>
        cases isLast
    | cons first rest =>
        obtain ⟨given, steps⟩ :=
          isChain_lowers_measure
            (fun here next given retried =>
              retried.lowers_misfits fixed retries.hasOutputs given)
            retries.chain (retries.given first rfl) isLast
        have most := misfits_le_length first.outputs lengths
        have count := fixed.count
        refine ⟨given, ?_⟩
        rw [List.length_cons]
        omega
  constructor
  · cases ending : attempts.getLast? with
    | none =>
        rw [List.getLast?_eq_none_iff.mp ending]
        exact Nat.zero_le _
    | some last =>
        obtain ⟨_, steps⟩ := bounded last ending
        omega
  · rintro first second third later rfl
    exact retries.third fixed
  · intro last isLast
    obtain ⟨given, steps⟩ := bounded last isLast
    cases last.ends libraries retries.hasOutputs given with
    | refused refused =>
        exact .inr (.inl refused)
    | succeeded succeeds =>
        exact .inl succeeds
    | small told found =>
        have left := found.misfits_pos fixed
        exact .inr (.inr ⟨told, by omega⟩)

/-- A loop of X25519 key generations, from no room to room for both keys. -/
def x25519Attempts : List Attempt :=
  let draw : Draw := {
    coins := []
    rng := fun count =>
      some ⟨List.replicate count 0, List.length_replicate⟩ }
  let noRoom := NativeBackend.calloc 0
  let room := NativeBackend.calloc 32
  [⟨draw, noRoom, noRoom⟩, ⟨draw, room, noRoom⟩, ⟨draw, room, room⟩]

/-- Enough new memory is a buffer in place of another. -/
theorem regrown_calloc
    {after : CallerOutput}
    {outBytes reported : Nat}
    (cap : after.cap ≤ outBytes)
    (cell : after.len = some reported)
    (fits : reported ≤ outBytes) :
    Regrown after (NativeBackend.calloc outBytes) where
  given := NativeBackend.calloc_given outBytes
  cap := cap
  reported := by
    intro length same
    cases cell.symm.trans same
    exact fits

/-- A caller without room for its keys gets them at its third attempt. -/
theorem retries_end_of_x25519Attempts :
    LoopEnds .zeros (.x25519Keygen (fun _ => none) (.null 0))
      x25519Attempts := by
  have given := NativeBackend.calloc_given
  refine retries_end (AwsLcKem.zeros_sizes .standard)
    (AwsLcPqdsa.zeros_sizes .standard)
    AwsLcClassical.zeros_sizes.toKeySizes
    ⟨by decide, ?_, ?_⟩
  · rintro _ ⟨⟩
    exact ⟨given 0, fun _ => given 0⟩
  · refine .cons_cons ⟨rfl, ?_, fun _ => ?_⟩
      (.cons_cons ⟨rfl, ?_, fun _ => ?_⟩ (.singleton _))
    · exact regrown_calloc (by decide) rfl (by decide)
    · exact regrown_calloc (by decide) rfl (by decide)
    · exact regrown_calloc (by decide) rfl (by decide)
    · exact regrown_calloc (by decide) rfl (by decide)

end PqForgeFfi
