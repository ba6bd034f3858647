import PqForgeFfi.NativeMemory

namespace PqForgeFfi.NativeMemory

open Allocation NativeAead NativeClassical NativeKem NativeSign

/-!
# Memory over runs of native calls

A native call whose allocations all succeed ends as the operation of
`NativeBackend` does and leaves memory as it found it; where an allocation
fails, the blocks of the call that were allocated before it stay behind.  A run
of calls leaves behind what its failed allocations did, and nothing else.
-/

section Rules

variable {base : Nat → Option Block}
variable {heap : Heap Block}
variable {arguments : List Argument}
variable {outputs : List OutputBuffer}
variable {pointers buffers cells : List Nat}

/-- A native call writes the outputs that its function comes to. -/
theorem callNative_owned
    {fn : NativeFn}
    {answer : Int × List CallerOutput}
    (answered :
      fn.apply (arguments.map Argument.value)
          (outputs.map OutputBuffer.caller) =
        answer)
    (measured : ∀ argument ∈ arguments, argument.Measured)
    (keeps : Keeps outputs answer)
    (places : Places pointers (arguments.map Argument.block))
    (bufferLengths : buffers.length = outputs.length)
    (cellLengths : cells.length = outputs.length)
    (owns :
      Owns base
        (acquiredAll pointers (arguments.map Argument.block) ++
          acquiredAll buffers
            ((outputs.map fun output =>
              Block.bytes (List.replicate output.allocated 0)).map
                some) ++
          acquiredAll cells
            ((outputs.map fun _ => Block.size 0).map some))
        heap) :
    ∃ behind,
      callNative fn arguments outputs pointers buffers cells heap =
          some (.ok answer.1, behind) ∧
        Owns base
          (acquiredAll pointers (arguments.map Argument.block) ++
            acquiredAll buffers ((answer.2.map outBlock).map some) ++
            acquiredAll cells ((answer.2.map lenBlock).map some))
          behind ∧
        behind.freed = heap.freed := by
  have values :=
    @readAll_owned base [] _ heap arguments pointers measured places
      (by simpa only [List.nil_append, List.append_assoc] using owns)
  have contents :=
    @loadAll_owned _ DartThrow _ _ _ _ _ _
      (by simpa using bufferLengths) owns
  have lengths :=
    @loadAll_owned Block DartThrow base _ [] heap cells
      (outputs.map fun _ => Block.size 0) (by simpa using cellLengths)
      (by simpa only [List.append_nil] using owns)
  obtain ⟨middle, stored, ownsMiddle, freedMiddle⟩ :=
    @storeAll_owned _ DartThrow _ _ _ _ _ _ _ (answer.2.map outBlock)
      (by simpa using bufferLengths) keeps.out_extents owns
  obtain ⟨final, storedCells, ownsFinal, freedFinal⟩ :=
    @storeAll_owned Block DartThrow base _ [] middle _ cells
      (outputs.map fun _ => Block.size 0) (answer.2.map lenBlock)
      (by simpa using cellLengths) keeps.len_extents
      (by simpa only [List.append_nil] using ownsMiddle)
  rw [List.append_nil] at ownsFinal
  refine ⟨final, ?_, ownsFinal, freedFinal.trans freedMiddle⟩
  rw [callNative, Program.bind_of_ok values,
    Program.bind_of_ok contents, Program.bind_of_ok lengths]
  simp only [callersOf_outputs, answered, if_pos keeps.framed]
  rw [Program.bind_of_ok stored, Program.bind_of_ok storedCells]
  rfl

/-- The Dart side concludes from what it finds in the outputs. -/
theorem conclude_owned
    {earlier : List (Nat × Block)}
    {answer : Int × List CallerOutput}
    (keeps : Keeps outputs answer)
    (bufferLengths : buffers.length = outputs.length)
    (cellLengths : cells.length = outputs.length)
    (owns :
      Owns base
        (earlier ++
          acquiredAll buffers ((answer.2.map outBlock).map some) ++
          acquiredAll cells ((answer.2.map lenBlock).map some))
        heap)
    (conclusion : Conclusion) :
    conclusion.conclude answer.1 buffers cells heap =
      some (conclusion.ending answer.1 answer.2, heap) := by
  cases conclusion with
  | verdict =>
      rfl
  | status =>
      rfl
  | copies op =>
      by_cases failed : answer.1 ≠ PqForgeErrorCode.ok.value
      · rw [Conclusion.conclude, Conclusion.ending, if_pos failed,
          if_pos failed]
        rfl
      · have returnedOk := not_not.mp failed
        have contents :=
          @loadAll_owned _ DartThrow _ _ _ _ _ _
            (by simpa [keeps.length] using bufferLengths) owns
        have lengths :=
          @loadAll_owned Block DartThrow base _ [] heap cells
            (answer.2.map lenBlock)
            (by simpa [keeps.length] using cellLengths)
            (by simpa only [List.append_nil] using owns)
        rw [Conclusion.conclude, Conclusion.ending, if_neg failed,
          if_neg failed, Program.bind_of_ok lengths,
          Program.bind_of_ok contents]
        simp only [piecesOf_after (keeps.within returnedOk)]
        rfl

end Rules

namespace Marshalling

variable {marshalling : Marshalling}

/-- The requested blocks, those of the outputs in one list each. -/
theorem requested_eq (marshalling : Marshalling) :
    marshalling.requested =
      marshalling.arguments.map Argument.block ++
        (marshalling.outputs.map fun output =>
          Block.bytes (List.replicate output.allocated 0)).map some ++
        (marshalling.outputs.map fun _ => Block.size 0).map some := by
  simp [requested, Function.comp_def]

/-- The written blocks, those of the outputs in one list each. -/
theorem written_eq (marshalling : Marshalling) :
    marshalling.written =
      marshalling.arguments.map Argument.block ++
        (marshalling.answer.2.map outBlock).map some ++
        (marshalling.answer.2.map lenBlock).map some := by
  simp [written, Function.comp_def]

/-- A call has a block for each pointer that is not null. -/
theorem requested_alike
    (keeps : Keeps marshalling.outputs marshalling.answer) :
    marshalling.requested.map Option.isSome =
      marshalling.written.map Option.isSome := by
  simp [requested, written, Function.comp_def, keeps.length,
    List.map_const']

/-- The blocks of a call are those of its arguments, buffers and cells. -/
theorem acquiredAll_split
    (addresses : List Nat)
    {arguments : List (Option Block)}
    {buffers cells : List Block}
    {count : Nat}
    (argumentCount : arguments.length = count)
    (sameCount : buffers.length = cells.length)
    (lengths :
      addresses.length = count + buffers.length + cells.length) :
    acquiredAll addresses
        (arguments ++ buffers.map some ++ cells.map some) =
      acquiredAll (addresses.take count) arguments ++
        acquiredAll ((addresses.drop count).take cells.length)
          (buffers.map some) ++
        acquiredAll ((addresses.drop count).drop cells.length)
          (cells.map some) := by
  have parts :
      addresses =
        addresses.take count ++
          ((addresses.drop count).take cells.length ++
            (addresses.drop count).drop cells.length) := by
    rw [List.take_append_drop, List.take_append_drop]
  have pointerCount :
      (addresses.take count).length = arguments.length := by
    rw [List.length_take]
    omega
  have bufferCount :
      ((addresses.drop count).take cells.length).length =
        (buffers.map some).length := by
    rw [List.length_take, List.length_drop, List.length_map]
    omega
  conv_lhs => rw [parts]
  rw [List.append_assoc, acquiredAll_append pointerCount,
    acquiredAll_append bufferCount, List.append_assoc]

/-- The native call and the conclusion keep to the blocks of the call. -/
theorem body_owned
    (measured :
      ∀ argument ∈ marshalling.arguments, argument.Measured)
    (keeps : Keeps marshalling.outputs marshalling.answer)
    {base : Nat → Option Block}
    {addresses : List Nat}
    {behind : Heap Block}
    (places : Places addresses marshalling.requested)
    (owns :
      Owns base (acquiredAll addresses marshalling.requested) behind) :
    ∃ final,
      marshalling.body addresses behind =
          some (marshalling.ending, final) ∧
        Owns base (acquiredAll addresses marshalling.written) final ∧
        final.freed = behind.freed := by
  have lengths := places.length_eq
  rw [requested_eq] at lengths owns
  simp only [List.length_append, List.length_map] at lengths
  have pointerPlaces :
      Places (addresses.take marshalling.arguments.length)
        (marshalling.arguments.map Argument.block) := by
    have front :=
      List.forall₂_take marshalling.arguments.length places
    have arguments :
        marshalling.requested.take marshalling.arguments.length =
          marshalling.arguments.map Argument.block := by
      rw [requested_eq, List.append_assoc]
      exact List.take_left' (List.length_map _)
    rw [arguments] at front
    exact front
  rw [acquiredAll_split addresses (List.length_map _)
    (by simp) (by simpa using lengths), List.length_map] at owns
  obtain ⟨middle, called, ownsMiddle, freed⟩ :=
    @callNative_owned base behind marshalling.arguments
      marshalling.outputs _ _ _ marshalling.fn marshalling.answer rfl
      measured keeps pointerPlaces
      (by
        rw [List.length_take, List.length_drop]
        omega)
      (by
        rw [List.length_drop, List.length_drop]
        omega)
      owns
  have concluded :=
    conclude_owned keeps
      (by
        rw [List.length_take, List.length_drop]
        omega)
      (by
        rw [List.length_drop, List.length_drop]
        omega)
      ownsMiddle marshalling.conclusion
  refine ⟨middle, ?_, ?_, freed⟩
  · rw [body, Program.bind_of_ok called]
    exact concluded
  · rw [written_eq, acquiredAll_split addresses (List.length_map _)
      (by simp) (by simpa [keeps.length] using lengths)]
    simpa only [List.length_map, keeps.length] using ownsMiddle

/--
A call ends as it does when nothing is said about memory, and gives back all of
its blocks; or an allocation fails, and what came before it stays behind.
-/
theorem program_cases
    (measured :
      ∀ argument ∈ marshalling.arguments, argument.Measured)
    (keeps : Keeps marshalling.outputs marshalling.answer)
    (allocator : Allocator Block)
    (heap : Heap Block) :
    (∃ final,
        marshalling.program allocator heap =
            some (marshalling.ending, final) ∧
          final.live = heap.live ∧
          final.freed =
            heap.freed ++ marshalling.written.filterMap id) ∨
      ∃ error leaked final,
        marshalling.program allocator heap =
            some (.error error, final) ∧
          OutOfMemory error ∧
          Leaks heap.live [] marshalling.requested leaked final ∧
          final.freed = heap.freed := by
  refine within_cases (marshalling.acquires allocator)
    (requested_alike keeps) ?_
    (fun addresses behind places owns =>
      body_owned measured keeps places owns)
  intro addresses places
  have lengths := places.length_eq
  rw [requested_eq, List.append_assoc, ← List.map_append]
    at lengths ⊢
  refine releases_eq marshalling.arguments ?_
  simpa using lengths

end Marshalling

end PqForgeFfi.NativeMemory
