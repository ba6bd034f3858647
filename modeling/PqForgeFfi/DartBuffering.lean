import PqForgeFfi.StreamNonces

namespace PqForgeFfi

open Segmentation

/-!
# What the Dart stream holds between events

Between two source events `seal` holds at most one full chunk and less than a
chunk beside it, `open` holds at most one frame, and everything else that has
arrived was handed on.  How the bytes were cut into events does not show.
-/

namespace PqForgeStream

/-- `seal` before the first event. -/
def sealStart : SealState where
  counter := 0
  pending := none
  carry := []

/-- `open` before the first event. -/
def openStart : OpenState where
  counter := 0
  carry := []
  sawAnyByte := false

/-- The inputs of the AEAD calls so far, joined. -/
def inputs (log : List StreamEvent) : Bytes :=
  ((aeadCalls log).map AeadCall.input).flatten

/-- Some AEAD call was refused. -/
def Refused (log : List StreamEvent) : Prop :=
  ∃ call ∈ aeadCalls log, call.output = none

/-- What `seal` has done, and what it keeps, of the bytes consumed. -/
structure SealBuffers
    (call : StreamCall)
    (consumed : Bytes)
    (log : List StreamEvent)
    (state : SealState) : Prop where
  frames : (emitted log).length = consumed.length / call.size - 1
  handsOn : HandsOn log
  pendingFull :
    ∀ chunk, state.pending = some chunk → chunk.length = call.size
  pendingWhen : state.pending.isSome ↔ call.size ≤ consumed.length
  carry : state.carry.length = consumed.length % call.size
  joined :
    inputs log ++ state.pending.getD [] ++ state.carry = consumed
  kept :
    (state.pending.getD []).length + state.carry.length < 2 * call.size

/-- What `open` has done, and what it keeps, of the bytes consumed. -/
structure OpenBuffers
    (call : StreamCall)
    (consumed : Bytes)
    (log : List StreamEvent)
    (state : OpenState) : Prop where
  chunks :
    (emitted log).length =
      (consumed.length + call.frameSize - 1) / call.frameSize - 1
  handsOn : HandsOn log
  carry :
    state.carry.length =
      consumed.length - (emitted log).length * call.frameSize
  owed :
    consumed ≠ [] →
      1 ≤ state.carry.length ∧ state.carry.length ≤ call.frameSize
  joined : inputs log ++ state.carry = consumed
  kept : state.carry.length ≤ call.frameSize

/-- An operation of the backend, as a stream calls it. -/
abbrev Operation : Type :=
  PqAeadAlgorithm →
    (key nonce input aad : Bytes) →
    Except DartThrow Bytes

section Yielding

variable (call : StreamCall)
variable (operation : Operation)

/-- `yield` of the output of one AEAD call. -/
def yieldAt
    (position : Nat)
    (last : Bool)
    (input : Bytes) :
    Trace StreamEvent DartThrow Unit :=
  aeadCall call operation input (Int64.ofNat position) last >>=
    fun piece => Trace.record (.emit piece)

/-- The AEAD call of a `yield`. -/
def yieldCall
    (position : Nat)
    (last : Bool)
    (input : Bytes) :
    AeadCall where
  algorithm := call.algorithm
  key := call.key
  nonce := positionNonce position last
  associated := call.ad
  input := input
  output :=
    (operation call.algorithm call.key (positionNonce position last)
      input call.ad).toOption

/-- What one answered call records, and how it ends. -/
def answered (made : AeadCall) :
    Except DartThrow Bytes →
      Trace StreamEvent DartThrow Unit
  | .ok piece =>
      ⟨[.aead made, .emit piece], .ok ()⟩
  | .error thrown =>
      ⟨[.aead made], .error thrown⟩

/-- A `yield` is one call, and one piece unless the call is refused. -/
theorem yieldAt_eq
    (position : Nat)
    (last : Bool)
    (input : Bytes) :
    yieldAt call operation position last input =
      answered (yieldCall call operation position last input)
        (operation call.algorithm call.key
          (positionNonce position last) input call.ad) := by
  simp only [yieldAt, aeadCall, yieldCall,
    PqAeadAlgorithm.nonceBytes_eq, positionNonce]
  cases operation call.algorithm call.key
    (nonce (Int64.ofNat position) last 12) input call.ad <;> rfl

variable {call : StreamCall}
variable {operation : Operation}
variable {position : Nat}
variable {last : Bool}
variable {input : Bytes}

/-- A `yield` that returned has handed on the output of its call. -/
theorem yieldAt_returned
    (returned :
      (yieldAt call operation position last input).outcome = .ok ()) :
    ∃ piece,
      (yieldCall call operation position last input).output =
          some piece ∧
        (yieldAt call operation position last input).log =
          [.aead (yieldCall call operation position last input),
            .emit piece] := by
  rw [yieldAt_eq] at returned ⊢
  rw [yieldCall]
  cases answer :
      operation call.algorithm call.key
        (positionNonce position last) input call.ad with
  | ok piece =>
      exact ⟨piece, rfl, rfl⟩
  | error thrown =>
      rw [answer] at returned
      cases returned

/-- A `yield` that failed has had its call refused. -/
theorem yieldAt_failed
    {thrown : DartThrow}
    (failed :
      (yieldAt call operation position last input).outcome =
        .error thrown) :
    (yieldCall call operation position last input).output = none ∧
      (yieldAt call operation position last input).log =
        [.aead (yieldCall call operation position last input)] := by
  rw [yieldAt_eq] at failed ⊢
  rw [yieldCall]
  cases answer :
      operation call.algorithm call.key
        (positionNonce position last) input call.ad with
  | ok piece =>
      rw [answer] at failed
      cases failed
  | error thrown =>
      exact ⟨rfl, rfl⟩

variable {items : List Bytes}

/-- The inputs of a run of yields are its items. -/
theorem inputs_yields
    (returned :
      (heldRun (yieldAt call operation) 0 items).outcome = .ok ()) :
    inputs (heldRun (yieldAt call operation) 0 items).log =
      items.flatten := by
  have calls :
      aeadCalls (heldRun (yieldAt call operation) 0 items).log =
        items.mapIdx fun index item =>
          yieldCall call operation (0 + index) false item := by
    refine heldRun_shows
      (fun position => yieldCall call operation position false)
      (fun position item yielded => ?_) returned
    obtain ⟨piece, _, log⟩ := yieldAt_returned yielded
    rw [log]
    rfl
  have shown :
      (aeadCalls (heldRun (yieldAt call operation) 0 items).log).map
          AeadCall.input =
        items := by
    rw [calls]
    apply List.ext_getElem
    · simp
    · intro index _ _
      simp [yieldCall]
  rw [inputs, shown]

/-- A run of yields has handed on as many pieces as it has items. -/
theorem length_emitted_yields
    (returned :
      (heldRun (yieldAt call operation) 0 items).outcome = .ok ()) :
    (emitted (heldRun (yieldAt call operation) 0 items).log).length =
      items.length := by
  have pieces :
      emitted (heldRun (yieldAt call operation) 0 items).log =
        items.mapIdx fun index item =>
          (yieldCall call operation (0 + index) false
            item).output.getD [] := by
    refine heldRun_shows
      (fun position item =>
        (yieldCall call operation position false item).output.getD [])
      (fun position item yielded => ?_) returned
    obtain ⟨piece, output, log⟩ := yieldAt_returned yielded
    rw [log, output]
    rfl
  rw [pieces, List.length_mapIdx]

/-- A run of yields hands on the outputs of its calls. -/
theorem handsOn_yields
    (returned :
      (heldRun (yieldAt call operation) 0 items).outcome = .ok ()) :
    HandsOn (heldRun (yieldAt call operation) 0 items).log := by
  refine handsOn_heldRun (fun position last item yielded => ?_) returned
  obtain ⟨piece, output, log⟩ := yieldAt_returned yielded
  rw [log]
  exact congrArg (· :: []) output

/-- A run of yields that failed has had a call refused. -/
theorem refused_of_yields_error
    {thrown : DartThrow}
    (failed :
      (heldRun (yieldAt call operation) 0 items).outcome =
        .error thrown) :
    Refused (heldRun (yieldAt call operation) 0 items).log := by
  obtain ⟨reached, item, stopped, ends⟩ := heldRun_eq_error failed
  obtain ⟨output, log⟩ := yieldAt_failed stopped
  refine ⟨yieldCall call operation reached false item, ?_, output⟩
  refine (ends.filterMap _).subset ?_
  rw [log]
  exact List.mem_singleton_self _

end Yielding

/-! ## Sealing -/

/-- The chunks known of what arrived are the full ones. -/
theorem knownChunks_none
    (call : StreamCall)
    (received : Bytes) :
    knownChunks call none received = (cut call.size 0 received).1 :=
  List.nil_append _

/-- All but the last of some blocks, and the last, join to the blocks. -/
theorem dropLast_flatten_getLast?
    (chunks : List Bytes) :
    chunks.dropLast.flatten ++ chunks.getLast?.getD [] =
      chunks.flatten := by
  cases chunks using List.reverseRecOn with
  | nil =>
      rfl
  | append_singleton front newest =>
      simp

/-- What `seal` keeps once it has consumed bytes from the start. -/
theorem sealBuffers_of_returned
    {call : StreamCall}
    {consumed : Bytes}
    (returned :
      (heldRun (yieldAt call call.backend.aeadSeal) 0
        (cut call.size 0 consumed).1.dropLast).outcome = .ok ()) :
    SealBuffers call consumed
      (heldRun (yieldAt call call.backend.aeadSeal) 0
        (cut call.size 0 consumed).1.dropLast).log
      (sealStateAt call 0 none consumed) := by
  have sizePos := call.size_pos
  have count :
      (cut call.size 0 consumed).1.length =
        consumed.length / call.size :=
    length_cut sizePos consumed
  have pendingFull : ∀ chunk,
      (sealStateAt call 0 none consumed).pending = some chunk →
      chunk.length = call.size := by
    intro chunk held
    rw [sealStateAt, knownChunks_none] at held
    exact length_of_mem_cut (List.mem_of_getLast? held)
  have carry :
      (sealStateAt call 0 none consumed).carry.length =
        consumed.length % call.size := by
    have parts := @length_cut_rest _ call.size 0 consumed
    have division := Nat.div_add_mod' consumed.length call.size
    rw [count] at parts
    show (cut call.size 0 consumed).2.length = _
    omega
  refine {
    frames := ?_
    handsOn := handsOn_yields returned
    pendingFull := pendingFull
    pendingWhen := ?_
    carry := carry
    joined := ?_
    kept := ?_ }
  · rw [length_emitted_yields returned, List.length_dropLast, count]
  · rw [sealStateAt, knownChunks_none]
    simp only
    rw [List.getLast?_isSome, ← List.length_pos_iff, count]
    exact Nat.div_pos_iff.trans (and_iff_right sizePos)
  · rw [inputs_yields returned, sealStateAt, knownChunks_none]
    simp only
    rw [dropLast_flatten_getLast?, cut_join]
  · have remainder := Nat.mod_lt consumed.length sizePos
    cases held : (sealStateAt call 0 none consumed).pending with
    | none =>
        simp only [Option.getD_none, List.length_nil]
        omega
    | some chunk =>
        have full := pendingFull chunk held
        simp only [Option.getD_some]
        omega

/-- Consuming events either ends in a refused call or leaves what is described. -/
theorem sealEvents_buffers
    (call : StreamCall)
    (consumed : List Bytes) :
    Refused (sealEvents call sealStart consumed).log ∨
      ∃ state,
        (sealEvents call sealStart consumed).outcome = .ok state ∧
          SealBuffers call consumed.flatten
            (sealEvents call sealStart consumed).log state := by
  have run := sealEvents_eq call 0 none [] call.size_pos consumed
  rw [List.nil_append, knownChunks_none, Trace.bind_done_const] at run
  have shape :
      sealEvents call sealStart consumed =
        ⟨(heldRun (yieldAt call call.backend.aeadSeal) 0
            (cut call.size 0 consumed.flatten).1.dropLast).log,
          (heldRun (yieldAt call call.backend.aeadSeal) 0
            (cut call.size 0 consumed.flatten).1.dropLast).outcome.map
              fun _ => sealStateAt call 0 none consumed.flatten⟩ :=
    run
  rw [shape]
  cases ended :
      (heldRun (yieldAt call call.backend.aeadSeal) 0
        (cut call.size 0 consumed.flatten).1.dropLast).outcome with
  | error thrown =>
      exact .inl (refused_of_yields_error ended)
  | ok returned =>
      exact .inr ⟨_, rfl, sealBuffers_of_returned ended⟩

/-! ## Opening -/

/-- Opening frames that are not the last one is yielding what they hold. -/
theorem heldRun_openAct
    (call : StreamCall)
    (position : Nat)
    (frames : List Bytes) :
    heldRun (openAct call) position frames =
      heldRun (yieldAt call call.backend.aeadOpen) position frames := by
  refine heldRun_congr ?_ position frames
  intro _ _
  rfl

/-- What `open` keeps once it has consumed bytes from the start. -/
theorem openBuffers_of_returned
    {call : StreamCall}
    {consumed : Bytes}
    {sawAnyByte : Bool}
    (returned :
      (heldRun (yieldAt call call.backend.aeadOpen) 0
        (cut call.frameSize 1 consumed).1).outcome = .ok ()) :
    OpenBuffers call consumed
      (heldRun (yieldAt call call.backend.aeadOpen) 0
        (cut call.frameSize 1 consumed).1).log
      (openStateAt call 0 consumed sawAnyByte) := by
  have framePos : 0 < call.frameSize := by
    rw [StreamCall.frameSize]
    omega
  have count :
      (cut call.frameSize 1 consumed).1.length =
        (consumed.length - 1) / call.frameSize :=
    length_cut framePos consumed
  have parts := @length_cut_rest _ call.frameSize 1 consumed
  have short : (cut call.frameSize 1 consumed).2.length <
      call.frameSize + 1 :=
    cut_rest_lt framePos consumed
  have emittedCount := length_emitted_yields returned
  refine {
    chunks := ?_
    handsOn := handsOn_yields returned
    carry := ?_
    owed := ?_
    joined := ?_
    kept := Nat.le_of_lt_succ short }
  · rw [emittedCount, count]
    by_cases isEmpty : consumed.length = 0
    · rw [isEmpty, Nat.zero_sub, Nat.zero_div, Nat.zero_add,
        Nat.div_eq_of_lt (Nat.sub_lt framePos Nat.one_pos)]
    · have longer :
          consumed.length + call.frameSize - 1 =
            consumed.length - 1 + call.frameSize := by
        omega
      rw [longer, Nat.add_div_right _ framePos, Nat.succ_sub_one]
  · rw [emittedCount]
    show (cut call.frameSize 1 consumed).2.length = _
    omega
  · intro someConsumed
    have kept : 1 ≤ (cut call.frameSize 1 consumed).2.length :=
      slack_le_cut_rest (List.length_pos_iff.mpr someConsumed)
    exact ⟨kept, Nat.le_of_lt_succ short⟩
  · rw [inputs_yields returned]
    exact cut_join call.frameSize 1 consumed

/-- Consuming events either ends in a refused call or leaves what is described. -/
theorem openEvents_buffers
    {call : StreamCall}
    (bounded : call.Bounded)
    (consumed : List Bytes) :
    Refused (openEvents call openStart consumed).log ∨
      ∃ state,
        (openEvents call openStart consumed).outcome = .ok state ∧
          OpenBuffers call consumed.flatten
            (openEvents call openStart consumed).log state := by
  have run := openEvents_eq bounded 0 [] false (Nat.succ_pos _) consumed
  rw [List.nil_append, heldRun_openAct, Trace.bind_done_const] at run
  have shape :
      openEvents call openStart consumed =
        ⟨(heldRun (yieldAt call call.backend.aeadOpen) 0
            (cut call.frameSize 1 consumed.flatten).1).log,
          (heldRun (yieldAt call call.backend.aeadOpen) 0
            (cut call.frameSize 1 consumed.flatten).1).outcome.map
              fun _ =>
                openStateAt call 0 consumed.flatten
                  (false || !consumed.flatten.isEmpty)⟩ :=
    run
  rw [shape]
  cases ended :
      (heldRun (yieldAt call call.backend.aeadOpen) 0
        (cut call.frameSize 1 consumed.flatten).1).outcome with
  | error thrown =>
      exact .inl (refused_of_yields_error ended)
  | ok returned =>
      exact .inr ⟨_, rfl, openBuffers_of_returned ended⟩

/-- The events consumed so far come before the rest of a sealing. -/
theorem sealEvents_append
    (call : StreamCall)
    (state : SealState)
    (consumed rest : List Bytes) :
    sealEvents call state (consumed ++ rest) =
      sealEvents call state consumed >>= fun state =>
        sealEvents call state rest := by
  induction consumed generalizing state with
  | nil =>
      simp [sealEvents]
  | cons data later inductionHypothesis =>
      rw [List.cons_append, sealEvents, sealEvents]
      simp only [inductionHypothesis, Trace.bind_assoc]

/-- The events consumed so far come before the rest of an opening. -/
theorem openEvents_append
    (call : StreamCall)
    (state : OpenState)
    (consumed rest : List Bytes) :
    openEvents call state (consumed ++ rest) =
      openEvents call state consumed >>= fun state =>
        openEvents call state rest := by
  induction consumed generalizing state with
  | nil =>
      simp [openEvents]
  | cons data later inductionHypothesis =>
      rw [List.cons_append, openEvents, openEvents]
      simp only [inductionHypothesis, Trace.bind_assoc]

/--
What a `seal` of a longer source has done and keeps once it has consumed the
first events of it.
-/
structure SealsBuffered
    (call : StreamCall)
    (aad : Option Bytes)
    (consumed : List Bytes) : Prop where
  onTheWay :
    ∀ rest,
      «seal» call.backend (consumed ++ rest) call.key call.algorithm aad
          call.chunkSize =
        sealEvents call sealStart consumed >>= fun state =>
          sealEvents call state rest >>= sealFlush call
  buffers :
    Refused (sealEvents call sealStart consumed).log ∨
      ∃ state,
        (sealEvents call sealStart consumed).outcome = .ok state ∧
          SealBuffers call consumed.flatten
            (sealEvents call sealStart consumed).log state
  uncut :
    ∀ other : List Bytes,
      other.flatten = consumed.flatten →
      sealEvents call sealStart other =
        sealEvents call sealStart consumed

/--
What an `open` of a longer source has done and keeps once it has consumed the
first events of it.
-/
structure OpensBuffered
    (call : StreamCall)
    (aad : Option Bytes)
    (consumed : List Bytes) : Prop where
  onTheWay :
    ∀ rest,
      «open» call.backend (consumed ++ rest) call.key call.algorithm aad
          call.chunkSize =
        openEvents call openStart consumed >>= fun state =>
          openEvents call state rest >>= openFinal call
  buffers :
    Refused (openEvents call openStart consumed).log ∨
      ∃ state,
        (openEvents call openStart consumed).outcome = .ok state ∧
          OpenBuffers call consumed.flatten
            (openEvents call openStart consumed).log state
  uncut :
    ∀ other : List Bytes,
      other.flatten = consumed.flatten →
      openEvents call openStart other =
        openEvents call openStart consumed

/-- Whatever the cuts, `seal` emits and holds exactly what the bytes demand. -/
theorem seal_buffers
    (call : StreamCall)
    (aad : Option Bytes)
    (associated : aad.getD [] = call.ad)
    (consumed : List Bytes) :
    SealsBuffered call aad consumed where
  onTheWay := by
    intro rest
    rw [«seal», dif_pos call.positive, associated]
    show sealEvents call sealStart (consumed ++ rest) >>=
      sealFlush call = _
    rw [sealEvents_append, Trace.bind_assoc]
  buffers := sealEvents_buffers call consumed
  uncut := by
    intro other same
    have run := sealEvents_eq call 0 none [] call.size_pos
    exact (run other).trans (by rw [same]; exact (run consumed).symm)

/-- Whatever the cuts, `open` emits and holds exactly what the bytes demand. -/
theorem open_buffers
    {call : StreamCall}
    (bounded : call.Bounded)
    (aad : Option Bytes)
    (associated : aad.getD [] = call.ad)
    (consumed : List Bytes) :
    OpensBuffered call aad consumed where
  onTheWay := by
    intro rest
    rw [«open», dif_pos call.positive, associated]
    show openEvents call openStart (consumed ++ rest) >>=
      openFinal call = _
    rw [openEvents_append, Trace.bind_assoc]
  buffers := openEvents_buffers bounded consumed
  uncut := by
    intro other same
    have run := openEvents_eq bounded 0 [] false (Nat.succ_pos _)
    exact (run other).trans (by rw [same]; exact (run consumed).symm)

end PqForgeStream

/--
For every chunk size whose frames have an `int` size, both streams emit and
hold exactly what the bytes consumed so far demand, whatever their cuts.
-/
theorem stream_buffers_exactly
    (backend : PqForgeBackend)
    (key : Bytes)
    (algorithm : PqAeadAlgorithm)
    (aad : Option Bytes)
    {chunkSize : Int64}
    (positive : 0 < chunkSize.toInt)
    (bounded : chunkSize.toInt ≤ 2 ^ 63 - 17)
    (consumed : List Bytes) :
    let call : PqForgeStream.StreamCall :=
      { backend, key, algorithm, ad := aad.getD [], chunkSize, positive }
    PqForgeStream.SealsBuffered call aad consumed ∧
      PqForgeStream.OpensBuffered call aad consumed := by
  intro call
  have boundedCall : call.Bounded := bounded
  exact
    ⟨PqForgeStream.seal_buffers call aad rfl consumed,
      PqForgeStream.open_buffers boundedCall aad rfl consumed⟩

/-- Three bytes in two events, with chunks of two. -/
theorem stream_buffers_exactly_of_three :
    let call : PqForgeStream.StreamCall := {
      backend := taggedAead.backend
      key := List.replicate 32 7
      algorithm := .aes256Gcm
      ad := []
      chunkSize := 2
      positive := by decide }
    PqForgeStream.SealsBuffered call none [[1], [2, 3]] ∧
      PqForgeStream.OpensBuffered call none [[1], [2, 3]] :=
  stream_buffers_exactly taggedAead.backend (List.replicate 32 7)
    .aes256Gcm none (by decide) (by decide) [[1], [2, 3]]

end PqForgeFfi
