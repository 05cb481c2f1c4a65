import Mathlib.Data.List.TakeWhile
import SessionHub.Client.Keyboard
import SessionHub.Proofs.Client.Generation

/-!
# Keystrokes

However the reads of the keyboard cut what is typed, the events that they cause are pieces of input
followed by one detachment, and the pieces are together what was typed before the escape byte. The
controller sends the pieces that find it connected, in order, and no other bytes.
-/

namespace SessionHub
namespace Client

/-! ## Reads -/

namespace KeyRead

/-- The end of the input. A read without bytes is one. -/
def isEnd : KeyRead → Bool
  | .bytes data => data.isEmpty
  | .ended | .failed => true

/-- The bytes that a read brings. -/
def data : KeyRead → List UInt8
  | .bytes data => data
  | .ended | .failed => []

end KeyRead

/-- The bytes that reads bring up to the end of the input. -/
def typed (reads : List KeyRead) : List UInt8 :=
  (reads.takeWhile (!·.isEnd)).flatMap KeyRead.data

/-- The bytes that stand before the escape byte, which are all if there is none. -/
def beforeEscape (bytes : List UInt8) : List UInt8 :=
  bytes.takeWhile (· ≠ escapeByte)

/-- The escape byte was typed, or the input has come to its end. -/
def HasLeft (reads : List KeyRead) : Prop :=
  escapeByte ∈ typed reads ∨ ∃ read ∈ reads, read.isEnd = true

instance (reads : List KeyRead) : Decidable (HasLeft reads) :=
  inferInstanceAs (Decidable (_ ∨ _))

section Typed

variable {read : KeyRead}
variable {data : List UInt8}
variable (rest : List KeyRead)

theorem typed_cons_of_isEnd (isEnd : read.isEnd = true) : typed (read :: rest) = [] := by
  rw [typed, List.takeWhile_cons_of_neg (by simp [isEnd]), List.flatMap_nil]

theorem typed_cons_of_ne_nil (nonempty : data ≠ []) :
    typed (.bytes data :: rest) = data ++ typed rest := by
  rw [typed, List.takeWhile_cons_of_pos (by simp [KeyRead.isEnd, nonempty]), List.flatMap_cons]
  rfl

/-- What is typed is told by the bytes of a stream, and not by the cuts between its chunks. -/
theorem typed_chunks
    {chunks : List (List UInt8)}
    (nonempty : ∀ chunk ∈ chunks, chunk ≠ [])
    (isEnd : read.isEnd = true) :
    typed (chunks.map .bytes ++ read :: rest) = chunks.flatten := by
  induction chunks with
  | nil => exact typed_cons_of_isEnd rest isEnd
  | cons chunk others inductionHypothesis =>
      obtain ⟨first, others⟩ := List.forall_mem_cons.1 nonempty
      rw [List.map_cons, List.cons_append, typed_cons_of_ne_nil _ first,
        inductionHypothesis others, List.flatten_cons]

theorem hasLeft_cons_of_isEnd (isEnd : read.isEnd = true) : HasLeft (read :: rest) :=
  .inr ⟨read, List.mem_cons_self, isEnd⟩

theorem hasLeft_cons_iff (nonempty : data ≠ []) :
    HasLeft (.bytes data :: rest) ↔ escapeByte ∈ data ∨ HasLeft rest := by
  have notEnd : ¬(KeyRead.bytes data).isEnd = true := by simp [KeyRead.isEnd, nonempty]
  simp [HasLeft, typed_cons_of_ne_nil rest nonempty, notEnd, or_assoc]

theorem beforeEscape_cons_of_ne
    {byte : UInt8}
    (differs : byte ≠ escapeByte)
    (bytes : List UInt8) :
    beforeEscape (byte :: bytes) = byte :: beforeEscape bytes :=
  List.takeWhile_cons_of_pos (decide_eq_true differs)

@[simp] theorem beforeEscape_escape (bytes : List UInt8) :
    beforeEscape (escapeByte :: bytes) = [] :=
  List.takeWhile_cons_of_neg (by simp)

theorem beforeEscape_append_of_mem
    (escapes : escapeByte ∈ data)
    (bytes : List UInt8) :
    beforeEscape (data ++ bytes) = beforeEscape data := by
  induction data with
  | nil => cases escapes
  | cons byte others inductionHypothesis =>
      rw [List.cons_append]
      by_cases isEscape : byte = escapeByte
      · rw [isEscape, beforeEscape_escape, beforeEscape_escape]
      · have later : escapeByte ∈ others := List.mem_of_ne_of_mem (Ne.symm isEscape) escapes
        rw [beforeEscape_cons_of_ne isEscape, beforeEscape_cons_of_ne isEscape,
          inductionHypothesis later]

theorem beforeEscape_append_of_not_mem
    (plain : escapeByte ∉ data)
    (bytes : List UInt8) :
    beforeEscape (data ++ bytes) = data ++ beforeEscape bytes := by
  apply List.takeWhile_append_of_pos
  intro byte isByte
  exact decide_eq_true fun isEscape => plain (isEscape ▸ isByte)

theorem not_mem_beforeEscape (bytes : List UInt8) : escapeByte ∉ beforeEscape bytes := by
  intro escapes
  have differs := List.mem_takeWhile_imp escapes
  simp at differs

end Typed

/-- Reads are gone through up to the first that ends the input or holds the escape byte. -/
@[elab_as_elim]
theorem reads_induction
    {motive : List KeyRead → Prop}
    (nothing : motive [])
    (ended : ∀ read rest, read.isEnd = true → motive (read :: rest))
    (escaped : ∀ data rest, escapeByte ∈ data → motive (.bytes data :: rest))
    (plain : ∀ data rest, data ≠ [] → escapeByte ∉ data → motive rest →
      motive (.bytes data :: rest))
    (reads : List KeyRead) :
    motive reads := by
  induction reads with
  | nil => exact nothing
  | cons read rest inductionHypothesis =>
      by_cases isEnd : read.isEnd = true
      · exact ended read rest isEnd
      · cases read with
        | bytes data =>
            have nonempty : data ≠ [] := mt List.isEmpty_iff.2 isEnd
            by_cases escapes : escapeByte ∈ data
            · exact escaped data rest escapes
            · exact plain data rest nonempty escapes inductionHypothesis
        | ended | failed => exact absurd rfl isEnd

/-! ## Events -/

/-- The bytes of an event that tells what was typed. -/
def Event.input? : Event → Option (List UInt8)
  | .input data => some data
  | _ => none

/-- An event of the keyboard. -/
def Event.isKey : Event → Bool
  | .input _ | .detach => true
  | _ => false

/-- What events tell of what was typed, in order. -/
def inputs (events : List Event) : List (List UInt8) :=
  events.filterMap Event.input?

theorem keyEvents_of_isEnd
    {read : KeyRead}
    (isEnd : read.isEnd = true)
    (rest : List KeyRead) :
    keyEvents (read :: rest) = [.detach] := by
  cases read with
  | bytes data =>
      rw [keyEvents]
      exact if_pos isEnd
  | ended | failed => rfl

theorem keyEvents_of_mem
    {data : List UInt8}
    (escapes : escapeByte ∈ data)
    (rest : List KeyRead) :
    keyEvents (.bytes data :: rest) = typedEvents (beforeEscape data) ++ [.detach] := by
  have nonempty : ¬data.isEmpty = true := by
    rw [List.isEmpty_iff]
    exact List.ne_nil_of_mem escapes
  rw [keyEvents, if_neg nonempty, if_pos (List.contains_iff_mem.2 escapes), beforeEscape]

theorem keyEvents_of_not_mem
    {data : List UInt8}
    (nonempty : data ≠ [])
    (plain : escapeByte ∉ data)
    (rest : List KeyRead) :
    keyEvents (.bytes data :: rest) = .input data :: keyEvents rest := by
  rw [keyEvents, if_neg (mt List.isEmpty_iff.1 nonempty),
    if_neg (mt List.contains_iff_mem.1 plain)]

@[simp] theorem inputs_nil : inputs [] = [] := rfl

@[simp] theorem inputs_append (first second : List Event) :
    inputs (first ++ second) = inputs first ++ inputs second :=
  List.filterMap_append

/-- The events of the keyboard are pieces of input, none of them empty, with one detachment after
them when the escape byte was typed or the input has ended. -/
structure IsTold (reads : List KeyRead) (pieces : List (List UInt8)) : Prop where
  events : keyEvents reads = pieces.map .input ++ if HasLeft reads then [.detach] else []
  nonempty : ∀ piece ∈ pieces, piece ≠ []
  bytes : pieces.flatten = beforeEscape (typed reads)

theorem isTold_of_isEnd
    {read : KeyRead}
    (isEnd : read.isEnd = true)
    (rest : List KeyRead) :
    IsTold (read :: rest) [] where
  events := by
    rw [keyEvents_of_isEnd isEnd, if_pos (hasLeft_cons_of_isEnd rest isEnd)]
    rfl
  nonempty := nofun
  bytes := by
    rw [typed_cons_of_isEnd rest isEnd]
    rfl

/-- Of the read in which the escape byte stands what comes before it is told, if anything does. -/
theorem isTold_of_mem
    {data : List UInt8}
    (escapes : escapeByte ∈ data)
    (rest : List KeyRead) :
    IsTold (.bytes data :: rest) ([beforeEscape data].filter (!·.isEmpty)) := by
  have nonempty : data ≠ [] := List.ne_nil_of_mem escapes
  refine ⟨?_, ?_, ?_⟩
  · rw [keyEvents_of_mem escapes, if_pos ((hasLeft_cons_iff rest nonempty).2 (.inl escapes))]
    congr 1
    cases beforeEscape data <;> rfl
  · intro piece isPiece
    simpa using (List.mem_filter.1 isPiece).2
  · rw [typed_cons_of_ne_nil rest nonempty, beforeEscape_append_of_mem escapes]
    cases beforeEscape data with
    | nil => rfl
    | cons byte others => exact List.append_nil _

theorem isTold_of_not_mem
    {data : List UInt8}
    {rest : List KeyRead}
    {pieces : List (List UInt8)}
    (nonempty : data ≠ [])
    (plain : escapeByte ∉ data)
    (told : IsTold rest pieces) :
    IsTold (.bytes data :: rest) (data :: pieces) where
  events := by
    have left_iff : HasLeft (.bytes data :: rest) ↔ HasLeft rest := by
      rw [hasLeft_cons_iff rest nonempty, or_iff_right plain]
    rw [keyEvents_of_not_mem nonempty plain, told.events, if_congr left_iff rfl rfl]
    rfl
  nonempty := List.forall_mem_cons.2 ⟨nonempty, told.nonempty⟩
  bytes := by
    rw [typed_cons_of_ne_nil rest nonempty, beforeEscape_append_of_not_mem plain,
      List.flatten_cons, told.bytes]

theorem exists_isTold (reads : List KeyRead) : ∃ pieces, IsTold reads pieces := by
  induction reads using reads_induction with
  | nothing => exact ⟨[], rfl, nofun, rfl⟩
  | ended read rest isEnd => exact ⟨[], isTold_of_isEnd isEnd rest⟩
  | escaped data rest escapes => exact ⟨_, isTold_of_mem escapes rest⟩
  | plain data rest nonempty plain inductionHypothesis =>
      obtain ⟨pieces, told⟩ := inductionHypothesis
      exact ⟨data :: pieces, isTold_of_not_mem nonempty plain told⟩

/-- Nothing that is typed later is told. -/
theorem keyEvents_append
    {reads : List KeyRead}
    (left : HasLeft reads)
    (more : List KeyRead) :
    keyEvents (reads ++ more) = keyEvents reads := by
  induction reads using reads_induction with
  | nothing => rcases left with escapes | ⟨read, isRead, _⟩ <;> contradiction
  | ended read rest isEnd =>
      rw [List.cons_append, keyEvents_of_isEnd isEnd, keyEvents_of_isEnd isEnd]
  | escaped data rest escapes =>
      rw [List.cons_append, keyEvents_of_mem escapes, keyEvents_of_mem escapes]
  | plain data rest nonempty plain inductionHypothesis =>
      have later : HasLeft rest := ((hasLeft_cons_iff rest nonempty).1 left).resolve_left plain
      rw [List.cons_append, keyEvents_of_not_mem nonempty plain,
        keyEvents_of_not_mem nonempty plain, inductionHypothesis later]

theorem inputs_map_input (pieces : List (List UInt8)) : inputs (pieces.map .input) = pieces := by
  induction pieces with
  | nil => rfl
  | cons piece rest inductionHypothesis => exact congrArg (piece :: ·) inductionHypothesis

theorem IsTold.inputs_eq
    {reads : List KeyRead}
    {pieces : List (List UInt8)}
    (told : IsTold reads pieces) :
    inputs (keyEvents reads) = pieces := by
  have silent : inputs (if HasLeft reads then [.detach] else []) = [] := by split <;> rfl
  rw [told.events, inputs_append, inputs_map_input, silent, List.append_nil]

theorem inputs_filter_isKey (events : List Event) :
    inputs (events.filter (·.isKey)) = inputs events := by
  rw [inputs, List.filterMap_filter, inputs]
  congr 1
  funext event
  cases event <;> rfl

/-! ## What is sent -/

/-- The bytes that an action sends as typed. -/
def Action.input? : Action → Option (List UInt8)
  | .sendInput data => some data
  | _ => none

/-- What actions send as typed, in order. -/
def sentInputs (actions : List Action) : List (List UInt8) :=
  actions.filterMap Action.input?

@[simp] theorem sentInputs_nil : sentInputs [] = [] := rfl

@[simp] theorem sentInputs_append (first second : List Action) :
    sentInputs (first ++ second) = sentInputs first ++ sentInputs second :=
  List.filterMap_append

@[simp] theorem sentInputs_release (phase : Phase) :
    sentInputs (Controller.release phase) = [] := by
  cases phase <;> rfl

namespace Controller

/-- What was typed is sent if it finds a connection that is open, and nothing else is. -/
theorem Reaction.sentInputs_eq
    {controller next : Controller}
    {event : Event}
    {actions : List Action}
    (reaction : Reaction controller event actions next) :
    sentInputs actions = if controller.phase = .connected then event.input?.toList else [] := by
  cases reaction with
  | switchTo | rejected =>
      rw [sentInputs_append, sentInputs_release]
      exact (ite_self _).symm
  | detach =>
      rw [sentInputs_release]
      exact (ite_self _).symm
  | opened | closed | connectFailed | timerFired | output => exact (ite_self _).symm
  | viewport | input => split <;> rfl
  | ignored refused =>
      cases event with
      | input data => exact absurd trivial refused
      | _ => exact (ite_self _).symm

/-- Everything that is typed finds a connection that is open. -/
def TakesInputs (controller : Controller) (events : List Event) : Prop :=
  ∀ front data rest, events = front ++ .input data :: rest →
    (controller.after front).phase = .connected

theorem takesInputs_nil {controller : Controller} : controller.TakesInputs [] := by
  intro front data rest same
  cases front <;> cases same

theorem takesInputs_cons_iff
    {controller : Controller}
    {event : Event}
    {rest : List Event} :
    controller.TakesInputs (event :: rest) ↔
      (event.input?.isSome → controller.phase = .connected) ∧
        (controller.handle event).2.TakesInputs rest := by
  constructor
  · intro takes
    refine ⟨fun isInput => ?_, fun front data others same => ?_⟩
    · cases event with
      | input data => exact takes [] data rest rfl
      | _ => cases isInput
    · exact takes (event :: front) data others (congrArg (event :: ·) same)
  · rintro ⟨first, later⟩ (_ | ⟨_, front⟩) data others same
    · cases same
      exact first rfl
    · cases same
      exact later front data others rfl

instance decidableTakesInputs :
    (controller : Controller) → (events : List Event) → Decidable (controller.TakesInputs events)
  | _, [] => isTrue takesInputs_nil
  | controller, event :: rest =>
    have := decidableTakesInputs (controller.handle event).2 rest
    decidable_of_iff _ takesInputs_cons_iff.symm

/-- Only what was typed is sent, in order. -/
theorem sentInputs_sublist
    (controller : Controller)
    (events : List Event) :
    (sentInputs (controller.actionsOf events)).Sublist (inputs events) := by
  induction events generalizing controller with
  | nil => exact .refl _
  | cons event rest inductionHypothesis =>
      have first : (sentInputs (controller.handle event).1).Sublist event.input?.toList := by
        rw [(controller.handle_reaction event).sentInputs_eq]
        split
        · exact .refl _
        · exact List.nil_sublist _
      have whole : inputs (event :: rest) = event.input?.toList ++ inputs rest := by
        cases event <;> rfl
      rw [actionsOf_cons, sentInputs_append, whole]
      exact first.append (inductionHypothesis _)

/-- All that was typed is sent if it finds the controller connected. -/
theorem sentInputs_eq
    {controller : Controller}
    {events : List Event}
    (takes : controller.TakesInputs events) :
    sentInputs (controller.actionsOf events) = inputs events := by
  induction events generalizing controller with
  | nil => rfl
  | cons event rest inductionHypothesis =>
      obtain ⟨first, others⟩ := takesInputs_cons_iff.1 takes
      rw [actionsOf_cons, sentInputs_append, inductionHypothesis others,
        (controller.handle_reaction event).sentInputs_eq]
      cases event with
      | input data =>
          rw [if_pos (first rfl)]
          rfl
      | _ => split <;> rfl

end Controller

/-! ## The law of keystrokes -/

/-- What is typed is told in pieces, none of them empty, and then once that it has come to its end.
The pieces are together the bytes before the escape byte, whatever the cuts between the reads, and
nothing is told after the end. Of these pieces the controller sends those that find a connection
that is open, so that nothing from the escape byte on is ever sent, and all bytes before it are if
the connection stays open. -/
theorem keystrokes_sent_up_to_escape (reads : List KeyRead) :
    let pieces := inputs (keyEvents reads)
    keyEvents reads = pieces.map .input ++ (if HasLeft reads then [.detach] else []) ∧
    (∀ piece ∈ pieces, piece ≠ []) ∧
    pieces.flatten = beforeEscape (typed reads) ∧
    (HasLeft reads → ∀ more, keyEvents (reads ++ more) = keyEvents reads) ∧
    (∀ (chunks : List (List UInt8)) (read : KeyRead) (rest : List KeyRead),
      (∀ chunk ∈ chunks, chunk ≠ []) → read.isEnd = true →
      reads = chunks.map .bytes ++ read :: rest →
      keyEvents reads = pieces.map .input ++ [.detach] ∧
        pieces.flatten = beforeEscape chunks.flatten) ∧
    ∀ (controller : Controller) (events : List Event),
      let sent := sentInputs (controller.actionsOf events)
      (events.filter (·.isKey) <+: keyEvents reads →
        sent.Sublist pieces ∧ escapeByte ∉ sent.flatten) ∧
      (events.filter (·.isKey) = keyEvents reads → controller.TakesInputs events →
        sent.flatten = beforeEscape (typed reads)) := by
  intro pieces
  obtain ⟨others, told⟩ := exists_isTold reads
  obtain rfl : pieces = others := told.inputs_eq
  refine ⟨told.events, told.nonempty, told.bytes, keyEvents_append, ?_, ?_⟩
  · rintro chunks read rest nonempty isEnd rfl
    have left : HasLeft (chunks.map .bytes ++ read :: rest) := .inr ⟨read, by simp, isEnd⟩
    refine ⟨?_, ?_⟩
    · have events := told.events
      rwa [if_pos left] at events
    · rw [told.bytes, typed_chunks rest nonempty isEnd]
  · intro controller events sent
    refine ⟨fun isFront => ?_, fun isWhole takes => ?_⟩
    · have among : (inputs events).Sublist pieces := by
        rw [← inputs_filter_isKey]
        exact isFront.sublist.filterMap _
      have sentAmong : sent.Sublist pieces := (controller.sentInputs_sublist events).trans among
      refine ⟨sentAmong, fun escapes => ?_⟩
      obtain ⟨piece, isSent, escapes⟩ := List.mem_flatten.1 escapes
      have escapesAmong : escapeByte ∈ pieces.flatten :=
        List.mem_flatten.2 ⟨piece, sentAmong.subset isSent, escapes⟩
      rw [told.bytes] at escapesAmong
      exact not_mem_beforeEscape _ escapesAmong
    · have whole : inputs events = pieces := by rw [← inputs_filter_isKey, isWhole]
      have isSent : sent = inputs events := Controller.sentInputs_eq takes
      rw [isSent, whole, told.bytes]

/-- The escape byte stands in the middle of the second of three reads, and the window is resized
in between. -/
theorem keystrokes_sent_before_escape :
    let chunks : List (List UInt8) := [[0x6C], [0x73, 0x1D, 0x72, 0x1D], [0x6D]]
    let reads := chunks.map .bytes ++ [.ended]
    let controller := Controller.start (.ofBounds 500 10000) ⟨80, 24⟩
    let events : List Event :=
      [.switchTo "chat-a", .opened 2, .input [0x6C], .viewport ⟨100, 40⟩, .input [0x73], .detach]
    (∀ chunk ∈ chunks, chunk ≠ []) ∧ HasLeft reads ∧
      events.filter (·.isKey) = keyEvents reads ∧ controller.TakesInputs events ∧
      keyEvents reads = [.input [0x6C], .input [0x73], .detach] ∧
      keyEvents (reads ++ [.bytes [0x6E]]) = keyEvents reads ∧
      (sentInputs (controller.actionsOf events)).flatten = [0x6C, 0x73] := by
  intro chunks reads controller events
  have nonempty : ∀ chunk ∈ chunks, chunk ≠ [] := by decide
  have left : HasLeft reads := by decide
  have areKeys : events.filter (·.isKey) = keyEvents reads := by decide
  have takes : controller.TakesInputs events := by decide
  obtain ⟨told, -, -, silent, -, sends⟩ := keystrokes_sent_up_to_escape reads
  refine ⟨nonempty, left, areKeys, takes, told, silent left _, ?_⟩
  exact (sends controller events).2 areKeys takes

end Client
end SessionHub
