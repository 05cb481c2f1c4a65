import Mathlib.Data.List.Basic
import Mathlib.Data.List.Induction
import SessionHub.Client.Renderer

/-!
# Resets of the terminal

A reset is due after a rendering, and until the next disposal. A disposal for which a reset is due
writes it and succeeds, or is refused by the sink and fails; in both cases no reset is due any
more. So what was rendered is followed by a reset when a disposal succeeds, unless the last reset
that was due was refused and nothing has been rendered since.
-/

namespace SessionHub
namespace Client
namespace Renderer

/-! ## Calls -/

/-- What is asked of a renderer. -/
inductive Call
  | render (data : List UInt8)
  | notice (text : String)
  | dispose
deriving DecidableEq, Repr

/-- Whether the call that was made succeeds, and the renderer and the sink after it. -/
def perform (renderer : Renderer) (sink : Sink) : Call → Bool × Renderer × Sink
  | .render data => renderer.render sink data
  | .notice text => renderer.notice sink text
  | .dispose => renderer.dispose sink

/-- The bytes that a call is about to write. -/
def bytesOf (renderer : Renderer) : Call → List UInt8
  | .render data => data
  | .notice text => noticeBytes text
  | .dispose => if renderer.dirty then resetSequence else []

/-- The renderer after a call, whether or not the sink takes the bytes. -/
def next (renderer : Renderer) : Call → Renderer
  | .render _ => ⟨true⟩
  | .notice _ => renderer
  | .dispose => ⟨false⟩

/-- A call succeeds if the sink takes its bytes, and leaves nothing behind otherwise. -/
theorem perform_eq
    (renderer : Renderer)
    (sink : Sink)
    (call : Call) :
    renderer.perform sink call =
      ((sink.write (renderer.bytesOf call)).1, renderer.next call,
        (sink.write (renderer.bytesOf call)).2) := by
  cases call with
  | render data => rfl
  | notice text => rfl
  | dispose =>
      obtain ⟨dirty⟩ := renderer
      cases dirty with
      | true => rfl
      | false =>
          have nothing : sink.write [] = (true, sink) := by
            rw [Sink.write, List.append_nil]
            exact if_pos rfl
          change (true, _, sink) = ((sink.write []).1, _, (sink.write []).2)
          rw [nothing]
          rfl

/-! ## Runs -/

/-- A call, and how much the sink can hold when it is made. -/
structure Turn where
  call : Call
  limit : Option Nat
deriving DecidableEq, Repr

/-- A rendering of bytes of the remote terminal. -/
def Turn.IsRendering (turn : Turn) : Prop :=
  ∃ data, turn.call = .render data

/-- A renderer with its sink, which keeps all bytes that it has taken. -/
structure Display where
  renderer : Renderer := {}
  sink : Sink := {}
deriving DecidableEq, Repr

namespace Display

variable (display : Display) (turn : Turn)

/-- What comes of a turn. -/
def outcome : Bool × Renderer × Sink :=
  display.renderer.perform { display.sink with limit := turn.limit } turn.call

/-- The call succeeds. -/
def Succeeds : Prop :=
  (display.outcome turn).1 = true

instance : Decidable (display.Succeeds turn) :=
  inferInstanceAs (Decidable (_ = true))

/-- The renderer and the sink after a turn. -/
def step : Display :=
  ⟨(display.outcome turn).2.1, (display.outcome turn).2.2⟩

/-- The renderer and the sink after several turns. -/
def run (display : Display) (turns : List Turn) : Display :=
  turns.foldl step display

/-- The sink can take bytes in a turn. -/
def HasRoom (data : List UInt8) : Prop :=
  { display.sink with limit := turn.limit }.hasRoom data = true

instance (data : List UInt8) : Decidable (display.HasRoom turn data) :=
  inferInstanceAs (Decidable (_ = true))

/-- The bytes that the sink takes in a turn. -/
def written : List UInt8 :=
  if display.Succeeds turn then display.renderer.bytesOf turn.call else []

/-- The bytes that the sink takes in several turns. -/
def writtenIn (display : Display) : List Turn → List UInt8
  | [] => []
  | turn :: rest => display.written turn ++ writtenIn (display.step turn) rest

theorem succeeds_iff :
    display.Succeeds turn ↔ display.HasRoom turn (display.renderer.bytesOf turn.call) := by
  rw [Succeeds, outcome, perform_eq, Sink.write, HasRoom]
  split
  · next room => exact iff_of_true rfl room
  · next full => exact iff_of_false nofun full

@[simp] theorem renderer_step :
    (display.step turn).renderer = display.renderer.next turn.call := by
  rw [step, outcome, perform_eq]

/-- The sink keeps what it has taken. -/
theorem pending_step :
    (display.step turn).sink.pending = display.sink.pending ++ display.written turn := by
  rw [step, outcome, perform_eq, Sink.write]
  by_cases room : display.HasRoom turn (display.renderer.bytesOf turn.call)
  · rw [written, if_pos ((display.succeeds_iff turn).2 room)]
    rw [HasRoom] at room
    rw [if_pos room]
  · rw [written, if_neg (mt (display.succeeds_iff turn).1 room), List.append_nil]
    rw [HasRoom] at room
    rw [if_neg room]

@[simp] theorem run_nil : display.run [] = display := rfl

@[simp] theorem run_cons (rest : List Turn) :
    display.run (turn :: rest) = (display.step turn).run rest := rfl

@[simp] theorem run_append (first second : List Turn) :
    display.run (first ++ second) = (display.run first).run second :=
  List.foldl_append

theorem run_concat (turns : List Turn) :
    display.run (turns ++ [turn]) = (display.run turns).step turn :=
  display.run_append turns [turn]

@[simp] theorem writtenIn_nil : display.writtenIn [] = [] := rfl

@[simp] theorem writtenIn_cons (rest : List Turn) :
    display.writtenIn (turn :: rest) =
      display.written turn ++ (display.step turn).writtenIn rest := rfl

theorem writtenIn_append (first second : List Turn) :
    display.writtenIn (first ++ second) =
      display.writtenIn first ++ (display.run first).writtenIn second := by
  induction first generalizing display with
  | nil => rfl
  | cons turn rest inductionHypothesis =>
      rw [List.cons_append, writtenIn_cons, writtenIn_cons, inductionHypothesis, run_cons,
        List.append_assoc]

theorem pending_run (turns : List Turn) :
    (display.run turns).sink.pending = display.sink.pending ++ display.writtenIn turns := by
  induction turns generalizing display with
  | nil => exact (List.append_nil _).symm
  | cons turn rest inductionHypothesis =>
      rw [run_cons, inductionHypothesis, pending_step, writtenIn_cons, List.append_assoc]

/-- The renderer and the sink after some turns, from the beginning. -/
def after (turns : List Turn) : Display :=
  run {} turns

theorem after_concat (turns : List Turn) (turn : Turn) :
    after (turns ++ [turn]) = (after turns).step turn :=
  run_concat {} turn turns

end Display

open Display (after)

/-! ## Resets that are due -/

/-- A reset is due: there is a rendering with no disposal after it. -/
def IsDue (turns : List Turn) : Prop :=
  ∃ before rendering rest, turns = before ++ rendering :: rest ∧
    rendering.IsRendering ∧ ∀ turn ∈ rest, turn.call ≠ .dispose

theorem isDue_concat {turns : List Turn} {turn : Turn} :
    IsDue (turns ++ [turn]) ↔ turn.IsRendering ∨ turn.call ≠ .dispose ∧ IsDue turns := by
  constructor
  · rintro ⟨before, rendering, rest, same, isRendering, undisposed⟩
    rcases List.eq_nil_or_concat' rest with rfl | ⟨others, last, rfl⟩
    · obtain ⟨rfl, isLast⟩ := List.append_inj' same rfl
      cases isLast
      exact .inl isRendering
    · rw [← List.cons_append, ← List.append_assoc] at same
      obtain ⟨rfl, isLast⟩ := List.append_inj' same rfl
      cases isLast
      obtain ⟨othersUndisposed, lastUndisposed⟩ := List.forall_mem_append.1 undisposed
      refine .inr ⟨lastUndisposed turn (List.mem_singleton_self turn), before, rendering, others,
        rfl, isRendering, othersUndisposed⟩
  · rintro (isRendering | ⟨undisposed, before, rendering, rest, rfl, isRendering, others⟩)
    · exact ⟨turns, turn, [], rfl, isRendering, List.forall_mem_nil _⟩
    · refine ⟨before, rendering, rest ++ [turn], by simp, isRendering, ?_⟩
      exact List.forall_mem_append.2 ⟨others, List.forall_mem_singleton.2 undisposed⟩

/-- The renderer knows whether a reset is due. -/
theorem dirty_after_iff {turns : List Turn} :
    (after turns).renderer.dirty = true ↔ IsDue turns := by
  induction turns using List.reverseRecOn with
  | nil =>
      refine iff_of_false nofun ?_
      rintro ⟨before, rendering, rest, same, _⟩
      cases before <;> cases same
  | append_singleton turns turn inductionHypothesis =>
      rw [Display.after_concat, Display.renderer_step, isDue_concat, ← inductionHypothesis]
      cases isCall : turn.call with
      | render data => exact iff_of_true rfl (.inl ⟨data, isCall⟩)
      | notice text => simp [next, Turn.IsRendering, isCall]
      | dispose => simp [next, Turn.IsRendering, isCall]

section Due

variable {turns : List Turn} {limit : Option Nat}

theorem bytesOf_dispose_of_due (due : IsDue turns) :
    (after turns).renderer.bytesOf .dispose = resetSequence :=
  if_pos (dirty_after_iff.2 due)

theorem bytesOf_dispose_of_not_due (undue : ¬IsDue turns) :
    (after turns).renderer.bytesOf .dispose = [] :=
  if_neg (mt dirty_after_iff.1 undue)

/-- A reset that is due is written if the sink takes it, and the disposal tells whether it did. -/
theorem succeeds_dispose_iff_of_due (due : IsDue turns) :
    (after turns).Succeeds ⟨.dispose, limit⟩ ↔
      (after turns).HasRoom ⟨.dispose, limit⟩ resetSequence := by
  rw [Display.succeeds_iff, bytesOf_dispose_of_due due]

theorem written_dispose_of_due (due : IsDue turns) :
    (after turns).written ⟨.dispose, limit⟩ =
      if (after turns).Succeeds ⟨.dispose, limit⟩ then resetSequence else [] := by
  rw [Display.written, bytesOf_dispose_of_due due]

/-- Without a reset that is due a disposal has nothing to do. -/
theorem succeeds_dispose_of_not_due (undue : ¬IsDue turns) :
    (after turns).Succeeds ⟨.dispose, limit⟩ := by
  rw [Display.succeeds_iff, bytesOf_dispose_of_not_due undue]
  rfl

theorem written_dispose_of_not_due (undue : ¬IsDue turns) :
    (after turns).written ⟨.dispose, limit⟩ = [] := by
  rw [Display.written, bytesOf_dispose_of_not_due undue, ite_self]

/-- No reset is due after a disposal, even if it has failed, until something is rendered. -/
theorem not_isDue_of_disposed
    {before rest : List Turn}
    (undisturbed : ∀ turn ∈ rest, ¬turn.IsRendering) :
    ¬IsDue (before ++ ⟨.dispose, limit⟩ :: rest) := by
  induction rest using List.reverseRecOn with
  | nil =>
      rw [isDue_concat]
      rintro (⟨data, isRendering⟩ | ⟨undisposed, _⟩)
      · cases isRendering
      · exact undisposed rfl
  | append_singleton rest turn inductionHypothesis =>
      obtain ⟨others, last⟩ := List.forall_mem_append.1 undisturbed
      rw [← List.cons_append, ← List.append_assoc, isDue_concat]
      rintro (isRendering | ⟨_, due⟩)
      · exact List.forall_mem_singleton.1 last isRendering
      · exact inductionHypothesis others due

end Due

/-! ## Resets that were refused -/

/-- The last reset that was due was refused by the sink, and nothing has been rendered since. -/
def HasGivenUp (turns : List Turn) : Prop :=
  ∃ before limit rest, turns = before ++ ⟨.dispose, limit⟩ :: rest ∧
    ¬(after before).Succeeds ⟨.dispose, limit⟩ ∧ ∀ turn ∈ rest, ¬turn.IsRendering

theorem HasGivenUp.concat
    {turns : List Turn}
    {turn : Turn}
    (givenUp : HasGivenUp turns)
    (undisturbed : ¬turn.IsRendering) :
    HasGivenUp (turns ++ [turn]) := by
  obtain ⟨before, limit, rest, rfl, refused, others⟩ := givenUp
  refine ⟨before, limit, rest ++ [turn], by simp, refused, ?_⟩
  exact List.forall_mem_append.2 ⟨others, List.forall_mem_singleton.2 undisturbed⟩

/-- Once a reset is due it stays so until it is written or refused, and it is due again when
something is rendered after it was refused. -/
theorem due_or_written_or_givenUp
    {before : List Turn}
    (due : IsDue before)
    (rest : List Turn) :
    IsDue (before ++ rest) ∨ resetSequence <:+: (after before).writtenIn rest ∨
      HasGivenUp (before ++ rest) := by
  -- A disposal settles what is due before it, so that turns are added at the end.
  induction rest using List.reverseRecOn with
  | nil => exact .inl ((List.append_nil before).symm ▸ due)
  | append_singleton rest turn inductionHypothesis =>
      have isLast : (after before).run rest = after (before ++ rest) :=
        (Display.run_append {} before rest).symm
      rw [← List.append_assoc, isDue_concat, Display.writtenIn_append, isLast,
        Display.writtenIn_cons, Display.writtenIn_nil, List.append_nil]
      rcases inductionHypothesis with due | written | givenUp
      · by_cases disposal : turn.call = .dispose
        · obtain ⟨call, limit⟩ := turn
          cases disposal
          by_cases success : (after (before ++ rest)).Succeeds ⟨.dispose, limit⟩
          · rw [written_dispose_of_due due, if_pos success]
            exact .inr (.inl (List.suffix_append _ _).isInfix)
          · exact .inr (.inr ⟨before ++ rest, limit, [], rfl, success, List.forall_mem_nil _⟩)
        · exact .inl (.inr ⟨disposal, due⟩)
      · exact .inr (.inl (written.trans (List.prefix_append _ _).isInfix))
      · by_cases isRendering : turn.IsRendering
        · exact .inl (.inl isRendering)
        · exact .inr (.inr (givenUp.concat isRendering))

/-- What was rendered is followed by a reset as soon as a disposal succeeds, unless the last reset
that was due was refused and nothing has been rendered since. -/
theorem reset_follows_rendering
    {before rest : List Turn}
    {rendering : Turn}
    {limit : Option Nat}
    (isRendering : rendering.IsRendering)
    (success : (after (before ++ rendering :: rest)).Succeeds ⟨.dispose, limit⟩) :
    resetSequence <:+:
        (after (before ++ [rendering])).writtenIn (rest ++ [⟨.dispose, limit⟩]) ∨
      HasGivenUp (before ++ rendering :: rest) := by
  have rendered : IsDue (before ++ [rendering]) := isDue_concat.2 (.inl isRendering)
  have joined : before ++ rendering :: rest = before ++ [rendering] ++ rest := by simp
  have isLast : (after (before ++ [rendering])).run rest = after (before ++ rendering :: rest) := by
    rw [joined]
    exact (Display.run_append {} _ rest).symm
  rw [Display.writtenIn_append, isLast, Display.writtenIn_cons, Display.writtenIn_nil,
    List.append_nil]
  rcases due_or_written_or_givenUp rendered rest with due | written | givenUp
  · rw [← joined] at due
    rw [written_dispose_of_due due, if_pos success]
    exact .inl (List.suffix_append _ _).isInfix
  · exact .inl (written.trans (List.prefix_append _ _).isInfix)
  · exact .inr (joined ▸ givenUp)

/-- What a disposal does after any turns, whatever the sink can hold in each of them. It writes a
reset exactly if one is due and the sink takes it, and fails exactly if the sink refuses it. Between
two resets that are written there is a rendering. When it succeeds, a complete reset stands in the
sink after whatever was rendered, unless the last reset that was due was refused and nothing has
been rendered since; in that case nothing is written. -/
theorem disposals_reset_unless_refused (turns : List Turn) (limit : Option Nat) :
    let display := after turns
    let disposal : Turn := ⟨.dispose, limit⟩
    (IsDue turns →
      (display.Succeeds disposal ↔ display.HasRoom disposal resetSequence) ∧
      display.written disposal = if display.Succeeds disposal then resetSequence else []) ∧
    (¬IsDue turns → display.Succeeds disposal ∧ display.written disposal = []) ∧
    (∀ before earlier rest, turns = before ++ ⟨.dispose, earlier⟩ :: rest →
      (∀ turn ∈ rest, ¬turn.IsRendering) → display.written disposal = []) ∧
    (display.Succeeds disposal → ∀ before rendering rest, turns = before ++ rendering :: rest →
      rendering.IsRendering → ∃ later,
        (display.step disposal).sink.pending =
          (after (before ++ [rendering])).sink.pending ++ later ∧
        (resetSequence <:+: later ∨ HasGivenUp turns)) ∧
    (HasGivenUp turns → display.Succeeds disposal ∧ display.written disposal = []) := by
  intro display disposal
  refine ⟨fun due => ⟨succeeds_dispose_iff_of_due due, written_dispose_of_due due⟩,
    fun undue => ⟨succeeds_dispose_of_not_due undue, written_dispose_of_not_due undue⟩, ?_, ?_, ?_⟩
  · rintro before earlier rest rfl undisturbed
    exact written_dispose_of_not_due (not_isDue_of_disposed undisturbed)
  · rintro success before rendering rest rfl isRendering
    refine ⟨_, ?_, reset_follows_rendering isRendering success⟩
    have last : display.step disposal =
        (after (before ++ [rendering])).run (rest ++ [disposal]) := by
      change (after (before ++ rendering :: rest)).step disposal = _
      rw [← Display.after_concat, after, after, ← Display.run_append]
      simp
    rw [last, Display.pending_run]
  · rintro ⟨before, earlier, rest, rfl, _, undisturbed⟩
    have undue : ¬IsDue (before ++ ⟨.dispose, earlier⟩ :: rest) :=
      not_isDue_of_disposed undisturbed
    exact ⟨succeeds_dispose_of_not_due undue, written_dispose_of_not_due undue⟩

/-- A byte is rendered, the reset finds no room, and the next disposal succeeds without one. -/
theorem refused_reset_forgotten :
    let rendered : List Turn := [⟨.render [0x78], some 5⟩]
    let disposal : Turn := ⟨.dispose, some 5⟩
    let turns := rendered ++ [disposal]
    (after []).written ⟨.render [0x78], some 5⟩ = [0x78] ∧
      ¬(after rendered).Succeeds disposal ∧
      (after turns).Succeeds disposal ∧
      ((after turns).step disposal).sink.pending = (after rendered).sink.pending ++ [] ∧
      ¬resetSequence <:+: [] := by
  decide +kernel

/-- Another rendering makes up for a reset that was refused. -/
example :
    (after [⟨.render [0x78], none⟩, ⟨.dispose, some 5⟩, ⟨.render [], none⟩,
      ⟨.dispose, none⟩]).sink.pending = 0x78 :: resetSequence := by
  decide +kernel

end Renderer
end Client
end SessionHub
