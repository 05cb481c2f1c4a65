import Mathlib.Data.List.Basic
import Mathlib.Data.List.Induction
import SessionHub.Proofs.Session.Observer
import SessionHub.Proofs.Session.Stage

/-!
# Ends of sessions that are told

To destroy a session removes its entry, whatever the multiplexer answers. The end is told to all
observers if there was an entry, which is so if the last that the observers heard of the session
was not its end. The end of a session that the multiplexer had before is told to nobody.
-/

namespace SessionHub

/-! ## What observers last heard -/

/-- The session that an event is about. -/
def Event.session? : Event → Option String
  | .sessionCreated session _ => some session
  | .sessionDestroyed session => some session
  | .status report => some report.sessionId
  | .notification _ _ => none

/-- The last event about a session announces it, and is not its end. -/
def IsAnnounced (session : String) (events : List Event) : Prop :=
  ∃ event, (events.filter (·.session? = some session)).getLast? = some event ∧
    event.announces session

section Announcement

variable {session : String}
variable {events : List Event}
variable {last : Event}

theorem isAnnounced_concat_of_about (about : last.session? = some session) :
    IsAnnounced session (events ++ [last]) ↔ last.announces session := by
  rw [IsAnnounced, List.filter_append, List.filter_singleton, decide_eq_true about, cond_true,
    List.getLast?_concat]
  exact ⟨fun ⟨_, same, announces⟩ => Option.some_inj.1 same ▸ announces,
    fun announces => ⟨last, rfl, announces⟩⟩

theorem isAnnounced_concat_of_other (other : last.session? ≠ some session) :
    IsAnnounced session (events ++ [last]) ↔ IsAnnounced session events := by
  rw [IsAnnounced, List.filter_append, List.filter_singleton, decide_eq_false other, cond_false,
    List.append_nil, IsAnnounced]

end Announcement

namespace Observer

variable {known : Table String Known}
variable {session : String}
variable {event : Event}

theorem get?_observe_of_about (about : event.session? = some session) :
    (observe known event).get? session ≠ none ↔ event.announces session := by
  cases event with
  | sessionCreated created directory =>
      cases about
      rw [observe, Table.get?_insert, if_pos rfl]
      exact iff_of_true (Option.some_ne_none _) rfl
  | sessionDestroyed ended =>
      cases about
      rw [observe, Table.get?_erase, if_pos rfl]
      exact iff_of_false (absurd rfl) id
  | status report =>
      cases about
      rw [observe, Table.get?_insert, if_pos rfl]
      exact iff_of_true (Option.some_ne_none _) rfl
  | notification scope payload => cases about

theorem get?_observe_of_other (other : event.session? ≠ some session) :
    (observe known event).get? session = known.get? session := by
  have differs : ∀ name, event.session? = some name → session ≠ name :=
    fun name about same => other (about.trans (congrArg some same.symm))
  cases event with
  | sessionCreated created directory =>
      rw [observe, Table.get?_insert, if_neg (differs created rfl)]
  | sessionDestroyed ended => rw [observe, Table.get?_erase, if_neg (differs ended rfl)]
  | status report => rw [observe, Table.get?_insert, if_neg (differs report.sessionId rfl)]
  | notification scope payload => rfl

/-- An observer that has followed all events knows of the sessions that were announced. -/
theorem get?_replay_ne_none_iff
    {events : List Event} :
    (replay .empty events).get? session ≠ none ↔ IsAnnounced session events := by
  -- The last event decides, so that the induction takes events from the end.
  induction events using List.reverseRecOn with
  | nil => simp [replay, IsAnnounced]
  | append_singleton earlier last inductionHypothesis =>
      rw [replay_append]
      change (observe (replay .empty earlier) last).get? session ≠ none ↔ _
      by_cases about : last.session? = some session
      · rw [get?_observe_of_about about, isAnnounced_concat_of_about about]
      · rw [get?_observe_of_other about, isAnnounced_concat_of_other about, inductionHypothesis]

end Observer

namespace SessionManager

variable (manager : SessionManager) {Runner : Type} (runner : CommandRunner Runner)

/-- The end of a session, which is told if the session has an entry. -/
def endIn (registry : StatusRegistry) (session : String) : List Event :=
  if (registry.get? session).isSome then [.sessionDestroyed session] else []

theorem endIn_of_ne_none
    {registry : StatusRegistry}
    {session : String}
    (present : registry.get? session ≠ none) :
    endIn registry session = [.sessionDestroyed session] :=
  if_pos (Option.isSome_iff_ne_none.2 present)

theorem endIn_of_none
    {registry : StatusRegistry}
    {session : String}
    (absent : registry.get? session = none) :
    endIn registry session = [] := by
  rw [endIn, absent]
  rfl

/-- A session was destroyed: one command was run, there is no entry, and its end was told if there
was an entry. -/
structure HasDestroyed (session : String) (before after : World Runner) : Prop where
  calls : after.calls = before.calls ++ [manager.call (killArguments session)]
  entry : after.registry.get? session = none
  others : ∀ other, other ≠ session → after.registry.get? other = before.registry.get? other
  published : after.published = before.published ++ endIn before.registry session
  hub : after.hub = before.hub.publishAll (endIn before.registry session)

/-- What the multiplexer answers does not matter. -/
theorem hasDestroyed_destroy (session : String) (before : World Runner) :
    manager.HasDestroyed session before ((manager.destroy session).run runner before).2 := by
  let killed := manager.afterCommand runner before (killArguments session)
  let removed : World Runner := { killed with registry := before.registry.remove session }
  have ran : (manager.destroy session).run runner before = _ :=
    manager.run_command_bind runner before (killArguments session) _
  have taken : (Job.perform (.remove session)).run runner killed =
      (before.registry.get? session, removed) := rfl
  have entry : removed.registry.get? session = none := by
    change (before.registry.remove session).get? session = none
    rw [StatusRegistry.get?_remove, if_pos rfl]
  have others : ∀ other, other ≠ session →
      removed.registry.get? other = before.registry.get? other := by
    intro other different
    change (before.registry.remove session).get? other = _
    rw [StatusRegistry.get?_remove, if_neg different]
  rw [ran, Job.bind_eq, Job.run_bind, taken]
  cases isEntry : before.registry.get? session with
  | none =>
      have silent := endIn_of_none isEntry
      refine ⟨rfl, entry, others, ?_, ?_⟩
      · rw [silent, List.append_nil]
        rfl
      · rw [silent]
        rfl
  | some known =>
      have told : endIn before.registry session = [.sessionDestroyed session] :=
        endIn_of_ne_none (by rw [isEntry]; nofun)
      refine ⟨rfl, entry, others, ?_, ?_⟩
      · rw [told]
        rfl
      · rw [told]
        rfl

/-- The sessions with entries are those that the feed has announced. -/
theorem get?_performAll_ne_none_iff
    (world : World Runner)
    (fallback : String)
    (operations : List SessionOperation)
    (session : String) :
    let start : World Runner := { world with registry := .empty fallback, published := [] }
    let last := ((manager.performAll operations).run runner start).2
    last.registry.get? session ≠ none ↔ IsAnnounced session last.published := by
  intro start last
  have followed := ((Observer.hasFollowed_of_empty world fallback).performAll manager runner
    operations).follows session
  exact (Observer.ne_none_iff_of_rel followed).symm.trans Observer.get?_replay_ne_none_iff

/-- A destruction tells the end of a session that has an entry, whatever the multiplexer answers,
and of no other. These sessions are the ones that the feed has announced, so that an observer who
knows of others, because the multiplexer has them, goes on to believe in them. -/
theorem destroy_tells_announced
    (manager : SessionManager)
    (runner : CommandRunner Runner)
    (session : String) :
    (∀ before : World Runner,
      manager.HasDestroyed session before ((manager.destroy session).run runner before).2) ∧
    ∀ (world : World Runner) (fallback : String) (operations : List SessionOperation),
      let start : World Runner := { world with registry := .empty fallback, published := [] }
      let last := ((manager.performAll operations).run runner start).2
      let told := endIn last.registry session
      (IsAnnounced session last.published → told = [.sessionDestroyed session]) ∧
      (¬IsAnnounced session last.published → told = []) ∧
      ∀ known : Table String Known,
        ((Observer.replay known told).get? session = none ↔
          IsAnnounced session last.published ∨ known.get? session = none) ∧
        ∀ other, other ≠ session →
          (Observer.replay known told).get? other = known.get? other := by
  refine ⟨manager.hasDestroyed_destroy runner session, ?_⟩
  intro world fallback operations start last told
  have entered : last.registry.get? session ≠ none ↔ IsAnnounced session last.published :=
    manager.get?_performAll_ne_none_iff runner world fallback operations session
  have heard (announced : IsAnnounced session last.published) :
      told = [.sessionDestroyed session] :=
    endIn_of_ne_none (entered.2 announced)
  have unheard (silent : ¬IsAnnounced session last.published) : told = [] :=
    endIn_of_none (not_not.1 (mt entered.1 silent))
  refine ⟨heard, unheard, fun known => ?_⟩
  by_cases announced : IsAnnounced session last.published
  · rw [heard announced, Observer.replay, List.foldl_cons, List.foldl_nil, Observer.observe]
    refine ⟨iff_of_true ?_ (.inl announced), fun other different => ?_⟩
    · rw [Table.get?_erase, if_pos rfl]
    · rw [Table.get?_erase, if_neg different]
  · rw [unheard announced]
    exact ⟨(or_iff_right announced).symm, fun _ _ => rfl⟩

/-- A world in which the multiplexer had a session from the beginning. -/
def restartedWorld : World (List ScriptedReply) where
  registry := .empty "/"
  hub := .empty
  runner := [.finished { stdout := "chat-orphan\t0\n" }, .finished {}]
  clock _ := 0
  words _ := 0

/-- A session that is listed, and that the multiplexer ends, may end without an event. -/
theorem listed_session_ends_unheard :
    let manager : SessionManager := ⟨{}⟩
    let listed := manager.list.run ScriptedReply.runner restartedWorld
    let after := ((manager.destroy "chat-orphan").run ScriptedReply.runner listed.2).2
    listed.1 = .ok [
      { sessionId := "chat-orphan", workingDirectory := "/", status := .idle, since := 0
        createdAt := some 0 }] ∧
      succeeded (manager.answer ScriptedReply.runner listed.2 (killArguments "chat-orphan")) ∧
      after.published = [] := by
  intro manager listed after
  have unnoticed := manager.isQuiet_list _ ScriptedReply.runner restartedWorld
  have unknown : listed.2.registry.get? "chat-orphan" = none := by
    rw [unnoticed.registry]
    rfl
  have unheard : listed.2.published = [] := unnoticed.published
  have destroyed := manager.hasDestroyed_destroy ScriptedReply.runner "chat-orphan" listed.2
  refine ⟨by decide +kernel, by decide +kernel, ?_⟩
  rw [destroyed.published, endIn_of_none unknown, unheard, List.append_nil]

end SessionManager
end SessionHub
