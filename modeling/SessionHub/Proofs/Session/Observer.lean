import SessionHub.Proofs.Session.Subscriber
import SessionHub.Proofs.Wire.Event

/-!
# Observers of the feed

An observer that starts without sessions and follows the published events knows what the
registry holds, whatever is asked of the session manager and whatever the commands
answer. What it cannot know is at what time a session was created. The events come to it
as texts, which are those of all that was published if its connection has room for them,
and from which it reads the events.
-/

namespace SessionHub

/-- What an observer knows of a session: where it was created, or the entry that was
reported last. -/
inductive Known
  | created (directory : String)
  | reported (entry : StatusEntry)

/-- An entry is the one that an observer knows of. -/
def Known.Describes : Known → StatusEntry → Prop
  | .created directory, entry =>
      ∃ since, entry = StatusRegistry.freshEntry directory since
  | .reported report, entry => entry = report

/-- Whether an event tells an observer that there is a session. -/
def Event.announces (session : String) : Event → Prop
  | .sessionCreated created _ => created = session
  | .status report => report.sessionId = session
  | .sessionDestroyed _ | .notification _ _ => False

namespace Observer

/-- What an observer knows after an event. -/
def observe (known : Table String Known) : Event → Table String Known
  | .sessionCreated session directory => known.insert session (.created directory)
  | .status report => known.insert report.sessionId (.reported report.entry)
  | .sessionDestroyed session => known.erase session
  | .notification _ _ => known

/-- What an observer knows after several events. -/
def replay (known : Table String Known) (events : List Event) : Table String Known :=
  events.foldl observe known

theorem replay_append
    (known : Table String Known)
    (first second : List Event) :
    replay known (first ++ second) = replay (replay known first) second :=
  List.foldl_append

/-- An observer knows what the registry holds. -/
def Follows (known : Table String Known) (registry : StatusRegistry) : Prop :=
  ∀ session, Option.Rel Known.Describes (known.get? session) (registry.get? session)

/-- Each end among the events is that of a session of which the observer knows. -/
def EndsKnown : Table String Known → List Event → Prop
  | _, [] => True
  | known, event :: rest =>
      (∀ session, event = .sessionDestroyed session → known.get? session ≠ none) ∧
        EndsKnown (observe known event) rest

theorem endsKnown_append
    {known : Table String Known}
    {first second : List Event} :
    EndsKnown known (first ++ second) ↔
      EndsKnown known first ∧ EndsKnown (replay known first) second := by
  induction first generalizing known with
  | nil => simp [EndsKnown, replay]
  | cons event rest inductionHypothesis =>
      rw [List.cons_append, EndsKnown, EndsKnown, inductionHypothesis, and_assoc]
      rfl

section Change

variable {known : Table String Known}
variable {registry changed : StatusRegistry}
variable {events : List Event}

theorem ne_none_iff_of_rel
    {relation : Known → StatusEntry → Prop}
    {mine : Option Known}
    {theirs : Option StatusEntry}
    (related : Option.Rel relation mine theirs) :
    mine ≠ none ↔ theirs ≠ none := by
  cases related with
  | some described => exact iff_of_true nofun nofun
  | none => exact iff_of_false (absurd rfl) (absurd rfl)

/-- An observer that hears of a change knows what the registry then holds. -/
theorem Follows.change
    (follows : Follows known registry)
    (change : Change registry events changed) :
    Follows (replay known events) changed := by
  intro other
  cases change with
  | quiet => exact follows other
  | created session directory now =>
      rw [replay, List.foldl_cons, List.foldl_nil, observe, Table.get?_insert,
        StatusRegistry.get?_init]
      split
      · exact .some ⟨now, rfl⟩
      · exact follows other
  | updated update now =>
      rw [replay, List.foldl_cons, List.foldl_nil, observe, Table.get?_insert,
        StatusRegistry.get?_applyUpdate]
      split
      · exact .some rfl
      · exact follows other
  | destroyed session present =>
      rw [replay, List.foldl_cons, List.foldl_nil, observe, Table.get?_erase,
        StatusRegistry.get?_remove]
      split
      · exact .none
      · exact follows other
  | missing session absent =>
      rw [replay, List.foldl_nil, StatusRegistry.get?_remove]
      split
      · next same =>
        have related := follows other
        rw [same, absent] at related
        rw [same]
        exact related
      · exact follows other

/-- An end is only reported of a session of which the observer knows. -/
theorem Follows.endsKnown
    (follows : Follows known registry)
    (change : Change registry events changed) :
    EndsKnown known events := by
  cases change with
  | quiet | missing => trivial
  | created | updated =>
      refine ⟨?_, trivial⟩
      intro session isEnd
      cases isEnd
  | destroyed session present =>
      refine ⟨?_, trivial⟩
      intro ended isEnd
      cases isEnd
      exact (ne_none_iff_of_rel (follows session)).2 present

/-- No notification reports a change. -/
theorem payload?_eq_none_of_change
    (change : Change registry events changed) :
    ∀ event ∈ events, event.payload? = none := by
  cases change with
  | quiet | missing => exact List.forall_mem_nil _
  | created | updated | destroyed => exact List.forall_mem_singleton.2 rfl

end Change

/-- Of a session that an observer comes to know, one of the events has told it. -/
theorem exists_announcement
    {known : Table String Known}
    {session : String}
    {events : List Event}
    (absent : known.get? session = none)
    (present : (replay known events).get? session ≠ none) :
    ∃ event ∈ events, event.announces session := by
  induction events generalizing known with
  | nil => exact absurd absent present
  | cons event rest inductionHypothesis =>
      by_cases announced : event.announces session
      · exact ⟨event, List.mem_cons_self, announced⟩
      · have stillAbsent : (observe known event).get? session = none := by
          cases event with
          | sessionCreated created directory =>
              rw [observe, Table.get?_insert, if_neg (Ne.symm announced), absent]
          | status report =>
              rw [observe, Table.get?_insert, if_neg (Ne.symm announced), absent]
          | sessionDestroyed ended =>
              rw [observe, Table.get?_erase, absent, ite_self]
          | notification scope payload => exact absent
        obtain ⟨later, member, announces⟩ := inductionHypothesis stillAbsent present
        exact ⟨later, List.mem_cons_of_mem event member, announces⟩

/-- Between two ends of a session it was announced. -/
theorem EndsKnown.exists_between
    {known : Table String Known}
    {session : String}
    {before between after : List Event}
    (ends : EndsKnown known
      (before ++ .sessionDestroyed session :: between ++ .sessionDestroyed session :: after)) :
    ∃ event ∈ between, event.announces session := by
  rw [endsKnown_append, EndsKnown] at ends
  obtain ⟨_, present, _⟩ := ends
  -- The first end makes the observer forget the session, yet it knows of it at the second.
  rw [replay_append] at present
  have known_again :
      (replay (observe (replay known before) (.sessionDestroyed session)) between).get? session
        ≠ none :=
    present session rfl
  apply exists_announcement _ known_again
  rw [observe, Table.get?_erase, if_pos rfl]

/-! ## Runs -/

/-- An observer has followed all that was published. -/
structure HasFollowed {Runner : Type} (hub : Broadcast.Hub) (world : World Runner) : Prop where
  follows : Follows (replay .empty world.published) world.registry
  ends : EndsKnown .empty world.published
  plain : ∀ event ∈ world.published, event.payload? = none
  hub : world.hub = hub.publishAll world.published

/-- An observer without sessions has followed what was not published of a registry without
entries. -/
theorem hasFollowed_of_empty
    {Runner : Type}
    (world : World Runner)
    (fallback : String) :
    HasFollowed world.hub { world with registry := .empty fallback, published := [] } where
  follows _ := .none
  ends := trivial
  plain := List.forall_mem_nil _
  hub := rfl

variable {Runner : Type} {hub : Broadcast.Hub} {before after : World Runner}

theorem HasFollowed.reported
    {events : List Event}
    (followed : HasFollowed hub before)
    (reported : before.Reported after events) :
    HasFollowed hub after where
  follows := by
    rw [reported.published, replay_append]
    exact followed.follows.change reported.change
  ends := by
    rw [reported.published, endsKnown_append]
    exact ⟨followed.ends, followed.follows.endsKnown reported.change⟩
  plain := by
    rw [reported.published]
    exact List.forall_mem_append.2 ⟨followed.plain, payload?_eq_none_of_change reported.change⟩
  hub := by
    rw [reported.hub, reported.published, followed.hub, Broadcast.Hub.publishAll_append]

theorem HasFollowed.performAll
    (manager : SessionManager)
    (runner : CommandRunner Runner)
    (operations : List SessionOperation)
    (followed : HasFollowed hub before) :
    HasFollowed hub ((manager.performAll operations).run runner before).2 := by
  induction operations generalizing before with
  | nil => exact followed
  | cons operation rest inductionHypothesis =>
      rw [SessionManager.performAll, Job.bind_eq, Job.run_bind]
      obtain ⟨events, reported⟩ := manager.isReported_perform operation Runner runner before
      exact inductionHypothesis (followed.reported reported)

/-- What is published comes as texts, in order, to every subscriber with room for it, and its
events are read back from these texts. They tell an observer what the registry holds, and no end
of a session twice. -/
theorem feed_follows_registry
    (manager : SessionManager)
    (runner : CommandRunner Runner)
    (world : World Runner)
    (fallback : String)
    (operations : List SessionOperation) :
    let start : World Runner := { world with registry := .empty fallback, published := [] }
    let last := ((manager.performAll operations).run runner start).2
    last.hub = world.hub.publishAll last.published ∧
      (world.hub.IsSound → ∀ id queue,
        world.hub.IsSubscribed id queue last.published.length →
        last.hub.waiting id = queue ++ last.published.map Event.text) ∧
      (∀ event ∈ last.published, Event.read (.ofText event.text.toList) = .ok event) ∧
      (∀ session, Option.Rel Known.Describes
        ((replay .empty last.published).get? session) (last.registry.get? session)) ∧
      ∀ session before between after,
        last.published =
          before ++ .sessionDestroyed session :: between ++ .sessionDestroyed session :: after →
        ∃ event ∈ between, event.announces session := by
  intro start last
  have followed : HasFollowed world.hub last :=
    (hasFollowed_of_empty world fallback).performAll manager runner operations
  refine ⟨followed.hub, ?_, fun event told => Event.read_text (followed.plain event told),
    followed.follows, ?_⟩
  · intro sound id queue subscribed
    rw [followed.hub]
    exact subscribed.waiting_publishAll sound
  · intro session before between after split
    have ends := followed.ends
    rw [split] at ends
    exact ends.exists_between

/-- A world with one feed, in which commands succeed. -/
def watchedWorld : World (List ScriptedReply) where
  registry := .empty "/"
  hub := (Broadcast.Hub.empty.openFeed none).2
  runner := []
  clock _ := 0
  words _ := 0

/-- A session is created, is done, and is destroyed twice. -/
def lifetime : List SessionOperation :=
  [.create (some "chat-a") "/w", .updateStatus ⟨"chat-a", .done, none, none, some 0⟩,
    .destroy "chat-a", .destroy "chat-a"]

/-- The feed of a whole lifetime, which tells of the end once. -/
theorem feed_follows_lifetime :
    let start : World (List ScriptedReply) :=
      { watchedWorld with registry := .empty "/", published := [] }
    let last := ((SessionManager.performAll ⟨{}⟩ lifetime).run ScriptedReply.runner start).2
    let told : List Event :=
      [.sessionCreated "chat-a" "/w",
        .status ⟨"chat-a", .done, "/w", none, none, some 0, 0⟩, .sessionDestroyed "chat-a"]
    watchedWorld.hub.IsSound ∧ watchedWorld.hub.IsSubscribed 1 [] last.published.length ∧
      last.published = told ∧ last.hub.waiting 1 = told.map Event.text := by
  intro start last told
  have isTold : last.published = told := rfl
  have sound : watchedWorld.hub.IsSound := Broadcast.Hub.isSound_empty.openFeed none
  have opened : watchedWorld.hub.IsSubscribed 1 [] Broadcast.Connection.defaultCapacity :=
    Broadcast.Hub.isSound_empty.isSubscribed_openFeed none
  have subscribed : watchedWorld.hub.IsSubscribed 1 [] last.published.length := by
    rw [isTold]
    exact opened.mono (by decide)
  refine ⟨sound, subscribed, isTold, ?_⟩
  have received := (feed_follows_registry ⟨{}⟩ ScriptedReply.runner watchedWorld "/" lifetime).2.1
    sound 1 [] subscribed
  exact received.trans (congrArg (List.map Event.text) isTold)

end Observer
end SessionHub
