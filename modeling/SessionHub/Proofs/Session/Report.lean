import SessionHub.Proofs.Session.Crowd
import SessionHub.Proofs.Session.Subscriber

/-!
# Reports of concurrent updates

An update is stored in one action and reported in a later one. Every update that is stored
is reported once, and the entry of a session is the one that was stored last. The reports of
a session are published in the order in which its updates were stored, unless one update of
the session is stored while the report of another has yet to be published.
-/

namespace SessionHub

open Broadcast (ConnectionId Hub)

variable {Runner : Type} {runner : CommandRunner Runner}

/-! ## What is stored -/

namespace Crowd

/-- The report of the update that is stored in a turn, if one is. -/
def storedAt (crowd : Crowd Runner) (index : Nat) : List StatusEvent :=
  match crowd.action? index with
  | some (.applyUpdate update) =>
      [⟨update.sessionId, crowd.world.registry.updatedEntry update crowd.world.now⟩]
  | _ => []

/-- The reports of the updates that are stored, in this order. -/
def stored (runner : CommandRunner Runner) : Crowd Runner → List Nat → List StatusEvent
  | _, [] => []
  | crowd, index :: rest => crowd.storedAt index ++ stored runner (crowd.turn runner index) rest

/-- An update of a session is stored while the report of another has yet to be published. -/
def OverlapsAt (session : String) (crowd : Crowd Runner) (index : Nat) : Prop :=
  (∃ update, crowd.action? index = some (.applyUpdate update) ∧ update.sessionId = session) ∧
    crowd.IsAbout fun action =>
      ∃ report : StatusEvent, action = .publish (.status report) ∧ report.sessionId = session

end Crowd

/-- The reports of one session. -/
def reportsOf (session : String) (reports : List StatusEvent) : List StatusEvent :=
  reports.filter (·.sessionId = session)

/-- The entry of which the last report of a session tells. -/
def lastTold? (session : String) (reports : List StatusEvent) : Option StatusEntry :=
  (reportsOf session reports).getLast?.map StatusEvent.entry

theorem reportsOf_append
    (session : String)
    (first second : List StatusEvent) :
    reportsOf session (first ++ second) = reportsOf session first ++ reportsOf session second :=
  List.filter_append ..

theorem reportsOf_singleton
    (session : String)
    (report : StatusEvent) :
    reportsOf session [report] = if report.sessionId = session then [report] else [] := by
  unfold reportsOf
  rw [List.filter_singleton]
  simp

theorem lastTold?_concat
    (session : String)
    (reports : List StatusEvent)
    (report : StatusEvent) :
    lastTold? session (reports ++ [report]) =
      if report.sessionId = session then some report.entry else lastTold? session reports := by
  unfold lastTold?
  rw [reportsOf_append, reportsOf_singleton]
  split
  · rw [List.getLast?_concat, Option.map_some]
  · rw [List.append_nil]

/-! ## Stages of updates -/

namespace Stage

/-- The stages of an update. -/
inductive IsUpdate : Stage → Prop
  | checking (update : StatusUpdate) : IsUpdate (.checking update)
  | applying (update : StatusUpdate) : IsUpdate (.applying update)
  | telling (report : StatusEvent) : IsUpdate (.telling report)
  | finished : IsUpdate .finished

/-- The report that has yet to be published. -/
def pending? : Stage → Option StatusEvent
  | .telling report => some report
  | _ => none

/-- The reports that several requests have yet to publish. -/
def pending (stages : List Stage) : List StatusEvent :=
  stages.filterMap pending?

theorem pending_append
    (before after : List Stage)
    (stage : Stage) :
    pending (before ++ stage :: after) =
      pending before ++ (stage.pending?.toList ++ pending after) := by
  unfold pending
  rw [List.filterMap_append, List.filterMap_cons]
  cases stage.pending? <;> rfl

/-- What an update does at a stage: nothing that is noticed, or it is stored, or it is
reported. -/
inductive Progress (manager : SessionManager) (runner : CommandRunner Runner)
    (world : World Runner) : Stage → Prop
  | quiet {stage : Stage} :
      (∀ update, stage.action? manager ≠ some (.applyUpdate update)) →
      stage.pending? = none → (stage.next manager runner world).pending? = none →
      world.Unnoticed (stage.effect manager runner world) → Progress manager runner world stage
  | stores (update : StatusUpdate) : Progress manager runner world (.applying update)
  | tells (report : StatusEvent) : Progress manager runner world (.telling report)

variable {manager : SessionManager} {world : World Runner} {stage : Stage}

theorem IsUpdate.next
    (isUpdate : stage.IsUpdate)
    (manager : SessionManager)
    (runner : CommandRunner Runner)
    (world : World Runner) :
    (stage.next manager runner world).IsUpdate := by
  cases isUpdate with
  | checking update =>
      rw [Stage.next]
      split
      · exact .applying update
      · exact .finished
  | applying update => exact .telling _
  | telling report => exact .finished
  | finished => exact .finished

theorem IsUpdate.progress
    (isUpdate : stage.IsUpdate)
    (manager : SessionManager)
    (runner : CommandRunner Runner)
    (world : World Runner) :
    Progress manager runner world stage := by
  cases isUpdate with
  | checking update =>
      refine .quiet (fun _ => by simp [Stage.action?]) rfl ?_ ⟨rfl, rfl, rfl⟩
      rw [Stage.next]
      split <;> rfl
  | applying update => exact .stores update
  | telling report => exact .tells report
  | finished => exact .quiet (fun _ => by simp [Stage.action?]) rfl rfl (.refl world)

end Stage

/-! ## The tally of reports -/

/-- The reports of a session have been published in the order in which its updates were stored,
and at most one has yet to be published. -/
structure InOrder (session : String) (reports pending stored : List StatusEvent) : Prop where
  same : reportsOf session reports ++ reportsOf session pending = reportsOf session stored
  single : (reportsOf session pending).length ≤ 1

theorem inOrder_iff
    {session : String}
    {reports pending stored : List StatusEvent} :
    InOrder session reports pending stored ↔
      reportsOf session reports ++ reportsOf session pending = reportsOf session stored ∧
        (reportsOf session pending).length ≤ 1 :=
  ⟨fun inOrder => ⟨inOrder.same, inOrder.single⟩, fun parts => ⟨parts.1, parts.2⟩⟩

namespace InOrder

variable {session : String} {reports before after stored : List StatusEvent} {report : StatusEvent}

/-- A report may be added to those that are pending if it is the only one of its session. -/
theorem stores
    (inOrder : InOrder session reports (before ++ after) stored)
    (alone : report.sessionId = session → reportsOf session (before ++ after) = []) :
    InOrder session reports (before ++ report :: after) (stored ++ [report]) := by
  obtain ⟨same, single⟩ := inOrder
  rw [inOrder_iff, List.append_cons before report after]
  simp only [reportsOf_append, reportsOf_singleton, List.append_eq_nil_iff] at same single alone ⊢
  split
  · next isSession =>
    obtain ⟨noBefore, noAfter⟩ := alone isSession
    rw [noBefore, noAfter] at same ⊢
    refine ⟨?_, Nat.le_refl 1⟩
    rw [← same]
    simp
  · refine ⟨?_, ?_⟩
    · rw [← same]
      simp
    · rwa [List.append_nil]

/-- The report that is published was the only one of its session that was pending. -/
theorem tells
    (inOrder : InOrder session reports (before ++ report :: after) stored) :
    InOrder session (reports ++ [report]) (before ++ after) stored := by
  obtain ⟨same, single⟩ := inOrder
  rw [inOrder_iff]
  rw [List.append_cons before report after] at same single
  simp only [reportsOf_append, reportsOf_singleton] at same single ⊢
  split at same
  · next isSession =>
    rw [if_pos isSession] at single ⊢
    simp only [List.length_append, List.length_singleton] at single
    have noBefore : reportsOf session before = [] := List.eq_nil_of_length_eq_zero (by omega)
    have noAfter : reportsOf session after = [] := List.eq_nil_of_length_eq_zero (by omega)
    rw [noBefore, noAfter] at same ⊢
    exact ⟨by simpa using same, Nat.zero_le 1⟩
  · next isOther =>
    rw [if_neg isOther] at single ⊢
    rw [List.append_nil] at same single ⊢
    exact ⟨same, single⟩

end InOrder

/-- What was stored since the beginning and what was reported of it, while requests are at
certain stages. Sessions with overlapping updates may be out of order. -/
structure Tally (begin : World Runner) (overlapping : String → Prop)
    (stored reports : List StatusEvent) (world : World Runner) (stages : List Stage) : Prop where
  updates : ∀ stage ∈ stages, stage.IsUpdate
  published : world.published = begin.published ++ reports.map .status
  hub : world.hub = begin.hub.publishAll (reports.map .status)
  once : (reports ++ Stage.pending stages).Perm stored
  entries : ∀ session,
    world.registry.get? session = (lastTold? session stored).or (begin.registry.get? session)
  ordered : ∀ session, overlapping session ∨ InOrder session reports (Stage.pending stages) stored

namespace Tally

variable {begin world : World Runner} {overlapping : String → Prop}
variable {stored reports : List StatusEvent} {before after : List Stage} {stage : Stage}

theorem mono
    {stages : List Stage}
    {more : String → Prop}
    (tally : Tally begin overlapping stored reports world stages)
    (wider : ∀ session, overlapping session → more session) :
    Tally begin more stored reports world stages :=
  { tally with ordered := fun session => (tally.ordered session).imp_left (wider session) }

/-- The stages of updates after one of them has gone on. -/
theorem updates_next
    (tally : Tally begin overlapping stored reports world (before ++ stage :: after))
    (manager : SessionManager)
    (runner : CommandRunner Runner) :
    ∀ other ∈ before ++ stage.next manager runner world :: after, other.IsUpdate := by
  have updates := tally.updates
  simp only [List.forall_mem_append, List.forall_mem_cons] at updates ⊢
  exact ⟨updates.1, updates.2.1.next manager runner world, updates.2.2⟩

/-- What nobody notices is not counted. -/
theorem quiet
    (tally : Tally begin overlapping stored reports world (before ++ stage :: after))
    {next : Stage}
    (updates : ∀ other ∈ before ++ next :: after, other.IsUpdate)
    (silent : stage.pending? = none)
    (silentNext : next.pending? = none)
    {later : World Runner}
    (unnoticed : world.Unnoticed later) :
    Tally begin overlapping stored reports later (before ++ next :: after) := by
  have samePending : Stage.pending (before ++ next :: after) =
      Stage.pending (before ++ stage :: after) := by
    rw [Stage.pending_append, Stage.pending_append, silent, silentNext]
  exact
    { updates := updates
      published := unnoticed.published.trans tally.published
      hub := unnoticed.hub.trans tally.hub
      once := samePending ▸ tally.once
      entries := fun session => by rw [unnoticed.registry, tally.entries session]
      ordered := fun session => samePending ▸ tally.ordered session }

/-- An update that is stored has yet to be reported. -/
theorem stores
    {update : StatusUpdate}
    (tally : Tally begin overlapping stored reports world (before ++ .applying update :: after))
    (alone : overlapping update.sessionId ∨
      reportsOf update.sessionId (Stage.pending (before ++ .applying update :: after)) = []) :
    let report : StatusEvent :=
      ⟨update.sessionId, world.registry.updatedEntry update world.now⟩
    Tally begin overlapping (stored ++ [report]) reports
      { world with
        registry := world.registry.applyUpdate update world.now
        looks := world.looks + 1 }
      (before ++ .telling report :: after) := by
  intro report
  have pendingBefore : Stage.pending (before ++ .applying update :: after) =
      Stage.pending before ++ Stage.pending after := Stage.pending_append ..
  have pendingAfter : Stage.pending (before ++ .telling report :: after) =
      Stage.pending before ++ report :: Stage.pending after := Stage.pending_append ..
  rw [pendingBefore] at alone
  have once := tally.once
  rw [pendingBefore] at once
  refine
    { updates := ?_, published := tally.published, hub := tally.hub, once := ?_, entries := ?_,
      ordered := ?_ }
  · have updates := tally.updates
    simp only [List.forall_mem_append, List.forall_mem_cons] at updates ⊢
    exact ⟨updates.1, .telling report, updates.2.2⟩
  · rw [pendingAfter, ← List.append_assoc]
    refine List.perm_middle.trans
      (List.Perm.trans ?_ (List.perm_append_singleton report stored).symm)
    rw [List.append_assoc]
    exact once.cons report
  · intro session
    rw [lastTold?_concat, StatusRegistry.get?_applyUpdate, tally.entries session]
    by_cases same : session = update.sessionId
    · rw [if_pos same, if_pos same.symm, Option.some_or]
    · rw [if_neg same, if_neg (Ne.symm same)]
  · intro session
    have ordered := tally.ordered session
    rw [pendingBefore] at ordered
    rw [pendingAfter]
    rcases ordered, alone with ⟨overlaps | inOrder, overlapsHere | nothing⟩
    · exact .inl overlaps
    · exact .inl overlaps
    · by_cases same : update.sessionId = session
      · exact .inl (same ▸ overlapsHere)
      · exact .inr (inOrder.stores fun isSession => absurd isSession same)
    · exact .inr (inOrder.stores fun isSession => isSession ▸ nothing)

/-- A report that is published is no longer waiting. -/
theorem tells
    {report : StatusEvent}
    (tally : Tally begin overlapping stored reports world (before ++ .telling report :: after)) :
    Tally begin overlapping stored (reports ++ [report])
      { world with
        hub := (world.hub.publish (.status report)).2
        published := world.published ++ [.status report] }
      (before ++ .finished :: after) := by
  have pendingBefore : Stage.pending (before ++ .telling report :: after) =
      Stage.pending before ++ report :: Stage.pending after := Stage.pending_append ..
  have pendingAfter : Stage.pending (before ++ .finished :: after) =
      Stage.pending before ++ Stage.pending after := Stage.pending_append ..
  have once := tally.once
  have ordered := tally.ordered
  have updates := tally.updates
  rw [pendingBefore] at once
  simp only [pendingBefore] at ordered
  simp only [List.forall_mem_append, List.forall_mem_cons] at updates
  refine
    { updates := ?_, published := ?_, hub := ?_, once := ?_, entries := tally.entries,
      ordered := ?_ }
  · simp only [List.forall_mem_append, List.forall_mem_cons]
    exact ⟨updates.1, .finished, updates.2.2⟩
  · dsimp only
    rw [tally.published, List.map_append, List.append_assoc]
    rfl
  · dsimp only
    rw [tally.hub, List.map_append, Hub.publishAll_append]
    rfl
  · have moved : (report :: (Stage.pending before ++ Stage.pending after)).Perm
        (Stage.pending before ++ report :: Stage.pending after) := List.perm_middle.symm
    rw [pendingAfter, List.append_assoc]
    exact (moved.append_left reports).trans once
  · rw [pendingAfter]
    exact fun session => (ordered session).imp_right InOrder.tells

end Tally

/-! ## Turns -/

theorem Stage.exists_telling_of_pending
    {session : String}
    {stages : List Stage}
    (waiting : reportsOf session (pending stages) ≠ []) :
    ∃ report, .telling report ∈ stages ∧ report.sessionId = session := by
  obtain ⟨report, listed⟩ := List.exists_mem_of_ne_nil _ waiting
  obtain ⟨isPending, isSession⟩ := List.mem_filter.1 listed
  obtain ⟨stage, isStage, found⟩ := List.mem_filterMap.1 isPending
  cases stage with
  | telling other =>
      cases found
      exact ⟨report, isStage, of_decide_eq_true isSession⟩
  | _ => cases found

namespace Crowd

variable {manager : SessionManager} {world : World Runner} {before after : List Stage}
variable {stage : Stage}

theorem storedAt_eq_nil
    {crowd : Crowd Runner}
    {index : Nat}
    (storesNothing : ∀ update, crowd.action? index ≠ some (.applyUpdate update)) :
    crowd.storedAt index = [] := by
  unfold storedAt
  split
  · next update isUpdate => exact absurd isUpdate (storesNothing update)
  · rfl

/-- If an update does not overlap with another, no report of its session is pending. -/
theorem overlapsAt_or_alone (update : StatusUpdate) :
    OverlapsAt update.sessionId (atStages manager world (before ++ .applying update :: after))
        before.length ∨
      reportsOf update.sessionId (Stage.pending (before ++ .applying update :: after)) = [] := by
  by_cases alone : reportsOf update.sessionId
      (Stage.pending (before ++ .applying update :: after)) = []
  · exact .inr alone
  · obtain ⟨report, listed, isSession⟩ := Stage.exists_telling_of_pending alone
    exact .inl ⟨⟨update, action?_at, rfl⟩, isAbout_atStages listed rfl ⟨report, rfl, isSession⟩⟩

end Crowd

namespace Tally

variable {begin world : World Runner} {overlapping : String → Prop}
variable {stored reports : List StatusEvent} {stages : List Stage}

/-- In a turn an update is stored or reported, or nothing happens. -/
theorem turn
    (tally : Tally begin overlapping stored reports world stages)
    (manager : SessionManager)
    (runner : CommandRunner Runner)
    (index : Nat) :
    let crowd := Crowd.atStages manager world stages
    ∃ later more reached, crowd.turn runner index = Crowd.atStages manager later reached ∧
      Tally begin (fun session => overlapping session ∨ Crowd.OverlapsAt session crowd index)
        (stored ++ crowd.storedAt index) more later reached := by
  intro crowd
  have tally : Tally begin
      (fun session => overlapping session ∨ Crowd.OverlapsAt session crowd index)
      stored reports world stages := tally.mono fun session => .inl
  rcases Crowd.turn_atStages runner manager world stages index with
    ⟨before, stage, after, rfl, rfl, turned⟩ | ⟨noStage, turned⟩
  · have isAction : crowd.action? before.length = stage.action? manager := Crowd.action?_at
    cases (tally.updates stage (by simp)).progress manager runner world with
    | quiet storesNothing silent silentNext unnoticed =>
        refine ⟨_, reports, _, turned, ?_⟩
        rw [Crowd.storedAt_eq_nil (by rwa [isAction]), List.append_nil]
        exact tally.quiet (tally.updates_next manager runner) silent silentNext unnoticed
    | stores update =>
        refine ⟨_, reports, _, turned, ?_⟩
        rw [Crowd.storedAt, isAction]
        exact tally.stores ((Crowd.overlapsAt_or_alone update).imp_left .inr)
    | tells report =>
        refine ⟨_, reports ++ [report], _, turned, ?_⟩
        rw [Crowd.storedAt, isAction]
        dsimp only [Stage.action?]
        rw [List.append_nil]
        exact tally.tells
  · refine ⟨world, reports, stages, turned, ?_⟩
    have noAction : crowd.action? index = none := by
      rw [Crowd.action?_atStages, noStage, Option.bind_none]
    rw [Crowd.storedAt, noAction]
    dsimp only
    rw [List.append_nil]
    exact tally

theorem run
    (tally : Tally begin overlapping stored reports world stages)
    (manager : SessionManager)
    (runner : CommandRunner Runner)
    (turns : List Nat) :
    let crowd := Crowd.atStages manager world stages
    ∃ later more reached, crowd.run runner turns = Crowd.atStages manager later reached ∧
      Tally begin
        (fun session =>
          overlapping session ∨ Crowd.Sees runner (Crowd.OverlapsAt session) crowd turns)
        (stored ++ crowd.stored runner turns) more later reached := by
  induction turns generalizing overlapping stored reports world stages with
  | nil =>
      refine ⟨world, reports, stages, rfl, ?_⟩
      rw [Crowd.stored, List.append_nil]
      exact tally.mono fun session => .inl
  | cons index rest inductionHypothesis =>
      obtain ⟨later, more, reached, turned, tallyNext⟩ := tally.turn manager runner index
      obtain ⟨last, most, final, ran, tallyLast⟩ := inductionHypothesis tallyNext
      refine ⟨last, most, final, ?_, ?_⟩
      · rw [Crowd.run, List.foldl_cons, turned]
        exact ran
      · rw [Crowd.stored, turned, ← List.append_assoc]
        refine tallyLast.mono fun session => ?_
        rw [Crowd.Sees, turned, or_assoc]
        exact id

end Tally

/-! ## Runs -/

theorem Stage.pending_first
    (manager : SessionManager)
    (updates : List StatusUpdate) :
    pending ((updates.map ChangeRequest.update).map (first manager)) = [] := by
  simp [pending, first, pending?]

theorem Stage.pending_eq_nil
    {stages : List Stage}
    (finished : ∀ stage ∈ stages, stage = .finished) :
    pending stages = [] :=
  List.filterMap_eq_nil_iff.2 fun stage listed => finished stage listed ▸ rfl

/-- Before the first turn nothing was stored and nothing has to be reported. -/
theorem tally_start
    (manager : SessionManager)
    (world : World Runner)
    (updates : List StatusUpdate) :
    Tally world (fun _ => False) [] [] world
      ((updates.map ChangeRequest.update).map (Stage.first manager)) where
  updates := by
    simp only [List.forall_mem_map]
    exact fun update _ => .checking update
  published := (List.append_nil _).symm
  hub := rfl
  once := by
    rw [Stage.pending_first]
    exact .nil
  entries session := Option.none_or.symm
  ordered session := by
    rw [Stage.pending_first]
    exact .inr ⟨rfl, Nat.zero_le 1⟩

namespace Crowd

/-- When concurrent updates are done, every one that was stored has been reported once, and
each session has the entry that was stored last. The reports of a session are in the order in
which its updates were stored, so that the last one tells of the entry, unless two of these
updates overlapped. A subscriber with room for the reports has received them in the order in
which they were published. -/
theorem reports_follow_updates
    (manager : SessionManager)
    (runner : CommandRunner Runner)
    (world : World Runner)
    (updates : List StatusUpdate)
    (turns : List Nat)
    (idle : ((start manager world (updates.map .update)).run runner turns).IsIdle) :
    let crowd := start manager world (updates.map .update)
    let last := (crowd.run runner turns).world
    let stored := crowd.stored runner turns
    ∃ reports : List StatusEvent,
      last.published = world.published ++ reports.map .status ∧
      reports.Perm stored ∧
      (∀ session,
        last.registry.get? session =
          (lastTold? session stored).or (world.registry.get? session)) ∧
      (∀ session, crowd.Sees runner (OverlapsAt session) turns ∨
        reportsOf session reports = reportsOf session stored ∧
          last.registry.get? session =
            (lastTold? session reports).or (world.registry.get? session)) ∧
      (world.hub.IsSound → ∀ id queue, world.hub.IsSubscribed id queue reports.length →
        last.hub.waiting id = queue ++ reports.map (Event.text ∘ .status)) := by
  intro crowd last stored
  have begins : crowd = atStages manager world
      ((updates.map ChangeRequest.update).map (Stage.first manager)) := start_eq_atStages ..
  obtain ⟨later, reports, reached, ran, tally⟩ :=
    (tally_start manager world updates).run manager runner turns
  rw [← begins] at ran tally
  have isLast : last = later := by
    change (crowd.run runner turns).world = later
    rw [ran]
    rfl
  rw [isLast]
  have nothing : Stage.pending reached = [] := by
    apply Stage.pending_eq_nil
    rw [← isIdle_atStages_iff, ← ran]
    exact idle
  have once := tally.once
  have ordered := tally.ordered
  rw [nothing, List.append_nil, List.nil_append] at once
  simp only [nothing, List.nil_append, false_or] at ordered
  refine ⟨reports, tally.published, once, tally.entries, fun session => ?_, ?_⟩
  · refine (ordered session).imp_right fun inOrder => ?_
    have same : reportsOf session reports = reportsOf session stored := by
      rw [← inOrder.same]
      exact (List.append_nil _).symm
    refine ⟨same, ?_⟩
    rw [tally.entries session, lastTold?, lastTold?, same]
    rfl
  · intro sound id queue subscribed
    rw [tally.hub, ← List.map_map]
    have enough : world.hub.IsSubscribed id queue (reports.map Event.status).length := by
      rwa [List.length_map]
    exact enough.waiting_publishAll sound

/-- Two updates of one session. -/
def twoUpdates : List StatusUpdate :=
  [⟨"chat-a", .running, none, none, none⟩, ⟨"chat-a", .done, none, none, some 0⟩]

/-- A world with one subscriber, in which commands succeed. -/
def quietWorld : World (List ScriptedReply) where
  registry := .empty "/"
  hub := (Hub.empty.openFeed none).2
  runner := []
  clock _ := 0
  words _ := 0

/-- The reports of two updates that do not overlap. -/
theorem reports_follow_two_updates :
    let crowd := start ⟨{}⟩ quietWorld (twoUpdates.map .update)
    let turns := [0, 1, 0, 0, 1, 1]
    let last := (crowd.run ScriptedReply.runner turns).world
    let stored := crowd.stored ScriptedReply.runner turns
    (crowd.run ScriptedReply.runner turns).IsIdle ∧
      ∃ reports : List StatusEvent,
        last.published = quietWorld.published ++ reports.map .status ∧
        reports.Perm stored ∧
        (∀ session,
          last.registry.get? session =
            (lastTold? session stored).or (quietWorld.registry.get? session)) ∧
        (∀ session, crowd.Sees ScriptedReply.runner (OverlapsAt session) turns ∨
          reportsOf session reports = reportsOf session stored ∧
            last.registry.get? session =
              (lastTold? session reports).or (quietWorld.registry.get? session)) ∧
        (quietWorld.hub.IsSound → ∀ id queue,
          quietWorld.hub.IsSubscribed id queue reports.length →
          last.hub.waiting id = queue ++ reports.map (Event.text ∘ .status)) :=
  have idle : ((start ⟨{}⟩ quietWorld (twoUpdates.map .update)).run ScriptedReply.runner
      [0, 1, 0, 0, 1, 1]).IsIdle := by
    decide +kernel
  ⟨idle, reports_follow_updates ⟨{}⟩ ScriptedReply.runner quietWorld twoUpdates _ idle⟩

/-- Of two updates that overlap, the one that was stored first is reported last: the session is
done, but the last that the subscriber hears is that it is running. -/
theorem overlapping_updates_reported_backwards :
    let crowd := start ⟨{}⟩ quietWorld (twoUpdates.map .update)
    let turns := [0, 0, 1, 1, 1, 0]
    let last := (crowd.run ScriptedReply.runner turns).world
    let running : StatusEvent := ⟨"chat-a", .running, "/", none, none, none, 0⟩
    let done : StatusEvent := ⟨"chat-a", .done, "/", none, none, some 0, 0⟩
    (crowd.run ScriptedReply.runner turns).IsIdle ∧
      crowd.stored ScriptedReply.runner turns = [running, done] ∧
      last.published = [.status done, .status running] ∧
      last.hub.waiting 1 = [(Event.status done).text, (Event.status running).text] ∧
      last.registry.get? "chat-a" = some done.entry := by
  intro crowd turns last running done
  exact ⟨by decide +kernel, by decide +kernel, rfl, by decide +kernel, by decide +kernel⟩

end Crowd
end SessionHub
