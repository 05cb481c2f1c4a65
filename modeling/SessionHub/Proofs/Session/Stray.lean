import SessionHub.Proofs.Session.Crowd
import Mathlib.Data.List.Basic

/-!
# Stray entries

A request makes sure that there is a session before it writes the entry of this session,
but in an earlier action. As long as no session is ended in between, every entry belongs to a
session of the multiplexer, or to one whose end is about to remove the entry. An entry that
is written after the end of its session stays.
-/

namespace SessionHub

/-! ## A multiplexer -/

namespace SessionManager

variable (manager : SessionManager)

/-- A multiplexer of which only the names of its sessions matter. Commands other than those
that create, end and look for sessions succeed. -/
def multiplexer : CommandRunner (List String) := fun call sessions =>
  match call.argv.drop (manager.argv []).length with
  | ["new-session", "-d", "-s", session, "-c", _] =>
      if session ∈ sessions then (.ok { exitCode := 1 }, sessions)
      else (.ok {}, session :: sessions)
  | ["kill-session", "-t", target] =>
      if target ∈ sessions.map SessionName.exactTarget then
        (.ok {}, sessions.filter (SessionName.exactTarget · ≠ target))
      else (.ok { exitCode := 1 }, sessions)
  | ["has-session", "-t", target] =>
      if target ∈ sessions.map SessionName.exactTarget then (.ok {}, sessions)
      else (.ok { exitCode := 1 }, sessions)
  | _ => (.ok {}, sessions)

theorem arguments_call (arguments : List String) :
    (manager.call arguments).argv.drop (manager.argv []).length = arguments := by
  have parts : (manager.call arguments).argv = manager.argv [] ++ arguments := by
    unfold call argv
    rw [List.append_nil]
  rw [parts, List.drop_left]

theorem exactTarget_injective : Function.Injective SessionName.exactTarget := by
  intro first second same
  exact String.append_right_inj _ |>.1 same

variable (session directory : String) (sessions : List String)

theorem multiplexer_creation :
    manager.multiplexer (manager.call (creation session directory)) sessions =
      if session ∈ sessions then (.ok { exitCode := 1 }, sessions)
      else (.ok {}, session :: sessions) := by
  rw [multiplexer, arguments_call]
  rfl

theorem multiplexer_kill :
    (manager.multiplexer (manager.call (killArguments session)) sessions).2 =
      sessions.filter (· ≠ session) := by
  rw [multiplexer, arguments_call]
  simp only [killArguments, List.mem_map_of_injective exactTarget_injective,
    exactTarget_injective.ne_iff]
  split
  · rfl
  · next absent =>
    refine (List.filter_eq_self.2 fun other listed => ?_).symm
    exact decide_eq_true fun same => absent (same ▸ listed)

theorem multiplexer_check :
    manager.multiplexer (manager.call (checkArguments session)) sessions =
      if session ∈ sessions then (.ok {}, sessions) else (.ok { exitCode := 1 }, sessions) := by
  rw [multiplexer, arguments_call]
  simp only [checkArguments, List.mem_map_of_injective exactTarget_injective]

theorem multiplexer_mouseOption :
    (manager.multiplexer (manager.call (mouseOption session)) sessions).2 = sessions := by
  rw [multiplexer, arguments_call]
  rfl

theorem multiplexer_screenOption :
    (manager.multiplexer (manager.call (screenOption session)) sessions).2 = sessions := by
  rw [multiplexer, arguments_call]
  rfl

end SessionManager

/-! ## What a stage does -/

namespace Stage

/-- A request has made sure that there is a session, and has yet to write its entry. -/
def IsBound (session : String) : Stage → Prop
  | .settingMouse name _ | .settingScreen name _ | .entering name _ => name = session
  | .applying update => update.sessionId = session
  | _ => False

/-- What an action does to sessions and entries, and where its request then is: sessions may be
added, an entry may be written, a session may be ended or an entry removed. -/
inductive Touches (before after : World (List String)) : Stage → Stage → Prop
  | keeps {stage next : Stage} :
      after.registry = before.registry → (∀ name ∈ before.runner, name ∈ after.runner) →
      (∀ session, next.IsBound session → stage.IsBound session ∨ session ∈ after.runner) →
      (∀ session, stage ≠ .removing session) → Touches before after stage next
  | enters {stage next : Stage} (session : String) :
      stage.IsBound session →
      (∀ name, name ≠ session → after.registry.get? name = before.registry.get? name) →
      after.runner = before.runner → (∀ name, ¬next.IsBound name) →
      Touches before after stage next
  | kills (session : String) :
      after.registry = before.registry →
      (∀ name ∈ before.runner, name ≠ session → name ∈ after.runner) →
      Touches before after (.killing session) (.removing session)
  | removes {next : Stage} (session : String) :
      after.registry.get? session = none →
      (∀ name, name ≠ session → after.registry.get? name = before.registry.get? name) →
      after.runner = before.runner → (∀ name, ¬next.IsBound name) →
      Touches before after (.removing session) next

/-- An action that leaves entries and sessions alone, after which the request is bound to
nothing new. -/
theorem Touches.idle
    {before after : World (List String)}
    {stage next : Stage}
    (registry : after.registry = before.registry)
    (runner : after.runner = before.runner)
    (bound : ∀ session, next.IsBound session → stage.IsBound session)
    (other : ∀ session, stage ≠ .removing session) :
    Touches before after stage next :=
  .keeps registry (fun _ listed => runner ▸ listed)
    (fun session isBound => .inl (bound session isBound)) other

theorem touches
    (manager : SessionManager)
    (world : World (List String))
    (stage : Stage) :
    Touches world (stage.effect manager manager.multiplexer world) stage
      (stage.next manager manager.multiplexer world) := by
  cases stage with
  | naming directory => exact .idle rfl rfl (fun _ => False.elim) fun _ => Stage.noConfusion
  | creating session directory =>
      have created := manager.multiplexer_creation session directory world.runner
      by_cases listed : session ∈ world.runner
      · rw [if_pos listed] at created
        rw [next, created]
        exact .idle rfl (congrArg Prod.snd created) (fun _ => False.elim)
          fun _ => Stage.noConfusion
      · rw [if_neg listed] at created
        have runner :
            ((creating session directory).effect manager manager.multiplexer world).runner =
              session :: world.runner := congrArg Prod.snd created
        rw [next, created]
        refine .keeps rfl (fun name old => ?_) (fun name isBound => .inr ?_)
          fun _ => Stage.noConfusion
        · rw [runner]
          exact List.mem_cons_of_mem session old
        · rw [runner, show session = name from isBound]
          exact List.mem_cons_self
  | settingMouse session directory =>
      exact .idle rfl (manager.multiplexer_mouseOption session world.runner) (fun _ => id)
        fun _ => Stage.noConfusion
  | settingScreen session directory =>
      exact .idle rfl (manager.multiplexer_screenOption session world.runner) (fun _ => id)
        fun _ => Stage.noConfusion
  | entering session directory =>
      refine .enters session rfl (fun name differs => ?_) rfl fun _ => id
      exact (StatusRegistry.get?_init ..).trans (if_neg differs)
  | announcing session directory =>
      exact .idle rfl rfl (fun _ => False.elim) fun _ => Stage.noConfusion
  | checking update =>
      have checked := manager.multiplexer_check update.sessionId world.runner
      by_cases listed : update.sessionId ∈ world.runner
      · rw [if_pos listed] at checked
        have runner : ((checking update).effect manager manager.multiplexer world).runner =
            world.runner := congrArg Prod.snd checked
        rw [next, checked]
        refine .keeps rfl (fun name old => runner ▸ old) (fun name isBound => .inr ?_)
          fun _ => Stage.noConfusion
        rw [runner, ← show update.sessionId = name from isBound]
        exact listed
      · rw [if_neg listed] at checked
        rw [next, checked]
        exact .idle rfl (congrArg Prod.snd checked) (fun _ => False.elim)
          fun _ => Stage.noConfusion
  | applying update =>
      refine .enters update.sessionId rfl (fun name differs => ?_) rfl fun _ => id
      exact (StatusRegistry.get?_applyUpdate ..).trans (if_neg differs)
  | telling report => exact .idle rfl rfl (fun _ => False.elim) fun _ => Stage.noConfusion
  | killing session =>
      have killed := manager.multiplexer_kill session world.runner
      refine .kills session rfl fun name listed differs => ?_
      change name ∈ (manager.multiplexer _ world.runner).2
      rw [killed]
      exact List.mem_filter.2 ⟨listed, decide_eq_true differs⟩
  | removing session =>
      refine .removes session ?_ (fun name differs => ?_) rfl ?_
      · exact (StatusRegistry.get?_remove ..).trans (if_pos rfl)
      · exact (StatusRegistry.get?_remove ..).trans (if_neg differs)
      · rw [next]
        split <;> exact fun _ => id
  | announcingEnd session => exact .idle rfl rfl (fun _ => False.elim) fun _ => Stage.noConfusion
  | finished => exact .idle rfl rfl (fun _ => False.elim) fun _ => Stage.noConfusion

end Stage

/-! ## Overtaken requests -/

/-- The actions of requests that have made sure that there is a session, and have yet to write
its entry. -/
def SessionManager.IsBound (manager : SessionManager) (session : String) : Action → Prop
  | .command call =>
      call = manager.call (mouseOption session) ∨ call = manager.call (screenOption session)
  | .init name _ => name = session
  | .applyUpdate update => update.sessionId = session
  | _ => False

theorem Stage.IsBound.exists_action
    {session : String}
    {stage : Stage}
    (isBound : stage.IsBound session)
    (manager : SessionManager) :
    ∃ action, stage.action? manager = some action ∧ manager.IsBound session action := by
  cases stage with
  | settingMouse name directory => exact ⟨_, rfl, .inl (by rw [show name = session from isBound])⟩
  | settingScreen name directory => exact ⟨_, rfl, .inr (by rw [show name = session from isBound])⟩
  | entering name directory => exact ⟨_, rfl, isBound⟩
  | applying update => exact ⟨_, rfl, isBound⟩
  | naming | creating | announcing | checking | telling | killing | removing | announcingEnd
  | finished => exact isBound.elim

/-- A session is ended while a request that has made sure of it has yet to write its entry. -/
def Crowd.OvertakesAt (manager : SessionManager) (session : String) (crowd : Crowd (List String))
    (index : Nat) : Prop :=
  crowd.action? index = some (.command (manager.call (SessionManager.killArguments session))) ∧
    crowd.IsAbout (manager.IsBound session)

/-! ## Entries of sessions -/

/-- Whatever is bound to a session, or has an entry, is there; or an end of it is about to
remove the entry; or it was overtaken. -/
structure Kept (overtaken : String → Prop) (world : World (List String)) (stages : List Stage) :
    Prop where
  bound : ∀ session, ∀ stage ∈ stages, stage.IsBound session →
    overtaken session ∨ session ∈ world.runner
  entered : ∀ session, world.registry.get? session ≠ none →
    overtaken session ∨ session ∈ world.runner ∨ .removing session ∈ stages

namespace Kept

variable {overtaken : String → Prop} {world later : World (List String)}
variable {before after : List Stage} {stage next : Stage}

theorem mono
    {stages : List Stage}
    {more : String → Prop}
    (kept : Kept overtaken world stages)
    (wider : ∀ session, overtaken session → more session) :
    Kept more world stages where
  bound session stage listed isBound :=
    (kept.bound session stage listed isBound).imp_left (wider session)
  entered session present := (kept.entered session present).imp_left (wider session)

/-- The other stages stay. -/
theorem mem_of_ne
    {other : Stage}
    (listed : other ∈ before ++ stage :: after)
    (differs : other ≠ stage) :
    other ∈ before ++ next :: after := by
  simp only [List.mem_append, List.mem_cons] at listed ⊢
  exact listed.imp_right fun later => .inr (later.resolve_left differs)

theorem mem_or_eq
    (stage : Stage)
    {other : Stage}
    (listed : other ∈ before ++ next :: after) :
    other = next ∨ other ∈ before ++ stage :: after := by
  simp only [List.mem_append, List.mem_cons] at listed ⊢
  rcases listed with earlier | isNext | later
  · exact .inr (.inl earlier)
  · exact .inl isNext
  · exact .inr (.inr (.inr later))

theorem stage_mem : stage ∈ before ++ stage :: after :=
  List.mem_append_right before List.mem_cons_self

/-- Sessions that are added, and a request that has made sure of one of them. -/
theorem keeps
    (kept : Kept overtaken world (before ++ stage :: after))
    (registry : later.registry = world.registry)
    (grows : ∀ name ∈ world.runner, name ∈ later.runner)
    (bound : ∀ session, next.IsBound session → stage.IsBound session ∨ session ∈ later.runner)
    (notRemoving : ∀ session, stage ≠ .removing session) :
    Kept overtaken later (before ++ next :: after) := by
  constructor
  · intro session other listed isBound
    rcases mem_or_eq stage listed with rfl | listed
    · rcases bound session isBound with before | added
      · exact (kept.bound session stage stage_mem before).imp_right (grows session)
      · exact .inr added
    · exact (kept.bound session other listed isBound).imp_right (grows session)
  · intro session present
    rw [registry] at present
    refine (kept.entered session present).imp_right (Or.imp (grows session) fun listed => ?_)
    exact mem_of_ne listed (notRemoving session).symm

/-- An entry is written for a session that its request has made sure of. -/
theorem enters
    {name : String}
    (kept : Kept overtaken world (before ++ stage :: after))
    (isBound : stage.IsBound name)
    (registry : ∀ other, other ≠ name → later.registry.get? other = world.registry.get? other)
    (runner : later.runner = world.runner)
    (unbound : ∀ session, ¬next.IsBound session) :
    Kept overtaken later (before ++ next :: after) := by
  constructor
  · intro session other listed otherIsBound
    rcases mem_or_eq stage listed with rfl | listed
    · exact absurd otherIsBound (unbound session)
    · rw [runner]
      exact kept.bound session other listed otherIsBound
  · intro session present
    rw [runner]
    by_cases same : session = name
    · rw [same]
      exact (kept.bound name stage stage_mem isBound).imp_right .inl
    · rw [registry session same] at present
      refine (kept.entered session present).imp_right (Or.imp_right fun listed => ?_)
      refine mem_of_ne listed ?_
      rintro rfl
      exact isBound

/-- A session is ended to which no request is bound, or which was overtaken. -/
theorem kills
    {name : String}
    (kept : Kept overtaken world (before ++ .killing name :: after))
    (registry : later.registry = world.registry)
    (shrinks : ∀ other ∈ world.runner, other ≠ name → other ∈ later.runner)
    (overtakes : overtaken name ∨
      ∀ other ∈ before ++ .killing name :: after, ¬other.IsBound name) :
    Kept overtaken later (before ++ .removing name :: after) := by
  constructor
  · intro session other listed isBound
    rcases mem_or_eq (.killing name) listed with rfl | listed
    · exact isBound.elim
    · by_cases same : session = name
      · subst same
        exact .inl (overtakes.resolve_right fun unbound => unbound other listed isBound)
      · exact (kept.bound session other listed isBound).imp_right (shrinks session · same)
  · intro session present
    rw [registry] at present
    by_cases same : session = name
    · rw [same]
      exact .inr (.inr stage_mem)
    · refine (kept.entered session present).imp_right
        (Or.imp (shrinks session · same) fun listed => ?_)
      exact mem_of_ne listed Stage.noConfusion

/-- The entry of a session that was ended is removed. -/
theorem removes
    {name : String}
    (kept : Kept overtaken world (before ++ .removing name :: after))
    (gone : later.registry.get? name = none)
    (registry : ∀ other, other ≠ name → later.registry.get? other = world.registry.get? other)
    (runner : later.runner = world.runner)
    (unbound : ∀ session, ¬next.IsBound session) :
    Kept overtaken later (before ++ next :: after) := by
  constructor
  · intro session other listed isBound
    rcases mem_or_eq (.removing name) listed with rfl | listed
    · exact absurd isBound (unbound session)
    · rw [runner]
      exact kept.bound session other listed isBound
  · intro session present
    rw [runner]
    by_cases same : session = name
    · rw [same] at present
      exact absurd gone present
    · rw [registry session same] at present
      refine (kept.entered session present).imp_right (Or.imp_right fun listed => ?_)
      exact mem_of_ne listed fun isSame => same (Stage.removing.inj isSame)

/-- What is kept is kept by every action, unless a session is ended to which another request is
bound. -/
theorem step
    (kept : Kept overtaken world (before ++ stage :: after))
    (touches : Stage.Touches world later stage next)
    (overtakes : ∀ session, stage = .killing session →
      overtaken session ∨ ∀ other ∈ before ++ stage :: after, ¬other.IsBound session) :
    Kept overtaken later (before ++ next :: after) := by
  cases touches with
  | keeps registry grows bound notRemoving => exact kept.keeps registry grows bound notRemoving
  | enters name isBound registry runner unbound =>
      exact kept.enters isBound registry runner unbound
  | kills name registry shrinks => exact kept.kills registry shrinks (overtakes name rfl)
  | removes name gone registry runner unbound => exact kept.removes gone registry runner unbound

theorem turn
    {stages : List Stage}
    (kept : Kept overtaken world stages)
    (manager : SessionManager)
    (index : Nat) :
    let crowd := Crowd.atStages manager world stages
    ∃ next reached,
      crowd.turn manager.multiplexer index = Crowd.atStages manager next reached ∧
      Kept (fun session => overtaken session ∨ Crowd.OvertakesAt manager session crowd index)
        next reached := by
  intro crowd
  have kept : Kept
      (fun session => overtaken session ∨ Crowd.OvertakesAt manager session crowd index)
      world stages := kept.mono fun session => .inl
  rcases Crowd.turn_atStages manager.multiplexer manager world stages index with
    ⟨before, stage, after, rfl, rfl, turned⟩ | ⟨-, turned⟩
  · refine ⟨_, _, turned, kept.step (stage.touches manager world) ?_⟩
    rintro session rfl
    by_cases unbound : ∀ other ∈ before ++ .killing session :: after, ¬other.IsBound session
    · exact .inr unbound
    · simp only [not_forall, not_not] at unbound
      obtain ⟨other, listed, isBound⟩ := unbound
      obtain ⟨action, isAction, actionIsBound⟩ := isBound.exists_action manager
      exact .inl (.inr ⟨Crowd.action?_at, Crowd.isAbout_atStages listed isAction actionIsBound⟩)
  · exact ⟨world, stages, turned, kept⟩

theorem run
    {stages : List Stage}
    (kept : Kept overtaken world stages)
    (manager : SessionManager)
    (turns : List Nat) :
    let crowd := Crowd.atStages manager world stages
    ∃ last reached,
      crowd.run manager.multiplexer turns = Crowd.atStages manager last reached ∧
      Kept
        (fun session => overtaken session ∨
          Crowd.Sees manager.multiplexer (Crowd.OvertakesAt manager session) crowd turns)
        last reached := by
  induction turns generalizing overtaken world stages with
  | nil => exact ⟨world, stages, rfl, kept.mono fun session => .inl⟩
  | cons index rest inductionHypothesis =>
      obtain ⟨next, reached, turned, keptNext⟩ := kept.turn manager index
      obtain ⟨last, final, ran, keptLast⟩ := inductionHypothesis keptNext
      refine ⟨last, final, ?_, keptLast.mono fun session => ?_⟩
      · rw [Crowd.run, List.foldl_cons, turned]
        exact ran
      · rw [Crowd.Sees, turned, or_assoc]
        exact id

end Kept

theorem Stage.not_isBound_first
    (manager : SessionManager)
    (request : ChangeRequest)
    (session : String) :
    ¬(first manager request).IsBound session := by
  cases request with
  | create given directory =>
      cases given with
      | some name =>
          rw [first]
          split <;> exact id
      | none => exact id
  | update change => exact id
  | destroy name => exact id

namespace Crowd

/-- When no request is under way, every session with an entry is a session of the multiplexer,
or was ended while a request that had made sure of it had yet to write its entry. -/
theorem entries_belong_to_sessions
    (manager : SessionManager)
    (world : World (List String))
    (noEntries : ∀ session, world.registry.get? session = none)
    (requests : List ChangeRequest)
    (turns : List Nat)
    (idle : ((start manager world requests).run manager.multiplexer turns).IsIdle) :
    let crowd := start manager world requests
    let last := (crowd.run manager.multiplexer turns).world
    ∀ session, last.registry.get? session ≠ none →
      session ∈ last.runner ∨
        crowd.Sees manager.multiplexer (OvertakesAt manager session) turns := by
  intro crowd last session present
  have begins : crowd = atStages manager world (requests.map (Stage.first manager)) :=
    start_eq_atStages ..
  have keptFirst : Kept (fun _ => False) world (requests.map (Stage.first manager)) := by
    constructor
    · intro session stage listed isBound
      obtain ⟨request, -, rfl⟩ := List.mem_map.1 listed
      exact absurd isBound (Stage.not_isBound_first manager request session)
    · exact fun session present => absurd (noEntries session) present
  obtain ⟨final, reached, ran, kept⟩ := keptFirst.run manager turns
  rw [← begins] at ran kept
  have isLast : last = final := congrArg Crowd.world ran
  have finished : ∀ stage ∈ reached, stage = .finished := by
    rw [← isIdle_atStages_iff, ← ran]
    exact idle
  rw [isLast] at present ⊢
  rcases kept.entered session present with (impossible | overtaken) | listed | removing
  · exact impossible.elim
  · exact .inr overtaken
  · exact .inl listed
  · cases finished _ removing

/-- A world without sessions and entries. -/
def emptyWorld : World (List String) where
  registry := .empty "/"
  hub := .empty
  runner := []
  clock _ := 0
  words _ := 0

/-- A session that is created, reported on and destroyed. -/
def lifetime : List ChangeRequest :=
  [.create (some "chat-a") "/home", .update ⟨"chat-a", .running, none, none, none⟩,
    .destroy "chat-a"]

/-- The requests of a lifetime, with the update in the midst of the creation. -/
theorem lifetime_leaves_no_entry :
    let crowd := start ⟨{}⟩ emptyWorld lifetime
    let multiplexer := SessionManager.multiplexer ⟨{}⟩
    let turns := [0, 0, 1, 0, 1, 0, 1, 0, 2, 2, 2]
    let last := (crowd.run multiplexer turns).world
    (∀ session, emptyWorld.registry.get? session = none) ∧
      (crowd.run multiplexer turns).IsIdle ∧
      ∀ session, last.registry.get? session ≠ none →
        session ∈ last.runner ∨ crowd.Sees multiplexer (OvertakesAt ⟨{}⟩ session) turns :=
  have noEntries : ∀ session, emptyWorld.registry.get? session = none := fun _ => rfl
  have idle : ((start ⟨{}⟩ emptyWorld lifetime).run (SessionManager.multiplexer ⟨{}⟩)
      [0, 0, 1, 0, 1, 0, 1, 0, 2, 2, 2]).IsIdle := by
    decide +kernel
  ⟨noEntries, idle, entries_belong_to_sessions ⟨{}⟩ emptyWorld noEntries lifetime _ idle⟩

/-- An update that finds the session, and is stored after the session was destroyed, leaves an
entry without a session. -/
theorem overtaken_update_leaves_entry :
    let crowd := start ⟨{}⟩ emptyWorld lifetime
    let last := crowd.run (SessionManager.multiplexer ⟨{}⟩) [0, 0, 0, 0, 0, 1, 2, 2, 2, 1, 1]
    last.IsIdle ∧ last.world.runner = [] ∧ last.world.registry.get? "chat-a" ≠ none := by
  intro crowd last
  exact ⟨by decide +kernel, by decide +kernel, by decide +kernel⟩

end Crowd
end SessionHub
