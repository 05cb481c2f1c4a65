import SessionHub.Proofs.Session.Stage

/-!
# Requests that take turns

Several requests are under way at once. In each turn one of them takes its next action,
whichever it is; a request that is done has no more turns. What may happen to a crowd of
requests is told by the stages that they have reached.
-/

namespace SessionHub

/-- Jobs that act upon one world. -/
structure Crowd (Runner : Type) where
  world : World Runner
  jobs : List (Job Unit)

namespace Crowd

variable {Runner : Type} (runner : CommandRunner Runner)

/-- The jobs of several requests, none of which has begun. -/
def start
    (manager : SessionManager)
    (world : World Runner)
    (requests : List ChangeRequest) :
    Crowd Runner where
  world := world
  jobs := requests.map (manager.perform ·.operation)

/-- One of the jobs takes its next action. -/
def turn (crowd : Crowd Runner) (index : Nat) : Crowd Runner :=
  match crowd.jobs[index]? with
  | none => crowd
  | some job =>
      { world := (job.advance runner crowd.world).2
        jobs := crowd.jobs.set index (job.advance runner crowd.world).1 }

/-- The crowd after several turns. -/
def run (crowd : Crowd Runner) (turns : List Nat) : Crowd Runner :=
  turns.foldl (turn runner) crowd

/-- The action that a job takes when it is its turn. -/
def action? (crowd : Crowd Runner) (index : Nat) : Option Action :=
  crowd.jobs[index]?.bind Job.action?

/-- Some job of the crowd is about to take an action of a kind. -/
def IsAbout (crowd : Crowd Runner) (kind : Action → Prop) : Prop :=
  ∃ job ∈ crowd.jobs, ∃ action, job.action? = some action ∧ kind action

/-- No request is under way. -/
def IsIdle (crowd : Crowd Runner) : Prop :=
  ∀ job ∈ crowd.jobs, job.isDone = true

instance (crowd : Crowd Runner) : Decidable crowd.IsIdle :=
  inferInstanceAs (Decidable (∀ _ ∈ _, _))

/-- In one of several turns something happens. -/
def Sees (happens : Crowd Runner → Nat → Prop) : Crowd Runner → List Nat → Prop
  | _, [] => False
  | crowd, index :: rest => happens crowd index ∨ Sees happens (crowd.turn runner index) rest

/-! ## Stages of the jobs -/

/-- The crowd of jobs at certain stages. -/
def atStages
    (manager : SessionManager)
    (world : World Runner)
    (stages : List Stage) :
    Crowd Runner where
  world := world
  jobs := stages.map (Stage.job manager)

theorem start_eq_atStages
    (manager : SessionManager)
    (world : World Runner)
    (requests : List ChangeRequest) :
    start manager world requests = atStages manager world (requests.map (Stage.first manager)) := by
  unfold start atStages
  rw [List.map_map]
  congr 1
  exact List.map_congr_left fun request _ => manager.perform_operation request

variable {manager : SessionManager} {world : World Runner} {stages : List Stage}

theorem action?_atStages (index : Nat) :
    (atStages manager world stages).action? index =
      stages[index]?.bind (Stage.action? manager) := by
  unfold action? atStages
  rw [List.getElem?_map, Option.bind_map]
  exact congrArg _ (funext (Stage.action?_job manager))

theorem action?_at
    {before after : List Stage}
    {stage : Stage} :
    (atStages manager world (before ++ stage :: after)).action? before.length =
      stage.action? manager := by
  rw [action?_atStages, List.getElem?_append_right (Nat.le_refl _), Nat.sub_self]
  rfl

theorem isAbout_atStages
    {kind : Action → Prop}
    {stage : Stage}
    (listed : stage ∈ stages)
    {action : Action}
    (isAction : stage.action? manager = some action)
    (isKind : kind action) :
    (atStages manager world stages).IsAbout kind :=
  ⟨stage.job manager, List.mem_map_of_mem listed, action,
    (Stage.action?_job manager stage).trans isAction, isKind⟩

theorem isIdle_atStages_iff :
    (atStages manager world stages).IsIdle ↔ ∀ stage ∈ stages, stage = .finished := by
  unfold IsIdle atStages
  rw [List.forall_mem_map]
  simp only [Stage.isDone_job_iff]

/-- In a turn one job goes on to the next stage, or nothing happens for want of a job. -/
theorem turn_atStages
    (manager : SessionManager)
    (world : World Runner)
    (stages : List Stage)
    (index : Nat) :
    (∃ before stage after, stages = before ++ stage :: after ∧ index = before.length ∧
      (atStages manager world stages).turn runner index =
        atStages manager (stage.effect manager runner world)
          (before ++ stage.next manager runner world :: after)) ∨
    (stages[index]? = none ∧
      (atStages manager world stages).turn runner index = atStages manager world stages) := by
  cases found : stages[index]? with
  | none =>
      have noJob : (atStages manager world stages).jobs[index]? = none := by
        rw [atStages, List.getElem?_map, found, Option.map_none]
      refine .inr ⟨rfl, ?_⟩
      rw [turn, noJob]
  | some stage =>
      obtain ⟨isIndex, isStage⟩ := List.getElem?_eq_some_iff.1 found
      have parts : stages = stages.take index ++ stage :: stages.drop (index + 1) := by
        rw [← isStage, List.getElem_cons_drop, List.take_append_drop]
      have isJob : (atStages manager world stages).jobs[index]? = some (stage.job manager) := by
        rw [atStages, List.getElem?_map, found, Option.map_some]
      refine .inl ⟨stages.take index, stage, stages.drop (index + 1), parts,
        (List.length_take_of_le (Nat.le_of_lt isIndex)).symm, ?_⟩
      rw [turn, isJob]
      dsimp only
      rw [Stage.advance_job, atStages, atStages, ← List.map_set,
        List.set_eq_take_append_cons_drop, if_pos isIndex]

end Crowd
end SessionHub
