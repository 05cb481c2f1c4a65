import SessionHub.Proofs.Session.Stage

/-!
# Creations and updates are all or nothing

A creation runs three commands and an update runs one, but the answer to the first command
decides: either everything is done, or this one command is all that has happened. What the other
commands of a creation answer does not matter.
-/

namespace SessionHub
namespace SessionManager

variable (manager : SessionManager) {Runner : Type} (runner : CommandRunner Runner)

/-! ## Operations that one command decides -/

/-- The failure that the answer to the deciding command leads to. -/
inductive Refuses (refusal : CommandOutput → SessionError) : CommandResult → SessionError → Prop
  | broken (failure : CommandFailure) : Refuses refusal (.error failure) (.command failure)
  | unsuccessful (output : CommandOutput) :
      output.exitCode ≠ 0 → Refuses refusal (.ok output) (refusal output)

/-- One command decides an operation: with exit code zero the operation does what it is for, and
otherwise the command is all that has happened. -/
structure IsDecided
    {Result : Type}
    (arguments : List String)
    (refusal : CommandOutput → SessionError)
    (does : Result → World Runner → Prop)
    (before : World Runner)
    (outcome : Except SessionError Result × World Runner) : Prop where
  ok_iff : (∃ result, outcome.1 = .ok result) ↔
    ∃ output, manager.answer runner before arguments = .ok output ∧ output.exitCode = 0
  done : ∀ result, outcome.1 = .ok result → does result outcome.2
  undone : ∀ failure, outcome.1 = .error failure →
    before.Unnoticed outcome.2 ∧
      outcome.2.calls = before.calls ++ [manager.call arguments] ∧
      Refuses refusal (manager.answer runner before arguments) failure

section Decision

variable {manager runner}
variable {Result : Type}
variable {arguments : List String}
variable {refusal : CommandOutput → SessionError}
variable {does : Result → World Runner → Prop}
variable {before : World Runner}

theorem isDecided_of_refuses
    {failure : SessionError}
    (refuses : Refuses refusal (manager.answer runner before arguments) failure) :
    manager.IsDecided runner arguments refusal does before
      (.error failure, manager.afterCommand runner before arguments) where
  ok_iff := by
    refine ⟨nofun, ?_⟩
    rintro ⟨output, isAnswer, success⟩
    rw [isAnswer] at refuses
    cases refuses with
    | unsuccessful output unsuccessful => exact absurd success unsuccessful
  done := nofun
  undone := by
    intro told same
    cases same
    exact ⟨manager.unnoticed_afterCommand runner before arguments, rfl, refuses⟩

theorem isDecided_of_done
    {output : CommandOutput}
    {result : Result}
    {after : World Runner}
    (isAnswer : manager.answer runner before arguments = .ok output)
    (success : output.exitCode = 0)
    (done : does result after) :
    manager.IsDecided runner arguments refusal does before (.ok result, after) where
  ok_iff := ⟨fun _ => ⟨output, isAnswer, success⟩, fun _ => ⟨result, rfl⟩⟩
  done := by
    intro told same
    cases same
    exact done
  undone := nofun

end Decision

/-! ## Creations -/

/-- A session was created: three commands were run, there is a fresh entry in the place of any
other, and the creation was published. -/
structure HasCreated (session directory : String) (before after : World Runner) : Prop where
  calls : after.calls = before.calls ++
    [manager.call (creation session directory), manager.call (mouseOption session),
      manager.call (screenOption session)]
  entry : ∃ since, after.registry.get? session =
    some { status := .idle, workingDirectory := directory, since }
  others : ∀ other, other ≠ session → after.registry.get? other = before.registry.get? other
  published : after.published = before.published ++ [.sessionCreated session directory]
  hub : after.hub = (before.hub.publish (.sessionCreated session directory)).2

/-- The failure of a creation that the multiplexer refuses. -/
def creationRefusal (output : CommandOutput) : SessionError :=
  .creationFailed (Text.trim output.stderr)

/-- What the two options answer does not matter to a session that was created. -/
theorem hasCreated_setUp
    (session directory : String)
    (before : World Runner) :
    ∃ after,
      (manager.setUp session directory).run runner
        (manager.afterCommand runner before (creation session directory)) = (.ok session, after) ∧
      manager.HasCreated session directory before after := by
  refine ⟨_, rfl, ?_⟩
  constructor
  · change before.calls ++ [_] ++ [_] ++ [_] = _
    rw [List.append_assoc, List.append_assoc]
    rfl
  · refine ⟨before.now, ?_⟩
    change (before.registry.init session directory before.now).get? session = _
    rw [StatusRegistry.get?_init, if_pos rfl]
    rfl
  · intro other different
    change (before.registry.init session directory before.now).get? other = _
    rw [StatusRegistry.get?_init, if_neg different]
  · rfl
  · rfl

/-- What may come of the creation of a session whose name is settled. -/
def IsCreation
    (session directory : String)
    (before : World Runner) :
    Except SessionError String × World Runner → Prop :=
  manager.IsDecided runner (creation session directory) creationRefusal
    (fun name after => name = session ∧ manager.HasCreated session directory before after) before

theorem isCreation_createNamed
    (session directory : String)
    (before : World Runner) :
    manager.IsCreation runner session directory before
      ((manager.createNamed directory (.ok session)).run runner before) := by
  have ran : (manager.createNamed directory (.ok session)).run runner before = _ :=
    manager.run_command_bind runner before (creation session directory) _
  rw [ran]
  cases isAnswer : manager.answer runner before (creation session directory) with
  | error failure =>
      apply isDecided_of_refuses
      rw [isAnswer]
      exact .broken failure
  | ok output =>
      dsimp only
      split
      · next success =>
        obtain ⟨after, ran, created⟩ := manager.hasCreated_setUp runner session directory before
        rw [ran]
        exact isDecided_of_done isAnswer (CommandOutput.isSuccess_iff.1 success) ⟨rfl, created⟩
      · next unsuccessful =>
        apply isDecided_of_refuses
        rw [isAnswer]
        exact .unsuccessful output (mt CommandOutput.isSuccess_iff.2 unsuccessful)

/-- The name of the session that is to be created: the one that is given, or one made of the
next random word. -/
def nameFor (world : World Runner) : Option String → String
  | some name => name
  | none => SessionName.generate manager.settings.sessionPrefix (world.words world.drawn)

/-- The name of a new session is left open, or follows the naming rule. -/
def Admits (given : Option String) : Prop :=
  given = none ∨
    ∃ name, given = some name ∧ SessionName.isValid manager.settings.sessionPrefix name = true

theorem run_create_of_not_admits
    {given : Option String}
    (refused : ¬manager.Admits given)
    (directory : String)
    (world : World Runner) :
    (manager.create given directory).run runner world =
      (.error (.invalidId (manager.nameFor world given)), world) := by
  cases given with
  | none => exact absurd (.inl rfl) refused
  | some name =>
      have invalid : ¬SessionName.isValid manager.settings.sessionPrefix name = true :=
        fun valid => refused (.inr ⟨name, rfl, valid⟩)
      have ran : (manager.create (some name) directory).run runner world = _ :=
        Job.run_bind runner (manager.newName (some name)) (manager.createNamed directory) world
      rw [ran, newName, if_neg invalid]
      rfl

theorem isCreation_create
    {given : Option String}
    (admits : manager.Admits given)
    (directory : String)
    (world : World Runner) :
    manager.IsCreation runner (manager.nameFor world given) directory world
      ((manager.create given directory).run runner world) := by
  have ran : (manager.create given directory).run runner world = _ :=
    Job.run_bind runner (manager.newName given) (manager.createNamed directory) world
  rw [ran]
  rcases admits with rfl | ⟨name, rfl, valid⟩
  · -- A creation tells nothing of how many random words were drawn before it.
    obtain ⟨ok_iff, done, undone⟩ :=
      manager.isCreation_createNamed runner (manager.nameFor world none) directory
        { world with drawn := world.drawn + 1 }
    refine ⟨ok_iff, fun name ok => ?_, fun failure failed => ?_⟩
    · obtain ⟨same, created⟩ := done name ok
      exact ⟨same, created.calls, created.entry, created.others, created.published, created.hub⟩
    · obtain ⟨unnoticed, rest⟩ := undone failure failed
      exact ⟨⟨unnoticed.registry, unnoticed.published, unnoticed.hub⟩, rest⟩
  · rw [newName, if_pos valid]
    exact manager.isCreation_createNamed runner name directory world

/-! ## Updates -/

end SessionManager
end SessionHub
