import SessionHub.Proofs.Session.Listing

/-!
# The history of a status entry

An entry is told by what was done to its session since the session was last removed: the latest
operation gives its status, its event and its title, and the latest creation its working
directory. What is done to other sessions does not matter.
-/

namespace SessionHub
namespace StatusRegistry

/-! ## Operations -/

/-- What is done to the registry, and at what time. -/
inductive Operation
  | init (session directory : String) (now : UInt64)
  | update (change : StatusUpdate) (now : UInt64)
  | remove (session : String)

namespace Operation

/-- The session to which an operation is done. -/
def session : Operation → String
  | .init session _ _ => session
  | .update change _ => change.sessionId
  | .remove session => session

/-- Whether an operation removes the entry of its session. -/
def isRemoval : Operation → Bool
  | .init _ _ _ | .update _ _ => false
  | .remove _ => true

/-- Whether an operation is a status update. -/
def isUpdate : Operation → Bool
  | .update _ _ => true
  | .init _ _ _ | .remove _ => false

/-- The working directory that a creation names. -/
def directory? : Operation → Option String
  | .init _ directory _ => some directory
  | .update _ _ | .remove _ => none

/-- The entry that an operation leaves, if the working directory is known. -/
def entryIn (directory : String) : Operation → Option StatusEntry
  | .init _ _ now => some { status := .idle, workingDirectory := directory, since := now }
  | .update change now => some
      { status := change.status
        workingDirectory := directory
        eventId := change.eventId
        title := change.title
        exitCode :=
          if change.status = .done ∨ change.status = .failed then change.exitCode else none
        since := now }
  | .remove _ => none

end Operation

variable (registry : StatusRegistry)

/-- Do an operation. -/
def perform : Operation → StatusRegistry
  | .init session directory now => registry.init session directory now
  | .update change now => registry.applyUpdate change now
  | .remove session => registry.remove session

/-- The entry that an operation answers with: the one it leaves, or the one it takes away. -/
def answer : Operation → Option StatusEntry
  | .init _ directory now => some (freshEntry directory now)
  | .update change now => some (registry.updatedEntry change now)
  | .remove session => registry.get? session

/-- Do several operations, one after another. -/
def performAll (operations : List Operation) : StatusRegistry :=
  operations.foldl perform registry

theorem performAll_concat (operations : List Operation) (last : Operation) :
    registry.performAll (operations ++ [last]) = (registry.performAll operations).perform last := by
  rw [performAll, List.foldl_append]
  rfl

theorem fallback_perform (operation : Operation) :
    (registry.perform operation).fallback = registry.fallback := by
  cases operation <;> rfl

theorem fallback_performAll (operations : List Operation) :
    (registry.performAll operations).fallback = registry.fallback := by
  induction operations generalizing registry with
  | nil => rfl
  | cons first rest inductionHypothesis =>
      exact (inductionHypothesis (registry.perform first)).trans (fallback_perform registry first)

/-- What an operation leaves at its session: a removal nothing, and any other what it answers. -/
def leaves (operation : Operation) : Option StatusEntry :=
  if operation.isRemoval then none else registry.answer operation

theorem get?_perform (operation : Operation) (other : String) :
    (registry.perform operation).get? other =
      if other = operation.session then registry.leaves operation else registry.get? other := by
  cases operation with
  | init session directory now => exact get?_init registry session directory other now
  | update change now => exact get?_applyUpdate registry change now other
  | remove session => exact get?_remove registry session other

/-! ## Histories -/

/-- What was done to a session since it was last removed. -/
def recent (session : String) (operations : List Operation) : List Operation :=
  ((operations.filter (·.session = session)).reverse.takeWhile fun operation =>
    !operation.isRemoval).reverse

/-- The working directory of a session: the one named by its latest creation, if there is one. -/
def directoryIn (fallback : String) (history : List Operation) : String :=
  (history.filterMap Operation.directory?).getLast?.getD fallback

/-- The entry that is told by what was done to its session. -/
def entryOf (fallback : String) (history : List Operation) : Option StatusEntry :=
  history.getLast?.bind (Operation.entryIn (directoryIn fallback history))

theorem recent_concat (session : String) (operations : List Operation) (last : Operation) :
    recent session (operations ++ [last]) =
      if session = last.session then
        if last.isRemoval then [] else recent session operations ++ [last]
      else recent session operations := by
  unfold recent
  rw [List.filter_append, List.reverse_append]
  by_cases same : session = last.session
  · rw [if_pos same, List.filter_singleton, decide_eq_true same.symm, cond_true,
      List.reverse_singleton, List.singleton_append]
    cases isRemoval : last.isRemoval with
    | true => rw [List.takeWhile_cons_of_neg (by simp [isRemoval]), if_pos rfl, List.reverse_nil]
    | false =>
        rw [List.takeWhile_cons_of_pos (by simp [isRemoval]), if_neg Bool.false_ne_true,
          List.reverse_cons]
  · rw [if_neg same, List.filter_singleton, decide_eq_false (Ne.symm same), cond_false]
    rfl

theorem isRemoval_of_mem_recent
    {session : String}
    {operations : List Operation}
    {operation : Operation}
    (isRecent : operation ∈ recent session operations) :
    operation.isRemoval = false := by
  have kept := List.mem_takeWhile_imp (List.mem_reverse.1 isRecent)
  simpa using kept

/-- The working directory of a session is told by its history, also while it has no entry. -/
theorem directoryOf_eq
    {registry : StatusRegistry}
    {session : String}
    {history : List Operation}
    (noRemoval : ∀ operation ∈ history, operation.isRemoval = false)
    (told : registry.get? session = entryOf registry.fallback history) :
    registry.directoryOf session = directoryIn registry.fallback history := by
  rw [directoryOf, told, entryOf]
  cases isLast : history.getLast? with
  | none =>
      rw [List.getLast?_eq_none_iff.1 isLast]
      rfl
  | some last =>
      cases last with
      | init session directory now => rfl
      | update change now => rfl
      | remove session => cases noRemoval _ (List.mem_of_getLast? isLast)

theorem isTerminal_iff {status : Status} :
    status.isTerminal = true ↔ status = .done ∨ status = .failed := by
  cases status <;> decide

/-- What an operation leaves is told by the history that it continues. -/
theorem leaves_eq
    {registry : StatusRegistry}
    {history : List Operation}
    {last : Operation}
    (notRemoval : last.isRemoval = false)
    (directory : registry.directoryOf last.session = directoryIn registry.fallback history) :
    registry.leaves last = entryOf registry.fallback (history ++ [last]) := by
  rw [leaves, if_neg (Bool.eq_false_iff.1 notRemoval), entryOf, List.getLast?_concat,
    Option.bind_some, directoryIn, List.filterMap_append]
  cases last with
  | init session named now =>
      change _ = Operation.entryIn
        ((history.filterMap Operation.directory? ++ [named]).getLast?.getD registry.fallback) _
      rw [List.getLast?_concat]
      rfl
  | update change now =>
      change _ = Operation.entryIn
        ((history.filterMap Operation.directory? ++ []).getLast?.getD registry.fallback) _
      rw [List.append_nil, ← directoryIn, ← directory, answer, updatedEntry, Operation.entryIn]
      simp only [isTerminal_iff, Operation.session]
  | remove session => cases notRemoval

/-- An entry is told by what was done to its session since it was last removed. -/
theorem get?_performAll (fallback : String) (operations : List Operation) (session : String) :
    ((empty fallback).performAll operations).get? session =
      entryOf fallback (recent session operations) := by
  induction operations using List.reverseRecOn with
  | nil => rfl
  | append_singleton earlier last inductionHypothesis =>
      rw [performAll_concat, get?_perform, recent_concat]
      by_cases same : session = last.session
      · rw [if_pos same, if_pos same]
        subst same
        have isFallback : ((empty fallback).performAll earlier).fallback = fallback :=
          fallback_performAll (empty fallback) earlier
        cases isRemoval : last.isRemoval with
        | true => rw [leaves, if_pos isRemoval, if_pos rfl]; rfl
        | false =>
            rw [if_neg Bool.false_ne_true, leaves_eq isRemoval, isFallback]
            apply directoryOf_eq fun _ => isRemoval_of_mem_recent
            rw [inductionHypothesis, isFallback]
      · rw [if_neg same, if_neg same, inductionHypothesis]

/-- An exit code is only kept with a terminal status. -/
theorem isTerminal_of_exitCode
    {fallback : String}
    {history : List Operation}
    {entry : StatusEntry}
    (told : entryOf fallback history = some entry)
    (coded : entry.exitCode ≠ none) :
    entry.status = .done ∨ entry.status = .failed := by
  obtain ⟨last, -, left⟩ := Option.bind_eq_some_iff.1 told
  cases last with
  | init session directory now =>
      cases left
      exact absurd rfl coded
  | update change now =>
      cases left
      by_contra notTerminal
      exact coded (if_neg notTerminal)
  | remove session => cases left

/-! ## Updates and working directories -/

theorem directoryOf_update
    (registry : StatusRegistry)
    (change : StatusUpdate)
    (now : UInt64)
    (session : String) :
    (registry.perform (.update change now)).directoryOf session = registry.directoryOf session := by
  rw [directoryOf, get?_perform]
  by_cases same : session = (Operation.update change now).session
  · rw [if_pos same, same]
    rfl
  · rw [if_neg same]
    rfl

/-- Updates change no working directory, whether or not there is an entry. -/
theorem directoryOf_performAll
    (registry : StatusRegistry)
    {updates : List Operation}
    (areUpdates : ∀ operation ∈ updates, operation.isUpdate = true)
    (session : String) :
    (registry.performAll updates).directoryOf session = registry.directoryOf session := by
  induction updates generalizing registry with
  | nil => rfl
  | cons first rest inductionHypothesis =>
      obtain ⟨isUpdate, others⟩ := List.forall_mem_cons.1 areUpdates
      have kept := inductionHypothesis (registry.perform first) others
      cases first with
      | update change now => exact kept.trans (directoryOf_update registry change now session)
      | init session directory now => cases isUpdate
      | remove session => cases isUpdate

/-! ## Different sessions -/

/-- An operation answers the same after an operation on another session. -/
theorem answer_perform
    (registry : StatusRegistry)
    {first second : Operation}
    (different : first.session ≠ second.session) :
    (registry.perform second).answer first = registry.answer first := by
  have unseen : (registry.perform second).get? first.session = registry.get? first.session := by
    rw [get?_perform, if_neg different]
  cases first with
  | init session directory now => rfl
  | update change now =>
      have unmoved : (registry.perform second).directoryOf change.sessionId =
          registry.directoryOf change.sessionId := by
        rw [Operation.session] at unseen
        rw [directoryOf, directoryOf, fallback_perform, unseen]
      rw [answer, answer, updatedEntry, updatedEntry, unmoved]
  | remove session => exact unseen

/-- Operations on different sessions may be done in either order. -/
theorem get?_perform_comm
    (registry : StatusRegistry)
    {first second : Operation}
    (different : first.session ≠ second.session)
    (session : String) :
    ((registry.perform first).perform second).get? session =
      ((registry.perform second).perform first).get? session := by
  rw [get?_perform, get?_perform, get?_perform, get?_perform, leaves, leaves, leaves, leaves,
    answer_perform registry different, answer_perform registry different.symm]
  by_cases isFirst : session = first.session
  · subst isFirst
    rw [if_neg different, if_pos rfl, if_pos rfl]
  · rw [if_neg isFirst, if_neg isFirst]

/-! ## Entries and histories -/

/-- Every entry is told by the history of its session. Updates change no working directory, an
exit code comes with a terminal status, the answer to an update is the entry that it stores, and
operations on different sessions commute. -/
theorem entries_follow_histories
    (fallback : String)
    (operations : List Operation) :
    let registry := (empty fallback).performAll operations
    (∀ session, registry.get? session = entryOf fallback (recent session operations)) ∧
    (∀ updates : List Operation, (∀ operation ∈ updates, operation.isUpdate = true) →
      ∀ session,
        (registry.performAll updates).directoryOf session = registry.directoryOf session ∧
        ∀ (Runner : Type) (runner : CommandRunner Runner) (world : World Runner)
          (row : Listing.Row),
          row.name = session → world.registry = registry.performAll updates →
          ((SessionManager.summarize row).run runner world).1.workingDirectory =
            registry.directoryOf session) ∧
    (∀ session entry, registry.get? session = some entry → entry.exitCode ≠ none →
      entry.status = .done ∨ entry.status = .failed) ∧
    (∀ (Runner : Type) (runner : CommandRunner Runner) (world : World Runner)
      (update : StatusUpdate), world.registry = registry →
        let report := (world.act runner (.applyUpdate update)).1
        let after := (world.act runner (.applyUpdate update)).2
        report.sessionId = update.sessionId ∧
          after.registry.get? update.sessionId = some report.entry) ∧
    ∀ first second : Operation, first.session ≠ second.session →
      (∀ session, ((registry.perform first).perform second).get? session =
        ((registry.perform second).perform first).get? session) ∧
      (registry.perform second).answer first = registry.answer first := by
  intro registry
  have told := get?_performAll fallback operations
  refine ⟨told, ?_, ?_, ?_, ?_⟩
  · intro updates areUpdates session
    have kept := directoryOf_performAll registry areUpdates session
    refine ⟨kept, ?_⟩
    intro Runner runner world row isRow isRegistry
    rw [SessionManager.run_summarize, SessionManager.workingDirectory_summaryOf, isRow,
      isRegistry, kept]
  · intro session entry isEntry
    exact isTerminal_of_exitCode ((told session).symm.trans isEntry)
  · intro Runner runner world update isRegistry report after
    refine ⟨rfl, ?_⟩
    change (world.registry.applyUpdate update world.now).get? update.sessionId = _
    rw [StatusRegistry.get?_applyUpdate, if_pos rfl]
    rfl
  · intro first second different
    exact ⟨get?_perform_comm registry different, answer_perform registry different⟩

end StatusRegistry
end SessionHub
