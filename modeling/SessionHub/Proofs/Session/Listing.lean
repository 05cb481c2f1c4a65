import Mathlib.Data.List.Forall2
import SessionHub.Proofs.Json.Lexical
import SessionHub.Proofs.Session.Stage
import SessionHub.Proofs.Text.Lines

/-!
# What a list of sessions shows

The multiplexer prints a line for each session. The sessions whose names begin as configured are
listed in the order of these lines, each joined with its status entry if there is one. Whatever
else the command prints, what is listed comes from lines of its own.
-/

namespace SessionHub
namespace Listing

/-! ## Lines and rows -/

/-- A session as the multiplexer knows it. -/
structure Session where
  name : String
  /-- Seconds since 1970. -/
  created : UInt64

/-- The line that is printed for a session. -/
def Session.line (session : Session) : List Char :=
  session.name.toList ++ '\t' :: Text.natDigits session.created.toNat

/-- A name that can be told from its line. -/
structure IsPlain (name : List Char) : Prop where
  nonempty : name ≠ []
  noTab : '\t' ∉ name
  noFeed : '\n' ∉ name
  trimmed : Text.IsTrimmed name

/-- A name stands, between blanks, in the first field of a line, and it begins as configured. -/
structure StandsIn (beginning : String) (line : List Char) (name : String) : Prop where
  nonempty : name.toList ≠ []
  trimmed : Text.IsTrimmed name.toList
  begins : beginning.toList <+: name.toList
  field : ∃ before after, (∀ character ∈ before ++ after, Text.isBlank character = true) ∧
    '\t' ∉ before ++ name.toList ++ after ∧
    (line = before ++ name.toList ++ after ∨
      ∃ rest, line = before ++ name.toList ++ after ++ '\t' :: rest)

variable {beginning : String}

theorem notBlank_of_isDigit
    {character : Char}
    (digit : Text.isDigit character = true) :
    Text.isBlank character = false := by
  have bounds : '0' ≤ character ∧ character ≤ '9' := by
    simpa only [Text.isDigit, Bool.and_eq_true, decide_eq_true_iff] using digit
  exact Text.isBlank_of_bounds (Nat.lt_of_lt_of_le (by decide) bounds.1)
    (Nat.lt_of_le_of_lt bounds.2 (by decide))

theorem isTrimmed_natDigits (number : Nat) : Text.IsTrimmed (Text.natDigits number) where
  head _ isFirst := notBlank_of_isDigit (Text.isDigit_of_mem_natDigits (List.mem_of_head? isFirst))
  last _ isLast :=
    notBlank_of_isDigit (Text.isDigit_of_mem_natDigits (List.mem_of_getLast? isLast))

theorem isTrimmed_line
    {session : Session}
    (plain : IsPlain session.name.toList) :
    Text.IsTrimmed session.line where
  head character isFirst := by
    rw [Session.line, List.head?_append_of_ne_nil _ plain.nonempty] at isFirst
    exact plain.trimmed.head character isFirst
  last character isLast := by
    rw [Session.line, ← List.singleton_append, ← List.append_assoc,
      List.getLast?_append_of_ne_nil _ (Text.natDigits_ne_nil _)] at isLast
    exact (isTrimmed_natDigits _).last character isLast

theorem noFeed_line
    {session : Session}
    (plain : IsPlain session.name.toList) :
    '\n' ∉ session.line := by
  intro isFeed
  rcases List.mem_append.1 isFeed with inName | inRest
  · exact plain.noFeed inName
  · rcases List.mem_cons.1 inRest with isTab | inDigits
    · cases isTab
    · cases Text.isDigit_of_mem_natDigits inDigits

/-- The line of a session is read as this session, if its name begins as configured. -/
theorem rowOfLine?_line
    {session : Session}
    (plain : IsPlain session.name.toList) :
    rowOfLine? beginning session.line =
      if beginning.toList.isPrefixOf session.name.toList then
        some ⟨session.name, some session.created⟩
      else none := by
  unfold rowOfLine? Session.line
  rw [Text.splitFirst_append plain.noTab]
  dsimp only
  rw [Text.trimBoth_eq_self plain.trimmed, Option.bind_some,
    Text.trimBoth_eq_self (isTrimmed_natDigits _),
    Text.readBelow?_natDigits session.created.toNat_lt, Option.map_some, UInt64.ofNat_toNat,
    String.ofList_toList]
  by_cases begins : beginning.toList.isPrefixOf session.name.toList
  · rw [if_pos begins, if_neg]
    rintro (isEmpty | foreign)
    · exact plain.nonempty (List.isEmpty_iff.1 isEmpty)
    · exact foreign begins
  · rw [if_neg begins, if_pos (.inr begins)]

/-- A row that is read from a line is named by what stands in its first field. -/
theorem standsIn_of_rowOfLine?
    {line : List Char}
    {row : Row}
    (isRow : rowOfLine? beginning line = some row) :
    StandsIn beginning line row.name := by
  unfold rowOfLine? at isRow
  obtain ⟨noTab, whole⟩ := Text.splitFirst_spec '\t' line
  generalize Text.splitFirst '\t' line = fields at isRow noTab whole
  dsimp only at isRow
  split at isRow
  · cases isRow
  · next ours =>
    rw [not_or, not_not] at ours
    cases isRow
    obtain ⟨before, after, field, blankBefore, blankAfter⟩ := Text.exists_trimBoth fields.1
    constructor
    · rw [String.toList_ofList]
      exact mt List.isEmpty_iff.2 ours.1
    · rw [String.toList_ofList]
      exact Text.isTrimmed_trimBoth fields.1
    · rw [String.toList_ofList]
      exact List.isPrefixOf_iff_prefix.1 ours.2
    · refine ⟨before, after, fun character isOuter => ?_, ?_, ?_⟩
      · exact (List.mem_append.1 isOuter).elim (blankBefore character) (blankAfter character)
      · rw [String.toList_ofList, ← field]
        exact noTab
      · rw [String.toList_ofList, ← field]
        exact whole

/-! ## What is printed -/

/-- The sessions that are ours, by their names. -/
def ours (beginning : String) (sessions : List Session) : List Session :=
  sessions.filter fun session => beginning.toList.isPrefixOf session.name.toList

/-- What is printed for sessions is read as those that are ours. -/
theorem rows_of_isWrittenIn
    {sessions : List Session}
    (plain : ∀ session ∈ sessions, IsPlain session.name.toList)
    {output : String}
    (written : Text.IsWrittenIn output.toList (sessions.map Session.line)) :
    rows beginning output =
      (ours beginning sessions).map fun session => ⟨session.name, some session.created⟩ := by
  have isLines : Text.lines output.toList = sessions.map Session.line := by
    apply Text.lines_of_isWrittenIn written
    · exact List.forall_mem_map.2 fun session listed => noFeed_line (plain session listed)
    · exact List.forall_mem_map.2 fun session listed => isTrimmed_line (plain session listed)
    · exact List.forall_mem_map.2 fun session _ =>
        List.append_ne_nil_of_right_ne_nil _ (List.cons_ne_nil _ _)
  rw [rows, isLines, List.filterMap_map, ours, ← List.filterMap_eq_map,
    List.filterMap_filter]
  apply List.filterMap_congr
  intro session listed
  exact rowOfLine?_line (plain session listed)

example : rows "chat-" "chat-a\t5\r\nother\t6\n\n chat-b" =
    [⟨"chat-a", some 5⟩, ⟨"chat-b", none⟩] := by
  decide +kernel

/-- What a partial reading keeps of a list comes, in order, from elements of its own. -/
theorem exists_sublist_of_filterMap
    (read : α → Option β)
    (whole : List α) :
    ∃ chosen, chosen.Sublist whole ∧
      List.Forall₂ (fun element result => read element = some result) chosen
        (whole.filterMap read) := by
  induction whole with
  | nil => exact ⟨[], .slnil, .nil⟩
  | cons element rest inductionHypothesis =>
      obtain ⟨chosen, isPart, related⟩ := inductionHypothesis
      cases isRead : read element with
      | none =>
          rw [List.filterMap_cons_none isRead]
          exact ⟨chosen, isPart.cons element, related⟩
      | some result =>
          rw [List.filterMap_cons_some isRead]
          exact ⟨element :: chosen, isPart.cons_cons element, .cons isRead related⟩

/-- No time that is read is too large to be told in milliseconds. -/
def IsTimely (beginning output : String) : Prop :=
  ∀ row ∈ rows beginning output, ∀ created ∈ row.created,
    created.toNat ≤ (UInt64.size - 1) / 1000

end Listing

/-! ## Summaries -/

/-- A summary shows the status entry of its session, or for want of an entry the fallback
directory and a session that has been idle since its creation, if the time of it is known. -/
structure SessionSummary.Shows (summary : SessionSummary) (registry : StatusRegistry) : Prop where
  known : ∀ entry, registry.get? summary.sessionId = some entry →
    summary.workingDirectory = entry.workingDirectory ∧ summary.status = entry.status ∧
      summary.since = entry.since
  unknown : registry.get? summary.sessionId = none →
    summary.workingDirectory = registry.fallback ∧ summary.status = .idle ∧
      summary.since.toNat = (summary.createdAt.map UInt64.toNat).getD 0 * 1000

namespace SessionManager

variable {Runner : Type} (runner : CommandRunner Runner) (world : World Runner)

/-- The summary of a row, as the registry is. -/
def summaryOf (registry : StatusRegistry) (row : Listing.Row) : SessionSummary :=
  match registry.get? row.name with
  | some entry => knownSummary row entry
  | none => unknownSummary row registry.fallback

theorem sessionId_summaryOf (registry : StatusRegistry) (row : Listing.Row) :
    (summaryOf registry row).sessionId = row.name := by
  unfold summaryOf
  cases registry.get? row.name <;> rfl

theorem createdAt_summaryOf (registry : StatusRegistry) (row : Listing.Row) :
    (summaryOf registry row).createdAt = row.created := by
  unfold summaryOf
  cases registry.get? row.name <;> rfl

theorem workingDirectory_summaryOf (registry : StatusRegistry) (row : Listing.Row) :
    (summaryOf registry row).workingDirectory = registry.directoryOf row.name := by
  unfold summaryOf StatusRegistry.directoryOf
  cases registry.get? row.name <;> rfl

/-- A time that is not too large is told in milliseconds without a wrap. -/
theorem shows_summaryOf
    (registry : StatusRegistry)
    {row : Listing.Row}
    (timely : ∀ created ∈ row.created, created.toNat ≤ (UInt64.size - 1) / 1000) :
    (summaryOf registry row).Shows registry := by
  constructor
  · intro entry isEntry
    rw [sessionId_summaryOf] at isEntry
    rw [summaryOf, isEntry]
    exact ⟨rfl, rfl, rfl⟩
  · intro isAbsent
    rw [sessionId_summaryOf] at isAbsent
    rw [createdAt_summaryOf, summaryOf, isAbsent]
    refine ⟨rfl, rfl, ?_⟩
    cases isCreated : row.created with
    | none => simp [unknownSummary, isCreated]
    | some created =>
        have small := timely created isCreated
        have fits : created.toNat * 1000 < UInt64.size := by
          have size : UInt64.size = 18446744073709551616 := rfl
          omega
        simp only [unknownSummary, isCreated, Option.map_some, Option.getD_some]
        rw [UInt64.toNat_mul]
        exact Nat.mod_eq_of_lt fits

theorem run_summarize (row : Listing.Row) :
    (summarize row).run runner world = (summaryOf world.registry row, world) := by
  have looked : (summarize row).run runner world = _ :=
    Job.run_bind runner (Job.perform (.lookup row.name)) _ world
  have found : (Job.perform (.lookup row.name)).run runner world =
      (world.registry.get? row.name, world) := rfl
  rw [looked, found, summaryOf]
  cases world.registry.get? row.name <;> rfl

theorem run_summarizeAll (rows : List Listing.Row) :
    (summarizeAll rows).run runner world = (rows.map (summaryOf world.registry), world) := by
  induction rows with
  | nil => rfl
  | cons row rest inductionHypothesis =>
      have first : (summarizeAll (row :: rest)).run runner world = _ :=
        Job.run_bind runner (summarize row) _ world
      rw [first, run_summarize, Job.bind_eq, Job.run_bind, inductionHypothesis]
      rfl

variable (manager : SessionManager)

/-- The arguments that ask for the listing. -/
def listArguments : List String :=
  ["list-sessions", "-F", Listing.format]

/-- What is listed by the answer to the command, as the registry is. -/
def listed (registry : StatusRegistry) :
    CommandResult → Except SessionError (List SessionSummary)
  | .error failure => .error (.command failure)
  | .ok output =>
    .ok <| if output.isSuccess then
        (Listing.rows manager.settings.sessionPrefix output.stdout).map (summaryOf registry)
      else []

theorem run_list :
    manager.list.run runner world =
      (manager.listed world.registry (manager.answer runner world listArguments),
        manager.afterCommand runner world listArguments) := by
  have asked : manager.list.run runner world = _ :=
    manager.run_command_bind runner world listArguments _
  rw [asked]
  cases manager.answer runner world listArguments with
  | error failure => rfl
  | ok output =>
      rw [listed]
      dsimp only
      split
      · rw [Job.bind_eq, Job.run_bind, run_summarizeAll]
        rfl
      · rfl

theorem run_get (session : String) :
    (manager.get session).run runner world =
      ((manager.list.run runner world).1.bind (pick session),
        (manager.list.run runner world).2) :=
  Job.run_bind runner manager.list _ world

/-- A session is looked up as the first summary of its name. -/
theorem pick_eq_ok_iff
    {session : String}
    {summaries : List SessionSummary}
    {summary : SessionSummary} :
    pick session summaries = .ok summary ↔
      summary.sessionId = session ∧ ∃ before after, summaries = before ++ summary :: after ∧
        ∀ other ∈ before, other.sessionId ≠ session := by
  have found : pick session summaries = .ok summary ↔
      summaries.find? (·.sessionId = session) = some summary := by
    unfold pick
    cases summaries.find? (·.sessionId = session) <;> simp
  rw [found, List.find?_eq_some_iff_append]
  simp only [decide_eq_true_iff, Bool.not_eq_true', decide_eq_false_iff_not, ne_eq]

theorem pick_eq_error_iff
    {session : String}
    {summaries : List SessionSummary}
    {failure : SessionError} :
    pick session summaries = .error failure ↔
      failure = .notFound session ∧ ∀ summary ∈ summaries, summary.sessionId ≠ session := by
  have missed : pick session summaries = .error failure ↔
      failure = .notFound session ∧ summaries.find? (·.sessionId = session) = none := by
    unfold pick
    cases summaries.find? (·.sessionId = session) <;> simp [eq_comm]
  rw [missed, List.find?_eq_none]
  simp only [decide_eq_true_iff, ne_eq]

section Listed

open Listing

variable {manager}
variable {registry : StatusRegistry}
variable {output : CommandOutput}

theorem listed_of_success (success : output.exitCode = 0) :
    manager.listed registry (.ok output) =
      .ok ((rows manager.settings.sessionPrefix output.stdout).map (summaryOf registry)) := by
  rw [listed, if_pos (CommandOutput.isSuccess_iff.2 success)]

/-- The sessions that were printed are listed, one summary for each that is ours. -/
theorem forall₂_of_isWrittenIn
    {sessions : List Session}
    (readable : ∀ session ∈ sessions,
      IsPlain session.name.toList ∧ session.created.toNat ≤ (UInt64.size - 1) / 1000)
    (written : Text.IsWrittenIn output.stdout.toList (sessions.map Session.line)) :
    List.Forall₂
      (fun session summary => summary.sessionId = session.name ∧
        summary.createdAt = some session.created ∧ summary.Shows registry)
      (ours manager.settings.sessionPrefix sessions)
      ((rows manager.settings.sessionPrefix output.stdout).map (summaryOf registry)) := by
  rw [rows_of_isWrittenIn (fun session listed => (readable session listed).1) written,
    List.map_map, List.forall₂_map_right_iff, List.forall₂_same]
  intro session isOurs
  refine ⟨sessionId_summaryOf registry _, createdAt_summaryOf registry _, ?_⟩
  apply shows_summaryOf
  intro created isCreated
  cases isCreated
  exact (readable session (List.mem_of_mem_filter isOurs)).2

/-- Every summary comes from a line of its own. -/
theorem exists_lines_of_isTimely
    (timely : IsTimely manager.settings.sessionPrefix output.stdout) :
    ∃ chosen, chosen.Sublist (Text.lines output.stdout.toList) ∧
      List.Forall₂
        (fun line summary =>
          StandsIn manager.settings.sessionPrefix line summary.sessionId ∧ summary.Shows registry)
        chosen ((rows manager.settings.sessionPrefix output.stdout).map (summaryOf registry)) := by
  obtain ⟨chosen, isPart, related⟩ :=
    exists_sublist_of_filterMap (rowOfLine? manager.settings.sessionPrefix)
      (Text.lines output.stdout.toList)
  -- Times are known to be small of the rows only, so that the rows are put first.
  have ofRows : List.Forall₂
      (fun row line => rowOfLine? manager.settings.sessionPrefix line = some row)
      (rows manager.settings.sessionPrefix output.stdout) chosen := related.flip
  refine ⟨chosen, isPart, List.forall₂_map_right_iff.2 (List.Forall₂.flip ?_)⟩
  refine ((List.forall₂_and_left _ _).2 ⟨timely, ofRows⟩).imp ?_
  rintro row line ⟨timelyRow, isRow⟩
  refine ⟨?_, shows_summaryOf registry timelyRow⟩
  rw [sessionId_summaryOf]
  exact standsIn_of_rowOfLine? isRow

end Listed

/-- A list shows the sessions that the multiplexer prints, in order and under their names, and a
lookup gives the first of them that has the name. -/
theorem list_shows_sessions
    (manager : SessionManager)
    (runner : CommandRunner Runner)
    (world : World Runner) :
    let answer := manager.answer runner world listArguments
    let listed := (manager.list.run runner world).1
    (∀ failure, answer = .error failure → listed = .error (.command failure)) ∧
    (∀ output, answer = .ok output → output.exitCode ≠ 0 → listed = .ok []) ∧
    (∀ output, answer = .ok output → output.exitCode = 0 →
      (∀ sessions : List Listing.Session,
        (∀ session ∈ sessions, Listing.IsPlain session.name.toList ∧
          session.created.toNat ≤ (UInt64.size - 1) / 1000) →
        Text.IsWrittenIn output.stdout.toList (sessions.map Listing.Session.line) →
        ∃ summaries, listed = .ok summaries ∧
          List.Forall₂
            (fun session summary => summary.sessionId = session.name ∧
              summary.createdAt = some session.created ∧ summary.Shows world.registry)
            (Listing.ours manager.settings.sessionPrefix sessions) summaries) ∧
      (Listing.IsTimely manager.settings.sessionPrefix output.stdout →
        ∃ summaries, listed = .ok summaries ∧
          ∃ chosen, chosen.Sublist (Text.lines output.stdout.toList) ∧
            List.Forall₂
              (fun line summary =>
                Listing.StandsIn manager.settings.sessionPrefix line summary.sessionId ∧
                  summary.Shows world.registry)
              chosen summaries)) ∧
    ∀ session,
      let found := ((manager.get session).run runner world).1
      (∀ failure, listed = .error failure → found = .error failure) ∧
      ∀ summaries, listed = .ok summaries →
        (∀ summary, found = .ok summary ↔
          summary.sessionId = session ∧ ∃ before after, summaries = before ++ summary :: after ∧
            ∀ other ∈ before, other.sessionId ≠ session) ∧
        ∀ failure, found = .error failure ↔
          failure = .notFound session ∧ ∀ summary ∈ summaries, summary.sessionId ≠ session := by
  intro answer listed
  have isListed : listed = manager.listed world.registry answer :=
    congrArg Prod.fst (manager.run_list runner world)
  refine ⟨?_, ?_, ?_, ?_⟩
  · intro failure failed
    rw [isListed, failed]
    rfl
  · intro output isAnswer failed
    rw [isListed, isAnswer, SessionManager.listed, if_neg (mt CommandOutput.isSuccess_iff.1 failed)]
  · intro output isAnswer success
    rw [isListed, isAnswer, listed_of_success success]
    exact ⟨fun sessions readable written => ⟨_, rfl, forall₂_of_isWrittenIn readable written⟩,
      fun timely => ⟨_, rfl, exists_lines_of_isTimely timely⟩⟩
  · intro session found
    have isFound : found = listed.bind (pick session) :=
      congrArg Prod.fst (manager.run_get runner world session)
    rw [isFound]
    refine ⟨?_, ?_⟩
    · intro failure failed
      rw [failed]
      rfl
    · intro summaries succeeded
      rw [succeeded]
      exact ⟨fun summary => pick_eq_ok_iff, fun failure => pick_eq_error_iff⟩

end SessionManager
end SessionHub
