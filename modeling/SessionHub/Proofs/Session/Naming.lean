import SessionHub.Proofs.Session.Atomicity
import SessionHub.Proofs.Session.Listing
import SessionHub.Settings.File

/-!
# Names of created sessions

A name that is given for a new session has to follow the naming rule. A name that is made up
begins as configured, whatever that is, so that it follows the rule exactly if the beginning is
made of characters of names. A list shows the session under its name exactly if the beginning
holds neither tab nor line feed and does not start with a blank.
-/

namespace SessionHub

namespace SessionName

/-! ## The naming rule -/

theorem isNameCharacter_of_mem_suffix
    {word : UInt32}
    {character : Char}
    (mem : character ∈ suffix word) :
    isNameCharacter character = true := by
  obtain ⟨shift, _, rfl⟩ := List.mem_map.1 mem
  have listed : ∀ value < 16, isNameCharacter (Text.hexDigit value) = true := by decide
  exact listed _ (Nat.mod_lt _ (by decide))

theorem toList_generate (beginning : String) (word : UInt32) :
    (generate beginning word).toList = beginning.toList ++ suffix word :=
  String.toList_ofList

/-- A name that is made up follows the rule exactly if its beginning is made of characters of
names. -/
theorem isValid_generate_iff {beginning : String} {word : UInt32} :
    isValid beginning (generate beginning word) = true ↔
      ∀ character ∈ beginning.toList, isNameCharacter character = true := by
  rw [isValid_iff, toList_generate, List.forall_mem_append, List.length_append]
  constructor
  · exact fun valid => valid.1.1
  · intro isName
    exact ⟨⟨isName, fun _ => isNameCharacter_of_mem_suffix⟩, List.prefix_append _ _,
      Nat.lt_add_of_pos_right (by decide : 0 < 8)⟩

/-! ## Names that can be read back -/

/-- A beginning with which names can be read back from a listing. -/
structure IsReadable (beginning : List Char) : Prop where
  noTab : '\t' ∉ beginning
  noFeed : '\n' ∉ beginning
  head : ∀ character ∈ beginning.head?, Text.isBlank character = false

theorem bounds_of_isNameCharacter
    {character : Char}
    (isName : isNameCharacter character = true) :
    0x20 < character.toNat ∧ character.toNat < 0x80 := by
  have between
      {low high : UInt32}
      (inside : low ≤ character.val ∧ character.val ≤ high)
      (isLow : 0x20 < low.toNat)
      (isHigh : high.toNat < 0x80) :
      0x20 < character.toNat ∧ character.toNat < 0x80 :=
    ⟨Nat.lt_of_lt_of_le isLow inside.1, Nat.lt_of_le_of_lt inside.2 isHigh⟩
  have both {first second : Prop} [Decidable first] [Decidable second]
      (holds : (decide first && decide second) = true) : first ∧ second :=
    (Bool.and_eq_true_iff.1 holds).imp of_decide_eq_true of_decide_eq_true
  rw [isNameCharacter, Bool.or_eq_true_iff, Bool.or_eq_true_iff, decide_eq_true_iff,
    decide_eq_true_iff] at isName
  rcases isName with (isAlphanumeric | rfl) | rfl
  · rcases Bool.or_eq_true_iff.1 isAlphanumeric with isLetter | isDigit
    · rcases Bool.or_eq_true_iff.1 isLetter with isUpper | isLower
      · exact between (of_decide_eq_true isUpper) (by decide) (by decide)
      · exact between (both isLower) (by decide) (by decide)
    · exact between (both isDigit) (by decide) (by decide)
  · decide
  · decide

theorem isBlank_of_isNameCharacter
    {character : Char}
    (isName : isNameCharacter character = true) :
    Text.isBlank character = false := by
  obtain ⟨lower, upper⟩ := bounds_of_isNameCharacter isName
  exact Text.isBlank_of_bounds lower upper

theorem isReadable_of_forall
    {beginning : List Char}
    (isName : ∀ character ∈ beginning, isNameCharacter character = true) :
    IsReadable beginning where
  noTab isTab := nomatch isName '\t' isTab
  noFeed isFeed := nomatch isName '\n' isFeed
  head character isFirst :=
    isBlank_of_isNameCharacter (isName character (List.mem_of_head? isFirst))

end SessionName

namespace Listing

open SessionName

variable {beginning : String}

theorem isPlain_of_forall
    {name : List Char}
    (nonempty : name ≠ [])
    (isName : ∀ character ∈ name, isNameCharacter character = true) :
    IsPlain name where
  nonempty := nonempty
  noTab isTab := nomatch isName '\t' isTab
  noFeed isFeed := nomatch isName '\n' isFeed
  trimmed.head character isFirst :=
    isBlank_of_isNameCharacter (isName character (List.mem_of_head? isFirst))
  trimmed.last character isLast :=
    isBlank_of_isNameCharacter (isName character (List.mem_of_getLast? isLast))

/-- A name that is made up can be read back exactly if its beginning is such that it can. -/
theorem isPlain_generate_iff {word : UInt32} :
    IsPlain (generate beginning word).toList ↔ IsReadable beginning.toList := by
  have isSuffix : IsPlain (suffix word) :=
    isPlain_of_forall (List.cons_ne_nil _ _) fun _ => isNameCharacter_of_mem_suffix
  rw [toList_generate]
  constructor
  · intro plain
    refine ⟨fun isTab => plain.noTab (List.mem_append_left _ isTab),
      fun isFeed => plain.noFeed (List.mem_append_left _ isFeed), fun character isFirst => ?_⟩
    apply plain.trimmed.head
    rw [List.head?_append, Option.mem_def.1 isFirst]
    rfl
  · intro readable
    refine ⟨List.append_ne_nil_of_right_ne_nil _ isSuffix.nonempty, ?_, ?_, ⟨?_, ?_⟩⟩
    · exact List.not_mem_append readable.noTab isSuffix.noTab
    · exact List.not_mem_append readable.noFeed isSuffix.noFeed
    · intro character isFirst
      rw [List.head?_append] at isFirst
      rcases Option.or_eq_some_iff.1 isFirst with isFirst | ⟨_, isFirst⟩
      · exact readable.head character isFirst
      · exact isSuffix.trimmed.head character isFirst
    · intro character isLast
      rw [List.getLast?_append_of_ne_nil _ isSuffix.nonempty] at isLast
      exact isSuffix.trimmed.last character isLast

/-! ## Reading back -/

/-- Whatever is printed, the names that are listed can be told from their lines. -/
theorem isPlain_of_mem_rows
    {output : String}
    {row : Row}
    (listed : row ∈ rows beginning output) :
    IsPlain row.name.toList := by
  obtain ⟨line, isLine, isRow⟩ := List.mem_filterMap.1 listed
  have stands := standsIn_of_rowOfLine? isRow
  obtain ⟨before, after, _, noTab, whole⟩ := stands.field
  refine ⟨stands.nonempty, fun isTab => noTab ?_, fun isFeed => ?_, stands.trimmed⟩
  · exact List.mem_append_left _ (List.mem_append_right _ isTab)
  · apply Text.noFeed_of_mem_lines isLine
    have within : '\n' ∈ before ++ row.name.toList ++ after :=
      List.mem_append_left _ (List.mem_append_right _ isFeed)
    rcases whole with rfl | ⟨rest, rfl⟩
    · exact within
    · exact List.mem_append_left _ within

/-- A session whose line is printed is listed, if its name can be told from the line. -/
theorem mem_rows_of_isPrintedIn
    {session : Session}
    {output : String}
    (plain : IsPlain session.name.toList)
    (begins : beginning.toList <+: session.name.toList)
    (isPrinted : Text.IsPrintedIn session.line output.toList) :
    ⟨session.name, some session.created⟩ ∈ rows beginning output := by
  have isLine := Text.mem_lines_of_isPrintedIn isPrinted (noFeed_line plain) (isTrimmed_line plain)
  refine List.mem_filterMap.2 ⟨session.line, isLine, ?_⟩
  rw [rowOfLine?_line plain, if_pos (List.isPrefixOf_iff_prefix.2 begins)]

end Listing

namespace SessionManager

open SessionName Listing

variable {manager : SessionManager} {Runner : Type} {runner : CommandRunner Runner}

/-! ## Names that creations return -/

/-- A creation returns the name that was settled for it. -/
theorem name_of_created
    {given : Option String}
    {directory name : String}
    {before : World Runner}
    (created : ((manager.create given directory).run runner before).1 = .ok name) :
    manager.Admits given ∧ name = manager.nameFor before given := by
  by_cases admits : manager.Admits given
  · exact ⟨admits, ((manager.isCreation_create runner admits directory before).done _ created).1⟩
  · rw [manager.run_create_of_not_admits runner admits] at created
    cases created

variable {given : Option String} (admits : manager.Admits given) (world : World Runner)
include admits

theorem prefix_nameFor :
    manager.settings.sessionPrefix.toList <+: (manager.nameFor world given).toList := by
  rcases admits with rfl | ⟨name, rfl, valid⟩
  · rw [nameFor, toList_generate]
    exact List.prefix_append _ _
  · exact (isValid_iff.1 valid).2.1

/-- The name of a new session follows the rule exactly if the configured beginning is made of
characters of names. -/
theorem isValid_nameFor_iff :
    isValid manager.settings.sessionPrefix (manager.nameFor world given) = true ↔
      ∀ character ∈ manager.settings.sessionPrefix.toList, isNameCharacter character = true := by
  rcases admits with rfl | ⟨name, rfl, valid⟩
  · exact isValid_generate_iff
  · obtain ⟨isName, begins, _⟩ := isValid_iff.1 valid
    exact iff_of_true valid fun character mem => isName character (begins.subset mem)

theorem isPlain_nameFor_iff :
    IsPlain (manager.nameFor world given).toList ↔
      IsReadable manager.settings.sessionPrefix.toList := by
  rcases admits with rfl | ⟨name, rfl, valid⟩
  · exact isPlain_generate_iff
  · obtain ⟨isName, begins, longer⟩ := isValid_iff.1 valid
    refine iff_of_true (isPlain_of_forall ?_ isName)
      (isReadable_of_forall fun character mem => isName character (begins.subset mem))
    exact List.ne_nil_of_length_pos (Nat.zero_lt_of_lt longer)

omit admits

/-- What a list makes of the line of a session: the session is shown under its name, or nothing
is. -/
theorem exists_summary_iff_isPlain
    {session : Session}
    {output : CommandOutput}
    (begins : manager.settings.sessionPrefix.toList <+: session.name.toList)
    (isAnswer : manager.answer runner world listArguments = .ok output)
    (success : output.exitCode = 0)
    (isPrinted : Text.IsPrintedIn session.line output.stdout.toList) :
    ∃ summaries, (manager.list.run runner world).1 = .ok summaries ∧
      (IsPlain session.name.toList → ∃ summary ∈ summaries,
        summary.sessionId = session.name ∧ summary.createdAt = some session.created) ∧
      (¬IsPlain session.name.toList → ∀ summary ∈ summaries,
        summary.sessionId ≠ session.name) := by
  let listed := rows manager.settings.sessionPrefix output.stdout
  refine ⟨listed.map (summaryOf world.registry), ?_, fun plain => ?_, fun notPlain => ?_⟩
  · rw [manager.run_list, isAnswer]
    exact listed_of_success success
  · have isRow : ⟨session.name, some session.created⟩ ∈ listed :=
      mem_rows_of_isPrintedIn plain begins isPrinted
    exact ⟨_, List.mem_map_of_mem isRow, sessionId_summaryOf _ _, createdAt_summaryOf _ _⟩
  · refine List.forall_mem_map.2 fun row isRow same => notPlain ?_
    rw [← same, sessionId_summaryOf]
    exact isPlain_of_mem_rows isRow

/-- A name that was given follows the naming rule if a creation returns it. Whether a name that a
creation returns follows the rule is decided by the configured beginning alone, and so is whether
a list shows the session under this name once its line is printed. -/
theorem created_follows_rule_iff
    {directory name : String}
    {before : World Runner}
    (created : ((manager.create given directory).run runner before).1 = .ok name) :
    let beginning := manager.settings.sessionPrefix
    (∀ asked, given = some asked → name = asked ∧ isValid beginning name = true) ∧
    (isValid beginning name = true ↔
      ∀ character ∈ beginning.toList, isNameCharacter character = true) ∧
    ∀ (later : World Runner) (output : CommandOutput) (time : UInt64),
      manager.answer runner later listArguments = .ok output →
      output.exitCode = 0 →
      Text.IsPrintedIn (Session.line ⟨name, time⟩) output.stdout.toList →
      ∃ summaries, (manager.list.run runner later).1 = .ok summaries ∧
        (IsReadable beginning.toList → ∃ summary ∈ summaries,
          summary.sessionId = name ∧ summary.createdAt = some time) ∧
        (¬IsReadable beginning.toList → ∀ summary ∈ summaries, summary.sessionId ≠ name) := by
  intro beginning
  obtain ⟨admits, rfl⟩ := name_of_created created
  refine ⟨fun asked isGiven => ?_, isValid_nameFor_iff admits before, ?_⟩
  · subst isGiven
    rcases admits with isNone | ⟨_, same, valid⟩
    · cases isNone
    · cases same
      exact ⟨rfl, valid⟩
  · intro later output time isAnswer success isPrinted
    rw [← isPlain_nameFor_iff admits before]
    exact exists_summary_iff_isPlain later (prefix_nameFor admits before) isAnswer success isPrinted

/-- A world in which all random words are zero, and a session is printed second. -/
def printedWorld : World (List ScriptedReply) where
  registry := .empty "/"
  hub := .empty
  runner := [.finished { stdout := "other\t4\nchat-00000000\t5\n" }]
  clock _ := 0
  words _ := 0

theorem created_follows_rule_by_default :
    let manager : SessionManager := ⟨{}⟩
    let name := "chat-00000000"
    ((manager.create none "/w").run ScriptedReply.runner { printedWorld with runner := [] }).1 =
      .ok name ∧
    isValid "chat-" name = true ∧
    ∃ summaries, (manager.list.run ScriptedReply.runner printedWorld).1 = .ok summaries ∧
      ∃ summary ∈ summaries, summary.sessionId = name ∧ summary.createdAt = some 5 := by
  intro manager name
  have created : ((manager.create none "/w").run ScriptedReply.runner
      { printedWorld with runner := [] }).1 = .ok name := by
    decide +kernel
  have isName : ∀ character ∈ "chat-".toList, isNameCharacter character = true :=
    List.all_eq_true.1 (by decide)
  obtain ⟨_, valid_iff, shows⟩ := created_follows_rule_iff created
  obtain ⟨summaries, isList, shown, _⟩ := shows printedWorld
    { stdout := "other\t4\nchat-00000000\t5\n" } 5 rfl rfl
    ⟨"other\t4\n".toList, [], by decide +kernel, .inr ⟨"other\t4".toList, by decide +kernel⟩⟩
  exact ⟨created, valid_iff.2 isName, summaries, isList, shown (isReadable_of_forall isName)⟩

/-- With a blank as the configured beginning, which a settings file may ask for, a name that is
made up breaks the rule for names that are given, and the session is not listed. -/
theorem blank_beginning_hides_session :
    let settings : TmuxSettings := { sessionPrefix := " chat-" }
    let manager : SessionManager := ⟨settings⟩
    let name := " chat-00000000"
    let output := name ++ "\t5\n"
    Settings.parse? "[tmux]\nsession_prefix = \" chat-\"\n" = some { tmux := settings } ∧
    ((manager.create none "/w").run ScriptedReply.runner { printedWorld with runner := [] }).1 =
      .ok name ∧
    isValid settings.sessionPrefix name = false ∧
    Text.IsPrintedIn (Session.line ⟨name, 5⟩) output.toList ∧
    (manager.list.run ScriptedReply.runner
      { printedWorld with runner := [.finished { stdout := output }] }).1 = .ok [] := by
  intro settings manager name output
  refine ⟨by decide +kernel, by decide +kernel, by decide, ?_, by decide +kernel⟩
  exact ⟨[], [], by decide +kernel, .inl rfl⟩

end SessionManager
end SessionHub
