import SessionHub.Proofs.Json.Nesting
import SessionHub.Proofs.Json.Spelling

/-!
# Reading by the grammar

A node that has a value is read from a text exactly if the text writes it. What the reader
takes from the front of a text is written there, by induction on the fuel; what is written
at the front of a text is taken by the reader, by induction on the node, as long as nothing
follows that goes on with a number.
-/

namespace SessionHub
namespace Json

variable {text front rest gap : List Char} {levels fuel : Nat}

/-! ## Separated texts -/

theorem Padded.append_left
    {IsCore : List Char → Prop}
    (isGapText : IsGapText gap)
    (padded : Padded IsCore text) :
    Padded IsCore (gap ++ text) := by
  obtain ⟨before, core, after, rfl, isGapBefore, isCore, isGapAfter⟩ := padded
  refine ⟨gap ++ before, core, after, by simp only [List.append_assoc], ?_, isCore, isGapAfter⟩
  exact List.forall_mem_append.2 ⟨isGapText, isGapBefore⟩

/-- Blanks may stand before separated texts. -/
theorem Separated.append_left
    {texts : List (List Char)}
    (isGapText : IsGapText gap)
    (separated : Separated texts text) :
    Separated texts (gap ++ text) := by
  cases separated with
  | nothing isGapAfter => exact .nothing (List.forall_mem_append.2 ⟨isGapText, isGapAfter⟩)
  | last padded => exact .last (padded.append_left isGapText)
  | cons padded others =>
      rw [← List.append_assoc]
      exact .cons (padded.append_left isGapText) others

theorem padded_append
    (core : List Char)
    (isGapText : IsGapText gap) :
    Padded (· = core) (core ++ gap) :=
  ⟨[], core, gap, rfl, isGapText_nil, rfl, isGapText⟩

/-! ## Nodes with a value -/

namespace Node

theorem toValue?_number_ne_none_iff {literal : Literal} :
    (Node.number literal).toValue? levels ≠ none ↔ literal.toNumber? ≠ none := by
  rw [toValue?]
  exact not_congr Option.map_eq_none_iff

theorem toValue?_string_ne_none_iff {content : Option String} :
    (Node.string content).toValue? levels ≠ none ↔ ∃ known, content = some known := by
  rw [toValue?]
  exact (not_congr Option.map_eq_none_iff).trans Option.ne_none_iff_exists'

theorem toValue?_array_ne_none_iff
    {items : List Node}
    {closed : Bool} :
    (Node.array items closed).toValue? levels ≠ none ↔
      closed = true ∧ 0 < levels ∧ itemValues? (levels - 1) items ≠ none := by
  rw [toValue?]
  split
  · next complete => simp [complete]
  · next incomplete =>
    simp only [ne_eq, not_true_eq_false, false_iff]
    exact fun parts => incomplete ⟨parts.1, parts.2.1⟩

theorem toValue?_object_ne_none_iff
    {members : List (Option String × Node)}
    {closed : Bool} :
    (Node.object members closed).toValue? levels ≠ none ↔
      closed = true ∧ 0 < levels ∧ memberValues? (levels - 1) members ≠ none := by
  rw [toValue?]
  split
  · next complete => simp [complete]
  · next incomplete =>
    simp only [ne_eq, not_true_eq_false, false_iff]
    exact fun parts => incomplete ⟨parts.1, parts.2.1⟩

theorem itemValues?_cons_ne_none_iff
    {item : Node}
    {items : List Node} :
    itemValues? levels (item :: items) ≠ none ↔
      item.toValue? levels ≠ none ∧ itemValues? levels items ≠ none := by
  rw [itemValues?]
  cases item.toValue? levels <;> cases itemValues? levels items <;> simp

theorem memberValues?_cons_ne_none_iff
    {key : Option String}
    {value : Node}
    {members : List (Option String × Node)} :
    memberValues? levels ((key, value) :: members) ≠ none ↔
      (∃ name, key = some name) ∧ value.toValue? levels ≠ none ∧
        memberValues? levels members ≠ none := by
  rw [memberValues?]
  cases key <;> cases value.toValue? levels <;> cases memberValues? levels members <;> simp

end Node

/-! ## What is read is written -/

/-- What is read with so much fuel and has a value is written at the front of the text. -/
structure ReadsWritten (fuel : Nat) : Prop where
  node : ∀ {text rest node levels},
    parseNode fuel text = (node, rest) → node.toValue? levels ≠ none →
      ∃ front, text = front ++ rest ∧ node.IsWritten levels front
  items : ∀ {text rest items levels},
    parseItems fuel text = (items, true, rest) → Node.itemValues? levels items ≠ none →
      ∃ texts inner, text = inner ++ ']' :: rest ∧ texts ≠ [] ∧ Separated texts inner ∧
        Node.AreWritten levels items texts
  members : ∀ {text rest members levels},
    parseMembers fuel text = (members, true, rest) → Node.memberValues? levels members ≠ none →
      ∃ texts inner, text = inner ++ '\x7d' :: rest ∧ texts ≠ [] ∧ Separated texts inner ∧
        Node.MembersAreWritten levels members texts

/-- Items that are read up to the end of their array are one last item, or an item, a comma and
further items. -/
theorem parseItems_closed
    {items : List Node}
    (parsed : parseItems (fuel + 1) text = (items, true, rest)) :
    ∃ item others after, items = item :: others ∧ parseNode fuel text = (item, after) ∧
      ((skipGap after = ']' :: rest ∧ others = []) ∨
        ∃ next, skipGap after = ',' :: next ∧
          parseItems fuel (skipGap next) = (others, true, rest)) := by
  cases text with
  | nil => cases parsed
  | cons first text =>
      rw [parseItems] at parsed
      · generalize parseNode fuel (first :: text) = read at parsed ⊢
        obtain ⟨item, after⟩ := read
        dsimp only at parsed
        split at parsed
        · next next last =>
          cases parsed
          exact ⟨item, [], after, rfl, rfl, .inl ⟨last, rfl⟩⟩
        · next next comma =>
          split at parsed
          · cases parsed
          · generalize parsedRest : parseItems fuel (skipGap next) = read at parsed
            obtain ⟨others, closed, following⟩ := read
            cases parsed
            exact ⟨item, others, after, rfl, rfl, .inr ⟨next, comma, parsedRest⟩⟩
        · cases parsed
      · intro isEmpty
        cases isEmpty

/-- Members that are read up to the end of their object are a key, a colon and a value each. -/
theorem parseMembers_closed
    {members : List (Option String × Node)}
    (parsed : parseMembers (fuel + 1) text = (members, true, rest)) :
    ∃ inside units afterKey afterColon value others after,
      text = '"' :: inside ∧ lexUnits inside = some (units, afterKey) ∧
      skipGap afterKey = ':' :: afterColon ∧
      parseNode fuel (skipGap afterColon) = (value, after) ∧
      members = (unitsToString units, value) :: others ∧
      ((skipGap after = '\x7d' :: rest ∧ others = []) ∨
        ∃ next, skipGap after = ',' :: next ∧
          parseMembers fuel (skipGap next) = (others, true, rest)) := by
  unfold parseMembers at parsed
  split at parsed
  · next same => cases same
  · next fuel' inside same =>
    cases same
    split at parsed
    · cases parsed
    · next units afterKey lexed =>
      dsimp only at parsed
      split at parsed
      · next afterColon colon =>
        generalize read : parseNode fuel (skipGap afterColon) = parts at parsed
        obtain ⟨value, after⟩ := parts
        dsimp only at parsed
        split at parsed
        · next next last =>
          cases parsed
          exact ⟨inside, units, afterKey, afterColon, value, [], after, rfl, lexed, colon, read,
            rfl, .inl ⟨last, rfl⟩⟩
        · next next comma =>
          split at parsed
          · cases parsed
          · generalize parsedRest : parseMembers fuel (skipGap next) = parts at parsed
            obtain ⟨others, closed, following⟩ := parts
            cases parsed
            exact ⟨inside, units, afterKey, afterColon, value, others, after, rfl, lexed, colon,
              read, rfl, .inr ⟨next, comma, parsedRest⟩⟩
        · cases parsed
      · cases parsed
  · cases parsed

theorem ReadsWritten.items_succ
    (reads : ReadsWritten fuel)
    {items : List Node}
    (parsed : parseItems (fuel + 1) text = (items, true, rest))
    (complete : Node.itemValues? levels items ≠ none) :
    ∃ texts inner, text = inner ++ ']' :: rest ∧ texts ≠ [] ∧ Separated texts inner ∧
      Node.AreWritten levels items texts := by
  obtain ⟨item, others, after, rfl, parsedItem, continued⟩ := parseItems_closed parsed
  obtain ⟨completeItem, completeOthers⟩ := Node.itemValues?_cons_ne_none_iff.1 complete
  obtain ⟨front, rfl, written⟩ := reads.node parsedItem completeItem
  obtain ⟨gap, isAfter, isGapText⟩ := exists_gap after
  have padded := padded_append front isGapText
  rcases continued with ⟨last, rfl⟩ | ⟨next, comma, parsedOthers⟩
  · refine ⟨[front], front ++ gap, ?_, nofun, .last padded, front, [], rfl, written, rfl⟩
    rw [isAfter, last, List.append_assoc]
  · obtain ⟨texts, inner, isInner, nonempty, separated, areWritten⟩ :=
      reads.items parsedOthers completeOthers
    obtain ⟨gapNext, isNext, isGapNext⟩ := exists_gap next
    obtain ⟨second, later, rfl⟩ := List.exists_cons_of_ne_nil nonempty
    refine ⟨front :: second :: later, (front ++ gap) ++ ',' :: (gapNext ++ inner), ?_, nofun,
      .cons padded (separated.append_left isGapNext),
      front, second :: later, rfl, written, areWritten⟩
    rw [isAfter, comma, isNext, isInner]
    simp only [List.append_assoc, List.cons_append]

theorem ReadsWritten.members_succ
    (reads : ReadsWritten fuel)
    {members : List (Option String × Node)}
    (parsed : parseMembers (fuel + 1) text = (members, true, rest))
    (complete : Node.memberValues? levels members ≠ none) :
    ∃ texts inner, text = inner ++ '\x7d' :: rest ∧ texts ≠ [] ∧ Separated texts inner ∧
      Node.MembersAreWritten levels members texts := by
  obtain ⟨inside, units, afterKey, afterColon, value, others, after, rfl, lexed, colon,
    parsedValue, rfl, continued⟩ := parseMembers_closed parsed
  obtain ⟨⟨name, readable⟩, completeValue, completeOthers⟩ :=
    Node.memberValues?_cons_ne_none_iff.1 complete
  obtain ⟨keyText, isKey, writtenKey⟩ := exists_string_written lexed readable
  obtain ⟨front, isValue, written⟩ := reads.node parsedValue completeValue
  obtain ⟨gapKey, isAfterKey, isGapKey⟩ := exists_gap afterKey
  obtain ⟨gapColon, isAfterColon, isGapColon⟩ := exists_gap afterColon
  obtain ⟨gap, isAfter, isGapText⟩ := exists_gap after
  have paddedColon : Padded (· = [':']) (gapKey ++ [':'] ++ gapColon) :=
    ⟨gapKey, [':'], gapColon, rfl, isGapKey, rfl, isGapColon⟩
  have padded := padded_append (keyText ++ ((gapKey ++ [':'] ++ gapColon) ++ front)) isGapText
  rcases continued with ⟨last, rfl⟩ | ⟨next, comma, parsedOthers⟩
  · refine ⟨[_], _, ?_, nofun, .last padded,
      name, keyText, _, front, [], readable, rfl, writtenKey, paddedColon, written, rfl⟩
    rw [isKey, isAfterKey, colon, isAfterColon, isValue, isAfter, last]
    simp only [List.append_assoc, List.cons_append, List.nil_append]
  · obtain ⟨texts, inner, isInner, nonempty, separated, areWritten⟩ :=
      reads.members parsedOthers completeOthers
    obtain ⟨gapNext, isNext, isGapNext⟩ := exists_gap next
    obtain ⟨second, later, rfl⟩ := List.exists_cons_of_ne_nil nonempty
    refine ⟨_ :: second :: later, _, ?_, nofun, .cons padded (separated.append_left isGapNext),
      name, keyText, _, front, second :: later, readable, rfl, writtenKey, paddedColon, written,
      areWritten⟩
    rw [isKey, isAfterKey, colon, isAfterColon, isValue, isAfter, comma, isNext, isInner]
    simp only [List.append_assoc, List.cons_append, List.nil_append]

theorem exists_array_of_closing
    {after : List Char}
    (closing : skipGap after = ']' :: rest)
    (positive : 0 < levels) :
    ∃ front, '[' :: after = front ++ rest ∧ (Node.array [] true).IsWritten levels front := by
  obtain ⟨gap, isAfter, isGapText⟩ := exists_gap after
  refine ⟨'[' :: (gap ++ [']']), ?_, rfl, positive, [], gap, rfl, .nothing isGapText, rfl⟩
  rw [isAfter, closing]
  simp only [List.append_assoc, List.cons_append, List.nil_append]

theorem exists_object_of_closing
    {after : List Char}
    (closing : skipGap after = '\x7d' :: rest)
    (positive : 0 < levels) :
    ∃ front, '\x7b' :: after = front ++ rest ∧
      (Node.object [] true).IsWritten levels front := by
  obtain ⟨gap, isAfter, isGapText⟩ := exists_gap after
  refine ⟨'\x7b' :: (gap ++ ['\x7d']), ?_, rfl, positive, [], gap, rfl, .nothing isGapText, rfl⟩
  rw [isAfter, closing]
  simp only [List.append_assoc, List.cons_append, List.nil_append]

/-- An array whose items are read to its end is written. -/
theorem ReadsWritten.exists_array
    (reads : ReadsWritten fuel)
    {after : List Char}
    {items : List Node}
    (parsed : parseItems fuel (skipGap after) = (items, true, rest))
    (positive : 0 < levels)
    (complete : Node.itemValues? (levels - 1) items ≠ none) :
    ∃ front, '[' :: after = front ++ rest ∧ (Node.array items true).IsWritten levels front := by
  obtain ⟨gap, isAfter, isGapText⟩ := exists_gap after
  obtain ⟨texts, inner, isInner, -, separated, areWritten⟩ := reads.items parsed complete
  refine ⟨'[' :: (gap ++ inner ++ [']']), ?_, rfl, positive, texts, gap ++ inner, rfl,
    separated.append_left isGapText, areWritten⟩
  rw [isAfter, isInner]
  simp only [List.append_assoc, List.cons_append, List.nil_append]

/-- An object whose members are read to its end is written. -/
theorem ReadsWritten.exists_object
    (reads : ReadsWritten fuel)
    {after : List Char}
    {members : List (Option String × Node)}
    (parsed : parseMembers fuel (skipGap after) = (members, true, rest))
    (positive : 0 < levels)
    (complete : Node.memberValues? (levels - 1) members ≠ none) :
    ∃ front, '\x7b' :: after = front ++ rest ∧
      (Node.object members true).IsWritten levels front := by
  obtain ⟨gap, isAfter, isGapText⟩ := exists_gap after
  obtain ⟨texts, inner, isInner, -, separated, areWritten⟩ := reads.members parsed complete
  refine ⟨'\x7b' :: (gap ++ inner ++ ['\x7d']), ?_, rfl, positive, texts, gap ++ inner, rfl,
    separated.append_left isGapText, areWritten⟩
  rw [isAfter, isInner]
  simp only [List.append_assoc, List.cons_append, List.nil_append]

theorem ReadsWritten.node_succ
    (reads : ReadsWritten fuel)
    {node : Node}
    (parsed : parseNode (fuel + 1) text = (node, rest))
    (complete : node.toValue? levels ≠ none) :
    ∃ front, text = front ++ rest ∧ node.IsWritten levels front := by
  unfold parseNode at parsed
  split at parsed
  · cases parsed
    exact ⟨"null".toList, rfl, rfl⟩
  · cases parsed
    exact ⟨"true".toList, rfl, rfl⟩
  · cases parsed
    exact ⟨"false".toList, rfl, rfl⟩
  · split at parsed
    · cases parsed
      exact absurd rfl complete
    · next units after lexed =>
      cases parsed
      obtain ⟨content, readable⟩ := Node.toValue?_string_ne_none_iff.1 complete
      obtain ⟨front, isFront, written⟩ := exists_string_written lexed readable
      exact ⟨front, isFront, content, readable, written⟩
  · next after =>
    split at parsed
    · next closing =>
      cases parsed
      exact exists_array_of_closing closing (Node.toValue?_array_ne_none_iff.1 complete).2.1
    · generalize parsedItems : parseItems fuel (skipGap after) = parts at parsed
      obtain ⟨items, closed, following⟩ := parts
      cases parsed
      obtain ⟨rfl, positive, completeItems⟩ := Node.toValue?_array_ne_none_iff.1 complete
      exact reads.exists_array parsedItems positive completeItems
  · next after =>
    split at parsed
    · next closing =>
      cases parsed
      exact exists_object_of_closing closing (Node.toValue?_object_ne_none_iff.1 complete).2.1
    · generalize parsedMembers : parseMembers fuel (skipGap after) = parts at parsed
      obtain ⟨members, closed, following⟩ := parts
      cases parsed
      obtain ⟨rfl, positive, completeMembers⟩ := Node.toValue?_object_ne_none_iff.1 complete
      exact reads.exists_object parsedMembers positive completeMembers
  · split at parsed
    · cases parsed
      exact absurd rfl complete
    · next literal after lexed =>
      cases parsed
      obtain ⟨front, isFront, written⟩ := Literal.exists_written lexed
      exact ⟨front, isFront, written, Node.toValue?_number_ne_none_iff.1 complete⟩

/-- Whatever is read and has a value is written. -/
theorem readsWritten : ∀ fuel, ReadsWritten fuel
  | 0 => {
      node := fun parsed complete => by
        cases parsed
        exact absurd rfl complete
      items := nofun
      members := nofun }
  | fuel + 1 => {
      node := (readsWritten fuel).node_succ
      items := (readsWritten fuel).items_succ
      members := (readsWritten fuel).members_succ }

/-! ## What is written is read -/

theorem Literal.IsWritten.exists_isNumeric
    {literal : Literal}
    (written : literal.IsWritten front) :
    ∃ first others, front = first :: others ∧ IsNumeric first := by
  obtain ⟨fraction, exponent, rfl, isDigits, -⟩ := written
  unfold sign
  split
  · exact ⟨'-', _, rfl, .inr rfl⟩
  · obtain ⟨first, others, isWhole⟩ := List.exists_cons_of_ne_nil isDigits.nonempty
    rw [isWhole]
    exact ⟨first, _, rfl, .inl (isDigits.digits first (isWhole ▸ List.mem_cons_self))⟩

/-- What writes a node begins with a character with which a value may begin. -/
theorem Node.IsWritten.exists_begins
    {node : Node}
    (written : node.IsWritten levels front) :
    ∃ first others, front = first :: others ∧ Begins first := by
  cases node with
  | null => exact ⟨'n', _, written, by decide, by decide⟩
  | bool value =>
      cases value with
      | false => exact ⟨'f', _, written, by decide, by decide⟩
      | true => exact ⟨'t', _, written, by decide, by decide⟩
  | number literal =>
      obtain ⟨first, others, isFront, numeric⟩ := written.1.exists_isNumeric
      exact ⟨first, others, isFront, numeric.begins⟩
  | string content =>
      obtain ⟨known, -, units, texts, isFront, -⟩ := written
      exact ⟨'"', _, isFront, by decide, by decide⟩
  | array items closed =>
      obtain ⟨-, -, texts, inner, isFront, -⟩ := written
      exact ⟨'[', _, isFront, by decide, by decide⟩
  | object members closed =>
      obtain ⟨-, -, texts, inner, isFront, -⟩ := written
      exact ⟨'\x7b', _, isFront, by decide, by decide⟩
  | broken => exact written.elim

/-- With enough fuel, a node that is written at the front of a text is read there. -/
def Node.IsTaken (node : Node) : Prop :=
  ∀ levels fuel front rest, node.IsWritten levels front → front.length ≤ fuel →
    FollowsNumber rest → parseNode fuel (front ++ rest) = (node, rest)

theorem skipGap_padded
    {first : Char}
    (notGap : isGap first = false)
    (isGapText : IsGapText gap)
    (rest : List Char) :
    skipGap (gap ++ first :: rest) = first :: rest := by
  rw [skipGap_append isGapText, skipGap_cons notGap]

/-- A written node is read with the blanks around it, up to what ends it. -/
theorem Node.IsTaken.exists_parseNode
    {node : Node}
    (taken : node.IsTaken)
    {core padding : List Char}
    (written : node.IsWritten levels core)
    (padded : Padded (· = core) padding)
    (enough : padding.length ≤ fuel)
    (next : Char)
    (notGap : isGap next = false)
    (follows : FollowsNumber (next :: rest)) :
    ∃ first others after, skipGap (padding ++ next :: rest) = first :: others ∧ Begins first ∧
      parseNode fuel (first :: others) = (node, after) ∧ skipGap after = next :: rest := by
  obtain ⟨before, _, after, rfl, isGapBefore, rfl, isGapAfter⟩ := padded
  obtain ⟨first, others, rfl, begins⟩ := written.exists_begins
  simp only [List.length_append] at enough
  refine ⟨first, others ++ (after ++ next :: rest), after ++ next :: rest, ?_, begins,
    taken levels fuel _ _ written (by omega) (followsNumber_append isGapAfter follows),
    skipGap_padded notGap isGapAfter rest⟩
  rw [List.append_assoc, List.append_assoc, List.cons_append,
    skipGap_padded begins.notGap isGapBefore]

theorem parseItems_of_last
    {first : Char}
    {item : Node}
    {after : List Char}
    (parsed : parseNode fuel (first :: text) = (item, after))
    (last : skipGap after = ']' :: rest) :
    parseItems (fuel + 1) (first :: text) = ([item], true, rest) := by
  rw [parseItems, parsed]
  · dsimp only
    rw [last]
    rfl
  · intro isEmpty
    cases isEmpty

theorem parseItems_of_comma
    {first second : Char}
    {item : Node}
    {others : List Node}
    {after next later : List Char}
    (parsed : parseNode fuel (first :: text) = (item, after))
    (comma : skipGap after = ',' :: next)
    (isNext : skipGap next = second :: later)
    (begins : Begins second)
    (parsedOthers : parseItems fuel (skipGap next) = (others, true, rest)) :
    parseItems (fuel + 1) (first :: text) = (item :: others, true, rest) := by
  rw [parseItems, parsed]
  · dsimp only
    rw [comma]
    simp only
    split
    · next closing =>
      rw [isNext] at closing
      exact absurd (List.cons.inj closing).1 begins.notBracket
    · rw [parsedOthers]
  · intro isEmpty
    cases isEmpty

/-- Items that are written up to the end of their array are read. -/
theorem parseItems_of_written
    {items : List Node}
    (taken : ∀ item ∈ items, item.IsTaken)
    {texts : List (List Char)}
    (nonempty : texts ≠ [])
    {inner : List Char}
    (separated : Separated texts inner)
    (written : Node.AreWritten levels items texts)
    (enough : inner.length < fuel)
    (rest : List Char) :
    ∃ first others, skipGap (inner ++ ']' :: rest) = first :: others ∧ Begins first ∧
      parseItems fuel (first :: others) = (items, true, rest) := by
  induction separated generalizing items fuel with
  | nothing => exact absurd rfl nonempty
  | last padded =>
      obtain ⟨fuel, rfl⟩ := Nat.exists_eq_add_one_of_ne_zero (Nat.ne_zero_of_lt enough)
      cases items with
      | nil => exact absurd written nofun
      | cons item items =>
          obtain ⟨_, _, same, writtenItem, writtenOthers⟩ := written
          cases same
          obtain ⟨first, others, after, isStart, begins, parsed, last⟩ :=
            (taken item List.mem_cons_self).exists_parseNode writtenItem padded
              (by omega : _ ≤ fuel) ']' (by decide) (followsNumber_cons (by decide) rest)
          cases items with
          | nil => exact ⟨first, others, isStart, begins, parseItems_of_last parsed last⟩
          | cons second later =>
              obtain ⟨_, _, same, -⟩ := writtenOthers
              cases same
  | cons padded separatedOthers inductionHypothesis =>
      obtain ⟨fuel, rfl⟩ := Nat.exists_eq_add_one_of_ne_zero (Nat.ne_zero_of_lt enough)
      rw [List.length_append, List.length_cons] at enough
      cases items with
      | nil => exact absurd written nofun
      | cons item items =>
          obtain ⟨_, _, same, writtenItem, writtenOthers⟩ := written
          cases same
          obtain ⟨second, later, isNext, beginsNext, parsedOthers⟩ :=
            inductionHypothesis (fun other listed => taken other (List.mem_cons_of_mem _ listed))
              nofun writtenOthers (by omega : _ < fuel)
          obtain ⟨first, others, after, isStart, begins, parsed, comma⟩ :=
            (taken item List.mem_cons_self).exists_parseNode writtenItem padded
              (by omega : _ ≤ fuel) ',' (by decide) (followsNumber_cons (by decide) _)
          refine ⟨first, others, ?_, begins,
            parseItems_of_comma parsed comma isNext beginsNext (isNext ▸ parsedOthers)⟩
          rw [List.append_assoc, List.cons_append, isStart]

theorem parseMembers_of_last
    {inside afterKey afterColon : List Char}
    {units : List StringUnit}
    {value : Node}
    {after : List Char}
    (lexed : lexUnits inside = some (units, afterKey))
    (colon : skipGap afterKey = ':' :: afterColon)
    (parsed : parseNode fuel (skipGap afterColon) = (value, after))
    (last : skipGap after = '\x7d' :: rest) :
    parseMembers (fuel + 1) ('"' :: inside) = ([(unitsToString units, value)], true, rest) := by
  rw [parseMembers, lexed]
  dsimp only
  rw [colon]
  simp only
  rw [parsed]
  dsimp only
  rw [last]
  rfl

theorem parseMembers_of_comma
    {inside afterKey afterColon : List Char}
    {units : List StringUnit}
    {value : Node}
    {others : List (Option String × Node)}
    {after next later : List Char}
    (lexed : lexUnits inside = some (units, afterKey))
    (colon : skipGap afterKey = ':' :: afterColon)
    (parsed : parseNode fuel (skipGap afterColon) = (value, after))
    (comma : skipGap after = ',' :: next)
    (isNext : skipGap next = '"' :: later)
    (parsedOthers : parseMembers fuel (skipGap next) = (others, true, rest)) :
    parseMembers (fuel + 1) ('"' :: inside) =
      ((unitsToString units, value) :: others, true, rest) := by
  rw [parseMembers, lexed]
  dsimp only
  rw [colon]
  simp only
  rw [parsed]
  dsimp only
  rw [comma]
  simp only
  split
  · next closing =>
    rw [isNext] at closing
    exact absurd (List.cons.inj closing).1 (by decide)
  · rw [parsedOthers]

/-- A written member is read with the blanks around it, up to what ends it. -/
theorem Node.IsTaken.exists_member
    {value : Node}
    (taken : value.IsTaken)
    {name : String}
    {keyText colon valueText padding : List Char}
    (writtenKey : IsString name keyText)
    (paddedColon : Padded (· = [':']) colon)
    (written : value.IsWritten levels valueText)
    (padded : Padded (· = keyText ++ (colon ++ valueText)) padding)
    (enough : padding.length ≤ fuel)
    (next : Char)
    (notGap : isGap next = false)
    (follows : FollowsNumber (next :: rest)) :
    ∃ inside units afterKey afterColon after,
      skipGap (padding ++ next :: rest) = '"' :: inside ∧
      lexUnits inside = some (units, afterKey) ∧ unitsToString units = some name ∧
      skipGap afterKey = ':' :: afterColon ∧
      parseNode fuel (skipGap afterColon) = (value, after) ∧ skipGap after = next :: rest := by
  obtain ⟨before, _, after, rfl, isGapBefore, rfl, isGapAfter⟩ := padded
  obtain ⟨gapKey, _, gapColon, rfl, isGapKey, rfl, isGapColon⟩ := paddedColon
  have paddedValue : Padded (· = valueText) (gapColon ++ valueText ++ after) :=
    ⟨gapColon, valueText, after, rfl, isGapColon, rfl, isGapAfter⟩
  simp only [List.length_append] at enough
  have enoughValue : (gapColon ++ valueText ++ after).length ≤ fuel := by
    simp only [List.length_append]
    omega
  obtain ⟨first, others, afterValue, isStart, -, parsed, last⟩ :=
    taken.exists_parseNode written paddedValue enoughValue next notGap follows
  obtain ⟨inside, units, isKey, lexed, readable⟩ :=
    writtenKey.exists_units
      (gapKey ++ ':' :: ((gapColon ++ valueText ++ after) ++ next :: rest))
  refine ⟨inside, units, _, _, afterValue, ?_, lexed, readable,
    skipGap_padded (by decide) isGapKey _, isStart ▸ parsed, last⟩
  rw [← skipGap_padded (by decide) isGapBefore inside, ← isKey]
  simp only [List.append_assoc, List.cons_append, List.nil_append]

/-- Members that are written up to the end of their object are read. -/
theorem parseMembers_of_written
    {members : List (Option String × Node)}
    (taken : ∀ member ∈ members, member.2.IsTaken)
    {texts : List (List Char)}
    (nonempty : texts ≠ [])
    {inner : List Char}
    (separated : Separated texts inner)
    (written : Node.MembersAreWritten levels members texts)
    (enough : inner.length < fuel)
    (rest : List Char) :
    ∃ inside, skipGap (inner ++ '\x7d' :: rest) = '"' :: inside ∧
      parseMembers fuel ('"' :: inside) = (members, true, rest) := by
  induction separated generalizing members fuel with
  | nothing => exact absurd rfl nonempty
  | last padded =>
      obtain ⟨fuel, rfl⟩ := Nat.exists_eq_add_one_of_ne_zero (Nat.ne_zero_of_lt enough)
      cases members with
      | nil => exact absurd written nofun
      | cons member members =>
          obtain ⟨key, value⟩ := member
          obtain ⟨name, _, _, _, _, rfl, same, writtenKey, paddedColon, writtenValue,
            writtenOthers⟩ := written
          cases same
          obtain ⟨inside, units, afterKey, afterColon, after, isStart, lexed, readable, colon,
            parsed, last⟩ :=
            (taken _ List.mem_cons_self).exists_member writtenKey paddedColon writtenValue padded
              (by omega : _ ≤ fuel) '\x7d' (by decide) (followsNumber_cons (by decide) rest)
          cases members with
          | nil => exact ⟨inside, isStart, readable ▸ parseMembers_of_last lexed colon parsed last⟩
          | cons second later =>
              obtain ⟨_, _, _, _, _, -, same, -⟩ := writtenOthers
              cases same
  | cons padded separatedOthers inductionHypothesis =>
      obtain ⟨fuel, rfl⟩ := Nat.exists_eq_add_one_of_ne_zero (Nat.ne_zero_of_lt enough)
      rw [List.length_append, List.length_cons] at enough
      cases members with
      | nil => exact absurd written nofun
      | cons member members =>
          obtain ⟨key, value⟩ := member
          obtain ⟨name, _, _, _, _, rfl, same, writtenKey, paddedColon, writtenValue,
            writtenOthers⟩ := written
          cases same
          obtain ⟨later, isNext, parsedOthers⟩ :=
            inductionHypothesis (fun other listed => taken other (List.mem_cons_of_mem _ listed))
              nofun writtenOthers (by omega : _ < fuel)
          obtain ⟨inside, units, afterKey, afterColon, after, isStart, lexed, readable, colon,
            parsed, comma⟩ :=
            (taken _ List.mem_cons_self).exists_member writtenKey paddedColon writtenValue padded
              (by omega : _ ≤ fuel) ',' (by decide) (followsNumber_cons (by decide) _)
          refine ⟨inside, ?_, readable ▸
            parseMembers_of_comma lexed colon parsed comma isNext (isNext ▸ parsedOthers)⟩
          rw [List.append_assoc, List.cons_append, isStart]

/-! ## Whole nodes -/

theorem Node.AreWritten.eq_nil_iff
    {items : List Node}
    {texts : List (List Char)}
    (written : Node.AreWritten levels items texts) :
    items = [] ↔ texts = [] := by
  cases items with
  | nil => exact iff_of_true rfl written
  | cons item others =>
      obtain ⟨_, _, rfl, -⟩ := written
      exact iff_of_false nofun nofun

theorem Node.MembersAreWritten.eq_nil_iff
    {members : List (Option String × Node)}
    {texts : List (List Char)}
    (written : Node.MembersAreWritten levels members texts) :
    members = [] ↔ texts = [] := by
  cases members with
  | nil => exact iff_of_true rfl written
  | cons member others =>
      obtain ⟨_, _, _, _, _, -, rfl, -⟩ := written
      exact iff_of_false nofun nofun

theorem parseNode_of_literal
    {literal : Literal}
    (written : literal.IsWritten front)
    (follows : FollowsNumber rest) :
    parseNode (fuel + 1) (front ++ rest) = (.number literal, rest) := by
  have lexed := written.lexNumber_append follows
  obtain ⟨first, others, rfl, numeric⟩ := written.exists_isNumeric
  rw [List.cons_append, parseNode, ← List.cons_append, lexed]
  all_goals
    intro after
    exact numeric.cons_ne (by decide)

theorem parseNode_of_string
    {content : String}
    (written : IsString content front)
    (rest : List Char) :
    parseNode (fuel + 1) (front ++ rest) = (.string (some content), rest) := by
  obtain ⟨inside, units, isFront, lexed, readable⟩ := written.exists_units rest
  rw [isFront, parseNode, lexed]
  dsimp only
  rw [readable]

theorem parseNode_of_items
    {items : List Node}
    (taken : ∀ item ∈ items, item.IsTaken)
    {texts : List (List Char)}
    {inner : List Char}
    (separated : Separated texts inner)
    (written : Node.AreWritten levels items texts)
    (enough : inner.length < fuel)
    (rest : List Char) :
    parseNode (fuel + 1) ('[' :: (inner ++ ']' :: rest)) = (.array items true, rest) := by
  by_cases nothing : texts = []
  · subst nothing
    cases separated with
    | nothing isGapText =>
        rw [parseNode, skipGap_padded (by decide) isGapText, written.eq_nil_iff.2 rfl]
        rfl
  · obtain ⟨first, others, isStart, begins, parsed⟩ :=
      parseItems_of_written taken nothing separated written enough rest
    rw [parseNode, isStart]
    split
    · next closing => exact absurd (List.cons.inj closing).1 begins.notBracket
    · rw [parsed]

theorem parseNode_of_members
    {members : List (Option String × Node)}
    (taken : ∀ member ∈ members, member.2.IsTaken)
    {texts : List (List Char)}
    {inner : List Char}
    (separated : Separated texts inner)
    (written : Node.MembersAreWritten levels members texts)
    (enough : inner.length < fuel)
    (rest : List Char) :
    parseNode (fuel + 1) ('\x7b' :: (inner ++ '\x7d' :: rest)) = (.object members true, rest) := by
  by_cases nothing : texts = []
  · subst nothing
    cases separated with
    | nothing isGapText =>
        rw [parseNode, skipGap_padded (by decide) isGapText, written.eq_nil_iff.2 rfl]
        rfl
  · obtain ⟨inside, isStart, parsed⟩ :=
      parseMembers_of_written taken nothing separated written enough rest
    rw [parseNode, isStart]
    split
    · next closing => exact absurd (List.cons.inj closing).1 (by decide)
    · rw [parsed]

namespace Node

/-- What writes a node is not empty, so that some fuel is there to begin with. -/
theorem isTaken_of_succ
    {node : Node}
    (taken : ∀ levels fuel front rest, node.IsWritten levels front → front.length ≤ fuel + 1 →
      FollowsNumber rest → parseNode (fuel + 1) (front ++ rest) = (node, rest)) :
    node.IsTaken := by
  intro levels fuel front rest written enough follows
  cases fuel with
  | zero =>
      obtain ⟨first, others, rfl, -⟩ := written.exists_begins
      exact absurd enough (Nat.not_succ_le_zero _)
  | succ fuel => exact taken levels fuel front rest written enough follows

/-- Every node is read where it is written. -/
theorem isTaken (node : Node) : node.IsTaken := by
  induction node using induction_on_parts with
  | null =>
      refine isTaken_of_succ fun levels fuel front rest written _ _ => ?_
      rw [show front = _ from written]
      exact parseNode_null fuel rest
  | bool value =>
      refine isTaken_of_succ fun levels fuel front rest written _ _ => ?_
      cases value with
      | false =>
          rw [show front = _ from written]
          exact parseNode_false fuel rest
      | true =>
          rw [show front = _ from written]
          exact parseNode_true fuel rest
  | number literal =>
      exact isTaken_of_succ fun _ _ _ _ written _ follows =>
        parseNode_of_literal written.1 follows
  | string content =>
      refine isTaken_of_succ fun levels fuel front rest written _ _ => ?_
      obtain ⟨known, rfl, isString⟩ := written
      exact parseNode_of_string isString rest
  | array items closed inductionHypothesis =>
      refine isTaken_of_succ fun levels fuel front rest written enough _ => ?_
      obtain ⟨rfl, -, texts, inner, rfl, separated, areWritten⟩ := written
      rw [List.cons_append, List.append_assoc, List.singleton_append]
      rw [List.length_cons, List.length_append, List.length_singleton] at enough
      exact parseNode_of_items inductionHypothesis separated areWritten (by omega) rest
  | object members closed inductionHypothesis =>
      refine isTaken_of_succ fun levels fuel front rest written enough _ => ?_
      obtain ⟨rfl, -, texts, inner, rfl, separated, areWritten⟩ := written
      rw [List.cons_append, List.append_assoc, List.singleton_append]
      rw [List.length_cons, List.length_append, List.length_singleton] at enough
      exact parseNode_of_members inductionHypothesis separated areWritten (by omega) rest
  | broken => exact fun _ _ _ _ written => written.elim

theorem itemValues?_ne_none_of_written
    {items : List Node}
    (complete : ∀ item ∈ items, ∀ levels front,
      item.IsWritten levels front → item.toValue? levels ≠ none)
    {texts : List (List Char)}
    (written : AreWritten levels items texts) :
    itemValues? levels items ≠ none := by
  induction items generalizing texts with
  | nil => exact nofun
  | cons item others inductionHypothesis =>
      obtain ⟨text, later, rfl, writtenItem, writtenOthers⟩ := written
      refine itemValues?_cons_ne_none_iff.2
        ⟨complete item List.mem_cons_self levels text writtenItem,
          inductionHypothesis ?_ writtenOthers⟩
      exact fun other listed => complete other (List.mem_cons_of_mem _ listed)

theorem memberValues?_ne_none_of_written
    {members : List (Option String × Node)}
    (complete : ∀ member ∈ members, ∀ levels front,
      member.2.IsWritten levels front → member.2.toValue? levels ≠ none)
    {texts : List (List Char)}
    (written : MembersAreWritten levels members texts) :
    memberValues? levels members ≠ none := by
  induction members generalizing texts with
  | nil => exact nofun
  | cons member others inductionHypothesis =>
      obtain ⟨key, value⟩ := member
      obtain ⟨name, keyText, colon, valueText, later, isKey, rfl, -, -, writtenValue,
        writtenOthers⟩ := written
      refine memberValues?_cons_ne_none_iff.2 ⟨⟨name, isKey⟩,
        complete _ List.mem_cons_self levels valueText writtenValue,
        inductionHypothesis ?_ writtenOthers⟩
      exact fun other listed => complete other (List.mem_cons_of_mem _ listed)

/-- A node that can be written has a value. -/
theorem IsWritten.toValue?_ne_none
    {node : Node}
    (written : node.IsWritten levels front) :
    node.toValue? levels ≠ none := by
  induction node using induction_on_parts generalizing levels front with
  | null => exact nofun
  | bool value => exact nofun
  | number literal => exact toValue?_number_ne_none_iff.2 written.2
  | string content =>
      obtain ⟨known, isKnown, -⟩ := written
      exact toValue?_string_ne_none_iff.2 ⟨known, isKnown⟩
  | array items closed inductionHypothesis =>
      obtain ⟨isClosed, positive, texts, inner, -, -, areWritten⟩ := written
      exact toValue?_array_ne_none_iff.2 ⟨isClosed, positive,
        itemValues?_ne_none_of_written (fun item listed _ _ => inductionHypothesis item listed)
          areWritten⟩
  | object members closed inductionHypothesis =>
      obtain ⟨isClosed, positive, texts, inner, -, -, areWritten⟩ := written
      exact toValue?_object_ne_none_iff.2 ⟨isClosed, positive,
        memberValues?_ne_none_of_written
          (fun member listed _ _ => inductionHypothesis member listed) areWritten⟩
  | broken => exact written.elim

end Node

/-! ## Documents -/

/-- A text is the document of a node exactly if it is read to its end as this node, and the
node has a value. -/
theorem Node.isDocument_iff
    {node : Node}
    {text : List Char} :
    node.IsDocument text ↔
      Document.ofText text = ⟨node, true⟩ ∧ node.toValue? maxDepth ≠ none := by
  constructor
  · rintro ⟨before, core, after, rfl, isGapBefore, written, isGapAfter⟩
    refine ⟨?_, written.toValue?_ne_none⟩
    obtain ⟨first, others, isCore, begins⟩ := written.exists_begins
    have start : skipGap (before ++ core ++ after) = core ++ after := by
      rw [isCore, List.append_assoc, List.cons_append, skipGap_padded begins.notGap isGapBefore]
    have parsed := node.isTaken maxDepth (2 * (core ++ after).length + 2) core after written
      (by rw [List.length_append]; omega)
      (List.append_nil after ▸ followsNumber_append isGapAfter nofun)
    unfold Document.ofText
    dsimp only
    rw [start, parsed, skipGap_eq_nil isGapAfter]
    rfl
  · rintro ⟨read, complete⟩
    obtain ⟨before, isText, isGapBefore⟩ := exists_gap text
    unfold Document.ofText at read
    dsimp only at read
    generalize parsed : parseNode (2 * (skipGap text).length + 2) (skipGap text) = parts at read
    obtain ⟨root, rest⟩ := parts
    obtain ⟨rfl, ended⟩ := Document.mk.inj read
    obtain ⟨core, isStart, written⟩ := (readsWritten _).node parsed complete
    obtain ⟨after, isRest, isGapAfter⟩ := exists_gap rest
    rw [List.isEmpty_iff.1 ended, List.append_nil] at isRest
    refine ⟨before, core, after, ?_, isGapBefore, written, isGapAfter⟩
    rw [List.append_assoc, ← isRest, ← isStart]
    exact isText

/-- A text is the document of one node at most. -/
theorem Node.IsDocument.eq
    {first second : Node}
    (isFirst : first.IsDocument text)
    (isSecond : second.IsDocument text) :
    first = second :=
  (Document.mk.inj ((isDocument_iff.1 isFirst).1.symm.trans (isDocument_iff.1 isSecond).1)).1

/-- A text denotes a value exactly if it is the document of a node with this value. -/
theorem Document.toValue?_eq_some_iff {value : Value} :
    (ofText text).toValue? = some value ↔
      ∃ node : Node, node.IsDocument text ∧ node.toValue? maxDepth = some value := by
  constructor
  · intro denotes
    unfold toValue? at denotes
    split at denotes
    · next ended =>
      refine ⟨(ofText text).root, Node.isDocument_iff.2 ⟨?_, by rw [denotes]; exact nofun⟩, denotes⟩
      rw [← ended]
    · cases denotes
  · rintro ⟨node, isDocument, denotes⟩
    unfold toValue?
    rw [(Node.isDocument_iff.1 isDocument).1]
    exact denotes

end Json
end SessionHub
