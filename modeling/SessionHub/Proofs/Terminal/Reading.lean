import SessionHub.Proofs.Json.Derivation
import SessionHub.Proofs.Json.Member
import SessionHub.Proofs.Terminal.Resize
import SessionHub.Terminal.Frame

/-!
# Which texts are resize messages

A text resizes the window if it is a JSON document of an object whose last `type` is
`resize` and whose last `cols` and `rows` are natural numbers that fit; it was meant to, if
it is such an object without fitting numbers, or no document at all but looks like a broken
one. All other text is typed in as it is.
-/

namespace SessionHub
namespace Terminal

open Json (Node Literal Document RecordField Value)

/-! ## What a text says -/

/-- The last type of an object is `resize`. -/
def IsResizeObject (members : List (Option String × Node)) : Prop :=
  Node.IsLast "type" (.string (some "resize")) members

/-- The last member with a key is written as a natural number. -/
def SaysNatural (key : String) (members : List (Option String × Node)) (number : Nat) : Prop :=
  ∃ literal : Literal, Node.IsLast key (.number literal) members ∧ literal.IsNatural number

/-- An object asks for a size. -/
structure AsksFor (members : List (Option String × Node)) (size : WindowSize) : Prop where
  kind : IsResizeObject members
  cols : SaysNatural "cols" members size.cols.toNat
  rows : SaysNatural "rows" members size.rows.toNat

/-- A text is the document of an object that asks for a size. -/
def Resizes (text : String) (size : WindowSize) : Prop :=
  ∃ members, (Node.object members true).IsDocument text.toList ∧ AsksFor members size

/-- A text begins with an opening brace, after blanks, and mentions `resize`. -/
def LooksLikeResize (text : List Char) : Prop :=
  (∃ blanks rest, text = blanks ++ '\x7b' :: rest ∧
    ∀ character ∈ blanks, Text.isBlank character = true) ∧ "\"resize\"".toList <:+: text

/-- A text was meant to resize but does not say to what size. -/
def MeansToResize (text : String) : Prop :=
  (∃ members, (Node.object members true).IsDocument text.toList ∧ IsResizeObject members ∧
    ∀ size, ¬AsksFor members size) ∨
  (∀ node : Node, ¬node.IsDocument text.toList) ∧ LooksLikeResize text.toList

/-! ## Reading the fields of a message -/

namespace ResizeMessage

/-- What is found under the key of a field makes the field of a draft: it has to fit, and the
field must not be there already. -/
def Settles (read : Value → Option α) (found : Option Value) (before after : Option α) : Prop :=
  match found with
  | none => after = before
  | some value => before = none ∧ ∃ result, read value = some result ∧ after = some result

theorem settles_blank_iff
    {read : Value → Option α}
    {found : Option Value}
    {result : α} :
    Settles read found none (some result) ↔ found.bind read = some result := by
  cases found with
  | none => exact iff_of_false nofun nofun
  | some value => simp [Settles]

/-- One member settles its field if what is left of the members keeps the field as it is. -/
theorem settles_some_iff
    {read : Value → Option α}
    {value : Value}
    {before after : Option α}
    {next : α → Option Draft}
    {result : Draft}
    {others : Prop}
    (continues : ∀ field,
      next field = some result ↔ Settles read none (some field) after ∧ others) :
    (if before.isSome then none else (read value).bind next) = some result ↔
      Settles read (some value) before after ∧ others := by
  cases before with
  | some _ => exact iff_of_false nofun nofun
  | none =>
      cases fits : read value with
      | none => simp [Settles, fits]
      | some field => simp [Settles, fits, continues]

theorem find?_fields_eq_none
    {key : String}
    (notField : key ∉ ["type", "cols", "rows"]) :
    fields.find? (·.name = key) = none := by
  simp only [List.mem_cons, List.not_mem_nil, or_false, not_or] at notField
  obtain ⟨notType, notCols, notRows⟩ := notField
  simp [fields, RecordField.leaf, Ne.symm notType, Ne.symm notCols, Ne.symm notRows]

/-- Of members with different keys, those under the keys of the fields make the draft. -/
theorem takeMembers_eq_some_iff
    {members : List (String × Value)}
    (sorted : Value.IsSorted members)
    {draft result : Draft} :
    RecordField.takeMembers fields members draft = some result ↔
      Settles Value.string? (Value.lookup "type" members) draft.kind result.kind ∧
        Settles Value.uint16? (Value.lookup "cols" members) draft.cols result.cols ∧
        Settles Value.uint16? (Value.lookup "rows" members) draft.rows result.rows := by
  induction members generalizing draft with
  | nil =>
      obtain ⟨kind, cols, rows⟩ := draft
      obtain ⟨isKind, isCols, isRows⟩ := result
      simp [RecordField.takeMembers, Settles, Value.lookup, eq_comm]
  | cons first rest inductionHypothesis =>
      obtain ⟨key, value⟩ := first
      obtain ⟨least, sortedRest⟩ := List.pairwise_cons.1 sorted
      have absent : Value.lookup key rest = none :=
        Value.lookup_eq_none_iff.2 fun member listed => (String.ne_of_lt (least member listed)).symm
      simp only [sorted.lookup_cons]
      by_cases isField : key ∈ ["type", "cols", "rows"]
      · simp only [List.mem_cons, List.not_mem_nil, or_false] at isField
        rcases isField with rfl | rfl | rfl
        · rw [if_pos rfl, if_neg (by decide : "type" ≠ "cols"),
            if_neg (by decide : "type" ≠ "rows"), RecordField.takeMembers_leaf rfl]
          refine settles_some_iff fun kind => ?_
          rw [inductionHypothesis sortedRest, absent]
        · rw [if_neg (by decide : "cols" ≠ "type"), if_pos rfl,
            if_neg (by decide : "cols" ≠ "rows"), RecordField.takeMembers_leaf rfl, and_left_comm]
          refine settles_some_iff fun cols => ?_
          rw [inductionHypothesis sortedRest, absent, and_left_comm]
        · rw [if_neg (by decide : "rows" ≠ "type"), if_neg (by decide : "rows" ≠ "cols"),
            if_pos rfl, RecordField.takeMembers_leaf rfl, ← and_assoc, and_comm]
          refine settles_some_iff fun rows => ?_
          rw [inductionHypothesis sortedRest, absent, ← and_assoc, and_comm]
      · rw [RecordField.takeMembers_of_unknown (find?_fields_eq_none isField),
          inductionHypothesis sortedRest]
        simp only [List.mem_cons, List.not_mem_nil, or_false, not_or] at isField
        rw [if_neg isField.1, if_neg isField.2.1, if_neg isField.2.2]

/-- A message is read of an object whose members are sorted if its fields stand under their
keys. -/
theorem readValue_object_iff
    {members : List (String × Value)}
    (sorted : Value.IsSorted members)
    {message : ResizeMessage} :
    readValue (.object members) = some message ↔
      (Value.lookup "type" members).bind Value.string? = some message.kind ∧
        (Value.lookup "cols" members).bind Value.uint16? = some message.size.cols ∧
        (Value.lookup "rows" members).bind Value.uint16? = some message.size.rows := by
  have finished (draft : Draft) :
      draft.finish = some message ↔
        draft = ⟨some message.kind, some message.size.cols, some message.size.rows⟩ := by
    obtain ⟨kind, cols, rows⟩ := draft
    obtain ⟨isKind, isCols, isRows⟩ := message
    cases kind <;> cases cols <;> cases rows <;> simp [Draft.finish]
  unfold readValue RecordField.takeRecord
  dsimp only
  rw [Option.bind_eq_some_iff]
  simp only [finished, exists_eq_right]
  rw [takeMembers_eq_some_iff sorted, settles_blank_iff, settles_blank_iff, settles_blank_iff]

end ResizeMessage

/-! ## Objects -/

theorem uint16?_eq_some_iff
    {value : Value}
    {word : UInt16} :
    value.uint16? = some word ↔ value.natBelow? UInt16.size = some word.toNat := by
  rw [Value.uint16?, Option.map_eq_some_iff]
  constructor
  · rintro ⟨number, found, rfl⟩
    have below : number < UInt16.size := by
      cases value with
      | number read =>
          obtain ⟨whole, -, found⟩ := Option.bind_eq_some_iff.1 found
          split at found
          · cases found
            omega
          · cases found
      | null | bool | string | array | object => cases found
    rw [found, UInt16.toNat_ofNat_of_lt' below]
  · intro found
    exact ⟨word.toNat, found, UInt16.ofNat_toNat⟩

section

variable {parts : List (Option String × Node)} {members : List (String × Value)}

theorem isResizeObject_iff
    (denote : List.Forall₂ Node.DenotesMember parts members) :
    IsResizeObject parts ↔
      (Value.lookup "type" members).bind Value.string? = some ResizeMessage.resizeKind := by
  have found : (∃ node, Node.IsLast "type" node parts ∧ node = .string (some "resize")) ↔
      ∃ value, Value.lookup "type" members = some value ∧ value.string? = some "resize" :=
    Node.exists_isLast_iff denote fun _ _ denotes => denotes.eq_string_iff "resize"
  rw [exists_eq_right] at found
  rw [Option.bind_eq_some_iff]
  exact found

theorem saysNatural_iff
    (denote : List.Forall₂ Node.DenotesMember parts members)
    (key : String)
    (word : UInt16) :
    SaysNatural key parts word.toNat ↔
      (Value.lookup key members).bind Value.uint16? = some word := by
  rw [Option.bind_eq_some_iff]
  simp only [uint16?_eq_some_iff]
  rw [← Node.exists_isLast_iff denote fun node value denotes =>
    denotes.exists_literal_iff (by decide : UInt16.size ≤ _) word.toNat]
  constructor
  · rintro ⟨literal, isLast, isNatural⟩
    exact ⟨_, isLast, literal, rfl, isNatural, word.toNat_lt⟩
  · rintro ⟨_, isLast, literal, rfl, isNatural, -⟩
    exact ⟨literal, isLast, isNatural⟩

/-- Of the canonical form of an object a message is read that has what the object says. -/
theorem readValue_canonical_iff
    (denote : List.Forall₂ Node.DenotesMember parts members)
    (message : ResizeMessage) :
    ResizeMessage.readValue (Value.object members).canonical = some message ↔
      (Value.lookup "type" members).bind Value.string? = some message.kind ∧
        SaysNatural "cols" parts message.size.cols.toNat ∧
        SaysNatural "rows" parts message.size.rows.toNat := by
  have sorted := Value.isSorted_sortMembers (Value.canonicalMembers members)
  have kept (key : String) :
      Value.lookup key (Value.sortMembers (Value.canonicalMembers members)) =
        (Value.lookup key members).map Value.canonical :=
    Value.get?_canonical key (.object members)
  rw [Value.canonical, ResizeMessage.readValue_object_iff sorted, kept, kept, kept]
  simp only [Option.bind_map, Function.comp_def, Value.string?_canonical, Value.uint16?_canonical]
  rw [saysNatural_iff denote, saysNatural_iff denote]

theorem kind_canonical (members : List (String × Value)) :
    ((Value.object members).canonical.get? "type").bind Value.string? =
      (Value.lookup "type" members).bind Value.string? := by
  rw [Value.get?_canonical, Option.bind_map]
  exact congrArg _ (funext Value.string?_canonical)

/-- An object of another type is no control message. -/
theorem ofValue_of_other
    (denote : List.Forall₂ Node.DenotesMember parts members)
    (other : ¬IsResizeObject parts) :
    ResizeReading.ofValue (Value.object members).canonical = .notControl := by
  refine if_neg fun same => other ((isResizeObject_iff denote).2 ?_)
  rwa [kind_canonical] at same

/-- An object of the type `resize` is a resize message if one can be read of it. -/
theorem ofValue_of_resize
    (denote : List.Forall₂ Node.DenotesMember parts members)
    (isResize : IsResizeObject parts) :
    (∃ size, AsksFor parts size ∧
      ResizeReading.ofValue (Value.object members).canonical = .resize size) ∨
    (∀ size, ¬AsksFor parts size) ∧
      ResizeReading.ofValue (Value.object members).canonical = .malformed := by
  have kind := (isResizeObject_iff denote).1 isResize
  rw [ResizeReading.ofValue, if_pos ((kind_canonical members).trans kind)]
  cases read : ResizeMessage.readValue (Value.object members).canonical with
  | some message =>
      obtain ⟨-, cols, rows⟩ := (readValue_canonical_iff denote message).1 read
      exact .inl ⟨message.size, ⟨isResize, cols, rows⟩, rfl⟩
  | none =>
      refine .inr ⟨fun size asks => ?_, rfl⟩
      have found := (readValue_canonical_iff denote ⟨ResizeMessage.resizeKind, size⟩).2
        ⟨kind, asks.cols, asks.rows⟩
      rw [read] at found
      cases found

end

/-- Only one natural number is said under a key. -/
theorem SaysNatural.eq
    {key : String}
    {parts : List (Option String × Node)}
    {first second : Nat}
    (saysFirst : SaysNatural key parts first)
    (saysSecond : SaysNatural key parts second) :
    first = second := by
  obtain ⟨firstLiteral, firstLast, isFirst⟩ := saysFirst
  obtain ⟨secondLiteral, secondLast, isSecond⟩ := saysSecond
  cases firstLast.eq secondLast
  exact isFirst.value.symm.trans isSecond.value

theorem AsksFor.eq
    {parts : List (Option String × Node)}
    {first second : WindowSize}
    (asksFirst : AsksFor parts first)
    (asksSecond : AsksFor parts second) :
    first = second := by
  have cols := UInt16.toNat_inj.1 (asksFirst.cols.eq asksSecond.cols)
  have rows := UInt16.toNat_inj.1 (asksFirst.rows.eq asksSecond.rows)
  cases first
  cases second
  exact congrArg₂ WindowSize.mk cols rows

/-! ## Text that is no document -/

theorem contains_iff_infix
    {needle text : List Char} :
    Text.contains needle text = true ↔ needle <:+: text := by
  induction text with
  | nil => rw [Text.contains, List.isEmpty_iff, List.infix_nil]
  | cons first rest inductionHypothesis =>
      rw [Text.contains, Bool.or_eq_true, List.isPrefixOf_iff_prefix, inductionHypothesis,
        List.infix_cons_iff]

/-- What does not begin with a blank is found after the blanks. -/
theorem infix_of_infix_append
    {first : Char}
    (notBlank : Text.isBlank first = false)
    {needle blanks rest : List Char}
    (areBlank : ∀ character ∈ blanks, Text.isBlank character = true)
    (found : first :: needle <:+: blanks ++ rest) :
    first :: needle <:+: rest := by
  induction blanks with
  | nil => exact found
  | cons blank blanks inductionHypothesis =>
      obtain ⟨isBlank, areBlankRest⟩ := List.forall_mem_cons.1 areBlank
      rcases List.infix_cons_iff.1 found with atOnce | later
      · rw [← (List.cons_prefix_cons.1 atOnce).1, notBlank] at isBlank
        cases isBlank
      · exact inductionHypothesis areBlankRest later

theorem resembles_iff {text : List Char} :
    ResizeReading.resembles text = true ↔ LooksLikeResize text := by
  unfold ResizeReading.resembles Text.trimStart
  dsimp only
  rw [Bool.and_eq_true, decide_eq_true_eq, contains_iff_infix]
  constructor
  · rintro ⟨brace, found⟩
    obtain ⟨rest, isRest⟩ := List.head?_eq_some_iff.1 brace
    refine ⟨⟨text.takeWhile Text.isBlank, rest, ?_, fun _ => List.mem_takeWhile_imp⟩, ?_⟩
    · rw [← isRest, List.takeWhile_append_dropWhile]
    · exact found.trans (List.dropWhile_suffix _).isInfix
  · rintro ⟨⟨blanks, rest, rfl, areBlank⟩, found⟩
    have trimmed : (blanks ++ '\x7b' :: rest).dropWhile Text.isBlank = '\x7b' :: rest := by
      rw [List.dropWhile_append_of_pos areBlank]
      rfl
    rw [trimmed]
    exact ⟨rfl, infix_of_infix_append (by decide) areBlank found⟩

/-! ## Sorting texts -/

namespace ResizeReading

variable {text : String}

theorem ofText_of_document
    {node : Node}
    (isDocument : node.IsDocument text.toList)
    {value : Value}
    (isValue : node.toValue? Json.maxDepth = some value) :
    ofText text = ofValue value.canonical := by
  have denotes := Json.Document.toValue?_eq_some_iff.2 ⟨node, isDocument, isValue⟩
  unfold ofText Value.parse?
  rw [denotes]
  rfl

theorem ofText_of_no_document
    (noDocument : ∀ node : Node, ¬node.IsDocument text.toList) :
    ofText text = if resembles text.toList then .malformed else .notControl := by
  have nothing : (Document.ofText text.toList).toValue? = none := by
    by_contra something
    obtain ⟨value, isValue⟩ := Option.ne_none_iff_exists'.1 something
    obtain ⟨node, isDocument, -⟩ := Json.Document.toValue?_eq_some_iff.1 isValue
    exact noDocument node isDocument
  unfold ofText Value.parse?
  rw [nothing]
  rfl

theorem ofValue_of_no_object
    {value : Value}
    (noObject : ∀ members, value ≠ .object members) :
    ofValue value.canonical = .notControl := by
  cases value with
  | object members => exact absurd rfl (noObject members)
  | null | bool | number | string | array => rfl

/-- The members of a text that is the document of an object are known. -/
theorem members_eq
    {parts members : List (Option String × Node)}
    (isDocument : (Node.object parts true).IsDocument text.toList)
    (isOther : (Node.object members true).IsDocument text.toList) :
    members = parts :=
  (Node.object.inj (isOther.eq isDocument)).1

/-- A text that is a document is sorted by the object that it is, if it is one. -/
theorem ofText_cases_of_document
    {node : Node}
    (isDocument : node.IsDocument text.toList) :
    (∃ size, Resizes text size ∧ ofText text = .resize size) ∨
      (MeansToResize text ∧ ofText text = .malformed) ∨
      (∀ size, ¬Resizes text size) ∧ ¬MeansToResize text ∧ ofText text = .notControl := by
  obtain ⟨value, isValue⟩ :=
    Option.ne_none_iff_exists'.1 (Node.isDocument_iff.1 isDocument).2
  rw [ofText_of_document isDocument isValue]
  have denotes := (Node.denotes_of_toValue? isValue).1
  by_cases isObject : ∃ members, value = .object members
  · obtain ⟨members, rfl⟩ := isObject
    obtain ⟨parts, rfl, denote⟩ := denotes.exists_parts
    by_cases isResize : IsResizeObject parts
    · rcases ofValue_of_resize denote isResize with ⟨size, asks, read⟩ | ⟨asksNothing, read⟩
      · exact .inl ⟨size, ⟨parts, isDocument, asks⟩, read⟩
      · exact .inr (.inl ⟨.inl ⟨parts, isDocument, isResize, asksNothing⟩, read⟩)
    · refine .inr (.inr ⟨?_, ?_, ofValue_of_other denote isResize⟩)
      · rintro size ⟨other, isOther, asks⟩
        exact isResize (members_eq isDocument isOther ▸ asks.kind)
      · rintro (⟨other, isOther, otherIsResize, -⟩ | ⟨noDocument, -⟩)
        · exact isResize (members_eq isDocument isOther ▸ otherIsResize)
        · exact noDocument _ isDocument
  · have noObject (parts : List (Option String × Node)) :
        ¬(Node.object parts true).IsDocument text.toList := by
      intro isOther
      cases isOther.eq isDocument
      exact isObject (Node.exists_object_of_toValue? isValue)
    refine .inr (.inr ⟨?_, ?_, ofValue_of_no_object fun members same => isObject ⟨members, same⟩⟩)
    · rintro size ⟨parts, isOther, -⟩
      exact noObject parts isOther
    · rintro (⟨parts, isOther, -⟩ | ⟨noDocument, -⟩)
      · exact noObject parts isOther
      · exact noDocument _ isDocument

/-- A text that is no document is sorted by what it looks like. -/
theorem ofText_cases_of_no_document
    (noDocument : ∀ node : Node, ¬node.IsDocument text.toList) :
    (∃ size, Resizes text size ∧ ofText text = .resize size) ∨
      (MeansToResize text ∧ ofText text = .malformed) ∨
      (∀ size, ¬Resizes text size) ∧ ¬MeansToResize text ∧ ofText text = .notControl := by
  rw [ofText_of_no_document noDocument]
  by_cases looks : LooksLikeResize text.toList
  · rw [if_pos (resembles_iff.2 looks)]
    exact .inr (.inl ⟨.inr ⟨noDocument, looks⟩, rfl⟩)
  · rw [if_neg (mt resembles_iff.1 looks)]
    refine .inr (.inr ⟨?_, ?_, rfl⟩)
    · rintro size ⟨parts, isDocument, -⟩
      exact noDocument _ isDocument
    · rintro (⟨parts, isDocument, -⟩ | ⟨-, looksSo⟩)
      · exact noDocument _ isDocument
      · exact looks looksSo

theorem ofText_cases (text : String) :
    (∃ size, Resizes text size ∧ ofText text = .resize size) ∨
      (MeansToResize text ∧ ofText text = .malformed) ∨
      (∀ size, ¬Resizes text size) ∧ ¬MeansToResize text ∧ ofText text = .notControl := by
  by_cases isDocument : ∃ node : Node, node.IsDocument text.toList
  · obtain ⟨node, isDocument⟩ := isDocument
    exact ofText_cases_of_document isDocument
  · exact ofText_cases_of_no_document (not_exists.1 isDocument)

end ResizeReading

theorem Resizes.eq
    {text : String}
    {first second : WindowSize}
    (resizesFirst : Resizes text first)
    (resizesSecond : Resizes text second) :
    first = second := by
  obtain ⟨parts, isDocument, asksFirst⟩ := resizesFirst
  obtain ⟨members, isOther, asksSecond⟩ := resizesSecond
  cases ResizeReading.members_eq isDocument isOther
  exact asksFirst.eq asksSecond

theorem Resizes.not_meansToResize
    {text : String}
    {size : WindowSize}
    (resizes : Resizes text size) :
    ¬MeansToResize text := by
  obtain ⟨parts, isDocument, asks⟩ := resizes
  rintro (⟨members, isOther, -, asksNothing⟩ | ⟨noDocument, -⟩)
  · cases ResizeReading.members_eq isDocument isOther
    exact asksNothing size asks
  · exact noDocument _ isDocument

theorem interpret?_text_of_resize
    {text : String}
    {size : WindowSize}
    (read : ResizeReading.ofText text = .resize size) :
    InboundFrame.interpret? (.text text) = some (.resize size, .resize size) := by
  rw [InboundFrame.interpret?, read]

theorem interpret?_text_of_other
    {text : String}
    (other : ∀ size, ResizeReading.ofText text ≠ .resize size) :
    InboundFrame.interpret? (.text text) =
      some (.data (Text.Utf8.encode text.toList), ResizeReading.ofText text) := by
  rw [InboundFrame.interpret?]
  cases read : ResizeReading.ofText text with
  | resize size => exact absurd read (other size)
  | notControl | malformed => rfl

/-- A text frame resizes the window exactly if its text asks for a size, and a text that is
written to ask for one does; it is malformed exactly if it was meant to and does not; otherwise
it is no control message. Whatever does not resize is typed in as it is. -/
theorem ofText_eq_resize_iff (text : String) :
    (∀ size, ResizeReading.ofText text = .resize size ↔ Resizes text size) ∧
      (ResizeReading.ofText text = .malformed ↔ MeansToResize text) ∧
      (ResizeReading.ofText text = .notControl ↔
        (∀ size, ¬Resizes text size) ∧ ¬MeansToResize text) ∧
      (∀ size, Resizes text size →
        InboundFrame.interpret? (.text text) = some (.resize size, .resize size)) ∧
      ((∀ size, ¬Resizes text size) →
        InboundFrame.interpret? (.text text) =
          some (.data (Text.Utf8.encode text.toList), ResizeReading.ofText text)) ∧
      ∀ size, ResizeReading.ofText (ResizeMessage.ofSize size).text = .resize size := by
  have resize_iff (size : WindowSize) :
      ResizeReading.ofText text = .resize size ↔ Resizes text size := by
    rcases ResizeReading.ofText_cases text with
      ⟨found, resizes, read⟩ | ⟨means, read⟩ | ⟨resizesNothing, -, read⟩
    · rw [read]
      exact ⟨fun same => ResizeReading.resize.inj same ▸ resizes,
        fun resizesSize => congrArg _ (resizes.eq resizesSize)⟩
    · exact iff_of_false (read ▸ nofun) fun resizes => resizes.not_meansToResize means
    · exact iff_of_false (read ▸ nofun) (resizesNothing size)
  have malformed_iff : ResizeReading.ofText text = .malformed ↔ MeansToResize text := by
    rcases ResizeReading.ofText_cases text with
      ⟨found, resizes, read⟩ | ⟨means, read⟩ | ⟨-, meansNothing, read⟩
    · exact iff_of_false (read ▸ nofun) resizes.not_meansToResize
    · exact iff_of_true read means
    · exact iff_of_false (read ▸ nofun) meansNothing
  refine ⟨resize_iff, malformed_iff, ?_, ?_, ?_, ResizeReading.ofText_ofSize⟩
  · simp only [← resize_iff, ← malformed_iff]
    cases ResizeReading.ofText text <;> simp
  · exact fun size resizes => interpret?_text_of_resize ((resize_iff size).2 resizes)
  · exact fun nothing => interpret?_text_of_other fun size same =>
      nothing size ((resize_iff size).1 same)

end Terminal
end SessionHub
