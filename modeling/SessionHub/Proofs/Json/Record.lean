import SessionHub.Proofs.Json.Nesting
import SessionHub.Proofs.Utf8.Pieces

/-!
# Records are read as they were written

A record is read from the text of a value as from the value itself, if the values of its
members have no parts. The members of an object with a tag are kept, or refused where one
of them is nested too deep.
-/

namespace SessionHub
namespace Json

/-! ## Texts of values -/

/-- Whatever is read of all nodes that denote a value is read of its text. -/
theorem Value.IsIntegral.read_ofText
    {value : Value}
    (integral : value.IsIntegral)
    {read : Node → Except Fault α}
    {outcome : Except Fault α}
    (reads : ∀ node, node.Denotes value → read node = outcome) :
    (Document.ofText value.renderChars).read read = outcome := by
  obtain ⟨node, document, denotes⟩ := integral.exists_document
  rw [document, Document.read, reads node denotes]
  cases outcome <;> rfl

/-- What is read of a document is read of its root. -/
theorem Document.root_of_read
    {document : Document}
    {read : Node → Except Fault α}
    {value : α}
    (found : document.read read = .ok value) :
    read document.root = .ok value := by
  rw [Document.read] at found
  split at found
  · cases found
  · next other isOther =>
    split at found
    · rw [isOther, found]
    · cases found

theorem Document.textOfBytes_encode (text : List Char) :
    textOfBytes (Text.Utf8.encode text) = text := by
  induction text with
  | nil => rw [Text.Utf8.encode_nil, textOfBytes]
  | cons character rest inductionHypothesis =>
      have nonempty : String.utf8EncodeChar character ++ Text.Utf8.encode rest ≠ [] := by simp
      obtain ⟨byte, bytes, encoded⟩ := List.exists_cons_of_ne_nil nonempty
      have piece := Text.Utf8.firstPiece_character character (Text.Utf8.encode rest)
      have dropped : (String.utf8EncodeChar character ++ Text.Utf8.encode rest).drop
          (String.utf8EncodeChar character).length = Text.Utf8.encode rest := List.drop_left
      rw [encoded] at piece dropped
      rw [Text.Utf8.encode_cons, encoded, textOfBytes, piece]
      dsimp only
      rw [dropped, inductionHypothesis, List.singleton_append]

/-- A text is read from its bytes as from its characters. -/
theorem Document.ofBytes_encode (text : List Char) :
    ofBytes (Text.Utf8.encode text) = ofText text := by
  rw [ofBytes, textOfBytes_encode]

/-! ## Leaves -/

namespace Value

/-- A value without parts, and without a fraction. -/
structure IsPlain (value : Value) : Prop where
  integral : value.IsIntegral
  flat : value.depth = 0

/-- The values of members are plain. -/
def ArePlain (members : List (String × Value)) : Prop :=
  ∀ member ∈ members, member.2.IsPlain

theorem isPlain_string (text : String) : (Value.string text).IsPlain :=
  ⟨.string text, rfl⟩

theorem isPlain_ofUInt64 (word : UInt64) : (Value.number (.ofUInt64 word)).IsPlain :=
  ⟨.number _ _ _, rfl⟩

theorem isPlain_ofUInt16 (word : UInt16) : (Value.number (.ofUInt16 word)).IsPlain :=
  ⟨.number _ _ _, rfl⟩

theorem isPlain_ofInt32 (word : Int32) : (Value.number (.ofInt32 word)).IsPlain :=
  ⟨.number _ _ _, rfl⟩

theorem arePlain_nil : ArePlain [] :=
  nofun

theorem ArePlain.cons
    {value : Value}
    {members : List (String × Value)}
    (first : value.IsPlain)
    (rest : ArePlain members)
    (name : String) :
    ArePlain ((name, value) :: members) :=
  List.forall_mem_cons.2 ⟨first, rest⟩

theorem ArePlain.append
    {first second : List (String × Value)}
    (plainFirst : ArePlain first)
    (plainSecond : ArePlain second) :
    ArePlain (first ++ second) :=
  List.forall_mem_append.2 ⟨plainFirst, plainSecond⟩

theorem arePlain_optionalMember
    {encode : α → Value}
    (plain : ∀ value, (encode value).IsPlain)
    (name : String)
    (option : Option α) :
    ArePlain (optionalMember name encode option) := by
  cases option with
  | none => exact arePlain_nil
  | some value => exact arePlain_nil.cons (plain value) name

variable {members : List (String × Value)}

theorem ArePlain.isIntegral
    (plain : ArePlain members) :
    (Value.object members).IsIntegral :=
  .object members fun member listed => (plain member listed).integral

theorem ArePlain.depth_eq
    (plain : ArePlain members) :
    (Value.object members).depth = 1 := by
  have flat : depthOfMembers members ≤ 0 :=
    depthOfMembers_le_iff.2 fun member listed => Nat.le_of_eq (plain member listed).flat
  rw [depth, Nat.le_zero.1 flat]

/-! ## Reading leaves -/

@[simp] theorem string?_string (text : String) : (Value.string text).string? = some text :=
  rfl

theorem natBelow?_ofNat
    {value bound : Nat}
    (below : value < bound)
    (lower : -0x8000000000000000 ≤ (value : Int))
    (upper : (value : Int) < 0x10000000000000000) :
    (Value.number (.whole value lower upper)).natBelow? bound = some value := by
  have within : (0 : Int) ≤ value ∧ (value : Int) < bound :=
    ⟨Int.natCast_nonneg _, Int.ofNat_lt.2 below⟩
  rw [natBelow?, Number.natBelow?, Number.whole?, Option.bind_some, if_pos within,
    Int.toNat_natCast]

@[simp] theorem uint16?_ofUInt16 (word : UInt16) :
    (Value.number (.ofUInt16 word)).uint16? = some word := by
  rw [uint16?, Number.ofUInt16, natBelow?_ofNat word.toNat_lt, Option.map_some,
    UInt16.ofNat_toNat]

@[simp] theorem uint64?_ofUInt64 (word : UInt64) :
    (Value.number (.ofUInt64 word)).uint64? = some word := by
  rw [uint64?, Number.ofUInt64, natBelow?_ofNat word.toNat_lt, Option.map_some,
    UInt64.ofNat_toNat]

@[simp] theorem int32?_ofInt32 (word : Int32) :
    (Value.number (.ofInt32 word)).int32? = some word := by
  have within : -0x80000000 ≤ word.toInt ∧ word.toInt < 0x80000000 :=
    ⟨word.le_toInt, word.toInt_lt⟩
  rw [int32?, Number.ofInt32, Number.whole?, Option.bind_some, if_pos within, Int32.ofInt_toInt]

@[simp] theorem optional?_string (read : Value → Option α) (text : String) :
    optional? read (.string text) = (read (.string text)).map some :=
  rfl

@[simp] theorem optional?_number (read : Value → Option α) (number : Number) :
    optional? read (.number number) = (read (.number number)).map some :=
  rfl

end Value

namespace Node

theorem isWhole_of_leaf?
    {node : Node}
    {value : Value}
    (leaf : node.leaf? = some value) :
    node.isWhole = true := by
  cases node with
  | null | bool | number | string => rfl
  | array | object | broken => cases leaf

theorem eq_string_of_leaf?
    {node : Node}
    {text : String}
    (leaf : node.leaf? = some (.string text)) :
    node = .string (some text) := by
  cases node with
  | string found =>
      obtain ⟨_, isFound, same⟩ := Option.map_eq_some_iff.1 leaf
      rw [isFound, Value.string.inj same]
  | number literal =>
      obtain ⟨_, _, same⟩ := Option.map_eq_some_iff.1 leaf
      cases same
  | null | bool | array | object | broken => cases leaf

theorem Denotes.readLeaf_eq
    {node : Node}
    {value : Value}
    (denotes : node.Denotes value)
    (flat : value.depth = 0)
    {read : Value → Option α}
    {result : α}
    (found : read value = some result) :
    node.readLeaf read = .ok result := by
  rw [readLeaf, denotes.leaf?_eq flat, Option.bind_some, found]

end Node

/-! ## Fields and members -/

namespace RecordField

variable {Draft : Type}

/-- What the field reads from a value without parts it reads from the text of the value. -/
def IsFlat (field : RecordField Draft) : Prop :=
  ∀ (node : Node) (value : Value) (update : Draft → Draft), value.depth = 0 →
    node.Denotes value → field.readValue value = some update → field.readNode node = .ok update

theorem isFlat_leaf
    (name : String)
    (read : Value → Option α)
    (isSet : Draft → Bool)
    (put : α → Draft → Draft)
    (mayBeCut : Bool) :
    (leaf name read isSet put mayBeCut).IsFlat := by
  intro node value update flat denotes found
  obtain ⟨result, isResult, isUpdate⟩ := Option.map_eq_some_iff.1 found
  change (node.readLeaf read).map put = .ok update
  rw [denotes.readLeaf_eq flat isResult, ← isUpdate]
  rfl

variable {fields : List (RecordField Draft)}

/-- A member under the name of a field without parts makes this field, unless the draft has it. -/
theorem takeMembers_leaf
    {name : String}
    {read : Value → Option α}
    {isSet : Draft → Bool}
    {put : α → Draft → Draft}
    {mayBeCut : Bool}
    (found : fields.find? (·.name = name) = some (leaf name read isSet put mayBeCut))
    (value : Value)
    (rest : List (String × Value))
    (draft : Draft) :
    takeMembers fields ((name, value) :: rest) draft =
      if isSet draft then none
      else (read value).bind fun part => takeMembers fields rest (put part draft) := by
  rw [takeMembers, found]
  simp only [leaf, Option.bind_map]
  rfl

/-- A member under another name is passed over. -/
theorem takeMembers_of_unknown
    {name : String}
    (unknown : fields.find? (·.name = name) = none)
    (value : Value)
    (rest : List (String × Value))
    (draft : Draft) :
    takeMembers fields ((name, value) :: rest) draft = takeMembers fields rest draft := by
  rw [takeMembers, unknown]

/-- Members whose values have no parts are read from a text as they are from values. -/
theorem readMembers_of_takeMembers
    (areFlat : ∀ field ∈ fields, field.IsFlat)
    {parts : List (Option String × Node)}
    {members : List (String × Value)}
    (denote : List.Forall₂ Node.DenotesMember parts members)
    (flat : ∀ member ∈ members, member.2.depth = 0)
    {draft result : Draft}
    (taken : takeMembers fields members draft = some result) :
    readMembers fields true parts draft = .ok result := by
  induction denote generalizing draft with
  | nil =>
      cases taken
      rfl
  | @cons part member parts members denotesFirst _ inductionHypothesis =>
      obtain ⟨key, node⟩ := part
      obtain ⟨name, value⟩ := member
      obtain ⟨isKey, denotes⟩ := denotesFirst
      obtain ⟨flatFirst, flatRest⟩ := List.forall_mem_cons.1 flat
      dsimp only at isKey denotes flatFirst
      rw [isKey, readMembers]
      rw [takeMembers] at taken
      cases found : fields.find? (·.name = name) with
      | none =>
          rw [found] at taken
          dsimp only
          rw [if_pos (Node.isWhole_of_leaf? (denotes.leaf?_eq flatFirst))]
          exact inductionHypothesis flatRest taken
      | some field =>
          rw [found] at taken
          dsimp only at taken ⊢
          split at taken
          · cases taken
          · next unset =>
            obtain ⟨update, isUpdate, taken⟩ := Option.bind_eq_some_iff.1 taken
            have isFlat := areFlat field (List.mem_of_find?_eq_some found)
            rw [if_neg unset, isFlat node value update flatFirst denotes isUpdate]
            exact inductionHypothesis flatRest taken

/-- A record whose fields have no parts is read from the text of a value as from the value. -/
theorem read_ofText
    (areFlat : ∀ field ∈ fields, field.IsFlat)
    {members : List (String × Value)}
    (plain : Value.ArePlain members)
    {blank : Draft}
    {finish : Draft → Option α}
    {record : α}
    (taken : takeRecord fields blank finish (.object members) = some record) :
    (Document.ofText (Value.object members).renderChars).read
      (readRecord fields blank finish) = .ok record := by
  apply plain.isIntegral.read_ofText
  intro node denotes
  obtain ⟨parts, isObject, denote⟩ := denotes.exists_parts
  obtain ⟨draft, isDraft, finished⟩ := Option.bind_eq_some_iff.1 taken
  have flat : ∀ member ∈ members, member.2.depth = 0 :=
    fun member listed => (plain member listed).flat
  rw [isObject, readRecord, readMembers_of_takeMembers areFlat denote flat isDraft]
  dsimp only
  rw [finished]

/-- What holds of a draft and is kept by all fields holds of the draft with members. -/
theorem takeMembers_keeps
    {kept : Draft → Prop}
    {allowed : Value → Prop}
    (keep : ∀ field ∈ fields, ∀ value, allowed value → ∀ update,
      field.readValue value = some update → ∀ draft, kept draft → kept (update draft))
    {members : List (String × Value)}
    (areAllowed : ∀ member ∈ members, allowed member.2)
    {draft result : Draft}
    (before : kept draft)
    (taken : takeMembers fields members draft = some result) :
    kept result := by
  induction members generalizing draft with
  | nil =>
      cases taken
      exact before
  | cons member rest inductionHypothesis =>
      obtain ⟨allowedFirst, allowedRest⟩ := List.forall_mem_cons.1 areAllowed
      rw [takeMembers] at taken
      split at taken
      · exact inductionHypothesis allowedRest before taken
      · next field found =>
        split at taken
        · cases taken
        · obtain ⟨update, isUpdate, taken⟩ := Option.bind_eq_some_iff.1 taken
          have listed := List.mem_of_find?_eq_some found
          exact inductionHypothesis allowedRest
            (keep field listed _ allowedFirst update isUpdate draft before) taken

/-- The same of the draft with items. -/
theorem takeItems_keeps
    {kept : Draft → Prop}
    {allowed : Value → Prop}
    (keep : ∀ field ∈ fields, ∀ value, allowed value → ∀ update,
      field.readValue value = some update → ∀ draft, kept draft → kept (update draft))
    {items : List Value}
    (areAllowed : ∀ item ∈ items, allowed item)
    {draft result : Draft}
    (before : kept draft)
    (taken : takeItems fields items draft = some result) :
    kept result := by
  induction fields generalizing items draft with
  | nil =>
      cases items with
      | nil =>
          cases taken
          exact before
      | cons item rest => cases taken
  | cons field fields inductionHypothesis =>
      obtain ⟨keepFirst, keepRest⟩ := List.forall_mem_cons.1 keep
      cases items with
      | nil =>
          rw [takeItems] at taken
          split at taken
          · exact inductionHypothesis keepRest areAllowed before taken
          · cases taken
      | cons item rest =>
          obtain ⟨allowedFirst, allowedRest⟩ := List.forall_mem_cons.1 areAllowed
          rw [takeItems] at taken
          obtain ⟨update, isUpdate, taken⟩ := Option.bind_eq_some_iff.1 taken
          exact inductionHypothesis keepRest allowedRest
            (keepFirst item allowedFirst update isUpdate draft before) taken

/-- The values of which a record is read. -/
def partsOf : Value → List Value
  | .array items => items
  | .object members => members.map Prod.snd
  | .null | .bool _ | .number _ | .string _ => []

theorem exists_draft
    {content : Value}
    {blank : Draft}
    {finish : Draft → Option α}
    {record : α}
    (taken : takeRecord fields blank finish content = some record) :
    ∃ draft, finish draft = some record := by
  cases content with
  | array | object =>
      obtain ⟨draft, _, finished⟩ := Option.bind_eq_some_iff.1 taken
      exact ⟨draft, finished⟩
  | null | bool | number | string => cases taken

/-- A record is made of a draft of which holds what all fields keep. -/
theorem exists_kept_draft
    {kept : Draft → Prop}
    {allowed : Value → Prop}
    (keep : ∀ field ∈ fields, ∀ value, allowed value → ∀ update,
      field.readValue value = some update → ∀ draft, kept draft → kept (update draft))
    {content : Value}
    (areAllowed : ∀ part ∈ partsOf content, allowed part)
    {blank : Draft}
    (before : kept blank)
    {finish : Draft → Option α}
    {record : α}
    (taken : takeRecord fields blank finish content = some record) :
    ∃ draft, kept draft ∧ finish draft = some record := by
  cases content with
  | array items =>
      obtain ⟨draft, isDraft, finished⟩ := Option.bind_eq_some_iff.1 taken
      exact ⟨draft, takeItems_keeps keep areAllowed before isDraft, finished⟩
  | object members =>
      obtain ⟨draft, isDraft, finished⟩ := Option.bind_eq_some_iff.1 taken
      have areAllowed := List.forall_mem_map.1 areAllowed
      exact ⟨draft, takeMembers_keeps keep areAllowed before isDraft, finished⟩
  | null | bool | number | string => cases taken

end RecordField

/-! ## Objects with a tag -/

section Tagged

variable {Tag : Type} {key : String} {readTag : Node → Except Fault Tag}

/-- Members that are not the tag are kept, unless one of them is nested too deep. -/
theorem readTagged_of_others
    {parts : List (Option String × Node)}
    {members : List (String × Value)}
    (denote : List.Forall₂ Node.DenotesMember parts members)
    (untagged : ∀ member ∈ members, member.1 ≠ key)
    (tag : Option Tag)
    (others : List (String × Value)) :
    readTagged key readTag true parts tag others =
      if Value.depthOfMembers members ≤ innerDepth then .ok (tag, others.reverse ++ members)
      else .error .notJson := by
  induction denote generalizing others with
  | nil => simp [readTagged, Value.depthOfMembers]
  | @cons part member parts members denotesFirst _ inductionHypothesis =>
      obtain ⟨readable, node⟩ := part
      obtain ⟨name, value⟩ := member
      obtain ⟨isKey, denotes⟩ := denotesFirst
      obtain ⟨notTag, untaggedRest⟩ := List.forall_mem_cons.1 untagged
      dsimp only at isKey denotes notTag
      rw [isKey, readTagged, if_neg notTag, denotes.toValue?_eq, Value.depthOfMembers]
      by_cases shallow : value.depth ≤ innerDepth
      · rw [if_pos shallow]
        dsimp only
        rw [inductionHypothesis untaggedRest]
        simp only [Nat.max_le, shallow, true_and, List.reverse_cons, List.append_assoc,
          List.singleton_append]
      · have deep : ¬ max value.depth (Value.depthOfMembers members) ≤ innerDepth :=
          fun both => shallow (Nat.max_le.1 both).1
        rw [if_neg shallow, if_neg deep]

/-- The tag is read where it comes first. -/
theorem readTagged_of_tag_first
    {parts : List (Option String × Node)}
    {first : Value}
    {members : List (String × Value)}
    (denote : List.Forall₂ Node.DenotesMember parts ((key, first) :: members))
    (untagged : ∀ member ∈ members, member.1 ≠ key)
    {tag : Tag}
    (isTag : ∀ node, node.Denotes first → readTag node = .ok tag) :
    readTagged key readTag true parts none [] =
      if Value.depthOfMembers members ≤ innerDepth then .ok (some tag, members)
      else .error .notJson := by
  cases denote with
  | @cons part _ parts _ denotesFirst denoteRest =>
      obtain ⟨readable, node⟩ := part
      obtain ⟨isKey, denotes⟩ := denotesFirst
      dsimp only at isKey denotes
      rw [isKey, readTagged, if_pos rfl, if_neg nofun, isTag node denotes]
      exact readTagged_of_others denoteRest untagged (some tag) []

/-- What was kept of an object with a tag is within the depth that is admitted. -/
theorem depth_le_of_readTagged
    {parts : List (Option String × Node)}
    {closed : Bool}
    {tag last : Option Tag}
    {others kept : List (String × Value)}
    (shallow : ∀ member ∈ others, member.2.depth ≤ innerDepth)
    (read : readTagged key readTag closed parts tag others = .ok (last, kept)) :
    ∀ member ∈ kept, member.2.depth ≤ innerDepth := by
  induction parts generalizing tag others with
  | nil =>
      rw [readTagged] at read
      split at read
      · cases read
        intro member listed
        exact shallow member (List.mem_reverse.1 listed)
      · cases read
  | cons part rest inductionHypothesis =>
      obtain ⟨readable, node⟩ := part
      cases readable with
      | none => cases read
      | some name =>
          rw [readTagged] at read
          split at read
          · split at read
            · cases read
            · split at read
              · cases read
              · exact inductionHypothesis shallow read
          · split at read
            · cases read
            · next value found =>
              refine inductionHypothesis ?_ read
              exact List.forall_mem_cons.2 ⟨(Node.denotes_of_toValue? found).2, shallow⟩

end Tagged

end Json
end SessionHub
