import SessionHub.Proofs.Json.Lexical

/-!
# Reading what was written

The text of a value whose numbers are all whole denotes this value. The proof is by
induction on the value: wherever its text stands, the parser finds a node that denotes the
value, and stops right after it.
-/

namespace SessionHub
namespace Json

/-- No number of the value is a binary64. -/
inductive Value.IsIntegral : Value → Prop
  | null : IsIntegral .null
  | bool (value : Bool) : IsIntegral (.bool value)
  | number (value : Int) (lower : -0x8000000000000000 ≤ value)
      (upper : value < 0x10000000000000000) : IsIntegral (.number (.whole value lower upper))
  | string (text : String) : IsIntegral (.string text)
  | array (items : List Value) : (∀ item ∈ items, IsIntegral item) → IsIntegral (.array items)
  | object (members : List (String × Value)) :
      (∀ member ∈ members, IsIntegral member.2) → IsIntegral (.object members)

/-- A reader that admits enough levels finds the value in the node. -/
def Node.Denotes (node : Node) (value : Value) : Prop :=
  ∀ levels, value.depth ≤ levels → node.toValue? levels = some value

/-- The text of a value is read as a node that denotes the value, and no further. -/
def Value.Reads (value : Value) : Prop :=
  ∀ fuel rest, value.renderChars.length ≤ fuel → FollowsNumber rest →
    ∃ node, parseNode fuel (value.renderChars ++ rest) = (node, rest) ∧ node.Denotes value

/-! ## Beginnings -/

/-- A character with which a value may begin. -/
structure Begins (first : Char) : Prop where
  notGap : isGap first = false
  notBracket : first ≠ ']'

theorem skipGap_cons
    {first : Char}
    (notGap : isGap first = false)
    (rest : List Char) :
    skipGap (first :: rest) = first :: rest :=
  List.dropWhile_cons_of_neg (by simp [notGap])

/-- A character with which a number begins. -/
def IsNumeric (first : Char) : Prop :=
  Text.isDigit first = true ∨ first = '-'

instance (first : Char) : Decidable (IsNumeric first) :=
  inferInstanceAs (Decidable (_ ∨ _))

theorem exists_isNumeric (value : Int) :
    ∃ first rest, Text.intDigits value = first :: rest ∧ IsNumeric first := by
  unfold Text.intDigits
  split
  · exact ⟨'-', _, rfl, .inr rfl⟩
  · cases digits : Text.natDigits value.natAbs with
    | nil => exact absurd digits (Text.natDigits_ne_nil _)
    | cons first rest =>
        refine ⟨first, rest, rfl, .inl ?_⟩
        exact Text.isDigit_of_mem_natDigits (digits ▸ List.mem_cons_self)

theorem IsNumeric.ne
    {first other : Char}
    (numeric : IsNumeric first)
    (notNumeric : ¬IsNumeric other) :
    first ≠ other := by
  intro same
  exact notNumeric (same ▸ numeric)

theorem IsNumeric.cons_ne
    {first other : Char}
    (numeric : IsNumeric first)
    (notNumeric : ¬IsNumeric other)
    {text rest : List Char} :
    first :: text ≠ other :: rest := by
  intro same
  exact numeric.ne notNumeric (List.cons.inj same).1

theorem IsNumeric.begins
    {first : Char}
    (numeric : IsNumeric first) :
    Begins first where
  notGap := by
    unfold isGap
    simp only [Bool.or_eq_false_iff, decide_eq_false_iff_not]
    exact ⟨⟨⟨numeric.ne (by decide), numeric.ne (by decide)⟩, numeric.ne (by decide)⟩,
      numeric.ne (by decide)⟩
  notBracket := numeric.ne (by decide)

theorem Value.IsIntegral.exists_begins
    {value : Value}
    (integral : value.IsIntegral) :
    ∃ first rest, value.renderChars = first :: rest ∧ Begins first := by
  cases integral with
  | null => exact ⟨'n', _, rfl, by decide, by decide⟩
  | bool value =>
      cases value with
      | false => exact ⟨'f', _, rfl, by decide, by decide⟩
      | true => exact ⟨'t', _, rfl, by decide, by decide⟩
  | number value lower upper =>
      obtain ⟨first, rest, digits, numeric⟩ := exists_isNumeric value
      exact ⟨first, rest, digits, numeric.begins⟩
  | string text => exact ⟨'"', _, rfl, by decide, by decide⟩
  | array items => exact ⟨'[', _, rfl, by decide, by decide⟩
  | object members => exact ⟨'\x7b', _, rfl, by decide, by decide⟩

/-! ## Parts -/

theorem parseNode_null (fuel : Nat) (rest : List Char) :
    parseNode (fuel + 1) ("null".toList ++ rest) = (.null, rest) :=
  rfl

theorem parseNode_true (fuel : Nat) (rest : List Char) :
    parseNode (fuel + 1) ("true".toList ++ rest) = (.bool true, rest) :=
  rfl

theorem parseNode_false (fuel : Nat) (rest : List Char) :
    parseNode (fuel + 1) ("false".toList ++ rest) = (.bool false, rest) :=
  rfl

theorem parseNode_intDigits
    (fuel : Nat)
    (value : Int)
    {rest : List Char}
    (follows : FollowsNumber rest) :
    parseNode (fuel + 1) (Text.intDigits value ++ rest) = (.number (.ofWhole value), rest) := by
  have lexed := lexNumber_intDigits value follows
  obtain ⟨first, others, digits, numeric⟩ := exists_isNumeric value
  rw [digits] at lexed ⊢
  rw [List.cons_append, parseNode, ← List.cons_append, lexed]
  all_goals
    intro after
    exact numeric.cons_ne (by decide)

theorem parseNode_renderString (fuel : Nat) (text : String) (rest : List Char) :
    parseNode (fuel + 1) (renderString text ++ rest) = (.string (some text), rest) := by
  obtain ⟨units, lexed, joined⟩ := exists_units_of_escape text.toList rest
  rw [renderString, List.cons_append, List.append_assoc, parseNode, List.singleton_append, lexed]
  dsimp only
  rw [unitsToString, joined, Option.map_some, String.ofList_toList]

theorem parseNode_empty_array (fuel : Nat) (rest : List Char) :
    parseNode (fuel + 1) ('[' :: ']' :: rest) = (.array [] true, rest) :=
  rfl

theorem parseNode_empty_object (fuel : Nat) (rest : List Char) :
    parseNode (fuel + 1) ('\x7b' :: '\x7d' :: rest) = (.object [] true, rest) :=
  rfl

theorem parseNode_array
    {text rest : List Char}
    {first : Char}
    (begins : Begins first)
    {fuel : Nat}
    {nodes : List Node}
    (items : parseItems fuel (first :: text) = (nodes, true, rest)) :
    parseNode (fuel + 1) ('[' :: first :: text) = (.array nodes true, rest) := by
  rw [parseNode, skipGap_cons begins.notGap]
  split
  · next same => exact absurd (List.cons.inj same).1 begins.notBracket
  · rw [items]

theorem parseNode_object
    {text rest : List Char}
    {fuel : Nat}
    {nodes : List (Option String × Node)}
    (members : parseMembers fuel ('"' :: text) = (nodes, true, rest)) :
    parseNode (fuel + 1) ('\x7b' :: '"' :: text) = (.object nodes true, rest) := by
  rw [parseNode, skipGap_cons (by decide)]
  split
  · next same => exact absurd (List.cons.inj same).1 (by decide)
  · rw [members]

/-! ## Items and members -/

theorem parseItems_last
    {text rest : List Char}
    {fuel : Nat}
    {first : Char}
    {node : Node}
    (item : parseNode fuel (first :: text) = (node, ']' :: rest)) :
    parseItems (fuel + 1) (first :: text) = ([node], true, rest) := by
  rw [parseItems, item]
  · dsimp only
    rw [skipGap_cons (by decide)]
    rfl
  · exact nofun

theorem parseItems_cons
    {text others rest : List Char}
    {fuel : Nat}
    {first next : Char}
    {node : Node}
    {nodes : List Node}
    (item : parseNode fuel (first :: text) = (node, ',' :: next :: others))
    (begins : Begins next)
    (items : parseItems fuel (next :: others) = (nodes, true, rest)) :
    parseItems (fuel + 1) (first :: text) = (node :: nodes, true, rest) := by
  rw [parseItems, item]
  · dsimp only
    rw [skipGap_cons (by decide)]
    simp only
    rw [skipGap_cons begins.notGap]
    split
    · next same => exact absurd (List.cons.inj same).1 begins.notBracket
    · rw [items]
  · exact nofun

theorem parseMembers_last
    {key : String}
    {first : Char}
    {text rest : List Char}
    (begins : Begins first)
    {fuel : Nat}
    {node : Node}
    (value : parseNode fuel (first :: text) = (node, '\x7d' :: rest)) :
    parseMembers (fuel + 1) (renderString key ++ ':' :: first :: text) =
      ([(some key, node)], true, rest) := by
  obtain ⟨units, lexed, joined⟩ := exists_units_of_escape key.toList (':' :: first :: text)
  rw [renderString, List.cons_append, List.append_assoc, parseMembers, List.singleton_append,
    lexed]
  dsimp only
  rw [skipGap_cons (by decide)]
  simp only
  rw [skipGap_cons begins.notGap, value]
  dsimp only
  rw [skipGap_cons (by decide)]
  simp only
  rw [unitsToString, joined, Option.map_some, String.ofList_toList]

theorem parseMembers_cons
    {key : String}
    {first : Char}
    {text others rest : List Char}
    (begins : Begins first)
    {fuel : Nat}
    {node : Node}
    {nodes : List (Option String × Node)}
    (value : parseNode fuel (first :: text) = (node, ',' :: '"' :: others))
    (members : parseMembers fuel ('"' :: others) = (nodes, true, rest)) :
    parseMembers (fuel + 1) (renderString key ++ ':' :: first :: text) =
      ((some key, node) :: nodes, true, rest) := by
  obtain ⟨units, lexed, joined⟩ := exists_units_of_escape key.toList (':' :: first :: text)
  rw [renderString, List.cons_append, List.append_assoc, parseMembers, List.singleton_append,
    lexed]
  dsimp only
  rw [skipGap_cons (by decide)]
  simp only
  rw [skipGap_cons begins.notGap, value]
  dsimp only
  rw [skipGap_cons (by decide)]
  simp only
  rw [skipGap_cons (by decide), unitsToString, joined, Option.map_some, String.ofList_toList]
  split
  · next same => exact absurd (List.cons.inj same).1 (by decide)
  · rw [members]

/-! ## Whole values -/

theorem followsNumber_cons
    {next : Char}
    (stops : Text.isDigit next = false ∧ next ≠ '.' ∧ next ≠ 'e' ∧ next ≠ 'E')
    (rest : List Char) :
    FollowsNumber (next :: rest) := by
  intro first isFirst
  rw [← Option.some.inj isFirst]
  exact stops

/-- Within a longer text, a value is read up to what ends it. -/
theorem Value.IsIntegral.exists_node
    {value : Value}
    (integral : value.IsIntegral)
    (reads : value.Reads)
    {fuel : Nat}
    (enough : value.renderChars.length ≤ fuel)
    (next : Char)
    (stops : Text.isDigit next = false ∧ next ≠ '.' ∧ next ≠ 'e' ∧ next ≠ 'E')
    (rest : List Char) :
    ∃ first text node, value.renderChars = first :: text ∧ Begins first ∧
      parseNode fuel (first :: (text ++ next :: rest)) = (node, next :: rest) ∧
      node.Denotes value := by
  obtain ⟨first, text, rendered, begins⟩ := integral.exists_begins
  obtain ⟨node, parsed, denotes⟩ :=
    reads fuel (next :: rest) enough (followsNumber_cons stops rest)
  rw [rendered, List.cons_append] at parsed
  exact ⟨first, text, node, rendered, begins, parsed, denotes⟩

theorem exists_begins_of_items
    {first : Value}
    (integral : first.IsIntegral)
    (items : List Value) :
    ∃ next rest, Value.renderItems (first :: items) = next :: rest ∧ Begins next := by
  obtain ⟨next, rest, rendered, begins⟩ := integral.exists_begins
  cases items with
  | nil => exact ⟨next, rest, by rw [Value.renderItems, rendered], begins⟩
  | cons second others =>
      refine ⟨next, rest ++ ',' :: Value.renderItems (second :: others), ?_, begins⟩
      rw [Value.renderItems, rendered, List.cons_append]
      exact nofun

theorem exists_quote_of_members
    (key : String)
    (value : Value)
    (members : List (String × Value)) :
    ∃ rest, Value.renderMembers ((key, value) :: members) = '"' :: rest := by
  cases members with
  | nil => exact ⟨_, rfl⟩
  | cons second others => exact ⟨_, rfl⟩

/-- The text of several items is read as nodes that denote them. -/
theorem parseItems_renderItems
    {first : Value}
    {items : List Value}
    (integral : ∀ item ∈ first :: items, item.IsIntegral)
    (reads : ∀ item ∈ first :: items, item.Reads)
    {fuel : Nat}
    (enough : (Value.renderItems (first :: items)).length < fuel)
    (rest : List Char) :
    ∃ nodes,
      parseItems fuel (Value.renderItems (first :: items) ++ ']' :: rest) =
        (nodes, true, rest) ∧
      ∀ levels, Value.depthOfItems (first :: items) ≤ levels →
        Node.itemValues? levels nodes = some (first :: items) := by
  induction items generalizing first fuel with
  | nil =>
      obtain ⟨fuel, rfl⟩ := Nat.exists_eq_add_one_of_ne_zero (Nat.ne_zero_of_lt enough)
      rw [Value.renderItems] at enough ⊢
      obtain ⟨start, text, node, rendered, -, parsed, denotes⟩ :=
        (integral first List.mem_cons_self).exists_node (reads first List.mem_cons_self)
          (by omega : _ ≤ fuel) ']' (by decide) rest
      rw [rendered, List.cons_append]
      refine ⟨[node], parseItems_last parsed, ?_⟩
      intro levels deep
      rw [Value.depthOfItems] at deep
      rw [Node.itemValues?, denotes levels (by omega)]
      rfl
  | cons second others inductionHypothesis =>
      have integralRest : ∀ item ∈ second :: others, item.IsIntegral :=
        fun item member => integral item (List.mem_cons_of_mem _ member)
      have readsRest : ∀ item ∈ second :: others, item.Reads :=
        fun item member => reads item (List.mem_cons_of_mem _ member)
      have parts : Value.renderItems (first :: second :: others) =
          first.renderChars ++ ',' :: Value.renderItems (second :: others) := by
        rw [Value.renderItems]
        exact nofun
      obtain ⟨next, after, renderedRest, begins⟩ :=
        exists_begins_of_items (integralRest second List.mem_cons_self) others
      obtain ⟨fuel, rfl⟩ := Nat.exists_eq_add_one_of_ne_zero (Nat.ne_zero_of_lt enough)
      rw [parts] at enough ⊢
      rw [List.length_append, List.length_cons] at enough
      obtain ⟨start, text, node, rendered, -, parsed, denotes⟩ :=
        (integral first List.mem_cons_self).exists_node (reads first List.mem_cons_self)
          (by omega : _ ≤ fuel) ',' (by decide)
          (Value.renderItems (second :: others) ++ ']' :: rest)
      obtain ⟨nodes, parsedRest, denoteRest⟩ :=
        inductionHypothesis integralRest readsRest (by omega : _ < fuel)
      rw [renderedRest, List.cons_append] at parsed parsedRest
      refine ⟨node :: nodes, ?_, ?_⟩
      · rw [List.append_assoc, List.cons_append, renderedRest, rendered]
        exact parseItems_cons parsed begins parsedRest
      · intro levels deep
        rw [Value.depthOfItems] at deep
        rw [Node.itemValues?, denotes levels (by omega), denoteRest levels (by omega)]
        rfl

/-- The text of several members is read as nodes that denote them. -/
theorem parseMembers_renderMembers
    {first : String × Value}
    {members : List (String × Value)}
    (integral : ∀ member ∈ first :: members, member.2.IsIntegral)
    (reads : ∀ member ∈ first :: members, member.2.Reads)
    {fuel : Nat}
    (enough : (Value.renderMembers (first :: members)).length < fuel)
    (rest : List Char) :
    ∃ nodes,
      parseMembers fuel (Value.renderMembers (first :: members) ++ '\x7d' :: rest) =
        (nodes, true, rest) ∧
      ∀ levels, Value.depthOfMembers (first :: members) ≤ levels →
        Node.memberValues? levels nodes = some (first :: members) := by
  induction members generalizing first fuel with
  | nil =>
      obtain ⟨key, value⟩ := first
      obtain ⟨fuel, rfl⟩ := Nat.exists_eq_add_one_of_ne_zero (Nat.ne_zero_of_lt enough)
      rw [Value.renderMembers, List.length_append, List.length_cons] at enough
      have integralValue : value.IsIntegral := integral (key, value) List.mem_cons_self
      have readsValue : value.Reads := reads (key, value) List.mem_cons_self
      obtain ⟨start, text, node, rendered, begins, parsed, denotes⟩ :=
        integralValue.exists_node readsValue (by omega : _ ≤ fuel) '\x7d' (by decide) rest
      refine ⟨[(some key, node)], ?_, ?_⟩
      · rw [Value.renderMembers, List.append_assoc, List.cons_append, rendered, List.cons_append]
        exact parseMembers_last begins parsed
      · intro levels deep
        rw [Value.depthOfMembers] at deep
        rw [Node.memberValues?, denotes levels (by omega)]
        rfl
  | cons second others inductionHypothesis =>
      obtain ⟨key, value⟩ := first
      have integralRest : ∀ member ∈ second :: others, member.2.IsIntegral :=
        fun member listed => integral member (List.mem_cons_of_mem _ listed)
      have readsRest : ∀ member ∈ second :: others, member.2.Reads :=
        fun member listed => reads member (List.mem_cons_of_mem _ listed)
      have parts : Value.renderMembers ((key, value) :: second :: others) =
          renderString key ++
            ':' :: (value.renderChars ++ ',' :: Value.renderMembers (second :: others)) := by
        rw [Value.renderMembers]
        exact nofun
      obtain ⟨after, renderedRest⟩ := exists_quote_of_members second.1 second.2 others
      obtain ⟨fuel, rfl⟩ := Nat.exists_eq_add_one_of_ne_zero (Nat.ne_zero_of_lt enough)
      rw [parts] at enough ⊢
      simp only [List.length_append, List.length_cons] at enough
      have integralValue : value.IsIntegral := integral (key, value) List.mem_cons_self
      have readsValue : value.Reads := reads (key, value) List.mem_cons_self
      obtain ⟨start, text, node, rendered, begins, parsed, denotes⟩ :=
        integralValue.exists_node readsValue (by omega : _ ≤ fuel) ',' (by decide)
          (Value.renderMembers (second :: others) ++ '\x7d' :: rest)
      obtain ⟨nodes, parsedRest, denoteRest⟩ :=
        inductionHypothesis integralRest readsRest (by omega : _ < fuel)
      rw [renderedRest, List.cons_append] at parsed parsedRest
      refine ⟨(some key, node) :: nodes, ?_, ?_⟩
      · rw [List.append_assoc, List.cons_append, List.append_assoc, List.cons_append,
          renderedRest, rendered]
        exact parseMembers_cons begins parsed parsedRest
      · intro levels deep
        rw [Value.depthOfMembers] at deep
        rw [Node.memberValues?, denotes levels (by omega), denoteRest levels (by omega)]
        rfl

/-- The text of a value is not empty, so that some fuel is there to begin with. -/
theorem Value.IsIntegral.reads_of_succ
    {value : Value}
    (integral : value.IsIntegral)
    (reads : ∀ fuel rest, value.renderChars.length ≤ fuel + 1 → FollowsNumber rest →
      ∃ node, parseNode (fuel + 1) (value.renderChars ++ rest) = (node, rest) ∧
        node.Denotes value) :
    value.Reads := by
  intro fuel rest enough follows
  cases fuel with
  | zero =>
      obtain ⟨start, text, rendered, -⟩ := integral.exists_begins
      rw [rendered, List.length_cons] at enough
      omega
  | succ fuel => exact reads fuel rest enough follows

/-- The text of a value without binary64 numbers is read as a node that denotes it. -/
theorem Value.IsIntegral.reads
    {value : Value}
    (integral : value.IsIntegral) :
    value.Reads := by
  induction integral with
  | null =>
      apply IsIntegral.null.reads_of_succ
      intro fuel rest _ _
      exact ⟨.null, parseNode_null fuel rest, fun _ _ => rfl⟩
  | bool value =>
      apply (IsIntegral.bool value).reads_of_succ
      intro fuel rest _ _
      cases value with
      | false => exact ⟨.bool false, parseNode_false fuel rest, fun _ _ => rfl⟩
      | true => exact ⟨.bool true, parseNode_true fuel rest, fun _ _ => rfl⟩
  | number value lower upper =>
      apply (IsIntegral.number value lower upper).reads_of_succ
      intro fuel rest _ follows
      refine ⟨.number (.ofWhole value), parseNode_intDigits fuel value follows, ?_⟩
      intro levels _
      rw [Node.toValue?, Literal.toNumber?_ofWhole value lower upper]
      rfl
  | string text =>
      apply (IsIntegral.string text).reads_of_succ
      intro fuel rest _ _
      exact ⟨.string (some text), parseNode_renderString fuel text rest, fun _ _ => rfl⟩
  | array items integral inductionHypothesis =>
      apply (IsIntegral.array items integral).reads_of_succ
      intro fuel rest enough _
      rw [renderChars, List.cons_append, List.append_assoc, List.singleton_append]
      rw [renderChars, List.length_cons, List.length_append, List.length_singleton] at enough
      cases items with
      | nil =>
          refine ⟨.array [] true, parseNode_empty_array fuel rest, ?_⟩
          intro levels deep
          rw [depth] at deep
          rw [Node.toValue?, if_pos ⟨rfl, by omega⟩]
          rfl
      | cons first others =>
          obtain ⟨nodes, parsed, denote⟩ :=
            parseItems_renderItems integral inductionHypothesis (by omega : _ < fuel) rest
          obtain ⟨next, text, rendered, begins⟩ :=
            exists_begins_of_items (integral first List.mem_cons_self) others
          rw [rendered, List.cons_append] at parsed ⊢
          refine ⟨.array nodes true, parseNode_array begins parsed, ?_⟩
          intro levels deep
          rw [depth] at deep
          rw [Node.toValue?, if_pos ⟨rfl, by omega⟩, denote (levels - 1) (by omega)]
          rfl
  | object members integral inductionHypothesis =>
      apply (IsIntegral.object members integral).reads_of_succ
      intro fuel rest enough _
      rw [renderChars, List.cons_append, List.append_assoc, List.singleton_append]
      rw [renderChars, List.length_cons, List.length_append, List.length_singleton] at enough
      cases members with
      | nil =>
          refine ⟨.object [] true, parseNode_empty_object fuel rest, ?_⟩
          intro levels deep
          rw [depth] at deep
          rw [Node.toValue?, if_pos ⟨rfl, by omega⟩]
          rfl
      | cons first others =>
          obtain ⟨nodes, parsed, denote⟩ :=
            parseMembers_renderMembers integral inductionHypothesis (by omega : _ < fuel) rest
          obtain ⟨text, rendered⟩ := exists_quote_of_members first.1 first.2 others
          rw [rendered, List.cons_append] at parsed ⊢
          refine ⟨.object nodes true, parseNode_object parsed, ?_⟩
          intro levels deep
          rw [depth] at deep
          rw [Node.toValue?, if_pos ⟨rfl, by omega⟩, denote (levels - 1) (by omega)]
          rfl

/-- The text of a value is read to its end as a node that denotes the value. -/
theorem Value.IsIntegral.exists_document
    {value : Value}
    (integral : value.IsIntegral) :
    ∃ node, Document.ofText value.renderChars = ⟨node, true⟩ ∧ node.Denotes value := by
  obtain ⟨first, text, rendered, begins⟩ := integral.exists_begins
  have start : skipGap value.renderChars = value.renderChars := by
    rw [rendered]
    exact skipGap_cons begins.notGap text
  obtain ⟨node, parsed, denotes⟩ :=
    integral.reads (2 * value.renderChars.length + 2) [] (by omega) nofun
  rw [List.append_nil] at parsed
  refine ⟨node, ?_, denotes⟩
  unfold Document.ofText
  dsimp only
  rw [start, parsed]
  rfl

/-- A text that was written of a value that is not too deep denotes this value. -/
theorem Value.IsIntegral.toValue?_render
    {value : Value}
    (integral : value.IsIntegral)
    (shallow : value.depth ≤ maxDepth) :
    (Document.ofText value.renderChars).toValue? = some value := by
  obtain ⟨node, document, denotes⟩ := integral.exists_document
  rw [document]
  exact denotes maxDepth shallow

/-- Reading what was written of a value gives its canonical form. -/
theorem Value.IsIntegral.parse?_render
    {value : Value}
    (integral : value.IsIntegral)
    (shallow : value.depth ≤ maxDepth) :
    Value.parse? value.render = some value.canonical := by
  unfold Value.parse? Value.render
  rw [String.toList_ofList, integral.toValue?_render shallow, Option.map_some]

end Json
end SessionHub
