import SessionHub.Proofs.Json.Record

/-!
# What an object says under a key

Of several members with one key the last counts. The canonical form keeps it, and the node
of an object shows it. A member is a natural number if its literal has no sign, no fraction
and no exponent; its digits then are the number.
-/

namespace SessionHub
namespace Json

/-! ## The last member of values -/

namespace Value

theorem lookup_cons
    (key : String)
    (first : String × Value)
    (rest : List (String × Value)) :
    lookup key (first :: rest) =
      (lookup key rest).or (if first.1 = key then some first.2 else none) := by
  rw [lookup]
  cases lookup key rest <;> rfl

theorem lookup_concat
    (key : String)
    (members : List (String × Value))
    (last : String × Value) :
    lookup key (members ++ [last]) =
      (if last.1 = key then some last.2 else none).or (lookup key members) := by
  induction members with
  | nil => rw [List.nil_append, lookup_cons, lookup, Option.none_or, Option.or_none]
  | cons first rest inductionHypothesis =>
      rw [List.cons_append, lookup_cons, lookup_cons, inductionHypothesis, Option.or_assoc]

theorem lookup_eq_none_iff
    {key : String}
    {members : List (String × Value)} :
    lookup key members = none ↔ ∀ member ∈ members, member.1 ≠ key := by
  induction members with
  | nil => exact iff_of_true rfl nofun
  | cons first rest inductionHypothesis =>
      rw [lookup_cons, Option.or_eq_none_iff, inductionHypothesis, List.forall_mem_cons, and_comm]
      refine and_congr_left fun _ => ?_
      simp

/-- The first of sorted members is the only one with its key. -/
theorem IsSorted.lookup_cons
    {first : String × Value}
    {rest : List (String × Value)}
    (sorted : IsSorted (first :: rest))
    (key : String) :
    lookup key (first :: rest) = if first.1 = key then some first.2 else lookup key rest := by
  rw [Value.lookup_cons]
  split
  · next same =>
    have absent : ∀ member ∈ rest, member.1 ≠ key := fun member listed =>
      same ▸ (String.ne_of_lt ((List.pairwise_cons.1 sorted).1 member listed)).symm
    rw [lookup_eq_none_iff.2 absent, Option.none_or]
  · rw [Option.or_none]

/-- What is put into sorted members is found under its key, and the others are kept. -/
theorem lookup_insertMember
    {members : List (String × Value)}
    (sorted : IsSorted members)
    (key name : String)
    (value : Value) :
    lookup key (insertMember name value members) =
      if name = key then some value else lookup key members := by
  have sortedAfter := sorted.insertMember name value
  induction members with
  | nil => rfl
  | cons first rest inductionHypothesis =>
      rw [insertMember] at sortedAfter ⊢
      split at sortedAfter
      · next before =>
        rw [if_pos before, sortedAfter.lookup_cons]
      · next notBefore =>
        rw [if_neg notBefore]
        split at sortedAfter
        · next same =>
          rw [if_pos same, sortedAfter.lookup_cons, sorted.lookup_cons, same]
          split <;> rfl
        · next differs =>
          have sortedRest := (List.pairwise_cons.1 sorted).2
          rw [if_neg differs, sortedAfter.lookup_cons, sorted.lookup_cons,
            inductionHypothesis sortedRest (List.pairwise_cons.1 sortedAfter).2]
          split
          · next isFirst => rw [if_neg (isFirst ▸ differs)]
          · rfl

/-- Sorting keeps what stands under a key. -/
theorem lookup_sortMembers
    (key : String)
    (members : List (String × Value)) :
    lookup key (sortMembers members) = lookup key members := by
  induction members using List.reverseRecOn with
  | nil => rfl
  | append_singleton rest last inductionHypothesis =>
      rw [sortMembers_concat, lookup_insertMember (isSorted_sortMembers rest), lookup_concat,
        inductionHypothesis]
      split <;> simp

/-- What stands under a key of the canonical form is the canonical form of what stood there. -/
theorem get?_canonical
    (key : String)
    (value : Value) :
    value.canonical.get? key = (value.get? key).map canonical := by
  cases value with
  | object members =>
      rw [canonical, get?, get?, lookup_sortMembers]
      induction members with
      | nil => rfl
      | cons first rest inductionHypothesis =>
          rw [canonicalMembers, lookup_cons, lookup_cons, inductionHypothesis, Option.map_or]
          split <;> rfl
  | null | bool | number | string | array => rfl

@[simp] theorem string?_canonical (value : Value) : value.canonical.string? = value.string? := by
  cases value <;> rfl

@[simp] theorem natBelow?_canonical
    (bound : Nat)
    (value : Value) :
    value.canonical.natBelow? bound = value.natBelow? bound := by
  cases value <;> rfl

@[simp] theorem uint16?_canonical (value : Value) : value.canonical.uint16? = value.uint16? := by
  rw [uint16?, natBelow?_canonical, uint16?]

end Value

/-! ## The last member of a node -/

namespace Node

/-- A node is the value of the last member with a key. -/
def IsLast (key : String) (value : Node) (members : List (Option String × Node)) : Prop :=
  ∃ before after, members = before ++ (some key, value) :: after ∧
    ∀ member ∈ after, member.1 ≠ some key

theorem IsLast.cons
    {key : String}
    {value : Node}
    {members : List (Option String × Node)}
    (isLast : IsLast key value members)
    (first : Option String × Node) :
    IsLast key value (first :: members) := by
  obtain ⟨before, after, rfl, absent⟩ := isLast
  exact ⟨first :: before, after, rfl, absent⟩

theorem isLast_cons_iff
    {key : String}
    {value : Node}
    {first : Option String × Node}
    {members : List (Option String × Node)} :
    IsLast key value (first :: members) ↔
      IsLast key value members ∨
        first = (some key, value) ∧ ∀ member ∈ members, member.1 ≠ some key := by
  constructor
  · rintro ⟨before, after, same, absent⟩
    cases before with
    | nil =>
        cases same
        exact .inr ⟨rfl, absent⟩
    | cons other before =>
        cases same
        exact .inl ⟨before, after, rfl, absent⟩
  · rintro (isLast | ⟨rfl, absent⟩)
    · exact isLast.cons first
    · exact ⟨[], members, rfl, absent⟩

theorem IsLast.getLast?_filter
    {key : String}
    {value : Node}
    {members : List (Option String × Node)}
    (isLast : IsLast key value members) :
    (members.filter (·.1 = some key)).getLast? = some (some key, value) := by
  obtain ⟨before, after, rfl, absent⟩ := isLast
  have noLater : after.filter (·.1 = some key) = [] :=
    List.filter_eq_nil_iff.2 fun member listed => by simp [absent member listed]
  simp [noLater]

/-- Only one node is the value of the last member with a key. -/
theorem IsLast.eq
    {key : String}
    {members : List (Option String × Node)}
    {first second : Node}
    (isFirst : IsLast key first members)
    (isSecond : IsLast key second members) :
    first = second := by
  have same := isFirst.getLast?_filter.symm.trans isSecond.getLast?_filter
  exact (Prod.mk.inj (Option.some.inj same)).2

section

variable {parts : List (Option String × Node)} {members : List (String × Value)} {key : String}

/-- A key that no part has is the key of no member. -/
theorem lookup_eq_none_iff
    (denote : List.Forall₂ DenotesMember parts members) :
    Value.lookup key members = none ↔ ∀ part ∈ parts, part.1 ≠ some key := by
  rw [Value.lookup_eq_none_iff]
  induction denote with
  | nil => exact iff_of_true nofun nofun
  | cons denotesFirst _ inductionHypothesis =>
      rw [List.forall_mem_cons, List.forall_mem_cons, inductionHypothesis, denotesFirst.key]
      simp

theorem IsLast.exists_lookup
    (denote : List.Forall₂ DenotesMember parts members)
    {node : Node}
    (isLast : IsLast key node parts) :
    ∃ value, Value.lookup key members = some value ∧ node.Denotes value := by
  induction denote with
  | nil =>
      obtain ⟨before, after, same, -⟩ := isLast
      cases before <;> cases same
  | @cons part member parts members denotesFirst denoteRest inductionHypothesis =>
      rcases isLast_cons_iff.1 isLast with later | ⟨rfl, absent⟩
      · obtain ⟨value, found, denotes⟩ := inductionHypothesis later
        exact ⟨value, by rw [Value.lookup_cons, found, Option.some_or], denotes⟩
      · refine ⟨member.2, ?_, denotesFirst.value⟩
        rw [Value.lookup_cons, (lookup_eq_none_iff denoteRest).2 absent, Option.none_or]
        exact if_pos (Option.some.inj denotesFirst.key).symm

theorem exists_isLast_of_lookup
    (denote : List.Forall₂ DenotesMember parts members)
    {value : Value}
    (found : Value.lookup key members = some value) :
    ∃ node, IsLast key node parts ∧ node.Denotes value := by
  induction denote with
  | nil => cases found
  | @cons part member parts members denotesFirst denoteRest inductionHypothesis =>
      rw [Value.lookup_cons] at found
      cases isLater : Value.lookup key members with
      | some later =>
          rw [isLater, Option.some_or] at found
          obtain ⟨node, isLast, denotes⟩ := inductionHypothesis (isLater.trans found)
          exact ⟨node, isLast.cons part, denotes⟩
      | none =>
          rw [isLater, Option.none_or] at found
          split at found
          · next same =>
            cases found
            refine ⟨part.2, isLast_cons_iff.2 (.inr ⟨?_, ?_⟩), denotesFirst.value⟩
            · exact Prod.ext (denotesFirst.key.trans (congrArg some same)) rfl
            · exact (lookup_eq_none_iff denoteRest).1 isLater
          · cases found

/-- Under a key stands what the last member with this key denotes. -/
theorem exists_isLast_iff
    (denote : List.Forall₂ DenotesMember parts members)
    {holds : Node → Prop}
    {kept : Value → Prop}
    (agree : ∀ node value, node.Denotes value → (holds node ↔ kept value)) :
    (∃ node, IsLast key node parts ∧ holds node) ↔
      ∃ value, Value.lookup key members = some value ∧ kept value := by
  constructor
  · rintro ⟨node, isLast, nodeHolds⟩
    obtain ⟨value, found, denotes⟩ := isLast.exists_lookup denote
    exact ⟨value, found, (agree node value denotes).1 nodeHolds⟩
  · rintro ⟨value, found, valueKept⟩
    obtain ⟨node, isLast, denotes⟩ := exists_isLast_of_lookup denote found
    exact ⟨node, isLast, (agree node value denotes).2 valueKept⟩

end

theorem exists_object_of_toValue?
    {parts : List (Option String × Node)}
    {closed : Bool}
    {levels : Nat}
    {value : Value}
    (found : (Node.object parts closed).toValue? levels = some value) :
    ∃ members, value = .object members := by
  rw [toValue?] at found
  split at found
  · obtain ⟨members, -, rfl⟩ := Option.map_eq_some_iff.1 found
    exact ⟨members, rfl⟩
  · cases found

theorem Denotes.eq_string_iff
    {node : Node}
    {value : Value}
    (denotes : node.Denotes value)
    (text : String) :
    node = .string (some text) ↔ value.string? = some text := by
  constructor
  · rintro rfl
    have same := denotes _ (Nat.le_refl _)
    cases same
    rfl
  · intro isString
    cases value with
    | string other =>
        cases isString
        exact eq_string_of_leaf? (denotes.leaf?_eq rfl)
    | null | bool | number | array | object => cases isString

end Node

/-! ## Natural numbers -/

namespace Literal

/-- A literal of digits alone writes a natural number. -/
structure IsNatural (literal : Literal) (number : Nat) : Prop where
  unsigned : literal.negative = false
  noFraction : literal.fraction = none
  noExponent : literal.exponent = none
  value : Nat.ofDigitChars 10 literal.whole 0 = number

theorem ofDigitChars_of_absorb
    {digits : List Char}
    {start value : Nat}
    (absorbed : absorb start digits = (value, [])) :
    Nat.ofDigitChars 10 digits start = value := by
  induction digits generalizing start with
  | nil => exact (Prod.mk.inj absorbed).1
  | cons digit rest inductionHypothesis =>
      rw [absorb] at absorbed
      split at absorbed
      · rw [Nat.ofDigitChars_cons, Nat.mul_comm]
        exact inductionHypothesis absorbed
      · cases absorbed

theorem natBelow?_real
    (bound : Nat)
    (found : Option Decimal.Binary64) :
    (found.map Number.real).bind (Number.natBelow? bound) = none := by
  cases found <;> rfl

/-- A number with a sign is never natural, not even a negative zero. -/
theorem natBelow?_wholeNumber_true
    (bound value : Nat) :
    (wholeNumber true value).bind (Number.natBelow? bound) = none := by
  rw [wholeNumber, if_pos rfl]
  split
  · next lower =>
    have notNatural : ¬(0 ≤ -(value : Int) ∧ -(value : Int) < bound) := by omega
    rw [Option.bind_some, Number.natBelow?, Number.whole?, Option.bind_some, if_neg notNatural]
  · exact natBelow?_real bound _

theorem natBelow?_wholeNumber_false_iff
    {bound number value : Nat}
    (small : bound ≤ 0x10000000000000000) :
    (wholeNumber false value).bind (Number.natBelow? bound) = some number ↔
      value = number ∧ number < bound := by
  rw [wholeNumber, if_neg Bool.false_ne_true]
  by_cases fits : value < 0x10000000000000000
  · rw [if_pos fits, Option.bind_some, Number.natBelow?, Number.ofNat, dif_pos fits, Number.whole?,
      Option.bind_some]
    split
    · next within =>
      rw [Int.toNat_natCast, Option.some_inj]
      exact ⟨fun same => ⟨same, by omega⟩, And.left⟩
    · next outside =>
      refine iff_of_false (Option.some_ne_none _).symm ?_
      rintro ⟨rfl, below⟩
      exact outside ⟨Int.natCast_nonneg _, Int.ofNat_lt.2 below⟩
  · rw [if_neg fits, Option.bind_none]
    refine iff_of_false (Option.some_ne_none _).symm ?_
    rintro ⟨rfl, below⟩
    omega

/-- A literal is read as a natural number below a bound exactly if it writes this number. -/
theorem natBelow?_toNumber?_iff
    {bound : Nat}
    (small : bound ≤ 0x10000000000000000)
    (literal : Literal)
    (number : Nat) :
    literal.toNumber?.bind (Number.natBelow? bound) = some number ↔
      literal.IsNatural number ∧ number < bound := by
  obtain ⟨negative, whole, fraction, exponent⟩ := literal
  constructor
  · intro found
    unfold toNumber? at found
    generalize absorbed : absorb 0 whole = parts at found
    obtain ⟨value, dropped⟩ := parts
    dsimp only at found
    split at found
    · cases negative with
      | true =>
          rw [natBelow?_wholeNumber_true] at found
          cases found
      | false =>
          obtain ⟨isNumber, below⟩ := (natBelow?_wholeNumber_false_iff small).1 found
          exact ⟨⟨rfl, rfl, rfl, (ofDigitChars_of_absorb absorbed).trans isNumber⟩, below⟩
    · split at found
      · rw [natBelow?_real] at found
        cases found
      · split at found
        · split at found
          · rw [natBelow?_real] at found
            cases found
          · cases found
        · rw [natBelow?_real] at found
          cases found
  · rintro ⟨⟨unsigned, noFraction, noExponent, isNumber⟩, below⟩
    dsimp only at unsigned noFraction noExponent isNumber
    subst unsigned noFraction noExponent
    unfold toNumber?
    dsimp only
    rw [absorb_eq (isNumber ▸ Nat.lt_of_lt_of_le below small)]
    exact (natBelow?_wholeNumber_false_iff small).2 ⟨isNumber, below⟩

end Literal

/-- A node denotes a natural number below a bound exactly if it is a literal that writes it. -/
theorem Node.Denotes.exists_literal_iff
    {node : Node}
    {value : Value}
    (denotes : node.Denotes value)
    {bound : Nat}
    (small : bound ≤ 0x10000000000000000)
    (number : Nat) :
    (∃ literal, node = .number literal ∧ literal.IsNatural number ∧ number < bound) ↔
      value.natBelow? bound = some number := by
  have found := denotes _ (Nat.le_refl _)
  constructor
  · rintro ⟨literal, rfl, isNatural⟩
    obtain ⟨read, isRead, rfl⟩ := Option.map_eq_some_iff.1 found
    have below := (literal.natBelow?_toNumber?_iff small number).2 isNatural
    rwa [isRead] at below
  · intro below
    cases value with
    | number read =>
        have leaf := denotes.leaf?_eq rfl
        cases node with
        | number literal =>
            obtain ⟨_, isRead, same⟩ := Option.map_eq_some_iff.1 leaf
            cases same
            refine ⟨literal, rfl, (literal.natBelow?_toNumber?_iff small number).1 ?_⟩
            rw [isRead]
            exact below
        | string content =>
            obtain ⟨_, _, same⟩ := Option.map_eq_some_iff.1 leaf
            cases same
        | null | bool | array | object | broken => cases leaf
    | null | bool | string | array | object => cases below

end Json
end SessionHub
