import SessionHub.Json.Record
import SessionHub.Proofs.Json.Canonical
import SessionHub.Proofs.Json.RoundTrip

/-!
# Nested text

How many levels a reader admits decides only whether it finds the value of a node, not
which value it finds: it finds values that are no deeper. So a node that denotes a value
is read as this value or not at all, and a node that denotes an object consists of nodes
that denote its members.
-/

namespace SessionHub
namespace Json

/-- In a source either nothing is found, whatever the number of levels, or one value is, as
soon as its depth is admitted. -/
def IsGraded (depth : α → Nat) (read : Nat → Source → Option α) (source : Source) : Prop :=
  (∀ levels, read levels source = none) ∨
    ∃ value, ∀ levels, read levels source = if depth value ≤ levels then some value else none

/-- What is put together of two values is as deep as the deeper of them. -/
theorem IsGraded.both
    {firstDepth : α → Nat}
    {secondDepth : β → Nat}
    {depth : γ → Nat}
    {readFirst : Nat → First → Option α}
    {readSecond : Nat → Second → Option β}
    {read : Nat → Source → Option γ}
    {first : First}
    {second : Second}
    {source : Source}
    (gradedFirst : IsGraded firstDepth readFirst first)
    (gradedSecond : IsGraded secondDepth readSecond second)
    (join : α → β → γ)
    (reads : ∀ levels, read levels source =
      (readFirst levels first).bind fun value =>
        (readSecond levels second).bind fun other => some (join value other))
    (depth_join : ∀ value other,
      depth (join value other) = max (firstDepth value) (secondDepth other)) :
    IsGraded depth read source := by
  rcases gradedFirst with never | ⟨value, readValue⟩
  · exact .inl fun levels => by rw [reads, never, Option.bind_none]
  rcases gradedSecond with never | ⟨other, readOther⟩
  · refine .inl fun levels => ?_
    rw [reads, never]
    cases readFirst levels first <;> rfl
  · refine .inr ⟨join value other, fun levels => ?_⟩
    rw [reads, readValue, readOther, depth_join]
    simp only [Nat.max_le]
    by_cases shallow : firstDepth value ≤ levels <;>
      by_cases otherShallow : secondDepth other ≤ levels <;>
      simp [shallow, otherShallow]

namespace Node

/-- A property of nodes holds if it passes from the parts of a node to the node. -/
theorem induction_on_parts
    {motive : Node → Prop}
    (null : motive .null)
    (bool : ∀ value, motive (.bool value))
    (number : ∀ literal, motive (.number literal))
    (string : ∀ text, motive (.string text))
    (array : ∀ items closed, (∀ item ∈ items, motive item) → motive (.array items closed))
    (object : ∀ members closed, (∀ member ∈ members, motive member.2) →
      motive (.object members closed))
    (broken : motive .broken) :
    ∀ node, motive node
  | .null => null
  | .bool value => bool value
  | .number literal => number literal
  | .string text => string text
  | .array items closed => array items closed fun item _ =>
      induction_on_parts null bool number string array object broken item
  | .object members closed => object members closed fun member _ =>
      induction_on_parts null bool number string array object broken member.2
  | .broken => broken
termination_by node => sizeOf node
decreasing_by
  · next listed =>
    have smaller := List.sizeOf_lt_of_mem listed
    simp only [Node.array.sizeOf_spec]
    omega
  · next listed =>
    have smaller := List.sizeOf_lt_of_mem listed
    have part : sizeOf member = 1 + sizeOf member.1 + sizeOf member.2 := by
      cases member
      rfl
    simp only [Node.object.sizeOf_spec]
    omega

/-! ## Levels -/

theorem isGraded_items
    {items : List Node}
    (graded : ∀ item ∈ items, IsGraded Value.depth toValue? item) :
    IsGraded Value.depthOfItems itemValues? items := by
  induction items with
  | nil => exact .inr ⟨[], fun levels => (if_pos (Nat.zero_le levels)).symm⟩
  | cons item rest inductionHypothesis =>
      obtain ⟨first, others⟩ := List.forall_mem_cons.1 graded
      refine first.both (inductionHypothesis others) List.cons (fun levels => ?_) fun _ _ => rfl
      rw [itemValues?]
      rfl

theorem isGraded_members
    {members : List (Option String × Node)}
    (graded : ∀ member ∈ members, IsGraded Value.depth toValue? member.2) :
    IsGraded Value.depthOfMembers memberValues? members := by
  induction members with
  | nil => exact .inr ⟨[], fun levels => (if_pos (Nat.zero_le levels)).symm⟩
  | cons member rest inductionHypothesis =>
      obtain ⟨key, item⟩ := member
      obtain ⟨first, others⟩ := List.forall_mem_cons.1 graded
      cases key with
      | none => exact .inl fun levels => rfl
      | some name =>
        refine first.both (inductionHypothesis others) (fun value => ((name, value) :: ·))
          (fun levels => ?_) fun _ _ => rfl
        rw [memberValues?]
        rfl

theorem isGraded_of_flat
    {node : Node}
    {value : Value}
    (flat : value.depth = 0)
    (found : ∀ levels, node.toValue? levels = some value) :
    IsGraded Value.depth toValue? node := by
  refine .inr ⟨value, fun levels => ?_⟩
  rw [found, if_pos (flat ▸ Nat.zero_le levels)]

theorem isGraded (node : Node) : IsGraded Value.depth toValue? node := by
  induction node using induction_on_parts with
  | null => exact isGraded_of_flat rfl fun _ => rfl
  | bool value => exact isGraded_of_flat rfl fun _ => rfl
  | number literal =>
      cases number : literal.toNumber? with
      | none => exact .inl fun levels => by rw [toValue?, number, Option.map_none]
      | some value =>
          have flat : (Value.number value).depth = 0 := rfl
          refine isGraded_of_flat flat fun levels => ?_
          rw [toValue?, number, Option.map_some]
  | string text =>
      cases text with
      | none => exact .inl fun levels => rfl
      | some text => exact isGraded_of_flat rfl fun _ => rfl
  | broken => exact .inl fun levels => rfl
  | array items closed inductionHypothesis =>
      rcases isGraded_items inductionHypothesis with never | ⟨values, read⟩
      · refine .inl fun levels => ?_
        rw [toValue?, never, Option.map_none, ite_self]
      cases closed with
      | false => exact .inl fun levels => by simp [toValue?]
      | true =>
          refine .inr ⟨.array values, fun levels => ?_⟩
          rw [toValue?, read, Value.depth]
          cases levels with
          | zero => rfl
          | succ levels => by_cases shallow : Value.depthOfItems values ≤ levels <;> simp [shallow]
  | object members closed inductionHypothesis =>
      rcases isGraded_members inductionHypothesis with never | ⟨values, read⟩
      · refine .inl fun levels => ?_
        rw [toValue?, never, Option.map_none, ite_self]
      cases closed with
      | false => exact .inl fun levels => by simp [toValue?]
      | true =>
          refine .inr ⟨.object values, fun levels => ?_⟩
          rw [toValue?, read, Value.depth]
          cases levels with
          | zero => rfl
          | succ levels =>
              by_cases shallow : Value.depthOfMembers values ≤ levels <;> simp [shallow]

/-- A reader that admits too few levels finds nothing in a node that denotes a value. -/
theorem Denotes.toValue?_eq
    {node : Node}
    {value : Value}
    (denotes : node.Denotes value)
    (levels : Nat) :
    node.toValue? levels = if value.depth ≤ levels then some value else none := by
  have found := denotes value.depth (Nat.le_refl _)
  rcases node.isGraded with never | ⟨other, read⟩
  · rw [never] at found
    cases found
  · rw [read] at found ⊢
    split at found
    · rw [Option.some.inj found]
    · cases found

/-- A value that is found is denoted by the node, and no deeper than is admitted. -/
theorem denotes_of_toValue?
    {node : Node}
    {levels : Nat}
    {value : Value}
    (found : node.toValue? levels = some value) :
    node.Denotes value ∧ value.depth ≤ levels := by
  rcases node.isGraded with never | ⟨other, read⟩
  · rw [never] at found
    cases found
  · rw [read] at found
    split at found
    · next shallow =>
      cases found
      exact ⟨fun more enough => (read more).trans (if_pos enough), shallow⟩
    · cases found

theorem depth_le_of_itemValues?
    {levels : Nat}
    {items : List Node}
    {values : List Value}
    (found : itemValues? levels items = some values) :
    ∀ value ∈ values, value.depth ≤ levels := by
  rcases isGraded_items (fun item _ => item.isGraded) with never | ⟨others, read⟩
  · rw [never] at found
    cases found
  · rw [read] at found
    split at found
    · next shallow =>
      cases found
      exact Value.depthOfItems_le_iff.1 shallow
    · cases found

/-! ## Parts -/

theorem leaf?_eq_toValue?_zero (node : Node) : node.leaf? = node.toValue? 0 := by
  cases node <;> simp [leaf?, toValue?]

/-- A node that denotes a value without parts is a leaf. -/
theorem Denotes.leaf?_eq
    {node : Node}
    {value : Value}
    (denotes : node.Denotes value)
    (flat : value.depth = 0) :
    node.leaf? = some value := by
  rw [leaf?_eq_toValue?_zero]
  exact denotes 0 (Nat.le_of_eq flat)

/-- A part of a text denotes a member: its key is readable, and its node denotes the value. -/
structure DenotesMember (part : Option String × Node) (member : String × Value) : Prop where
  key : part.1 = some member.1
  value : part.2.Denotes member.2

theorem denoteMembers_of_memberValues?
    {levels : Nat}
    {parts : List (Option String × Node)}
    {members : List (String × Value)}
    (found : memberValues? levels parts = some members) :
    List.Forall₂ DenotesMember parts members := by
  induction parts generalizing members with
  | nil =>
      cases found
      exact .nil
  | cons part rest inductionHypothesis =>
      obtain ⟨key, node⟩ := part
      rw [memberValues?] at found
      obtain ⟨name, isName, found⟩ := Option.bind_eq_some_iff.1 found
      obtain ⟨value, isValue, found⟩ := Option.bind_eq_some_iff.1 found
      obtain ⟨others, areOthers, found⟩ := Option.bind_eq_some_iff.1 found
      cases found
      exact .cons ⟨isName, (denotes_of_toValue? isValue).1⟩ (inductionHypothesis areOthers)

/-- A node that denotes an object is an object of parts that denote its members. -/
theorem Denotes.exists_parts
    {node : Node}
    {members : List (String × Value)}
    (denotes : node.Denotes (.object members)) :
    ∃ parts, node = .object parts true ∧ List.Forall₂ DenotesMember parts members := by
  have found := denotes _ (Nat.le_refl _)
  cases node with
  | object parts closed =>
      rw [toValue?] at found
      split at found
      · next admitted =>
        obtain ⟨others, areOthers, same⟩ := Option.map_eq_some_iff.1 found
        cases same
        refine ⟨parts, ?_, denoteMembers_of_memberValues? areOthers⟩
        rw [admitted.1]
      · cases found
  | array items closed =>
      rw [toValue?] at found
      split at found
      · obtain ⟨values, _, same⟩ := Option.map_eq_some_iff.1 found
        cases same
      · cases found
  | number literal =>
      obtain ⟨value, _, same⟩ := Option.map_eq_some_iff.1 found
      cases same
  | string text =>
      obtain ⟨value, _, same⟩ := Option.map_eq_some_iff.1 found
      cases same
  | null | bool | broken => cases found

end Node
end Json
end SessionHub
