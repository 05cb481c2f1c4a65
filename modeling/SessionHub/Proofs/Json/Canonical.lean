import SessionHub.Json.Value
import Mathlib.Data.List.Induction
import Mathlib.Data.Prod.Basic

/-!
# The canonical form of values

Sorting the members of every object gives a canonical value, leaves a canonical value as it
is, and makes no value deeper. Where a function on values is defined together with its
versions for items and members, these are first told in terms of the members of a list.
-/

namespace SessionHub
namespace Json
namespace Value

/-- A property of values holds if it passes from the parts of a value to the value. -/
theorem induction_on_parts
    {motive : Value → Prop}
    (null : motive .null)
    (bool : ∀ value, motive (.bool value))
    (number : ∀ value, motive (.number value))
    (string : ∀ value, motive (.string value))
    (array : ∀ items, (∀ item ∈ items, motive item) → motive (.array items))
    (object : ∀ members, (∀ member ∈ members, motive member.2) → motive (.object members)) :
    ∀ value, motive value
  | .null => null
  | .bool value => bool value
  | .number value => number value
  | .string value => string value
  | .array items => array items fun item _ =>
      induction_on_parts null bool number string array object item
  | .object members => object members fun member _ =>
      induction_on_parts null bool number string array object member.2
termination_by value => sizeOf value
decreasing_by
  · next listed =>
    have smaller := List.sizeOf_lt_of_mem listed
    simp only [Value.array.sizeOf_spec]
    omega
  · next listed =>
    have smaller := List.sizeOf_lt_of_mem listed
    have part : sizeOf member = 1 + sizeOf member.1 + sizeOf member.2 := by
      cases member
      rfl
    simp only [Value.object.sizeOf_spec]
    omega

/-! ## Items and members -/

theorem depthOfItems_le_iff {items : List Value} {bound : Nat} :
    depthOfItems items ≤ bound ↔ ∀ item ∈ items, item.depth ≤ bound := by
  induction items with
  | nil => simp [depthOfItems]
  | cons item rest inductionHypothesis =>
      rw [depthOfItems, Nat.max_le, inductionHypothesis, List.forall_mem_cons]

theorem depthOfMembers_le_iff {members : List (String × Value)} {bound : Nat} :
    depthOfMembers members ≤ bound ↔ ∀ member ∈ members, member.2.depth ≤ bound := by
  induction members with
  | nil => simp [depthOfMembers]
  | cons member rest inductionHypothesis =>
      rw [depthOfMembers, Nat.max_le, inductionHypothesis, List.forall_mem_cons]

theorem canonicalItems_eq_map (items : List Value) :
    canonicalItems items = items.map canonical := by
  induction items with
  | nil => rfl
  | cons item rest inductionHypothesis =>
      rw [canonicalItems, inductionHypothesis, List.map_cons]

theorem canonicalMembers_eq_map (members : List (String × Value)) :
    canonicalMembers members = members.map (Prod.map id canonical) := by
  induction members with
  | nil => rfl
  | cons member rest inductionHypothesis =>
      rw [canonicalMembers, inductionHypothesis, List.map_cons]
      rfl

theorem allCanonical_iff {items : List Value} :
    AllCanonical items ↔ ∀ item ∈ items, item.IsCanonical := by
  induction items with
  | nil => simp [AllCanonical]
  | cons item rest inductionHypothesis =>
      rw [AllCanonical, inductionHypothesis, List.forall_mem_cons]

theorem membersCanonical_iff {members : List (String × Value)} :
    MembersCanonical members ↔ ∀ member ∈ members, member.2.IsCanonical := by
  induction members with
  | nil => simp [MembersCanonical]
  | cons member rest inductionHypothesis =>
      rw [MembersCanonical, inductionHypothesis, List.forall_mem_cons]

/-! ## Sorted members -/

/-- The keys of members increase. -/
def IsSorted (members : List (String × Value)) : Prop :=
  members.Pairwise fun first second => first.1 < second.1

theorem mem_of_mem_insertMember
    {key : String}
    {value : Value}
    {members : List (String × Value)}
    {member : String × Value}
    (inserted : member ∈ insertMember key value members) :
    member = (key, value) ∨ member ∈ members := by
  induction members with
  | nil => exact .inl (List.mem_singleton.1 inserted)
  | cons first rest inductionHypothesis =>
      rw [insertMember] at inserted
      split at inserted
      · exact List.mem_cons.1 inserted
      · split at inserted
        · exact (List.mem_cons.1 inserted).imp_right (List.mem_cons_of_mem _)
        · rcases List.mem_cons.1 inserted with isFirst | isLater
          · exact .inr (isFirst ▸ List.mem_cons_self)
          · exact (inductionHypothesis isLater).imp_right (List.mem_cons_of_mem _)

theorem IsSorted.insertMember
    {members : List (String × Value)}
    (sorted : IsSorted members)
    (key : String)
    (value : Value) :
    IsSorted (insertMember key value members) := by
  induction members with
  | nil => exact List.pairwise_singleton _ _
  | cons first rest inductionHypothesis =>
      obtain ⟨least, sortedRest⟩ := List.pairwise_cons.1 sorted
      rw [Value.insertMember]
      split
      · next before =>
        refine List.pairwise_cons.2 ⟨?_, sorted⟩
        intro member listed
        rcases List.mem_cons.1 listed with isFirst | isLater
        · exact isFirst ▸ before
        · exact String.lt_trans before (least member isLater)
      · next notBefore =>
        split
        · next same => exact List.pairwise_cons.2 ⟨same ▸ least, sortedRest⟩
        · next differs =>
          refine List.pairwise_cons.2 ⟨?_, inductionHypothesis sortedRest⟩
          intro member inserted
          rcases mem_of_mem_insertMember inserted with isNew | isLater
          · rw [isNew]
            by_contra notAfter
            exact differs
              (String.le_antisymm (String.not_lt.1 notAfter) (String.not_lt.1 notBefore))
          · exact least member isLater

/-- A member whose key is the greatest is put to the end. -/
theorem insertMember_eq_append
    {key : String}
    {value : Value}
    {members : List (String × Value)}
    (greatest : ∀ member ∈ members, member.1 < key) :
    insertMember key value members = members ++ [(key, value)] := by
  induction members with
  | nil => rfl
  | cons first rest inductionHypothesis =>
      obtain ⟨below, belowRest⟩ := List.forall_mem_cons.1 greatest
      rw [insertMember, if_neg (String.lt_asymm below), if_neg (String.ne_of_lt below).symm,
        inductionHypothesis belowRest, List.cons_append]

theorem sortMembers_concat
    (members : List (String × Value))
    (last : String × Value) :
    sortMembers (members ++ [last]) = insertMember last.1 last.2 (sortMembers members) :=
  List.foldl_append

theorem mem_of_mem_sortMembers
    {members : List (String × Value)}
    {member : String × Value}
    (sorted : member ∈ sortMembers members) :
    member ∈ members := by
  induction members using List.reverseRecOn with
  | nil => exact sorted
  | append_singleton rest last inductionHypothesis =>
      rw [sortMembers_concat] at sorted
      rw [List.mem_append, List.mem_singleton]
      rcases mem_of_mem_insertMember sorted with isLast | earlier
      · exact .inr isLast
      · exact .inl (inductionHypothesis earlier)

theorem isSorted_sortMembers (members : List (String × Value)) :
    IsSorted (sortMembers members) := by
  induction members using List.reverseRecOn with
  | nil => exact List.Pairwise.nil
  | append_singleton rest last inductionHypothesis =>
      rw [sortMembers_concat]
      exact inductionHypothesis.insertMember last.1 last.2

theorem IsSorted.sortMembers_eq
    {members : List (String × Value)}
    (sorted : IsSorted members) :
    sortMembers members = members := by
  induction members using List.reverseRecOn with
  | nil => rfl
  | append_singleton rest last inductionHypothesis =>
      obtain ⟨sortedRest, -, below⟩ := List.pairwise_append.1 sorted
      rw [sortMembers_concat, inductionHypothesis sortedRest]
      apply insertMember_eq_append
      intro member listed
      exact below member listed last List.mem_cons_self

/-! ## Values -/

theorem isCanonical_canonical (value : Value) : value.canonical.IsCanonical := by
  induction value using induction_on_parts with
  | null | bool | number | string => trivial
  | array items inductionHypothesis =>
      rw [canonical, canonicalItems_eq_map, IsCanonical, allCanonical_iff, List.forall_mem_map]
      exact inductionHypothesis
  | object members inductionHypothesis =>
      rw [canonical, canonicalMembers_eq_map, IsCanonical, membersCanonical_iff]
      refine ⟨isSorted_sortMembers _, ?_⟩
      intro member sorted
      obtain ⟨source, listed, rfl⟩ := List.mem_map.1 (mem_of_mem_sortMembers sorted)
      exact inductionHypothesis source listed

theorem IsCanonical.canonical_eq
    {value : Value}
    (isCanonical : value.IsCanonical) :
    value.canonical = value := by
  induction value using induction_on_parts with
  | null | bool | number | string => rfl
  | array items inductionHypothesis =>
      rw [IsCanonical, allCanonical_iff] at isCanonical
      rw [canonical, canonicalItems_eq_map]
      congr 1
      refine (List.map_congr_left ?_).trans items.map_id
      intro item listed
      exact inductionHypothesis item listed (isCanonical item listed)
  | object members inductionHypothesis =>
      rw [IsCanonical, membersCanonical_iff] at isCanonical
      have same : members.map (Prod.map id canonical) = members := by
        refine (List.map_congr_left ?_).trans members.map_id
        intro member listed
        exact Prod.ext rfl
          (inductionHypothesis member listed (isCanonical.2 member listed))
      rw [canonical, canonicalMembers_eq_map, same, IsSorted.sortMembers_eq isCanonical.1]

theorem depth_canonical_le (value : Value) : value.canonical.depth ≤ value.depth := by
  induction value using induction_on_parts with
  | null | bool | number | string => exact Nat.le_refl _
  | array items inductionHypothesis =>
      rw [canonical, canonicalItems_eq_map, depth, depth]
      apply Nat.succ_le_succ
      rw [depthOfItems_le_iff, List.forall_mem_map]
      intro item listed
      exact Nat.le_trans (inductionHypothesis item listed)
        (depthOfItems_le_iff.1 (Nat.le_refl _) item listed)
  | object members inductionHypothesis =>
      rw [canonical, canonicalMembers_eq_map, depth, depth]
      apply Nat.succ_le_succ
      rw [depthOfMembers_le_iff]
      intro member sorted
      obtain ⟨source, listed, rfl⟩ := List.mem_map.1 (mem_of_mem_sortMembers sorted)
      exact Nat.le_trans (inductionHypothesis source listed)
        (depthOfMembers_le_iff.1 (Nat.le_refl _) source listed)

end Value
end Json
end SessionHub
