import SessionHub.Broadcast.Scoped
import Mathlib.Algebra.GroupWithZero.Nat
import Mathlib.Data.List.Nodup

/-!
# Consistency of the scopes

A registry of scopes is consistent if its two tables say the same: a connection is among
the members of the scope that the reverse table names, and of no other. Registering,
unregistering and evicting are described by what they do to the scope of each connection
and to the members of each scope, and keep a registry consistent.
-/

namespace SessionHub
namespace Broadcast
namespace ScopedRegistry

variable (registry : ScopedRegistry)

/-! ## What the operations do -/

theorem members_eq_getD (scope : String) :
    registry.members scope = (registry.forward.get? scope).getD [] := rfl

theorem mem_members_iff_exists (scope : String) (id : ConnectionId) :
    id ∈ registry.members scope ↔
      ∃ ids, registry.forward.get? scope = some ids ∧ id ∈ ids := by
  rw [members_eq_getD]
  cases registry.forward.get? scope with
  | none => simp
  | some ids => simp

/-- Withdrawing a connection takes it out of one set. -/
theorem getD_withdraw
    (forward : Table String (List ConnectionId))
    (scope other : String)
    (id : ConnectionId) :
    ((withdraw forward scope id).get? other).getD [] =
      if other = scope then ((forward.get? scope).getD []).filter (· ≠ id)
      else (forward.get? other).getD [] := by
  rw [withdraw]
  cases held : forward.get? scope with
  | none =>
      by_cases same : other = scope
      · simp [same, held]
      · simp [same]
  | some ids =>
      rw [Option.getD_some]
      dsimp only
      split
      · next nothingLeft =>
        rw [Table.get?_erase, List.isEmpty_iff.1 nothingLeft]
        split <;> rfl
      · rw [Table.get?_insert]
        split <;> rfl

/-- A set of which nothing is left is withdrawn as a whole. -/
theorem withdraw_ne_nil
    {forward : Table String (List ConnectionId)}
    (nonempty : ∀ scope, forward.get? scope ≠ some [])
    (scope : String)
    (id : ConnectionId) :
    ∀ other, (withdraw forward scope id).get? other ≠ some [] := by
  intro other
  unfold withdraw
  split
  · exact nonempty other
  · next ids held =>
    simp only
    split
    · rw [Table.get?_erase]
      split
      · exact nofun
      · exact nonempty other
    · next somethingLeft =>
      rw [Table.get?_insert]
      split
      · intro empty
        rw [Option.some.inj empty] at somethingLeft
        exact somethingLeft rfl
      · exact nonempty other

theorem scopeOf_unregister (id other : ConnectionId) :
    (registry.unregister id).scopeOf other =
      if other = id then none else registry.scopeOf other := by
  unfold unregister
  split
  · next unregistered =>
    split
    · next same => rw [same, unregistered]
    · rfl
  · exact Table.get?_erase ..

theorem scopeOf_register (scope : String) (id other : ConnectionId) :
    (registry.register scope id).scopeOf other =
      if other = id then some scope else registry.scopeOf other := by
  have moved := registry.scopeOf_unregister id other
  unfold scopeOf at moved ⊢
  rw [register, Table.get?_insert, moved]
  split <;> rfl

/-! ## Consistency -/

/-- The two tables of a registry say the same. -/
structure IsConsistent : Prop where
  mem_members_iff : ∀ scope id, id ∈ registry.members scope ↔ registry.scopeOf id = some scope
  nodup : ∀ scope, (registry.members scope).Nodup
  nonempty : ∀ scope, registry.forward.get? scope ≠ some []

theorem isConsistent_empty : IsConsistent empty where
  mem_members_iff := by simp [empty, members, scopeOf]
  nodup := by simp [empty, members]
  nonempty := by simp [empty]

namespace IsConsistent

variable {registry : ScopedRegistry}

theorem members_unregister
    (consistent : registry.IsConsistent)
    (id : ConnectionId)
    (scope : String) :
    (registry.unregister id).members scope = (registry.members scope).filter (· ≠ id) := by
  have absentElsewhere : registry.scopeOf id ≠ some scope →
      (registry.members scope).filter (· ≠ id) = registry.members scope := by
    intro elsewhere
    apply List.filter_eq_self.2
    intro member present
    have isOther : member ≠ id := by
      intro same
      exact elsewhere ((consistent.mem_members_iff scope id).1 (same ▸ present))
    simpa using isOther
  unfold unregister
  split
  · next unregistered =>
    rw [absentElsewhere]
    rw [unregistered]
    exact nofun
  · next home registered =>
    rw [members_eq_getD, getD_withdraw]
    split
    · next same => rw [same, members_eq_getD]
    · next differs =>
      rw [absentElsewhere, members_eq_getD]
      rw [registered]
      intro same
      exact differs (Option.some.inj same).symm

theorem unregister
    (consistent : registry.IsConsistent)
    (id : ConnectionId) :
    (registry.unregister id).IsConsistent where
  mem_members_iff := by
    intro scope other
    rw [consistent.members_unregister, scopeOf_unregister, List.mem_filter,
      consistent.mem_members_iff]
    by_cases same : other = id <;> simp [same]
  nodup := by
    intro scope
    rw [consistent.members_unregister]
    exact (consistent.nodup scope).filter _
  nonempty := by
    unfold ScopedRegistry.unregister
    split
    · exact consistent.nonempty
    · exact withdraw_ne_nil consistent.nonempty _ id

theorem members_register
    (consistent : registry.IsConsistent)
    (scope other : String)
    (id : ConnectionId) :
    (registry.register scope id).members other =
      (registry.members other).filter (· ≠ id) ++ if other = scope then [id] else [] := by
  rw [members_eq_getD, register, Table.get?_insert]
  split
  · next same => rw [same, Option.getD_some, consistent.members_unregister]
  · rw [← members_eq_getD, consistent.members_unregister, List.append_nil]

theorem register
    (consistent : registry.IsConsistent)
    (scope : String)
    (id : ConnectionId) :
    (registry.register scope id).IsConsistent where
  mem_members_iff := by
    intro other member
    rw [consistent.members_register, scopeOf_register, List.mem_append, List.mem_filter,
      consistent.mem_members_iff]
    by_cases sameMember : member = id <;> by_cases sameScope : other = scope <;>
      simp [sameMember, sameScope, Ne.symm]
  nodup := by
    intro other
    rw [consistent.members_register]
    have left := (consistent.nodup other).filter (decide <| · ≠ id)
    split
    · apply List.nodup_append.2 ⟨left, List.nodup_singleton id, ?_⟩
      intro member kept added isAdded
      simp only [List.mem_filter] at kept
      simp_all
    · rw [List.append_nil]
      exact left
  nonempty := by
    intro other
    rw [ScopedRegistry.register, Table.get?_insert]
    split
    · simp
    · exact (consistent.unregister id).nonempty other

theorem evict
    (consistent : registry.IsConsistent)
    (ids : List ConnectionId) :
    (registry.evict ids).IsConsistent := by
  unfold ScopedRegistry.evict
  induction ids generalizing registry with
  | nil => exact consistent
  | cons id rest inductionHypothesis => exact inductionHypothesis (consistent.unregister id)

theorem members_evict
    (consistent : registry.IsConsistent)
    (ids : List ConnectionId)
    (scope : String) :
    (registry.evict ids).members scope = (registry.members scope).filter (· ∉ ids) := by
  unfold ScopedRegistry.evict
  induction ids generalizing registry with
  | nil =>
      rw [List.foldl_nil, List.filter_eq_self.2]
      simp
  | cons id rest inductionHypothesis =>
      rw [List.foldl_cons, inductionHypothesis (consistent.unregister id),
        consistent.members_unregister, List.filter_filter]
      apply List.filter_congr
      intro member present
      simp [Bool.and_comm]

end IsConsistent

theorem scopeOf_evict (ids : List ConnectionId) (other : ConnectionId) :
    (registry.evict ids).scopeOf other =
      if other ∈ ids then none else registry.scopeOf other := by
  unfold evict
  induction ids generalizing registry with
  | nil => simp
  | cons id rest inductionHypothesis =>
      rw [List.foldl_cons, inductionHypothesis, scopeOf_unregister]
      by_cases first : other = id <;> by_cases later : other ∈ rest <;> simp [first, later]

/-! ## Counting -/

namespace IsConsistent

variable {registry : ScopedRegistry}

theorem members_of_mem_entries
    {scope : String}
    {ids : List ConnectionId}
    (entry : (scope, ids) ∈ registry.forward.entries) :
    ids = registry.members scope := by
  rw [members_eq_getD, (Table.mem_entries_iff ..).1 entry, Option.getD_some]

/-- The sets of the scopes, one after another, list each connection once. -/
theorem nodup_flatten_values
    (consistent : registry.IsConsistent) :
    registry.forward.values.flatten.Nodup := by
  change (registry.forward.entries.flatMap Prod.snd).Nodup
  rw [List.nodup_flatMap]
  constructor
  · intro entry member
    rw [members_of_mem_entries member]
    exact consistent.nodup entry.1
  · apply (List.pairwise_map.1 registry.forward.distinct).imp_of_mem
    intro first second firstEntry secondEntry differ id inFirst inSecond
    rw [members_of_mem_entries firstEntry, consistent.mem_members_iff] at inFirst
    rw [members_of_mem_entries secondEntry, consistent.mem_members_iff] at inSecond
    exact differ (Option.some.inj (inFirst.symm.trans inSecond))

theorem mem_flatten_values_iff
    (consistent : registry.IsConsistent)
    (id : ConnectionId) :
    id ∈ registry.forward.values.flatten ↔ id ∈ registry.reverse.keys := by
  rw [Table.mem_keys_iff, Option.isSome_iff_exists, List.mem_flatten]
  constructor
  · rintro ⟨ids, isSet, present⟩
    obtain ⟨⟨scope, held⟩, entry, rfl⟩ := List.mem_map.1 isSet
    refine ⟨scope, (consistent.mem_members_iff scope id).1 ?_⟩
    rw [← members_of_mem_entries entry]
    exact present
  · rintro ⟨scope, registered⟩
    have member : id ∈ registry.members scope :=
      (consistent.mem_members_iff scope id).2 registered
    obtain ⟨ids, held, present⟩ := (registry.mem_members_iff_exists scope id).1 member
    have entry : (scope, ids) ∈ registry.forward.entries :=
      (Table.mem_entries_iff ..).2 held
    exact ⟨ids, List.mem_map_of_mem entry, present⟩

theorem sum_sizes
    (consistent : registry.IsConsistent) :
    (registry.forward.values.map List.length).sum = registry.reverse.size := by
  have sameIds : registry.forward.values.flatten.Perm registry.reverse.keys :=
    (List.perm_ext_iff_of_nodup consistent.nodup_flatten_values registry.reverse.distinct).2
      consistent.mem_flatten_values_iff
  rw [← List.length_flatten, sameIds.length_eq, Table.keys, List.length_map]
  rfl

end IsConsistent
end ScopedRegistry
end Broadcast
end SessionHub
