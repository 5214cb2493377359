import Roster.Proofs.Cache.Chain

namespace Roster.Cache

/-! The index of a bounded map and its free slots: together they account for every slot. -/

namespace Chain

variable {K V : Type}

def tags (chain : Chain K V) : List (Nat × K) := chain.map fun link => (link.1, link.2.key)

@[simp] theorem tags_append (left right : Chain K V) :
    tags (left ++ right) = tags left ++ tags right := List.map_append

@[simp] theorem entries_append (left right : Chain K V) :
    entries (left ++ right) = entries left ++ entries right := List.map_append

end Chain

namespace Lru

variable {K V : Type} [BEq K] [Hashable K]

/-- The index and the free slots of a map, given its occupied slots with their keys. -/
structure Indexed (lru : Lru K V) (tags : List (Nat × K)) : Prop where
  occupied : ∀ slot, (lru.node? slot).isSome ↔ slot ∈ tags.map Prod.fst
  free_nodup : lru.free.Nodup
  mem_free : ∀ slot, slot ∈ lru.free ↔ slot < lru.slots.size ∧ lru.node? slot = none
  keys : tags.Pairwise fun tag other => (tag.2 == other.2) = false
  index : ∀ key slot, lru.index[key]? = some slot ↔ ∃ stored, (slot, stored) ∈ tags ∧ stored == key
  index_size : lru.index.size = tags.length
  slots_size : lru.slots.size = tags.length + lru.free.length
  slots_le : lru.slots.size ≤ lru.capacity

/-- A map in which a vacant or new slot has been filled. -/
structure Allocated (lru placed : Lru K V) (slot : Nat) (node : Node K V) : Prop where
  rest : placed = { lru with slots := placed.slots, free := placed.free }
  vacant : lru.node? slot = none
  node?_eq : ∀ other, placed.node? other = if other = slot then some node else lru.node? other
  free_nodup : placed.free.Nodup
  mem_free : ∀ other, other ∈ placed.free ↔
    other < placed.slots.size ∧ placed.node? other = none
  slots_size : placed.slots.size + lru.free.length = lru.slots.size + placed.free.length + 1
  slots_le : lru.slots.size < lru.capacity ∨ lru.free ≠ [] → placed.slots.size ≤ lru.capacity

theorem Allocated.not_mem_free {lru placed : Lru K V} {slot : Nat} {node : Node K V}
    (allocated : Allocated lru placed slot node) : slot ∉ placed.free := by
  intro member
  have vacant := ((allocated.mem_free slot).mp member).2
  rw [allocated.node?_eq, if_pos rfl] at vacant
  cases vacant

theorem alloc_spec {lru : Lru K V} {tags : List (Nat × K)} (indexed : lru.Indexed tags)
    (node : Node K V) :
    ∃ placed slot, lru.alloc node = (placed, slot) ∧ Allocated lru placed slot node := by
  cases free : lru.free with
  | cons slot rest =>
      have nodup := indexed.free_nodup
      rw [free] at nodup
      obtain ⟨inBounds, vacant⟩ := (indexed.mem_free slot).mp (by simp [free])
      have node?_eq := fun other => node?_setSlot inBounds (some node) other
      refine ⟨{ lru.setSlot slot (some node) with free := rest }, slot, by simp [alloc, free],
        rfl, vacant, node?_eq, (List.nodup_cons.mp nodup).2, ?_, ?_, ?_⟩
      · intro other
        change other ∈ rest ↔ other < (lru.slots.setIfInBounds slot (some node)).size ∧
          (lru.setSlot slot (some node)).node? other = none
        rw [node?_eq, Array.size_setIfInBounds]
        by_cases same : other = slot
        · subst other
          simp [(List.nodup_cons.mp nodup).1]
        · rw [if_neg same, ← indexed.mem_free, free, List.mem_cons]
          exact (or_iff_right same).symm
      · simp [setSlot, free, Nat.add_assoc]
      · intro _
        simpa [setSlot] using indexed.slots_le
  | nil =>
      have node?_eq : ∀ other, ({ lru with slots := lru.slots.push (some node) } : Lru K V).node?
          other = if other = lru.slots.size then some node else lru.node? other := by
        intro other
        simp only [node?, Array.getElem?_push]
        split <;> rfl
      refine ⟨{ lru with slots := lru.slots.push (some node) }, lru.slots.size,
        by simp [alloc, free], rfl, ?_, node?_eq, indexed.free_nodup, ?_, ?_, ?_⟩
      · simp [node?]
      · intro other
        change other ∈ lru.free ↔ other < (lru.slots.push (some node)).size ∧ _
        rw [node?_eq, Array.size_push, indexed.mem_free]
        by_cases same : other = lru.slots.size
        · subst other
          simp
        · rw [if_neg same]
          exact and_congr_left fun _ => by omega
      · simp [free]
      · rintro (room | impossible)
        · rw [Array.size_push]
          exact room
        · exact absurd free impossible

theorem indexed_empty {lru : Lru K V} (slots : lru.slots = #[]) (free : lru.free = [])
    (index : lru.index = ∅) : lru.Indexed [] where
  occupied := by simp [node?, slots]
  free_nodup := by simp [free]
  mem_free := by simp [free, slots]
  keys := List.Pairwise.nil
  index := by simp [index]
  index_size := by simp [index]
  slots_size := by simp [slots, free]
  slots_le := by simp [slots]

variable [EquivBEq K] [LawfulHashable K]

namespace Indexed

omit [LawfulHashable K] in
/-- Links, values and the order of the slots do not matter to the index. -/
theorem congr {lru lru' : Lru K V} {tags tags' : List (Nat × K)} (indexed : lru.Indexed tags)
    (frame : Frame lru lru') (permuted : tags.Perm tags') : lru'.Indexed tags' where
  occupied := by
    intro slot
    rw [frame.occupied, indexed.occupied, (permuted.map Prod.fst).mem_iff]
  free_nodup := frame.free ▸ indexed.free_nodup
  mem_free := by
    intro slot
    have same := frame.occupied slot
    rw [frame.free, frame.slots_size, indexed.mem_free slot]
    simp only [← Option.isNone_iff_eq_none, ← Option.not_isSome, same]
  keys := by
    refine (permuted.pairwise_iff ?_).mp indexed.keys
    intro tag other different
    rw [BEq.comm]
    exact different
  index := by
    intro key slot
    rw [frame.index, indexed.index]
    simp only [permuted.mem_iff]
  index_size := by rw [frame.index, indexed.index_size, permuted.length_eq]
  slots_size := by rw [frame.slots_size, frame.free, indexed.slots_size, permuted.length_eq]
  slots_le := by rw [frame.slots_size, frame.capacity]; exact indexed.slots_le

theorem vacate {lru : Lru K V} {slot : Nat} {key : K} {tags : List (Nat × K)}
    {node : Node K V} (indexed : lru.Indexed ((slot, key) :: tags))
    (distinct : slot ∉ tags.map Prod.fst) (found : lru.node? slot = some node) :
    Indexed { lru.setSlot slot none with
      index := lru.index.erase key
      free := slot :: lru.free } tags := by
  have node?_eq (other : Nat) : (lru.setSlot slot none).node? other =
      if other = slot then none else lru.node? other :=
    node?_setSlot (lt_size_of_node? found) none other
  have apart := (List.pairwise_cons.mp indexed.keys).1
  have keyIndexed : lru.index[key]? = some slot :=
    (indexed.index key slot).mpr ⟨key, List.mem_cons_self, BEq.rfl⟩
  constructor
  case occupied =>
    intro other
    change ((lru.setSlot slot none).node? other).isSome ↔ other ∈ tags.map Prod.fst
    rw [node?_eq]
    by_cases same : other = slot
    · subst other
      simp [distinct]
    · rw [if_neg same, indexed.occupied, List.map_cons, List.mem_cons]
      exact or_iff_right same
  case free_nodup =>
    refine List.nodup_cons.mpr ⟨?_, indexed.free_nodup⟩
    intro member
    have vacant := ((indexed.mem_free slot).mp member).2
    rw [found] at vacant
    cases vacant
  case mem_free =>
    intro other
    change other ∈ slot :: lru.free ↔
      other < (lru.slots.setIfInBounds slot none).size ∧ (lru.setSlot slot none).node? other = none
    rw [node?_eq, Array.size_setIfInBounds, List.mem_cons, indexed.mem_free]
    by_cases same : other = slot
    · subst other
      simp [lt_size_of_node? found]
    · simp [same]
  case keys => exact (List.pairwise_cons.mp indexed.keys).2
  case index =>
    intro sought other
    rw [Std.HashMap.getElem?_erase]
    by_cases same : key == sought
    · rw [if_pos same]
      constructor
      · intro impossible
        cases impossible
      · rintro ⟨stored, member, equal⟩
        have different := apart (other, stored) member
        rw [BEq.trans same (BEq.symm equal)] at different
        cases different
    · rw [if_neg same, indexed.index]
      constructor
      · rintro ⟨stored, member, equal⟩
        rcases List.mem_cons.mp member with atSlot | inTags
        · cases atSlot
          exact absurd equal same
        · exact ⟨stored, inTags, equal⟩
      · rintro ⟨stored, member, equal⟩
        exact ⟨stored, List.mem_cons_of_mem _ member, equal⟩
  case index_size =>
    have member : key ∈ lru.index := by
      rw [Std.HashMap.mem_iff_isSome_getElem?, keyIndexed]
      rfl
    change (lru.index.erase key).size = tags.length
    rw [Std.HashMap.size_erase, if_pos member, indexed.index_size]
    rfl
  case slots_size =>
    change (lru.slots.setIfInBounds slot none).size = tags.length + (lru.free.length + 1)
    rw [Array.size_setIfInBounds, indexed.slots_size, List.length_cons]
    omega
  case slots_le =>
    change (lru.slots.setIfInBounds slot none).size ≤ lru.capacity
    rw [Array.size_setIfInBounds]
    exact indexed.slots_le

end Indexed

theorem Indexed.fill {lru placed : Lru K V} {slot : Nat} {key : K} {tags : List (Nat × K)}
    {node : Node K V} (indexed : lru.Indexed tags) (allocated : Allocated lru placed slot node)
    (room : tags.length < lru.capacity) (absent : lru.index[key]? = none) :
    Indexed { placed with index := placed.index.insert key slot } ((slot, key) :: tags) := by
  have index_eq : placed.index = lru.index := by rw [allocated.rest]
  have capacity_eq : placed.capacity = lru.capacity := by rw [allocated.rest]
  have sizes := allocated.slots_size
  have occupiedSize := indexed.slots_size
  constructor
  case occupied =>
    intro other
    change (placed.node? other).isSome ↔ other ∈ slot :: tags.map Prod.fst
    rw [allocated.node?_eq, List.mem_cons, ← indexed.occupied]
    by_cases same : other = slot <;> simp [same]
  case free_nodup => exact allocated.free_nodup
  case mem_free => exact allocated.mem_free
  case keys =>
    refine List.pairwise_cons.mpr ⟨?_, indexed.keys⟩
    intro tag member
    rw [Bool.eq_false_iff]
    intro equal
    have present := (indexed.index key tag.1).mpr ⟨tag.2, member, BEq.symm equal⟩
    rw [absent] at present
    cases present
  case index =>
    intro sought other
    change (placed.index.insert key slot)[sought]? = some other ↔ _
    rw [index_eq, Std.HashMap.getElem?_insert]
    by_cases same : key == sought
    · rw [if_pos same]
      constructor
      · intro equation
        cases equation
        exact ⟨key, List.mem_cons_self, same⟩
      · rintro ⟨stored, member, equal⟩
        rcases List.mem_cons.mp member with atSlot | inTags
        · cases atSlot
          rfl
        · have present := (indexed.index key other).mpr
            ⟨stored, inTags, BEq.trans equal (BEq.symm same)⟩
          rw [absent] at present
          cases present
    · rw [if_neg same, indexed.index]
      constructor
      · rintro ⟨stored, member, equal⟩
        exact ⟨stored, List.mem_cons_of_mem _ member, equal⟩
      · rintro ⟨stored, member, equal⟩
        rcases List.mem_cons.mp member with atSlot | inTags
        · cases atSlot
          exact absurd equal same
        · exact ⟨stored, inTags, equal⟩
  case index_size =>
    have outside : key ∉ lru.index := by
      rw [Std.HashMap.mem_iff_isSome_getElem?, absent]
      simp
    change (placed.index.insert key slot).size = _
    rw [index_eq, Std.HashMap.size_insert, if_neg outside, indexed.index_size, List.length_cons]
  case slots_size =>
    change placed.slots.size = _ + placed.free.length
    rw [List.length_cons]
    omega
  case slots_le =>
    change placed.slots.size ≤ placed.capacity
    rw [capacity_eq]
    apply allocated.slots_le
    cases free : lru.free with
    | cons => exact .inr (List.cons_ne_nil _ _)
    | nil =>
        rw [free, List.length_nil] at occupiedSize
        exact .inl (by omega)

end Lru

end Roster.Cache
