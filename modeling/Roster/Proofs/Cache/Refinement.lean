import Roster.Proofs.Cache.Index

namespace Roster.Cache

/-! The bounded map behaves like the plain list of its entries: each operation does to the map what
it does to the list, whatever slots the entries lie in. -/

theorem Recency.find?_makeRoom {K V : Type} [BEq K] {recency : Recency K V} {key : K}
    (unknown : recency.find? key = none) : recency.makeRoom.find? key = none := by
  rw [makeRoom]
  split
  · exact unknown
  · rw [find?, List.find?_eq_none] at unknown ⊢
    intro entry member
    exact unknown entry (List.mem_of_mem_tail member)

namespace Lru

variable {K V : Type} [BEq K] [Hashable K]

/-! What a map stands for. -/

structure Represents (lru : Lru K V) (recency : Recency K V) (chain : Chain K V) : Prop where
  threaded : lru.Threaded chain
  indexed : lru.Indexed chain.tags
  entries : recency.entries = chain.entries
  capacity : recency.capacity = lru.capacity
  ttl : recency.ttl = lru.ttl
  evictions : recency.evictions = lru.evictions
  expirations : recency.expirations = lru.expirations

def Refines (lru : Lru K V) (recency : Recency K V) : Prop :=
  ∃ chain, lru.Represents recency chain

namespace Represents

variable {lru : Lru K V} {recency : Recency K V} {chain : Chain K V}

theorem distinct_keys (represents : lru.Represents recency chain) :
    recency.entries.Pairwise fun entry other => (entry.key == other.key) = false := by
  have keys := represents.indexed.keys
  rw [Chain.tags, List.pairwise_map] at keys
  rw [represents.entries, Chain.entries, List.pairwise_map]
  exact keys

theorem find?_of_absent (represents : lru.Represents recency chain) {key : K}
    (absent : lru.index[key]? = none) : recency.find? key = none := by
  rw [Recency.find?, represents.entries, List.find?_eq_none]
  intro entry member equal
  obtain ⟨⟨slot, entry⟩, inChain, rfl⟩ := List.mem_map.mp member
  have present := (represents.indexed.index key slot).mpr
    ⟨entry.key, List.mem_map.mpr ⟨(slot, entry), inChain, rfl⟩, equal⟩
  rw [absent] at present
  cases present

theorem length_eq (represents : lru.Represents recency chain) :
    recency.entries.length = lru.size := by
  rw [size, represents.indexed.index_size, represents.entries, Chain.entries, Chain.tags,
    List.length_map, List.length_map]

theorem length_le (represents : lru.Represents recency chain) :
    recency.entries.length ≤ recency.capacity := by
  have slots_size := represents.indexed.slots_size
  have slots_le := represents.indexed.slots_le
  rw [represents.length_eq, represents.capacity, size, represents.indexed.index_size]
  omega

end Represents

theorem new_refines (capacity : Nat) (ttl : Span) :
    (new capacity ttl : Lru K V).Refines (Recency.new capacity ttl) :=
  ⟨[], ⟨rfl, rfl, trivial, List.nodup_nil⟩, indexed_empty rfl rfl rfl, rfl, rfl, rfl, rfl, rfl⟩

theorem clear_refines {lru : Lru K V} {recency : Recency K V} (refines : lru.Refines recency) :
    lru.clear.Refines recency.clear := by
  obtain ⟨chain, represents⟩ := refines
  exact ⟨[], ⟨rfl, rfl, trivial, List.nodup_nil⟩, indexed_empty rfl rfl rfl, rfl,
    represents.capacity, represents.ttl, represents.evictions, represents.expirations⟩

variable [EquivBEq K] [LawfulHashable K]

namespace Represents

variable {lru : Lru K V} {recency : Recency K V} {chain : Chain K V}

omit [LawfulHashable K] in
/-- The index leads to a link of the chain, whose entry is the one that the list finds. -/
theorem split_of_present (represents : lru.Represents recency chain) {key : K} {slot : Nat}
    (present : lru.index[key]? = some slot) :
    ∃ left entry right, chain = left ++ (slot, entry) :: right ∧
      recency.find? key = some entry ∧
      recency.without key = Chain.entries (left ++ right) := by
  obtain ⟨stored, member, equal⟩ := (represents.indexed.index key slot).mp present
  obtain ⟨⟨_, entry⟩, inChain, same⟩ := List.mem_map.mp member
  cases same
  obtain ⟨left, right, rfl⟩ := List.append_of_mem inChain
  have entries : recency.entries = Chain.entries left ++ entry :: Chain.entries right :=
    represents.entries.trans (Chain.entries_append _ _)
  have distinct := represents.distinct_keys
  rw [entries, List.pairwise_append] at distinct
  have leftDiffers : ∀ other ∈ Chain.entries left, ¬(other.key == key) = true := by
    intro other inLeft otherEqual
    have differs := distinct.2.2 other inLeft entry List.mem_cons_self
    rw [BEq.trans otherEqual (BEq.symm equal)] at differs
    cases differs
  refine ⟨left, entry, right, rfl, ?_, ?_⟩
  · rw [Recency.find?, entries, List.find?_append, List.find?_eq_none.mpr leftDiffers,
      List.find?_cons, equal]
    rfl
  · rw [Recency.without, entries, List.eraseP_append_right _ leftDiffers, List.eraseP_cons, equal,
      Chain.entries_append]
    rfl

omit [LawfulHashable K] in
theorem absent_of_find? (represents : lru.Represents recency chain) {key : K}
    (unknown : recency.find? key = none) : lru.index[key]? = none := by
  cases present : lru.index[key]? with
  | none => rfl
  | some slot =>
      obtain ⟨_, _, _, -, found, -⟩ := represents.split_of_present present
      rw [unknown] at found
      cases found

theorem removeAt {left right : Chain K V} {slot : Nat} {entry : Entry K V}
    (represents : lru.Represents recency (left ++ (slot, entry) :: right)) :
    ∃ lru', lru.removeAt slot = .ok (lru', entry.value) ∧
      lru'.Represents { recency with entries := Chain.entries (left ++ right) } (left ++ right) := by
  obtain ⟨taken, takes, frame, takenThreaded, found⟩ := unlink_spec represents.threaded
  have inBounds := lt_size_of_node? found
  have outside : slot ∉ Chain.slots (left ++ right) := by
    have distinct := represents.threaded.distinct
    simp only [Chain.slots] at distinct ⊢
    rw [(List.perm_middle.map Prod.fst).nodup_iff, List.map_cons, List.nodup_cons] at distinct
    exact distinct.1
  have takenIndexed : taken.Indexed ((slot, entry.key) :: Chain.tags (left ++ right)) := by
    apply represents.indexed.congr frame
    simp only [Chain.tags_append]
    exact List.perm_middle
  refine ⟨{ taken.setSlot slot none with
      index := taken.index.erase entry.key
      free := slot :: taken.free }, ?_, ⟨takenThreaded.head, takenThreaded.tail, ?_,
      takenThreaded.distinct⟩, takenIndexed.vacate ?_ found, rfl,
    represents.capacity.trans frame.capacity.symm, represents.ttl.trans frame.ttl.symm,
    represents.evictions.trans frame.evictions.symm,
    represents.expirations.trans frame.expirations.symm⟩
  · rw [Lru.removeAt, takes]
    simp only [bind, Except.bind, found]
    rfl
  · apply takenThreaded.linked.congr
    intro other member
    change (taken.setSlot slot none).node? other = _
    rw [node?_setSlot inBounds, if_neg]
    rintro rfl
    exact outside member
  · rw [Chain.tags, List.map_map]
    exact outside

omit [LawfulHashable K] in
theorem moveToBack {left right : Chain K V} {slot : Nat} {entry : Entry K V}
    (represents : lru.Represents recency (left ++ (slot, entry) :: right)) :
    ∃ lru', lru.moveToBack slot = .ok lru' ∧
      lru'.Represents { recency with entries := Chain.entries (left ++ right) ++ [entry] }
        (left ++ right ++ [(slot, entry)]) := by
  obtain ⟨moved, moves, frame, threaded⟩ := moveToBack_spec represents.threaded
  refine ⟨moved, moves, threaded, represents.indexed.congr frame ?_,
    (Chain.entries_append (left ++ right) [(slot, entry)]).symm, represents.capacity.trans frame.capacity.symm,
    represents.ttl.trans frame.ttl.symm, represents.evictions.trans frame.evictions.symm,
    represents.expirations.trans frame.expirations.symm⟩
  have swap : ([(slot, entry.key)] ++ Chain.tags right).Perm
      (Chain.tags right ++ [(slot, entry.key)]) := List.perm_append_comm
  simp only [Chain.tags_append, List.append_assoc]
  exact swap.append_left (Chain.tags left)

omit [LawfulHashable K] in
theorem replace {left right : Chain K V} {slot : Nat} {entry : Entry K V}
    (represents : lru.Represents recency (left ++ (slot, entry) :: right)) (value : V)
    (now : Instant) :
    ∃ lru', lru.modifyNode slot (fun node => { node with value, inserted := now }) = .ok lru' ∧
      lru'.Represents
        { recency with
          entries := Chain.entries (left ++ (slot, { entry with value, inserted := now }) :: right) }
        (left ++ (slot, { entry with value, inserted := now }) :: right) := by
  obtain ⟨head, tail, linked, distinct⟩ := represents.threaded
  rw [linked_append] at linked
  obtain ⟨leftLinked, found, rightLinked⟩ := linked
  have apart := distinct
  simp only [Chain.slots, List.map_append, List.map_cons, List.nodup_append,
    List.nodup_cons] at apart
  have frame := Frame.setSlot found
    (({ entry with value, inserted := now } : Entry K V).node (Chain.last none left)
      (Chain.first right none))
  refine ⟨_, modifyNode_of_node? found _, ⟨?_, ?_, ?_, ?_⟩, represents.indexed.congr frame ?_, rfl,
    represents.capacity, represents.ttl, represents.evictions, represents.expirations⟩
  · rw [Chain.first_append] at head ⊢
    exact head
  · rw [Chain.last_append] at tail ⊢
    exact tail
  · rw [linked_append]
    refine ⟨leftLinked.congr ?_, ?_, rightLinked.congr ?_⟩
    · intro other member
      rw [node?_setSlot (lt_size_of_node? found), if_neg]
      rintro rfl
      exact apart.2.2 other member other List.mem_cons_self rfl
    · rw [node?_setSlot (lt_size_of_node? found), if_pos rfl]
      rfl
    · intro other member
      rw [node?_setSlot (lt_size_of_node? found), if_neg]
      rintro rfl
      exact apart.2.1.1 member
  · simpa only [Chain.slots, List.map_append, List.map_cons] using distinct
  · simp only [Chain.tags_append]
    exact List.Perm.refl _

omit [EquivBEq K] [LawfulHashable K] in
theorem count (represents : lru.Represents recency chain) (evicted expired : Nat) :
    Represents
      { lru with
        evictions := lru.evictions + evicted
        expirations := lru.expirations + expired }
      { recency with
        evictions := recency.evictions + evicted
        expirations := recency.expirations + expired } chain where
  threaded := ⟨represents.threaded.head, represents.threaded.tail,
    represents.threaded.linked.congr fun _ _ => rfl, represents.threaded.distinct⟩
  indexed := { represents.indexed with }
  entries := represents.entries
  capacity := represents.capacity
  ttl := represents.ttl
  evictions := congrArg (· + evicted) represents.evictions
  expirations := congrArg (· + expired) represents.expirations

theorem evict (represents : lru.Represents recency chain) (positive : recency.capacity ≠ 0) :
    ∃ lru' chain', lru.evict (lru.size + 1) = .ok lru' ∧
      lru'.Represents recency.makeRoom chain' ∧ chain'.length < lru'.capacity := by
  have length_eq := represents.length_eq
  have length_le := represents.length_le
  have chainLength : recency.entries.length = chain.length := by
    rw [represents.entries, Chain.entries, List.length_map]
  by_cases room : recency.entries.length < recency.capacity
  · refine ⟨lru, chain, ?_, ?_, ?_⟩
    · rw [Lru.evict, if_neg]
      rw [← represents.capacity, ← length_eq]
      omega
    · rw [Recency.makeRoom, if_pos room]
      exact represents
    · rw [← chainLength, ← represents.capacity]
      exact room
  · cases chain with
    | nil =>
        simp only [List.length_nil] at chainLength
        omega
    | cons link rest =>
        obtain ⟨slot, entry⟩ := link
        have front : lru.Represents recency ([] ++ (slot, entry) :: rest) := represents
        obtain ⟨removed, removes, removedRepresents⟩ := front.removeAt
        have counted := removedRepresents.count 1 0
        have removedLength := removedRepresents.length_eq
        simp only [List.nil_append, Chain.entries, List.length_map] at removedLength
        have removedCapacity : recency.capacity = removed.capacity := removedRepresents.capacity
        rw [List.length_cons] at chainLength
        have roomNow : ¬removed.capacity ≤ removed.size := by omega
        have again : lru.size = lru.size - 1 + 1 := by omega
        refine ⟨{ removed with evictions := removed.evictions + 1 }, rest, ?_, ?_, ?_⟩
        · rw [Lru.evict, if_pos (by rw [← represents.capacity, ← length_eq]; omega),
            represents.threaded.head]
          change (lru.removeAt slot >>= fun removed =>
            Lru.evict { removed.1 with evictions := removed.1.evictions + 1 } _) = _
          rw [removes, again]
          exact if_neg roomNow
        · rw [Recency.makeRoom, if_neg room]
          have tail : recency.entries.tail = Chain.entries rest := by
            rw [represents.entries]
            rfl
          rw [tail]
          exact counted
        · change rest.length < removed.capacity
          omega

theorem append (represents : lru.Represents recency chain) {key : K}
    (absent : lru.index[key]? = none) (room : chain.length < lru.capacity) (value : V)
    (now : Instant) :
    ∃ placed slot lru', lru.alloc { key, value, inserted := now } = (placed, slot) ∧
      Allocated lru placed slot { key, value, inserted := now } ∧
      Lru.linkBack { placed with index := placed.index.insert key slot } slot = .ok lru' ∧
      lru'.Represents { recency with entries := recency.entries ++ [⟨key, value, now⟩] }
        (chain ++ [(slot, ⟨key, value, now⟩)]) := by
  obtain ⟨placed, slot, allocates, allocated⟩ :=
    alloc_spec represents.indexed { key, value, inserted := now }
  have outside : slot ∉ chain.slots := by
    intro member
    have filled := represents.threaded.linked.node?_isSome member
    rw [allocated.vacant] at filled
    cases filled
  let indexed : Lru K V := { placed with index := placed.index.insert key slot }
  have threaded : indexed.Threaded chain := by
    refine ⟨?_, ?_, represents.threaded.linked.congr ?_, represents.threaded.distinct⟩
    · rw [← represents.threaded.head]
      exact (by rw [allocated.rest] : placed.head = lru.head)
    · rw [← represents.threaded.tail]
      exact (by rw [allocated.rest] : placed.tail = lru.tail)
    · intro other member
      change placed.node? other = _
      rw [allocated.node?_eq, if_neg]
      rintro rfl
      exact outside member
  have found : indexed.node? slot = some (Entry.node ⟨key, value, now⟩ none none) := by
    change placed.node? slot = _
    rw [allocated.node?_eq, if_pos rfl]
    rfl
  have tagsLength : chain.tags.length < lru.capacity := by
    rw [Chain.tags, List.length_map]
    exact room
  obtain ⟨linked, links, frame, linkedThreaded⟩ := linkBack_spec threaded outside found
  refine ⟨placed, slot, linked, allocates, allocated, links, linkedThreaded,
    (represents.indexed.fill allocated tagsLength absent).congr frame ?_, ?_, ?_, ?_, ?_, ?_⟩
  · simp only [Chain.tags_append]
    have swap : ([(slot, key)] ++ chain.tags).Perm (chain.tags ++ [(slot, key)]) :=
      List.perm_append_comm
    exact swap
  · simp only [Chain.entries_append, represents.entries]
    rfl
  · exact represents.capacity.trans
      (frame.capacity.trans (by rw [allocated.rest] : placed.capacity = lru.capacity)).symm
  · exact represents.ttl.trans
      (frame.ttl.trans (by rw [allocated.rest] : placed.ttl = lru.ttl)).symm
  · exact represents.evictions.trans
      (frame.evictions.trans (by rw [allocated.rest] : placed.evictions = lru.evictions)).symm
  · exact represents.expirations.trans
      (frame.expirations.trans
        (by rw [allocated.rest] : placed.expirations = lru.expirations)).symm

/-- An insertion under a new key: room is made, and the entry is placed and put at the end. -/
theorem insert_of_absent (represents : lru.Represents recency chain) (enabled : lru.capacity ≠ 0)
    {key : K} (absent : lru.index[key]? = none) (value : V) (now : Instant) :
    ∃ roomy kept placed slot lru', lru.evict (lru.size + 1) = .ok roomy ∧
      roomy.Represents recency.makeRoom kept ∧ kept.length < roomy.capacity ∧
      roomy.alloc { key, value, inserted := now } = (placed, slot) ∧
      Allocated roomy placed slot { key, value, inserted := now } ∧
      Lru.linkBack { placed with index := placed.index.insert key slot } slot = .ok lru' ∧
      lru.insert key value now = .ok lru' ∧
      lru'.Represents
        { recency.makeRoom with entries := recency.makeRoom.entries ++ [⟨key, value, now⟩] }
        (kept ++ [(slot, ⟨key, value, now⟩)]) := by
  obtain ⟨roomy, kept, evicts, roomyRepresents, room⟩ :=
    represents.evict (represents.capacity ▸ enabled)
  have unknown := Recency.find?_makeRoom (represents.find?_of_absent absent)
  obtain ⟨placed, slot, linked, allocates, allocated, links, linkedRepresents⟩ :=
    roomyRepresents.append (roomyRepresents.absent_of_find? unknown) room value now
  refine ⟨roomy, kept, placed, slot, linked, evicts, roomyRepresents, room, allocates, allocated,
    links, ?_, linkedRepresents⟩
  rw [Lru.insert, if_neg enabled, absent]
  simp only [bind, Except.bind, evicts, allocates]
  exact links

omit [EquivBEq K] [LawfulHashable K] in
theorem keysByRecency (represents : lru.Represents recency chain) :
    lru.keysByRecency = .ok (chain.entries.map Entry.key) := by
  rw [Lru.keysByRecency, represents.threaded.head]
  apply keysFrom_spec represents.threaded.linked
  rw [← represents.length_eq, represents.entries, Chain.entries, List.length_map]
  exact Nat.le_succ _

end Represents

/-! Each operation does to the map what it does to the list, and never fails. -/

variable {lru : Lru K V} {recency : Recency K V}

theorem get_refines (refines : lru.Refines recency) (key : K) (now : Instant) :
    ∃ lru', lru.get key now = .ok (lru', (recency.get key now).2) ∧
      lru'.Refines (recency.get key now).1 := by
  obtain ⟨chain, represents⟩ := refines
  cases present : lru.index[key]? with
  | none =>
      rw [Recency.get, represents.find?_of_absent present]
      refine ⟨lru, ?_, chain, represents⟩
      rw [get, present]
      rfl
  | some slot =>
      obtain ⟨left, entry, right, rfl, found, without⟩ := represents.split_of_present present
      have node_eq : lru.node slot =
          .ok (entry.node (Chain.last none left) (Chain.first right none)) := by
        rw [node, ((linked_append.mp represents.threaded.linked).2).1]
      rw [Recency.get, found]
      simp only [without]
      by_cases expired : Instant.outlives recency.ttl entry.inserted now
      · obtain ⟨removed, removes, removedRepresents⟩ := represents.removeAt
        rw [if_pos expired]
        refine ⟨{ removed with expirations := removed.expirations + 1 }, ?_, left ++ right,
          removedRepresents.count 0 1⟩
        rw [get, present]
        change (do
          let node ← lru.node slot
          if Instant.outlives lru.ttl node.inserted now then _ else _) = _
        rw [node_eq]
        refine (if_pos (represents.ttl ▸ expired)).trans ?_
        rw [removes]
        rfl
      · obtain ⟨moved, moves, movedRepresents⟩ := represents.moveToBack
        have moved_eq : moved.node slot =
            .ok (entry.node (Chain.last none (left ++ right)) none) := by
          rw [node, ((linked_append.mp movedRepresents.threaded.linked).2).1]
          rfl
        rw [if_neg expired]
        refine ⟨moved, ?_, _, movedRepresents⟩
        rw [get, present]
        change (do
          let node ← lru.node slot
          if Instant.outlives lru.ttl node.inserted now then _ else _) = _
        rw [node_eq]
        refine (if_neg (represents.ttl ▸ expired)).trans ?_
        rw [moves]
        change (do return (moved, some (← moved.node slot).value)) = _
        rw [moved_eq]
        rfl

theorem insert_refines (refines : lru.Refines recency) (key : K) (value : V) (now : Instant) :
    ∃ lru', lru.insert key value now = .ok lru' ∧
      lru'.Refines (recency.insert key value now) := by
  obtain ⟨chain, represents⟩ := refines
  by_cases disabled : recency.capacity = 0
  · rw [Recency.insert, if_pos disabled]
    refine ⟨lru, ?_, chain, represents⟩
    rw [insert, if_pos (represents.capacity.symm.trans disabled)]
  · have enabled : ¬lru.capacity = 0 := by
      rw [← represents.capacity]
      exact disabled
    rw [Recency.insert, if_neg disabled]
    cases present : lru.index[key]? with
    | some slot =>
        obtain ⟨left, entry, right, rfl, found, without⟩ := represents.split_of_present present
        obtain ⟨replaced, replaces, replacedRepresents⟩ := represents.replace value now
        obtain ⟨moved, moves, movedRepresents⟩ := replacedRepresents.moveToBack
        rw [found]
        simp only [without]
        refine ⟨moved, ?_, _, movedRepresents⟩
        rw [insert, if_neg enabled, present]
        change (lru.modifyNode slot _ >>= fun lru => lru.moveToBack slot) = _
        rw [replaces]
        exact moves
    | none =>
        obtain ⟨_, _, _, _, inserted, -, -, -, -, -, -, inserts, insertedRepresents⟩ :=
          represents.insert_of_absent enabled present value now
        rw [represents.find?_of_absent present]
        exact ⟨inserted, inserts, _, insertedRepresents⟩

theorem remove_refines (refines : lru.Refines recency) (key : K) :
    ∃ lru', lru.remove key = .ok (lru', (recency.remove key).2) ∧
      lru'.Refines (recency.remove key).1 := by
  obtain ⟨chain, represents⟩ := refines
  cases present : lru.index[key]? with
  | none =>
      rw [Recency.remove, represents.find?_of_absent present]
      refine ⟨lru, ?_, chain, represents⟩
      rw [remove, present]
  | some slot =>
      obtain ⟨left, entry, right, rfl, found, without⟩ := represents.split_of_present present
      obtain ⟨removed, removes, removedRepresents⟩ := represents.removeAt
      rw [Recency.remove, found]
      simp only [without]
      refine ⟨removed, ?_, _, removedRepresents⟩
      rw [remove, present]
      change (lru.removeAt slot >>= fun removed => pure (removed.1, some removed.2)) = _
      rw [removes]
      rfl

theorem apply_refines (refines : lru.Refines recency) (operation : Operation K V) :
    ∃ lru', lru.apply operation = .ok (lru', (recency.apply operation).2) ∧
      lru'.Refines (recency.apply operation).1 := by
  cases operation with
  | get key now => exact get_refines refines key now
  | insert key value now =>
      obtain ⟨inserted, inserts, insertedRefines⟩ := insert_refines refines key value now
      refine ⟨inserted, ?_, insertedRefines⟩
      rw [apply, inserts]
      rfl
  | remove key => exact remove_refines refines key
  | clear => exact ⟨lru.clear, rfl, clear_refines refines⟩

omit [EquivBEq K] [LawfulHashable K] in
theorem observe_eq (refines : lru.Refines recency) (result : Option V) :
    lru.observe result = .ok (recency.observe result) := by
  obtain ⟨chain, represents⟩ := refines
  rw [observe, represents.keysByRecency, Recency.observe, ← represents.length_eq,
    represents.entries, represents.evictions, represents.expirations]
  rfl

theorem trace_eq (refines : lru.Refines recency) (operations : List (Operation K V)) :
    lru.trace operations = .ok (recency.trace operations) := by
  induction operations generalizing lru recency with
  | nil => rfl
  | cons operation operations ih =>
      obtain ⟨lru', applies, refines'⟩ := apply_refines refines operation
      rw [trace, applies]
      change (do
        let observation ← lru'.observe (recency.apply operation).2
        return observation :: (← lru'.trace operations)) = _
      rw [observe_eq refines']
      change (do return _ :: (← lru'.trace operations)) = _
      rw [ih refines']
      rfl

/-- A new map behaves like the plain list of its entries under every sequence of operations, at
whatever times. In particular no operation fails. -/
theorem trace_new (capacity : Nat) (ttl : Span) (operations : List (Operation K V)) :
    (new capacity ttl : Lru K V).trace operations =
      .ok ((Recency.new capacity ttl).trace operations) :=
  trace_eq (new_refines capacity ttl) operations

theorem trace_new_two_slots :
    (new 2 (.ofSecs 1) : Lru String Int).trace
        [.insert "a" 1 ⟨5000000000⟩, .insert "b" 2 ⟨3000000000⟩, .get "a" ⟨1000000000⟩,
          .insert "c" 3 ⟨4000000000⟩, .get "a" ⟨6000000001⟩, .insert "c" 4 ⟨0⟩, .remove "b",
          .clear] =
      .ok
        [⟨none, ["a"], 1, 0, 0⟩, ⟨none, ["a", "b"], 2, 0, 0⟩, ⟨some 1, ["b", "a"], 2, 0, 0⟩,
          ⟨none, ["a", "c"], 2, 1, 0⟩, ⟨none, ["c"], 1, 1, 1⟩, ⟨none, ["c"], 1, 1, 1⟩,
          ⟨none, ["c"], 1, 1, 1⟩, ⟨none, [], 0, 1, 1⟩] :=
  (trace_new 2 (.ofSecs 1) _).trans rfl

end Lru

end Roster.Cache
