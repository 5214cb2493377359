import Roster.Proofs.Cache.Contents

namespace Roster.Cache

/-! What becomes of the slots of a bounded map. At every time each of them is either free, or holds an
entry that its own key leads to and that stands once on the list of entries. So no slot is lost, none
is given to two entries, and to walk the list or to make room on it comes to an end. -/

theorem Chain.last_eq_getLast? {K V : Type} (before : Option Nat) (chain : Chain K V) :
    chain.last before = chain.slots.getLast?.or before := by
  induction chain generalizing before with
  | nil => rfl
  | cons link rest ih =>
      change Chain.last (some link.1) rest = (link.1 :: slots rest).getLast?.or before
      rw [ih, List.getLast?_cons]
      cases (slots rest).getLast? <;> rfl

theorem Chain.map_fst_tags {K V : Type} (chain : Chain K V) :
    chain.tags.map Prod.fst = chain.slots := by
  rw [tags, List.map_map]
  rfl

theorem Chain.split_of_mem_slots {K V : Type} {chain : Chain K V} {slot : Nat}
    (member : slot ∈ chain.slots) : ∃ left entry right, chain = left ++ (slot, entry) :: right := by
  obtain ⟨⟨_, entry⟩, inChain, rfl⟩ := List.mem_map.mp member
  obtain ⟨left, right, split⟩ := List.append_of_mem inChain
  exact ⟨left, entry, right, split⟩

theorem Recency.capacity_apply {K V : Type} [BEq K] (recency : Recency K V)
    (operation : Operation K V) :
    (recency.apply operation).1.capacity = recency.capacity := by
  cases operation with
  | get key now => exact capacity_get recency key now
  | insert key value now => exact capacity_insert recency key value now
  | remove key =>
      rw [apply, remove]
      split <;> rfl
  | clear => rfl

namespace Lru

variable {K V : Type} [BEq K] [Hashable K] {lru : Lru K V}

/-! The list as the links tell it, without a bound on its length. -/

def next? (lru : Lru K V) (slot : Nat) : Option Nat := (lru.node? slot).bind Node.next

def prev? (lru : Lru K V) (slot : Nat) : Option Nat := (lru.node? slot).bind Node.prev

theorem isSome_of_next? {slot other : Nat} (leads : lru.next? slot = some other) :
    (lru.node? slot).isSome :=
  Option.isSome_of_isSome_bind (Option.isSome_of_eq_some leads)

theorem isSome_of_prev? {slot other : Nat} (leads : lru.prev? slot = some other) :
    (lru.node? slot).isSome :=
  Option.isSome_of_isSome_bind (Option.isSome_of_eq_some leads)

/-- The slots on the way from one of them to where no other follows. -/
inductive Walk (lru : Lru K V) : Option Nat → List Nat → Prop where
  | stop : lru.Walk none []
  | step {slot : Nat} {node : Node K V} {path : List Nat} (found : lru.node? slot = some node)
      (rest : lru.Walk node.next path) : lru.Walk (some slot) (slot :: path)

/-- The way from the head leads through each occupied slot once, to the tail, and the same links lead
back. -/
structure Strung (lru : Lru K V) (path : List Nat) : Prop where
  walk : lru.Walk lru.head path
  ends : path.getLast? = lru.tail
  once : path.Nodup
  mem_iff : ∀ slot, slot ∈ path ↔ (lru.node? slot).isSome
  inverse : ∀ slot other, lru.next? slot = some other ↔ lru.prev? other = some slot

theorem Linked.walk {before : Option Nat} {chain : Chain K V}
    (linked : lru.Linked before chain none) : lru.Walk (chain.first none) chain.slots := by
  induction chain generalizing before with
  | nil => exact .stop
  | cons link rest ih => exact .step linked.1 (ih linked.2)

theorem Linked.prev?_of_next? {before : Option Nat} {chain : Chain K V}
    (linked : lru.Linked before chain none) {slot other : Nat} (member : slot ∈ chain.slots)
    (leads : lru.next? slot = some other) : lru.prev? other = some slot := by
  obtain ⟨left, entry, right, rfl⟩ := Chain.split_of_mem_slots member
  obtain ⟨-, found, rightLinked⟩ := linked_append.mp linked
  rw [next?, found] at leads
  cases right with
  | nil => cases leads
  | cons link rest =>
      cases leads
      rw [prev?, rightLinked.1]
      rfl

theorem Linked.next?_of_prev? {after : Option Nat} {chain : Chain K V}
    (linked : lru.Linked none chain after) {slot other : Nat} (member : other ∈ chain.slots)
    (leads : lru.prev? other = some slot) : lru.next? slot = some other := by
  obtain ⟨left, entry, right, rfl⟩ := Chain.split_of_mem_slots member
  obtain ⟨leftLinked, found, -⟩ := linked_append.mp linked
  rw [prev?, found] at leads
  rcases List.eq_nil_or_concat' left with rfl | ⟨front, link, rfl⟩
  · cases leads
  · change Chain.last none (front ++ [link]) = some slot at leads
    rw [Chain.last_append] at leads
    cases leads
    rw [next?, (linked_append.mp leftLinked).2.1]
    rfl

theorem Threaded.strung {chain : Chain K V} (threaded : lru.Threaded chain)
    (occupied : ∀ slot, slot ∈ chain.slots ↔ (lru.node? slot).isSome) : lru.Strung chain.slots where
  walk := threaded.head ▸ threaded.linked.walk
  ends := by rw [threaded.tail, Chain.last_eq_getLast?, Option.or_none]
  once := threaded.distinct
  mem_iff := occupied
  inverse := by
    intro slot other
    constructor
    · intro leads
      exact threaded.linked.prev?_of_next? ((occupied slot).mpr (isSome_of_next? leads)) leads
    · intro leads
      exact threaded.linked.next?_of_prev? ((occupied other).mpr (isSome_of_prev? leads)) leads

theorem Walk.unique {start : Option Nat} {path other : List Nat} (walk : lru.Walk start path)
    (again : lru.Walk start other) : path = other := by
  induction walk generalizing other with
  | stop =>
      cases again
      rfl
  | step found rest ih =>
      cases again with
      | step found' rest' =>
          cases found.symm.trans found'
          exact congrArg _ (ih rest')

/-- What follows a slot on a way stands further along it. -/
theorem Walk.next?_mem_tail {start : Option Nat} {path : List Nat} (walk : lru.Walk start path)
    {slot other : Nat} (member : slot ∈ path) (leads : lru.next? slot = some other) :
    other ∈ path.tail := by
  induction walk with
  | stop => cases member
  | step found rest ih =>
      rcases List.mem_cons.mp member with rfl | inRest
      · rw [next?, found, Option.bind_some] at leads
        rw [leads] at rest
        cases rest
        exact List.mem_cons_self
      · exact List.mem_of_mem_tail (ih inRest)

/-- A way whose links also lead back is a piece of the list. -/
theorem Walk.linked {start : Option Nat} {path : List Nat} (walk : lru.Walk start path)
    (inverse : ∀ slot other, lru.next? slot = some other → lru.prev? other = some slot)
    {before : Option Nat} (enters : ∀ slot, start = some slot → lru.prev? slot = before) :
    ∃ chain : Chain K V, chain.slots = path ∧ chain.first none = start ∧
      lru.Linked before chain none := by
  induction walk generalizing before with
  | stop => exact ⟨[], rfl, rfl, trivial⟩
  | @step slot node path found rest ih =>
      have follows : ∀ other, node.next = some other → lru.prev? other = some slot := by
        intro other next
        apply inverse
        rw [next?, found]
        exact next
      obtain ⟨chain, slots, first, linked⟩ := ih follows
      have prev := enters slot rfl
      rw [prev?, found, Option.bind_some] at prev
      refine ⟨(slot, ⟨node.key, node.value, node.inserted⟩) :: chain, ?_, rfl, ?_, linked⟩
      · exact congrArg (slot :: ·) slots
      · rw [found, first, ← prev]
        rfl

theorem Strung.threaded {path : List Nat} (strung : lru.Strung path) :
    ∃ chain : Chain K V, chain.slots = path ∧ lru.Threaded chain := by
  have unentered : ∀ slot, lru.head = some slot → lru.prev? slot = none := by
    intro slot head
    refine Option.eq_none_iff_forall_ne_some.mpr fun other back => ?_
    -- A slot that led to the first one would be on the way, which would come to the first again.
    have leads := (strung.inverse other slot).mpr back
    have member : other ∈ path := (strung.mem_iff other).mpr (isSome_of_next? leads)
    have again := strung.walk.next?_mem_tail member leads
    have walk := strung.walk
    have once := strung.once
    rw [head] at walk
    cases walk
    exact (List.nodup_cons.mp once).1 again
  obtain ⟨chain, slots, first, linked⟩ :=
    strung.walk.linked (fun slot other => (strung.inverse slot other).mp) unentered
  refine ⟨chain, slots, first.symm, ?_, linked, slots ▸ strung.once⟩
  rw [Chain.last_eq_getLast?, Option.or_none, slots, strung.ends]

/-! The slots with the index and the free list. -/

/-- A map whose slots are accounted for, given those of its list. -/
structure Slab (lru : Lru K V) (path : List Nat) : Prop where
  strung : lru.Strung path
  free_nodup : lru.free.Nodup
  mem_free : ∀ slot, slot ∈ lru.free ↔ slot < lru.slots.size ∧ lru.node? slot = none
  index : ∀ key slot, lru.index[key]? = some slot ↔
    ∃ node, lru.node? slot = some node ∧ node.key == key
  slots_size : lru.slots.size = lru.size + lru.free.length
  slots_le : lru.slots.size ≤ lru.capacity

/-- Where an entry with such a key lies, in terms of the list and in terms of the slots. -/
theorem Linked.exists_tag_iff {before after : Option Nat} {chain : Chain K V}
    (linked : lru.Linked before chain after)
    (occupied : ∀ slot, slot ∈ chain.slots ↔ (lru.node? slot).isSome) {slot : Nat} {key : K} :
    (∃ stored, (slot, stored) ∈ chain.tags ∧ stored == key) ↔
      ∃ node, lru.node? slot = some node ∧ node.key == key := by
  constructor
  · rintro ⟨stored, member, equal⟩
    obtain ⟨⟨_, entry⟩, inChain, same⟩ := List.mem_map.mp member
    cases same
    obtain ⟨left, right, rfl⟩ := List.append_of_mem inChain
    exact ⟨_, (linked_append.mp linked).2.1, equal⟩
  · rintro ⟨node, found, equal⟩
    have member := (occupied slot).mpr (Option.isSome_of_eq_some found)
    obtain ⟨left, entry, right, rfl⟩ := Chain.split_of_mem_slots member
    cases found.symm.trans (linked_append.mp linked).2.1
    exact ⟨entry.key, by simp [Chain.tags], equal⟩

theorem Represents.slab {recency : Recency K V} {chain : Chain K V}
    (represents : lru.Represents recency chain) : lru.Slab chain.slots := by
  have indexed := represents.indexed
  have occupied : ∀ slot, slot ∈ chain.slots ↔ (lru.node? slot).isSome := by
    intro slot
    rw [indexed.occupied, Chain.map_fst_tags]
  constructor
  case strung => exact represents.threaded.strung occupied
  case free_nodup => exact indexed.free_nodup
  case mem_free => exact indexed.mem_free
  case index =>
    intro key slot
    exact (indexed.index key slot).trans (represents.threaded.linked.exists_tag_iff occupied)
  case slots_size => rw [indexed.slots_size, size, indexed.index_size]
  case slots_le => exact indexed.slots_le

namespace Slab

variable {path : List Nat}

theorem size_le (slab : lru.Slab path) : lru.size ≤ lru.capacity := by
  have size := slab.slots_size
  have le := slab.slots_le
  omega

theorem not_mem_of_vacant (slab : lru.Slab path) {slot : Nat} (vacant : lru.node? slot = none) :
    slot ∉ path := by
  rw [slab.strung.mem_iff, vacant]
  exact Bool.false_ne_true

/-- Every slot is on the list or free, and only once. -/
theorem perm_range (slab : lru.Slab path) :
    (path ++ lru.free).Perm (List.range lru.slots.size) := by
  have apart : ∀ slot ∈ path, ∀ other ∈ lru.free, slot ≠ other := by
    rintro slot onList _ vacant rfl
    exact slab.not_mem_of_vacant ((slab.mem_free slot).mp vacant).2 onList
  have nodup : (path ++ lru.free).Nodup :=
    List.nodup_append.mpr ⟨slab.strung.once, slab.free_nodup, apart⟩
  refine (List.perm_ext_iff_of_nodup nodup List.nodup_range).mpr fun slot => ?_
  rw [List.mem_append, List.mem_range, slab.strung.mem_iff, slab.mem_free]
  cases found : lru.node? slot with
  | none => simp
  | some node => simp [lt_size_of_node? found]

theorem length_eq (slab : lru.Slab path) : path.length = lru.size := by
  have length := slab.perm_range.length_eq
  have size := slab.slots_size
  rw [List.length_append, List.length_range] at length
  omega

theorem indexed [EquivBEq K] {chain : Chain K V} (slab : lru.Slab chain.slots)
    (threaded : lru.Threaded chain) : lru.Indexed chain.tags := by
  have index (key : K) (slot : Nat) := (slab.index key slot).trans
    (threaded.linked.exists_tag_iff slab.strung.mem_iff).symm
  have length : chain.tags.length = lru.size := by
    rw [← slab.length_eq, Chain.tags, Chain.slots, List.length_map, List.length_map]
  constructor
  case occupied =>
    intro slot
    rw [Chain.map_fst_tags, slab.strung.mem_iff]
  case free_nodup => exact slab.free_nodup
  case mem_free => exact slab.mem_free
  case keys =>
    have distinct := threaded.distinct
    rw [← Chain.map_fst_tags, List.Nodup, List.pairwise_map] at distinct
    refine distinct.imp_of_mem fun {tag other} member member' apart => ?_
    rw [Bool.eq_false_iff]
    intro equal
    have leads := (index other.2 tag.1).mpr ⟨tag.2, member, equal⟩
    have leads' := (index other.2 other.1).mpr ⟨other.2, member', BEq.rfl⟩
    exact apart (Option.some.inj (leads.symm.trans leads'))
  case index => exact index
  case index_size => exact length.symm
  case slots_size => rw [slab.slots_size, length]
  case slots_le => exact slab.slots_le

/-- A map whose slots are accounted for stands for the plain list of its entries. -/
theorem represents [EquivBEq K] (slab : lru.Slab path) :
    ∃ (chain : Chain K V) (recency : Recency K V),
      chain.slots = path ∧ lru.Represents recency chain := by
  obtain ⟨chain, rfl, threaded⟩ := slab.strung.threaded
  let recency : Recency K V :=
    { capacity := lru.capacity
      ttl := lru.ttl
      entries := chain.entries
      evictions := lru.evictions
      expirations := lru.expirations }
  exact ⟨chain, recency, rfl, threaded, slab.indexed threaded, rfl, rfl, rfl, rfl, rfl⟩

theorem keysByRecency [EquivBEq K] (slab : lru.Slab path) :
    ∃ keys, lru.keysByRecency = .ok keys ∧
      keys.map (fun key => lru.index[key]?) = path.map some := by
  obtain ⟨chain, recency, rfl, represents⟩ := slab.represents
  refine ⟨chain.entries.map Entry.key, represents.keysByRecency, ?_⟩
  rw [Chain.entries, Chain.slots, List.map_map, List.map_map, List.map_map]
  refine List.map_congr_left fun link member => ?_
  exact (represents.indexed.index link.2.key link.1).mpr
    ⟨link.2.key, List.mem_map_of_mem member, BEq.rfl⟩

end Slab

/-! The loop that makes room, with as many rounds as it takes. -/

/-- While there is no room for one more, the entry at the head is removed. -/
inductive Evicts : Lru K V → Lru K V → Prop where
  | done {lru : Lru K V} (room : ¬lru.capacity ≤ lru.size) : Evicts lru lru
  | round {lru removed roomy : Lru K V} {slot : Nat} {value : V} (full : lru.capacity ≤ lru.size)
      (head : lru.head = some slot) (removes : lru.removeAt slot = .ok (removed, value))
      (rest : Evicts { removed with evictions := removed.evictions + 1 } roomy) : Evicts lru roomy

/-- Where the bounded loop leaves room, the loop has ended by itself. -/
theorem Evicts.of_evict {roomy : Lru K V} {rounds : Nat} (evicts : lru.evict rounds = .ok roomy)
    (room : ¬roomy.capacity ≤ roomy.size) : lru.Evicts roomy := by
  induction rounds generalizing lru with
  | zero =>
      cases evicts
      exact .done room
  | succ rounds ih =>
      rw [evict] at evicts
      split at evicts
      · rename_i full
        cases head : lru.head with
        | none =>
            rw [head] at evicts
            cases evicts
        | some slot =>
            rw [head] at evicts
            cases removes : lru.removeAt slot with
            | error error =>
                simp only [removes, bind, Except.bind] at evicts
                cases evicts
            | ok removed =>
                simp only [removes, bind, Except.bind] at evicts
                exact .round full head removes (ih evicts)
      · cases evicts
        exact .done room

/-- An insertion under a new key. The loop ends; what it leaves is accounted for; and the entry is
given a slot that is not on the list, and no longer free. -/
structure Places (lru roomy placed inserted : Lru K V) (path : List Nat) (slot : Nat)
    (node : Node K V) : Prop where
  evicts : lru.Evicts roomy
  slab : roomy.Slab path
  alloc : roomy.alloc node = (placed, slot)
  allocated : Allocated roomy placed slot node
  unlisted : slot ∉ path
  taken : slot ∉ placed.free
  links : linkBack { placed with index := placed.index.insert node.key slot } slot = .ok inserted

variable [EquivBEq K] [LawfulHashable K]

theorem Slab.places {path : List Nat} (slab : lru.Slab path) (enabled : lru.capacity ≠ 0) {key : K}
    (absent : lru.index[key]? = none) (value : V) (now : Instant) :
    ∃ roomy placed inserted rest slot,
      lru.Places roomy placed inserted rest slot { key, value, inserted := now } ∧
        lru.insert key value now = .ok inserted ∧ inserted.Slab (rest ++ [slot]) := by
  obtain ⟨chain, recency, rfl, represents⟩ := slab.represents
  obtain ⟨roomy, kept, placed, slot, inserted, evicts, roomyRepresents, room, allocates, allocated,
    links, inserts, insertedRepresents⟩ := represents.insert_of_absent enabled absent value now
  have roomySlab := roomyRepresents.slab
  have insertedSlab := insertedRepresents.slab
  rw [Chain.slots, List.map_append] at insertedSlab
  refine ⟨roomy, placed, inserted, kept.slots, slot, ?_, inserts, insertedSlab⟩
  constructor
  case evicts =>
    refine .of_evict evicts ?_
    rw [← roomySlab.length_eq, Chain.slots, List.length_map]
    exact Nat.not_le_of_lt room
  case slab => exact roomySlab
  case alloc => exact allocates
  case allocated => exact allocated
  case unlisted => exact roomySlab.not_mem_of_vacant allocated.vacant
  case taken => exact allocated.not_mem_free
  case links => exact links

/-! What operations make of a map, one after the other. -/

theorem Slab.apply {path : List Nat} (slab : lru.Slab path) (operation : Operation K V) :
    ∃ lru' result path', lru.apply operation = .ok (lru', result) ∧
      lru'.capacity = lru.capacity ∧ lru'.Slab path' := by
  obtain ⟨chain, recency, -, represents⟩ := slab.represents
  obtain ⟨lru', applies, chain', represents'⟩ := apply_refines ⟨chain, represents⟩ operation
  refine ⟨lru', _, chain'.slots, applies, ?_, represents'.slab⟩
  rw [← represents'.capacity, Recency.capacity_apply, represents.capacity]

theorem Slab.run {path : List Nat} (slab : lru.Slab path) (operations : List (Operation K V)) :
    ∃ lru' path', lru.run operations = .ok lru' ∧ lru'.capacity = lru.capacity ∧
      lru'.Slab path' := by
  induction operations generalizing lru path with
  | nil => exact ⟨lru, path, rfl, rfl, slab⟩
  | cons operation operations ih =>
      obtain ⟨next, result, rest, applies, capacity, nextSlab⟩ := slab.apply operation
      obtain ⟨lru', path', runs, capacity', slab'⟩ := ih nextSlab
      refine ⟨lru', path', ?_, capacity'.trans capacity, slab'⟩
      rw [Lru.run, applies]
      exact runs

/-- Whatever is asked of a new map, at whatever times, nothing fails, and each slot is accounted for:
it is free, or on the list that leads from the head to the tail and back. There are no more slots
than the capacity allows. To walk the list ends, and so does to make room for a new entry, which is
then given a slot that no other has. -/
theorem run_slab (capacity : Nat) (ttl : Span) (operations : List (Operation K V)) :
    ∃ lru path, (new capacity ttl : Lru K V).run operations = .ok lru ∧ lru.capacity = capacity ∧
      lru.Slab path ∧ (path ++ lru.free).Perm (List.range lru.slots.size) ∧ lru.size ≤ capacity ∧
      (∃ keys, lru.keysByRecency = .ok keys ∧
        keys.map (fun key => lru.index[key]?) = path.map some) ∧
      ∀ key value now, capacity ≠ 0 → lru.index[key]? = none →
        ∃ roomy placed inserted rest slot,
          lru.Places roomy placed inserted rest slot { key, value, inserted := now } ∧
            lru.insert key value now = .ok inserted ∧ inserted.Slab (rest ++ [slot]) := by
  obtain ⟨chain, represents⟩ := new_refines (K := K) (V := V) capacity ttl
  obtain ⟨lru, path, runs, rfl, slab⟩ := represents.slab.run operations
  exact ⟨lru, path, runs, rfl, slab, slab.perm_range, slab.size_le, slab.keysByRecency,
    fun key value now enabled absent => slab.places enabled absent value now⟩

/-- The fourth entry takes the slot of the one that was removed, and the fifth evicts another. -/
def crowding : List (Operation Nat Nat) :=
  [.insert 0 10 ⟨0⟩, .insert 1 11 ⟨0⟩, .insert 2 12 ⟨0⟩, .remove 1, .insert 9 19 ⟨0⟩,
    .insert 7 17 ⟨0⟩]

theorem run_slab_crowding :
    ∃ lru, (new 3 (.ofSecs 60) : Lru Nat Nat).run crowding = .ok lru ∧
      lru.Slab [2, 1, 0] ∧ lru.free = [] ∧ lru.evictions = 1 ∧
      ∃ roomy placed inserted rest slot,
        lru.Places roomy placed inserted rest slot { key := 5, value := 15, inserted := ⟨0⟩ } ∧
          lru.insert 5 15 ⟨0⟩ = .ok inserted ∧ inserted.Slab (rest ++ [slot]) := by
  obtain ⟨lru, path, runs, -, slab, -, -, -, places⟩ := run_slab 3 (.ofSecs 60) crowding
  have reached : lru.Walk lru.head [2, 1, 0] ∧ lru.free = [] ∧ lru.evictions = 1 ∧
      lru.index[5]? = none := by
    simp [crowding, run, new, apply, insert, remove, removeAt, evict, alloc, linkBack, unlink,
      setSlot, modifyNode, setNext, setPrev, node, node?, size, Std.HashMap.size_insert,
      Std.HashMap.size_erase, Std.HashMap.getElem_insert, bind, Except.bind, pure,
      Except.pure] at runs
    subst runs
    exact ⟨.step rfl (.step rfl (.step rfl .stop)), rfl, rfl, by simp⟩
  obtain ⟨walk, free, evictions, absent⟩ := reached
  cases slab.strung.walk.unique walk
  exact ⟨lru, runs, slab, free, evictions, places 5 15 ⟨0⟩ (by decide) absent⟩

end Lru

end Roster.Cache
