import Mathlib.Data.List.Nodup
import Roster.Cache.Recency

namespace Roster.Cache

def Entry.node {K V : Type} (entry : Entry K V) (prev next : Option Nat) : Node K V where
  key := entry.key
  value := entry.value
  inserted := entry.inserted
  prev := prev
  next := next

/-! Entries with the slots that they lie in, in the order of the list that threads the slots. -/

abbrev Chain (K V : Type) := List (Nat × Entry K V)

namespace Chain

variable {K V : Type}

def slots (chain : Chain K V) : List Nat := chain.map Prod.fst

def entries (chain : Chain K V) : List (Entry K V) := chain.map Prod.snd

/-- The first slot of a chain, or what follows a chain without slots. -/
def first : Chain K V → Option Nat → Option Nat
  | [], after => after
  | (slot, _) :: _, _ => some slot

def last : Option Nat → Chain K V → Option Nat
  | before, [] => before
  | _, (slot, _) :: rest => last (some slot) rest

@[simp] theorem first_append (left right : Chain K V) (after : Option Nat) :
    first (left ++ right) after = first left (first right after) := by
  cases left <;> rfl

@[simp] theorem last_append (before : Option Nat) (left right : Chain K V) :
    last before (left ++ right) = last (last before left) right := by
  induction left generalizing before with
  | nil => rfl
  | cons link rest ih => exact ih (some link.1)

theorem last_mem_slots {chain : Chain K V} (filled : chain ≠ []) (before : Option Nat) :
    ∃ slot ∈ slots chain, last before chain = some slot := by
  induction chain generalizing before with
  | nil => exact absurd rfl filled
  | cons link rest ih =>
      cases rest with
      | nil => exact ⟨link.1, List.mem_cons_self, rfl⟩
      | cons next rest =>
          obtain ⟨slot, member, equation⟩ := ih (by simp) (some link.1)
          exact ⟨slot, List.mem_cons_of_mem _ member, equation⟩

end Chain

namespace Lru

variable {K V : Type} [BEq K] [Hashable K]

/-! What lies in a slot after one of them has been set. -/

theorem lt_size_of_node? {lru : Lru K V} {slot : Nat} {node : Node K V}
    (found : lru.node? slot = some node) : slot < lru.slots.size := by
  apply Decidable.byContradiction
  intro beyond
  simp [node?, Array.getElem?_eq_none (Nat.le_of_not_lt beyond)] at found

theorem node?_setSlot {lru : Lru K V} {slot : Nat} (inBounds : slot < lru.slots.size)
    (content : Option (Node K V)) (other : Nat) :
    (lru.setSlot slot content).node? other =
      if other = slot then content else lru.node? other := by
  simp only [node?, setSlot, Array.getElem?_setIfInBounds]
  by_cases same : other = slot
  · subst other
    simp [inBounds]
  · rw [if_neg same, if_neg (Ne.symm same)]

theorem modifyNode_of_node? {lru : Lru K V} {slot : Nat} {node : Node K V}
    (found : lru.node? slot = some node) (change : Node K V → Node K V) :
    lru.modifyNode slot change = .ok (lru.setSlot slot (some (change node))) := by
  simp only [modifyNode, found]

/-- Two maps that differ at most in the values, ages and links of their entries. -/
structure Frame (lru lru' : Lru K V) : Prop where
  capacity : lru'.capacity = lru.capacity
  ttl : lru'.ttl = lru.ttl
  free : lru'.free = lru.free
  index : lru'.index = lru.index
  evictions : lru'.evictions = lru.evictions
  expirations : lru'.expirations = lru.expirations
  slots_size : lru'.slots.size = lru.slots.size
  occupied : ∀ slot, (lru'.node? slot).isSome = (lru.node? slot).isSome

namespace Frame

theorem refl (lru : Lru K V) : Frame lru lru :=
  ⟨rfl, rfl, rfl, rfl, rfl, rfl, rfl, fun _ => rfl⟩

theorem trans {lru lru' lru'' : Lru K V} (left : Frame lru lru') (right : Frame lru' lru'') :
    Frame lru lru'' where
  capacity := right.capacity.trans left.capacity
  ttl := right.ttl.trans left.ttl
  free := right.free.trans left.free
  index := right.index.trans left.index
  evictions := right.evictions.trans left.evictions
  expirations := right.expirations.trans left.expirations
  slots_size := right.slots_size.trans left.slots_size
  occupied := fun slot => (right.occupied slot).trans (left.occupied slot)

theorem setHead (lru : Lru K V) (head : Option Nat) : Frame lru { lru with head } :=
  ⟨rfl, rfl, rfl, rfl, rfl, rfl, rfl, fun _ => rfl⟩

theorem setTail (lru : Lru K V) (tail : Option Nat) : Frame lru { lru with tail } :=
  ⟨rfl, rfl, rfl, rfl, rfl, rfl, rfl, fun _ => rfl⟩

theorem setSlot {lru : Lru K V} {slot : Nat} {node : Node K V}
    (found : lru.node? slot = some node) (content : Node K V) :
    Frame lru (lru.setSlot slot (some content)) where
  capacity := rfl
  ttl := rfl
  free := rfl
  index := rfl
  evictions := rfl
  expirations := rfl
  slots_size := by simp [Lru.setSlot]
  occupied := by
    intro other
    rw [node?_setSlot (lt_size_of_node? found)]
    split
    · rename_i same
      rw [same, found]
      rfl
    · rfl

end Frame

/-! A piece of the list: each entry lies in its slot, between the slots before and after it. -/

def Linked (lru : Lru K V) : Option Nat → Chain K V → Option Nat → Prop
  | _, [], _ => True
  | before, (slot, entry) :: rest, after =>
    lru.node? slot = some (entry.node before (Chain.first rest after)) ∧
      Linked lru (some slot) rest after

theorem linked_append {lru : Lru K V} {before after : Option Nat} {left right : Chain K V} :
    lru.Linked before (left ++ right) after ↔
      lru.Linked before left (right.first after) ∧ lru.Linked (left.last before) right after := by
  induction left generalizing before with
  | nil => simp [Linked, Chain.last]
  | cons link rest ih =>
      simp only [List.cons_append, Linked, Chain.first_append, Chain.last]
      rw [ih, and_assoc]

theorem Linked.node?_isSome {lru : Lru K V} {before after : Option Nat} {chain : Chain K V}
    (linked : lru.Linked before chain after) {slot : Nat} (member : slot ∈ chain.slots) :
    (lru.node? slot).isSome := by
  induction chain generalizing before with
  | nil => cases member
  | cons link rest ih =>
      rcases List.mem_cons.mp member with rfl | inRest
      · simp [linked.1]
      · exact ih linked.2 inRest

/-- A piece of the list depends on nothing but its own slots. -/
theorem Linked.congr {lru lru' : Lru K V} {before after : Option Nat} {chain : Chain K V}
    (linked : lru.Linked before chain after)
    (same : ∀ slot ∈ chain.slots, lru'.node? slot = lru.node? slot) :
    lru'.Linked before chain after := by
  induction chain generalizing before with
  | nil => trivial
  | cons link rest ih =>
      refine ⟨(same link.1 List.mem_cons_self).trans linked.1, ih linked.2 ?_⟩
      intro slot member
      exact same slot (List.mem_cons_of_mem _ member)

/-- What follows a piece that begins at the head can be set in the last of its slots, or as the
head if it has none. -/
theorem setNext_spec {lru : Lru K V} {chain : Chain K V} {after : Option Nat}
    (head : lru.head = chain.first after) (linked : lru.Linked none chain after)
    (distinct : chain.slots.Nodup) (next : Option Nat) :
    ∃ lru', lru.setNext (chain.last none) next = .ok lru' ∧ Frame lru lru' ∧
      lru'.head = chain.first next ∧ lru'.tail = lru.tail ∧ lru'.Linked none chain next ∧
      ∀ slot, slot ∉ chain.slots → lru'.node? slot = lru.node? slot := by
  rcases List.eq_nil_or_concat' chain with rfl | ⟨front, ⟨slot, entry⟩, rfl⟩
  · exact ⟨{ lru with head := next }, rfl, Frame.setHead lru next, rfl, rfl, trivial,
      fun _ _ => rfl⟩
  · rw [linked_append] at linked
    obtain ⟨frontLinked, found, -⟩ := linked
    have inBounds := lt_size_of_node? found
    have fresh : slot ∉ Chain.slots front := by
      simp only [Chain.slots, List.map_append, List.nodup_append] at distinct
      intro member
      exact distinct.2.2 slot member slot (by simp) rfl
    refine ⟨lru.setSlot slot (some (entry.node (Chain.last none front) next)), ?_,
      Frame.setSlot found _, ?_, rfl, ?_, ?_⟩
    · rw [Chain.last_append]
      exact modifyNode_of_node? found _
    · rw [Chain.first_append] at head ⊢
      exact head
    · rw [linked_append]
      refine ⟨frontLinked.congr ?_, ?_, trivial⟩
      · intro other member
        rw [node?_setSlot inBounds, if_neg]
        rintro rfl
        exact fresh member
      · rw [node?_setSlot inBounds, if_pos rfl]
        rfl
    · intro other outside
      rw [node?_setSlot inBounds, if_neg]
      rintro rfl
      exact outside (by simp [Chain.slots])

/-- What comes before a piece that ends at the tail can be set in the first of its slots, or as the
tail if it has none. -/
theorem setPrev_spec {lru : Lru K V} {chain : Chain K V} {before : Option Nat}
    (tail : lru.tail = chain.last before) (linked : lru.Linked before chain none)
    (distinct : chain.slots.Nodup) (prev : Option Nat) :
    ∃ lru', lru.setPrev (chain.first none) prev = .ok lru' ∧ Frame lru lru' ∧
      lru'.tail = chain.last prev ∧ lru'.head = lru.head ∧ lru'.Linked prev chain none ∧
      ∀ slot, slot ∉ chain.slots → lru'.node? slot = lru.node? slot := by
  cases chain with
  | nil =>
      exact ⟨{ lru with tail := prev }, rfl, Frame.setTail lru prev, rfl, rfl, trivial,
        fun _ _ => rfl⟩
  | cons link rest =>
      obtain ⟨slot, entry⟩ := link
      obtain ⟨found, restLinked⟩ := linked
      have inBounds := lt_size_of_node? found
      have fresh : slot ∉ Chain.slots rest := (List.nodup_cons.mp distinct).1
      refine ⟨lru.setSlot slot (some (entry.node prev (Chain.first rest none))),
        modifyNode_of_node? found _, Frame.setSlot found _, tail, rfl, ⟨?_, ?_⟩, ?_⟩
      · rw [node?_setSlot inBounds, if_pos rfl]
      · apply restLinked.congr
        intro other member
        rw [node?_setSlot inBounds, if_neg]
        rintro rfl
        exact fresh member
      · intro other outside
        rw [node?_setSlot inBounds, if_neg]
        rintro rfl
        exact outside List.mem_cons_self

/-! The whole list, from the head to the tail. -/

structure Threaded (lru : Lru K V) (chain : Chain K V) : Prop where
  head : lru.head = chain.first none
  tail : lru.tail = chain.last none
  linked : lru.Linked none chain none
  distinct : chain.slots.Nodup

theorem unlink_spec {lru : Lru K V} {left right : Chain K V} {slot : Nat} {entry : Entry K V}
    (threaded : lru.Threaded (left ++ (slot, entry) :: right)) :
    ∃ lru', lru.unlink slot = .ok lru' ∧ Frame lru lru' ∧ lru'.Threaded (left ++ right) ∧
      lru'.node? slot = some (entry.node none none) := by
  obtain ⟨head, tail, linked, distinct⟩ := threaded
  rw [linked_append] at linked
  obtain ⟨leftLinked, found, rightLinked⟩ := linked
  rw [Chain.first_append] at head
  rw [Chain.last_append] at tail
  simp only [Chain.slots, List.map_append, List.map_cons, List.nodup_append,
    List.nodup_cons] at distinct
  obtain ⟨leftDistinct, ⟨outsideRight, rightDistinct⟩, apart⟩ := distinct
  have outsideLeft : slot ∉ left.slots := fun member =>
    apart slot member slot List.mem_cons_self rfl
  obtain ⟨bridged, bridges, bridgedFrame, bridgedHead, bridgedTail, bridgedLeft, bridgedElse⟩ :=
    setNext_spec head leftLinked leftDistinct (right.first none)
  have bridgedRight : bridged.Linked (some slot) right none := by
    apply rightLinked.congr
    intro other member
    exact bridgedElse other fun inLeft =>
      apart other inLeft other (List.mem_cons_of_mem _ member) rfl
  have closedAt : bridged.tail = right.last (some slot) := bridgedTail.trans tail
  obtain ⟨closed, closes, closedFrame, closedTail, closedHead, closedRight, closedElse⟩ :=
    setPrev_spec closedAt bridgedRight rightDistinct (left.last none)
  have closedFound : closed.node? slot = some (entry.node (left.last none) (right.first none)) := by
    rw [closedElse slot outsideRight, bridgedElse slot outsideLeft]
    exact found
  have closedLeft : closed.Linked none left (right.first none) := by
    apply bridgedLeft.congr
    intro other member
    exact closedElse other fun inRight =>
      apart other member other (List.mem_cons_of_mem _ inRight) rfl
  have inBounds := lt_size_of_node? closedFound
  have kept : ∀ other, other ≠ slot →
      (closed.setSlot slot (some (entry.node none none))).node? other = closed.node? other := by
    intro other different
    rw [node?_setSlot inBounds, if_neg different]
  refine ⟨closed.setSlot slot (some (entry.node none none)), ?_,
    (bridgedFrame.trans closedFrame).trans (Frame.setSlot closedFound _), ⟨?_, ?_, ?_, ?_⟩, ?_⟩
  · calc
      lru.unlink slot
          = (do
              let lru ← lru.setNext (left.last none) (right.first none)
              let lru ← lru.setPrev (right.first none) (left.last none)
              lru.modifyNode slot fun node => { node with prev := none, next := none }) := by
            simp only [unlink, node, found]
            rfl
      _ = closed.modifyNode slot fun node => { node with prev := none, next := none } := by
            rw [bridges]
            change (bridged.setPrev _ _ >>= _) = _
            rw [closes]
            rfl
      _ = _ := modifyNode_of_node? closedFound _
  · rw [Chain.first_append]
    exact closedHead.trans bridgedHead
  · rw [Chain.last_append]
    exact closedTail
  · rw [linked_append]
    refine ⟨closedLeft.congr ?_, closedRight.congr ?_⟩
    · intro other member
      exact kept other (by rintro rfl; exact outsideLeft member)
    · intro other member
      exact kept other (by rintro rfl; exact outsideRight member)
  · simp only [Chain.slots, List.map_append, List.nodup_append]
    exact ⟨leftDistinct, rightDistinct, fun other inLeft another inRight =>
      apart other inLeft another (List.mem_cons_of_mem _ inRight)⟩
  · rw [node?_setSlot inBounds, if_pos rfl]

theorem linkBack_spec {lru : Lru K V} {chain : Chain K V} {slot : Nat} {entry : Entry K V}
    {prev next : Option Nat} (threaded : lru.Threaded chain) (outside : slot ∉ chain.slots)
    (found : lru.node? slot = some (entry.node prev next)) :
    ∃ lru', lru.linkBack slot = .ok lru' ∧ Frame lru lru' ∧
      lru'.Threaded (chain ++ [(slot, entry)]) := by
  obtain ⟨head, tail, linked, distinct⟩ := threaded
  have inBounds := lt_size_of_node? found
  let placed := lru.setSlot slot (some (entry.node lru.tail none))
  have placedFound : placed.node? slot = some (entry.node lru.tail none) := by
    rw [node?_setSlot inBounds, if_pos rfl]
  have placedLinked : placed.Linked none chain none := by
    apply linked.congr
    intro other member
    rw [node?_setSlot inBounds, if_neg]
    rintro rfl
    exact outside member
  have placedHead : placed.head = chain.first none := head
  obtain ⟨joined, joins, joinedFrame, joinedHead, -, joinedLinked, joinedElse⟩ :=
    setNext_spec placedHead placedLinked distinct (some slot)
  refine ⟨{ joined with tail := some slot }, ?_,
    ((Frame.setSlot found _).trans joinedFrame).trans (Frame.setTail joined _),
    ⟨?_, ?_, ?_, ?_⟩⟩
  · calc
      lru.linkBack slot
          = (do
              let lru ← placed.setNext lru.tail (some slot)
              return { lru with tail := some slot }) := by
            simp only [linkBack, modifyNode_of_node? found]
            rfl
      _ = .ok { joined with tail := some slot } := by
            rw [tail, joins]
            rfl
  · rw [Chain.first_append]
    exact joinedHead
  · rw [Chain.last_append]
    rfl
  · rw [linked_append]
    refine ⟨joinedLinked.congr fun _ _ => rfl, ?_, trivial⟩
    rw [← tail]
    exact (joinedElse slot outside).trans placedFound
  · simp only [Chain.slots, List.map_append, List.nodup_append]
    refine ⟨distinct, by simp, ?_⟩
    intro other member another single same
    cases List.mem_singleton.mp single
    subst same
    exact outside member

theorem moveToBack_spec {lru : Lru K V} {left right : Chain K V} {slot : Nat}
    {entry : Entry K V} (threaded : lru.Threaded (left ++ (slot, entry) :: right)) :
    ∃ lru', lru.moveToBack slot = .ok lru' ∧ Frame lru lru' ∧
      lru'.Threaded (left ++ right ++ [(slot, entry)]) := by
  have apart : slot ∉ left.slots ∧ slot ∉ right.slots := by
    have distinct := threaded.distinct
    simp only [Chain.slots, List.map_append, List.map_cons, List.nodup_append,
      List.nodup_cons] at distinct
    exact ⟨fun member => distinct.2.2 slot member slot List.mem_cons_self rfl, distinct.2.1.1⟩
  by_cases isLast : lru.tail = some slot
  · have nothingFollows : right = [] := by
      apply Decidable.byContradiction
      intro filled
      obtain ⟨other, member, equation⟩ := Chain.last_mem_slots filled (some slot)
      have tail := threaded.tail
      rw [Chain.last_append] at tail
      have same : other = slot := Option.some.inj (equation.symm.trans (tail.symm.trans isLast))
      exact apart.2 (same ▸ member)
    subst nothingFollows
    refine ⟨lru, if_pos isLast, Frame.refl lru, ?_⟩
    rw [List.append_nil]
    exact threaded
  · obtain ⟨taken, takes, takenFrame, takenThreaded, takenFound⟩ := unlink_spec threaded
    have outside : slot ∉ Chain.slots (left ++ right) := by
      simp only [Chain.slots, List.map_append, List.mem_append, not_or]
      exact apart
    obtain ⟨moved, moves, movedFrame, movedThreaded⟩ :=
      linkBack_spec takenThreaded outside takenFound
    refine ⟨moved, ?_, takenFrame.trans movedFrame, movedThreaded⟩
    rw [moveToBack, if_neg isLast, takes]
    exact moves

theorem keysFrom_spec {lru : Lru K V} {before : Option Nat} {chain : Chain K V} {rounds : Nat}
    (linked : lru.Linked before chain none) (enough : chain.length ≤ rounds) :
    lru.keysFrom rounds (chain.first none) = .ok (chain.entries.map Entry.key) := by
  induction chain generalizing before rounds with
  | nil => cases rounds <;> rfl
  | cons link rest ih =>
      obtain ⟨slot, entry⟩ := link
      cases rounds with
      | zero => cases enough
      | succ rounds =>
          have restKeys := ih linked.2 (Nat.le_of_succ_le_succ enough)
          simp only [Chain.first, keysFrom, node, linked.1]
          change (do return entry.key :: (← lru.keysFrom rounds (Chain.first rest none))) = _
          rw [restKeys]
          rfl

end Lru

end Roster.Cache
