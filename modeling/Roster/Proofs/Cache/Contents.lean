import Roster.Cache.Coalescing
import Roster.Proofs.Cache.Refinement

namespace Roster.Cache

/-! What the entries of a cache have in common, as far as operations keep it. -/

namespace Recency

variable {K V : Type} [BEq K] {recency : Recency K V}

theorem find?_eq_some {key : K} {entry : Entry K V} (found : recency.find? key = some entry) :
    entry ∈ recency.entries ∧ entry.key == key :=
  ⟨List.mem_of_find?_eq_some found,
    List.find?_some (p := fun entry : Entry K V => entry.key == key) found⟩

theorem mem_of_mem_without {key : K} {entry : Entry K V} (member : entry ∈ recency.without key) :
    entry ∈ recency.entries :=
  List.mem_of_mem_eraseP member

theorem mem_get {key : K} {now : Instant} {entry : Entry K V}
    (member : entry ∈ (recency.get key now).1.entries) : entry ∈ recency.entries := by
  rw [get] at member
  cases found : recency.find? key with
  | none => rwa [found] at member
  | some stored =>
      rw [found] at member
      dsimp only at member
      split at member
      · exact mem_of_mem_without member
      · rcases List.mem_append.mp member with other | last
        · exact mem_of_mem_without other
        · cases List.mem_singleton.mp last
          exact List.mem_of_find?_eq_some found

theorem get_eq_some {key : K} {now : Instant} {value : V}
    (found : (recency.get key now).2 = some value) :
    ∃ entry ∈ recency.entries, entry.key == key ∧ entry.value = value ∧
      Instant.outlives recency.ttl entry.inserted now = false := by
  rw [get] at found
  cases stored : recency.find? key with
  | none =>
      rw [stored] at found
      cases found
  | some entry =>
      rw [stored] at found
      dsimp only at found
      split at found
      · cases found
      · rename_i fresh
        obtain ⟨member, equal⟩ := find?_eq_some stored
        exact ⟨entry, member, equal, Option.some.inj found, Bool.not_eq_true _ ▸ fresh⟩

/-- An entry after an insertion was there before, or lies under an equal key and is new. -/
theorem mem_insert {key : K} {value : V} {now : Instant} {entry : Entry K V}
    (member : entry ∈ (recency.insert key value now).entries) (reflexive : (key == key) = true) :
    entry ∈ recency.entries ∨ ∃ stored, stored == key ∧ entry = ⟨stored, value, now⟩ := by
  rw [insert] at member
  split at member
  · exact .inl member
  · cases found : recency.find? key with
    | some stored =>
        rw [found] at member
        rcases List.mem_append.mp member with other | last
        · exact .inl (mem_of_mem_without other)
        · exact .inr ⟨stored.key, (find?_eq_some found).2, List.mem_singleton.mp last⟩
    | none =>
        rw [found] at member
        rcases List.mem_append.mp member with other | last
        · rw [makeRoom] at other
          split at other
          · exact .inl other
          · exact .inl (List.mem_of_mem_tail other)
        · exact .inr ⟨key, reflexive, List.mem_singleton.mp last⟩

theorem find?_without [EquivBEq K] (key : K)
    (distinct : recency.entries.Pairwise fun entry other => (entry.key == other.key) = false) :
    (recency.without key).find? (fun entry => entry.key == key) = none := by
  rw [without]
  generalize recency.entries = entries at distinct
  induction entries with
  | nil => rfl
  | cons entry rest ih =>
      obtain ⟨apart, restDistinct⟩ := List.pairwise_cons.mp distinct
      by_cases equal : entry.key == key
      · rw [List.eraseP_cons_of_pos (p := fun entry : Entry K V => entry.key == key) equal,
          List.find?_eq_none]
        intro other member otherEqual
        have differs := apart other member
        rw [BEq.trans equal (BEq.symm otherEqual)] at differs
        cases differs
      · rw [List.eraseP_cons_of_neg (p := fun entry : Entry K V => entry.key == key) equal,
          List.find?_cons_of_neg (p := fun entry : Entry K V => entry.key == key) equal]
        exact ih restDistinct

theorem ttl_get (recency : Recency K V) (key : K) (now : Instant) :
    (recency.get key now).1.ttl = recency.ttl := by
  rw [get]
  split
  · rfl
  · split <;> rfl

theorem ttl_insert (recency : Recency K V) (key : K) (value : V) (now : Instant) :
    (recency.insert key value now).ttl = recency.ttl := by
  rw [insert]
  split
  · rfl
  · split
    · rfl
    · rw [makeRoom]
      split <;> rfl

theorem capacity_get (recency : Recency K V) (key : K) (now : Instant) :
    (recency.get key now).1.capacity = recency.capacity := by
  rw [get]
  split
  · rfl
  · split <;> rfl

theorem capacity_insert (recency : Recency K V) (key : K) (value : V) (now : Instant) :
    (recency.insert key value now).capacity = recency.capacity := by
  rw [insert]
  split
  · rfl
  · split
    · rfl
    · rw [makeRoom]
      split <;> rfl

/-- An insertion leaves nothing under its key but what it brings. -/
theorem mem_insert_apart [EquivBEq K] {key : K} {value : V} {now : Instant} {entry : Entry K V}
    (bounded : recency.entries.length ≤ recency.capacity)
    (distinct : recency.entries.Pairwise fun entry other => (entry.key == other.key) = false)
    (member : entry ∈ (recency.insert key value now).entries) :
    entry ∈ recency.entries ∧ (entry.key == key) = false ∨
      entry.key == key ∧ entry.value = value ∧ entry.inserted = now := by
  rw [insert] at member
  split at member
  · rename_i full
    rw [full, Nat.le_zero, List.length_eq_zero_iff] at bounded
    rw [bounded] at member
    cases member
  · cases found : recency.find? key with
    | some stored =>
        rw [found] at member
        rcases List.mem_append.mp member with other | last
        · have apart := List.find?_eq_none.mp (find?_without key distinct) entry other
          exact .inl ⟨mem_of_mem_without other, Bool.not_eq_true _ ▸ apart⟩
        · rw [List.mem_singleton.mp last]
          exact .inr ⟨(find?_eq_some found).2, rfl, rfl⟩
    | none =>
        rw [found] at member
        rcases List.mem_append.mp member with other | last
        · have old : entry ∈ recency.entries := by
            rw [makeRoom] at other
            split at other
            · exact other
            · exact List.mem_of_mem_tail other
          exact .inl ⟨old, Bool.not_eq_true _ ▸ List.find?_eq_none.mp found entry old⟩
        · rw [List.mem_singleton.mp last]
          exact .inr ⟨BEq.rfl, rfl, rfl⟩

theorem find?_insert [EquivBEq K] {key : K} {value : V} {made : Instant}
    (room : recency.capacity ≠ 0)
    (distinct : recency.entries.Pairwise fun entry other => (entry.key == other.key) = false) :
    ∃ stored : K, (recency.insert key value made).find? key = some ⟨stored, value, made⟩ := by
  rw [insert, if_neg room]
  cases found : recency.find? key with
  | some stored =>
      refine ⟨stored.key, ?_⟩
      rw [find?, List.find?_append, find?_without key distinct, Option.none_or]
      exact List.find?_cons_of_pos (p := fun entry : Entry K V => entry.key == key)
        (find?_eq_some found).2
  | none =>
      refine ⟨key, ?_⟩
      rw [find?, List.find?_append]
      have unknown : recency.makeRoom.entries.find? (fun entry => entry.key == key) = none :=
        find?_makeRoom found
      rw [unknown, Option.none_or]
      exact List.find?_cons_of_pos (p := fun entry : Entry K V => entry.key == key) BEq.rfl

/-- What was inserted is found until its lifetime is over. -/
theorem get_insert [EquivBEq K] {key : K} {value : V} {made now : Instant}
    (room : recency.capacity ≠ 0)
    (distinct : recency.entries.Pairwise fun entry other => (entry.key == other.key) = false)
    (fresh : Instant.outlives recency.ttl made now = false) :
    ((recency.insert key value made).get key now).2 = some value := by
  have found : ∃ stored : K,
      (recency.insert key value made).find? key = some ⟨stored, value, made⟩ :=
    find?_insert room distinct
  obtain ⟨stored, found⟩ := found
  have ttl := ttl_insert recency key value made
  rw [get, found]
  simp only [ttl, fresh, Bool.false_eq_true, if_false]

theorem find?_get_of_none [EquivBEq K] {key : K} {now : Instant}
    (distinct : recency.entries.Pairwise fun entry other => (entry.key == other.key) = false)
    (missed : (recency.get key now).2 = none) : (recency.get key now).1.find? key = none := by
  rw [get] at missed ⊢
  cases stored : recency.find? key with
  | none => exact stored
  | some entry =>
      rw [stored] at missed
      dsimp only at missed ⊢
      split at missed
      · rename_i expired
        rw [if_pos expired]
        exact find?_without key distinct
      · cases missed

/-! What becomes of an entry when other keys are looked up or inserted. -/

section Others

variable [EquivBEq K] {key other : K} {value : V} {now : Instant} {entry : Entry K V}

theorem find?_congr (equal : key == other) : recency.find? key = recency.find? other := by
  rw [find?, find?]
  congr 1
  funext entry
  exact BEq.congr_right equal

theorem find?_without_of_ne (apart : (key == other) = false) :
    (recency.without key).find? (fun entry => entry.key == other) = recency.find? other := by
  rw [without, find?]
  generalize recency.entries = entries
  induction entries with
  | nil => rfl
  | cons entry rest ih =>
      by_cases equal : entry.key == key
      · rw [List.eraseP_cons_of_pos (p := fun entry : Entry K V => entry.key == key) equal,
          List.find?_cons, (BEq.congr_left equal).trans apart]
      · rw [List.eraseP_cons_of_neg (p := fun entry : Entry K V => entry.key == key) equal,
          List.find?_cons, List.find?_cons, ih]

theorem find?_concat_of_ne (apart : (key == other) = false) (equal : entry.key == key)
    (entries : List (Entry K V)) :
    (entries ++ [entry]).find? (fun entry => entry.key == other) =
      entries.find? fun entry => entry.key == other := by
  have different : ¬(entry.key == other) = true := by
    rw [(BEq.congr_left equal).trans apart]
    exact Bool.false_ne_true
  rw [List.find?_append,
    List.find?_cons_of_neg (p := fun entry : Entry K V => entry.key == other) different,
    List.find?_nil, Option.or_none]

/-- A look-up that serves an entry leaves it where it finds it again. -/
theorem find?_get_of_fresh
    (distinct : recency.entries.Pairwise fun entry other => (entry.key == other.key) = false)
    (found : recency.find? key = some entry)
    (fresh : Instant.outlives recency.ttl entry.inserted now = false) :
    (recency.get key now).1.find? key = some entry := by
  rw [get, found]
  simp only [fresh, Bool.false_eq_true, if_false]
  rw [find?, List.find?_append, find?_without key distinct, Option.none_or]
  exact List.find?_cons_of_pos (p := fun entry : Entry K V => entry.key == key)
    (find?_eq_some found).2

theorem find?_get_of_ne (apart : (key == other) = false) :
    (recency.get key now).1.find? other = recency.find? other := by
  rw [get]
  cases found : recency.find? key with
  | none => rfl
  | some entry =>
      dsimp only
      split
      · exact find?_without_of_ne apart
      · rw [find?, find?_concat_of_ne apart (find?_eq_some found).2, find?_without_of_ne apart]

/-- An insertion under another key leaves an entry as it is, or evicts it. -/
theorem find?_insert_of_ne (apart : (key == other) = false)
    (distinct : recency.entries.Pairwise fun entry other => (entry.key == other.key) = false) :
    (recency.insert key value now).find? other = recency.find? other ∨
      recency.evictions < (recency.insert key value now).evictions ∧
        (recency.insert key value now).find? other = none := by
  rw [insert]
  split
  · exact .inl rfl
  · cases found : recency.find? key with
    | some stored =>
        have equal : ({ stored with value, inserted := now } : Entry K V).key == key :=
          (find?_eq_some found).2
        refine .inl ?_
        dsimp only
        rw [find?, find?_concat_of_ne apart equal, find?_without_of_ne apart]
    | none =>
        have equal : (Entry.mk key value now).key == key := BEq.rfl
        dsimp only
        rw [find?, find?_concat_of_ne apart equal, makeRoom]
        split
        · exact .inl rfl
        · cases stands : recency.entries with
          | nil =>
              refine .inl ?_
              rw [find?, stands]
              rfl
          | cons front rest =>
              by_cases evicted : front.key == other
              · refine .inr ⟨Nat.lt_succ_self _, List.find?_eq_none.mpr fun entry member equal => ?_⟩
                rw [stands] at distinct
                have differs := (List.pairwise_cons.mp distinct).1 entry member
                rw [BEq.trans evicted (BEq.symm equal)] at differs
                cases differs
              · refine .inl ?_
                rw [find?, stands,
                  List.find?_cons_of_neg (p := fun entry : Entry K V => entry.key == other) evicted]
                rfl

end Others

end Recency

namespace Lru

variable {K V : Type} [BEq K] [Hashable K]

theorem get_of_empty {lru : Lru K V} (empty : lru.index = ∅) (key : K) (now : Instant) :
    lru.get key now = .ok (lru, none) := by
  rw [get, empty, Std.HashMap.getElem?_empty]
  rfl

def peek? (lru : Lru K V) (key : K) : Option V := do
  let slot ← lru.index[key]?
  let node ← lru.node? slot
  return node.value

theorem peek?_eq [EquivBEq K] {lru : Lru K V} {recency : Recency K V}
    (refines : lru.Refines recency) (key : K) :
    lru.peek? key = (recency.find? key).map Entry.value := by
  obtain ⟨chain, represents⟩ := refines
  rw [peek?]
  cases present : lru.index[key]? with
  | none =>
      rw [represents.find?_of_absent present]
      rfl
  | some slot =>
      obtain ⟨left, entry, right, rfl, found, -⟩ := represents.split_of_present present
      have occupied := (linked_append.mp represents.threaded.linked).2.1
      rw [found]
      simp only [Option.bind_eq_bind, Option.bind_some, occupied, Option.map_some]
      rfl

def Sound (lru : Lru K V) (good : Entry K V → Prop) : Prop :=
  ∃ recency, lru.Refines recency ∧ ∀ entry ∈ recency.entries, good entry

namespace Sound

variable {lru : Lru K V} {good : Entry K V → Prop}

theorem ttl_eq {recency : Recency K V} (refines : lru.Refines recency) :
    recency.ttl = lru.ttl := by
  obtain ⟨chain, represents⟩ := refines
  exact represents.ttl

theorem capacity_eq {recency : Recency K V} (refines : lru.Refines recency) :
    recency.capacity = lru.capacity := by
  obtain ⟨chain, represents⟩ := refines
  exact represents.capacity

theorem new (capacity : Nat) (ttl : Span) (good : Entry K V → Prop) :
    (Lru.new capacity ttl : Lru K V).Sound good :=
  ⟨.new capacity ttl, new_refines capacity ttl, by simp [Recency.new]⟩

theorem mono (sound : lru.Sound good) {better : Entry K V → Prop}
    (improves : ∀ entry, good entry → better entry) : lru.Sound better := by
  obtain ⟨recency, refines, all⟩ := sound
  exact ⟨recency, refines, fun entry member => improves entry (all entry member)⟩

/-- Of an empty map everything holds. -/
theorem clear (sound : lru.Sound good) (better : Entry K V → Prop) : lru.clear.Sound better := by
  obtain ⟨recency, refines, -⟩ := sound
  exact ⟨recency.clear, clear_refines refines, by simp [Recency.clear]⟩

variable [EquivBEq K] [LawfulHashable K]

/-- A look-up serves an entry that has not outlived the map's lifetime. When it misses, no entry is
left under its key. -/
theorem get (sound : lru.Sound good) (key : K) (now : Instant) :
    ∃ lru' found, lru.get key now = .ok (lru', found) ∧ lru'.Sound good ∧ lru'.ttl = lru.ttl ∧
      (∀ value, found = some value →
        ∃ entry, good entry ∧ entry.key == key ∧ entry.value = value ∧
          Instant.outlives lru.ttl entry.inserted now = false) ∧
      (found = none → (lru'.Sound fun entry => good entry ∧ (entry.key == key) = false) ∧
        lru'.get key now = .ok (lru', none)) := by
  obtain ⟨recency, refines, all⟩ := sound
  obtain ⟨lru', gets, refines'⟩ := get_refines refines key now
  have kept : ∀ entry ∈ (recency.get key now).1.entries, good entry :=
    fun entry member => all entry (Recency.mem_get member)
  have ttl := ttl_eq refines
  refine ⟨lru', _, gets, ⟨_, refines', kept⟩, ?_, ?_, ?_⟩
  · rw [← ttl_eq refines', Recency.ttl_get, ttl]
  · intro value found
    obtain ⟨entry, member, sameKey, sameValue, fresh⟩ := Recency.get_eq_some found
    exact ⟨entry, all entry member, sameKey, sameValue, ttl ▸ fresh⟩
  · intro missed
    obtain ⟨chain, represents⟩ := refines
    have unknown := Recency.find?_get_of_none represents.distinct_keys missed
    refine ⟨⟨_, refines', fun entry member => ⟨kept entry member, ?_⟩⟩, ?_⟩
    · exact Bool.not_eq_true _ ▸ List.find?_eq_none.mp unknown entry member
    · obtain ⟨chain', represents'⟩ := refines'
      rw [Lru.get, represents'.absent_of_find? unknown]
      rfl

theorem insert (sound : lru.Sound good) {key : K} {value : V} {now : Instant}
    (safe : ∀ stored, stored == key → good ⟨stored, value, now⟩) :
    ∃ lru', lru.insert key value now = .ok lru' ∧ lru'.Sound good ∧ lru'.ttl = lru.ttl := by
  obtain ⟨recency, refines, all⟩ := sound
  obtain ⟨lru', inserts, refines'⟩ := insert_refines refines key value now
  have ttl : lru'.ttl = lru.ttl := by
    rw [← ttl_eq refines', Recency.ttl_insert, ttl_eq refines]
  refine ⟨lru', inserts, ⟨_, refines', ?_⟩, ttl⟩
  intro entry member
  rcases Recency.mem_insert member BEq.rfl with old | ⟨stored, equal, rfl⟩
  · exact all entry old
  · exact safe stored equal

/-- After an insertion its key has the new value, whatever held of the entry before. -/
theorem insert_apart (sound : lru.Sound good) (key : K) (value : V) (now : Instant) :
    ∃ lru', lru.insert key value now = .ok lru' ∧
      lru'.Sound (fun entry => good entry ∧ (entry.key == key) = false ∨
        entry.key == key ∧ entry.value = value ∧ entry.inserted = now) ∧ lru'.ttl = lru.ttl := by
  obtain ⟨recency, refines, all⟩ := sound
  obtain ⟨lru', inserts, refines'⟩ := insert_refines refines key value now
  have ttl : lru'.ttl = lru.ttl := by
    rw [← ttl_eq refines', Recency.ttl_insert, ttl_eq refines]
  obtain ⟨chain, represents⟩ := refines
  refine ⟨lru', inserts, ⟨_, refines', fun entry member => ?_⟩, ttl⟩
  rcases Recency.mem_insert_apart represents.length_le represents.distinct_keys member with
    ⟨old, apart⟩ | new
  · exact .inl ⟨all entry old, apart⟩
  · exact .inr new

omit [LawfulHashable K] in
theorem peek? (sound : lru.Sound good) {key : K} {value : V} (kept : lru.peek? key = some value) :
    ∃ entry, good entry ∧ entry.key == key ∧ entry.value = value := by
  obtain ⟨recency, ⟨chain, represents⟩, all⟩ := sound
  simp only [Lru.peek?, Option.bind_eq_bind, Option.bind_eq_some_iff, Option.pure_def,
    Option.some.injEq] at kept
  obtain ⟨slot, present, node, occupied, rfl⟩ := kept
  obtain ⟨left, entry, right, rfl, found, -⟩ := represents.split_of_present present
  have node_eq := (linked_append.mp represents.threaded.linked).2.1
  rw [occupied] at node_eq
  cases node_eq
  obtain ⟨member, equal⟩ := Recency.find?_eq_some found
  exact ⟨entry, all entry member, equal, rfl⟩

end Sound

end Lru

end Roster.Cache
