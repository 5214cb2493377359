import Mathlib.Data.List.Induction
import Roster.Proofs.Cache.Containment
import Roster.Proofs.Cache.Remembering

namespace Roster.Cache

/-! What is done to a cache of answers, act by act, whoever does it. What it gives back was kept
earlier and since it was last emptied; what was kept is given back until its key is written again, it
is evicted, or the cache is emptied. -/

namespace Memo

inductive Act (K V : Type) where
  | look (key : K) (now : Instant)
  | keep (key : K) (value : V) (now : Instant)
  | clear
  | poison
  /-- A call looks something up and fails under the lock. -/
  | spoil
  | idle

namespace Act

variable {K V : Type}

def use : Act K V → Use
  | look _ _ => .lookUp
  | keep _ _ _ => .writeBack
  | clear => .clear
  | poison => .poison
  | spoil => .lookUp
  | idle => .none

def writes [BEq K] (act : Act K V) (key : K) : Bool :=
  match act with
  | keep other _ _ => other == key
  | _ => false

end Act

variable {K V : Type} [BEq K] [Hashable K]

def after (memo : Memo K V) : Act K V → Memo K V
  | .look key now => (memo.look key now).1
  | .keep key value now => memo.keep key value now
  | .clear => memo.clear
  | .poison => { memo with poisoned := true }
  | .spoil => memo.poison
  | .idle => memo

def through (memo : Memo K V) (acts : List (Act K V)) : Memo K V := acts.foldl after memo

def empties (memo : Memo K V) (act : Act K V) : Bool := memo.lock.empties act.use

/-- The entry under a key has to make room for another one. -/
structure Evicts (memo : Memo K V) (act : Act K V) (key : K) : Prop where
  counted : memo.stats.evictions < (memo.after act).stats.evictions
  held : (memo.entries.peek? key).isSome
  gone : (memo.after act).entries.peek? key = none

/-- How what is kept under a key can be lost before its lifetime is over. -/
inductive Loses (memo : Memo K V) (act : Act K V) (key : K) : Prop
  | emptied (empties : memo.empties act = true)
  | overwritten (writes : act.writes key = true)
  | evicted (evicts : memo.Evicts act key)

/-- None of these acts empties the cache. -/
def Lasts (memo : Memo K V) : List (Act K V) → Prop
  | [] => True
  | act :: rest => memo.empties act = false ∧ (memo.after act).Lasts rest

/-- What was kept under a key in the course of these acts, with nothing else kept under it since and
the cache not emptied. -/
structure Retains (memo : Memo K V) (acts : List (Act K V)) (key : K) (value : V)
    (stored : Instant) (before since : List (Act K V)) (own : K) : Prop where
  split : acts = before ++ .keep own value stored :: since
  equal : own == key
  lasts : (memo.through before).Lasts (.keep own value stored :: since)
  latest : ∀ act ∈ since, act.writes key = false

def Retained (memo : Memo K V) (acts : List (Act K V)) (key : K) (value : V) (stored : Instant) :
    Prop :=
  ∃ before since own, memo.Retains acts key value stored before since own

variable {memo origin : Memo K V} {act : Act K V} {acts : List (Act K V)} {key : K} {value : V}
  {stored now : Instant}

theorem through_append (memo : Memo K V) (acts later : List (Act K V)) :
    memo.through (acts ++ later) = (memo.through acts).through later :=
  List.foldl_append

theorem lasts_append {later : List (Act K V)} :
    memo.Lasts (acts ++ later) ↔ memo.Lasts acts ∧ (memo.through acts).Lasts later := by
  induction acts generalizing memo with
  | nil => simp [Lasts, through]
  | cons act rest ih => exact (and_congr_right fun _ => ih).trans and_assoc.symm

theorem Retained.extend (retained : memo.Retained acts key value stored)
    (lasts : (memo.through acts).empties act = false) (apart : act.writes key = false) :
    memo.Retained (acts ++ [act]) key value stored := by
  obtain ⟨before, since, own, rfl, equal, lasted, latest⟩ := retained
  refine ⟨before, since ++ [act], own, by simp, equal, ?_, ?_⟩
  · rw [← List.cons_append]
    refine lasts_append.mpr ⟨lasted, ?_, trivial⟩
    rwa [← through_append]
  · intro other member
    rcases List.mem_append.mp member with old | new
    · exact latest other old
    · rwa [List.mem_singleton.mp new]

theorem Retained.congr [EquivBEq K] {other : K} (retained : memo.Retained acts key value stored)
    (equal : key == other) : memo.Retained acts other value stored := by
  obtain ⟨before, since, own, split, same, lasts, latest⟩ := retained
  refine ⟨before, since, own, split, BEq.trans same equal, lasts, fun act member => ?_⟩
  have apart := latest act member
  cases act with
  | keep written => exact (BEq.congr_right equal).symm.trans apart
  | _ => rfl

theorem Retained.new (origin : Memo K V) (acts : List (Act K V)) {own : K} (equal : own == key)
    (lasts : (origin.through acts).empties (.keep own value stored) = false) :
    origin.Retained (acts ++ [.keep own value stored]) key value stored :=
  ⟨acts, [], own, rfl, equal, ⟨lasts, trivial⟩, fun _ member => absurd member List.not_mem_nil⟩

/-! What is found was kept. -/

section Provenance

variable {good : Entry K V → Prop}

theorem emptied_sound (sound : memo.entries.Sound good) (empties : memo.empties act = true)
    (better : Entry K V → Prop) : (memo.after act).entries.Sound better := by
  cases act with
  | clear => exact sound.clear better
  | poison | idle => cases empties
  | look key now =>
      rw [after, look_of_poisoned empties]
      exact sound.clear better
  | keep key value now =>
      rw [after, keep_of_poisoned empties]
      exact sound.clear better
  | spoil =>
      have poisoned : memo.poisoned = true := empties
      rw [after, poison, poisoned, if_pos rfl]
      exact sound.clear better

variable [EquivBEq K] [LawfulHashable K]

/-- An act that empties nothing keeps what is known of the entries, apart from what it writes. -/
theorem after_sound (sound : memo.entries.Sound good) (lasts : memo.empties act = false) :
    (memo.after act).entries.Sound fun entry => good entry ∧ act.writes entry.key = false ∨
      ∃ own, own == entry.key ∧ act = .keep own entry.value entry.inserted := by
  have same : memo.entries.Sound fun entry => good entry ∧ false = false ∨
      ∃ own, own == entry.key ∧ act = .keep own entry.value entry.inserted :=
    sound.mono fun entry holds => .inl ⟨holds, rfl⟩
  cases act with
  | clear => cases lasts
  | poison | idle => exact same
  | look key now =>
      have looked := look_looked same key now
      exact looked.entries_sound same
  | keep key value now =>
      have working : memo.poisoned = false := lasts
      obtain ⟨entries, inserts, sound', -⟩ := sound.insert_apart key value now
      rw [after, (keep_of_usable working inserts).1]
      refine sound'.mono fun entry stands => ?_
      rcases stands with ⟨holds, apart⟩ | ⟨equal, rfl, rfl⟩
      · exact .inl ⟨holds, (BEq.comm).trans apart⟩
      · exact .inr ⟨key, BEq.symm equal, rfl⟩
  | spoil =>
      have working : memo.poisoned = false := lasts
      rw [after, poison, working, if_neg Bool.false_ne_true]
      split <;> exact same

/-- Every entry was kept in the course of the acts, and the cache was not emptied since. -/
theorem entries_retained (empty : origin.entries.Sound fun _ => False) (acts : List (Act K V)) :
    (origin.through acts).entries.Sound fun entry =>
      origin.Retained acts entry.key entry.value entry.inserted := by
  induction acts using List.reverseRecOn with
  | nil => exact empty.mono fun _ => False.elim
  | append_singleton acts act ih =>
      rw [through_append]
      change ((origin.through acts).after act).entries.Sound _
      cases empties : (origin.through acts).empties act with
      | true => exact emptied_sound ih empties _
      | false =>
          refine (after_sound ih empties).mono fun entry stands => ?_
          rcases stands with ⟨retained, apart⟩ | ⟨own, equal, rfl⟩
          · exact retained.extend empties apart
          · exact .new origin acts equal empties

end Provenance

/-! What is kept is found. -/

section Persistence

variable [EquivBEq K] [LawfulHashable K] {recency : Recency K V}

theorem look_refines (working : memo.poisoned = false) (refines : memo.entries.Refines recency)
    (key : K) (now : Instant) :
    (memo.look key now).2 = (recency.get key now).2 ∧
      (memo.look key now).1.entries.Refines (recency.get key now).1 := by
  obtain ⟨entries, gets, refines'⟩ := Lru.get_refines refines key now
  obtain ⟨found, same, -⟩ := look_of_usable working gets
  exact ⟨found, same ▸ refines'⟩

theorem keep_refines (working : memo.poisoned = false) (refines : memo.entries.Refines recency)
    (key : K) (value : V) (now : Instant) :
    (memo.keep key value now).entries.Refines (recency.insert key value now) := by
  obtain ⟨entries, inserts, refines'⟩ := Lru.insert_refines refines key value now
  exact (keep_of_usable working inserts).1 ▸ refines'

/-- The entry under a key has this value and was stored at this instant. -/
def Finds (memo : Memo K V) (key : K) (value : V) (stored : Instant) : Prop :=
  ∃ recency entry, memo.entries.Refines recency ∧ recency.find? key = some entry ∧
    entry.value = value ∧ entry.inserted = stored

omit [LawfulHashable K] in
theorem Finds.congr {other : K} (finds : memo.Finds key value stored) (equal : key == other) :
    memo.Finds other value stored := by
  obtain ⟨recency, entry, refines, found, same⟩ := finds
  exact ⟨recency, entry, refines, (Recency.find?_congr equal).symm.trans found, same⟩

theorem Finds.look (finds : memo.Finds key value stored) (working : memo.poisoned = false)
    (fresh : Instant.outlives memo.entries.ttl stored now = false) :
    (memo.look key now).2 = some value := by
  obtain ⟨recency, entry, refines, found, rfl, rfl⟩ := finds
  rw [(look_refines working refines key now).1, Recency.get, found]
  simp only [Lru.Sound.ttl_eq refines, fresh, Bool.false_eq_true, if_false]

theorem finds_keep (sound : memo.entries.Sound fun _ => True) (working : memo.poisoned = false)
    (room : memo.entries.capacity ≠ 0) (key : K) (value : V) (stored : Instant) :
    (memo.keep key value stored).Finds key value stored := by
  obtain ⟨recency, refines, -⟩ := sound
  have found : ∃ own : K, (recency.insert key value stored).find? key = some ⟨own, value, stored⟩ := by
    obtain ⟨chain, represents⟩ := refines
    exact Recency.find?_insert (represents.capacity ▸ room) represents.distinct_keys
  obtain ⟨own, found⟩ := found
  exact ⟨_, _, keep_refines working refines key value stored, found, rfl, rfl⟩

/-- What is not lost in an act, and has not outlived its lifetime by then, is found afterwards. -/
theorem Finds.after (finds : memo.Finds key value stored) (kept : ¬memo.Loses act key)
    (fresh : ∀ other now, act = .look other now →
      Instant.outlives memo.entries.ttl stored now = false) :
    (memo.after act).Finds key value stored := by
  obtain ⟨recency, entry, refines, found, rfl, rfl⟩ := finds
  have distinct : recency.entries.Pairwise fun entry other => (entry.key == other.key) = false := by
    obtain ⟨chain, represents⟩ := refines
    exact represents.distinct_keys
  have same : memo.Finds key entry.value entry.inserted := ⟨recency, entry, refines, found, rfl, rfl⟩
  have usable (uses : memo.empties act = memo.poisoned) : memo.poisoned = false :=
    uses ▸ Bool.eq_false_iff.mpr fun empties => kept (.emptied empties)
  cases act with
  | clear => exact absurd (.emptied rfl) kept
  | poison | idle => exact same
  | spoil =>
      rw [Memo.after, poison, usable rfl, if_neg Bool.false_ne_true]
      split <;> exact same
  | look other now =>
      refine ⟨_, entry, (look_refines (usable rfl) refines other now).2, ?_, rfl, rfl⟩
      -- A look-up takes out what is too old, and only under the key that it asks for.
      cases equal : other == key with
      | false => exact (Recency.find?_get_of_ne equal).trans found
      | true =>
          rw [← Recency.find?_congr equal] at found ⊢
          exact Recency.find?_get_of_fresh distinct found
            (Lru.Sound.ttl_eq refines ▸ fresh other now rfl)
  | keep other written now =>
      have apart : (other == key) = false :=
        Bool.eq_false_iff.mpr fun writes => kept (.overwritten writes)
      have refines' := keep_refines (usable rfl) refines other written now
      have stands : _ ∨ recency.evictions < (recency.insert other written now).evictions ∧ _ :=
        Recency.find?_insert_of_ne apart distinct
      -- An insertion under another key may take the entry out, but counts it as evicted.
      rcases stands with stays | ⟨counted, gone⟩
      · exact ⟨_, entry, refines', stays.trans found, rfl, rfl⟩
      · refine absurd (.evicted ⟨?_, ?_, ?_⟩) kept
        · obtain ⟨chain, represents⟩ := refines
          obtain ⟨chain', represents'⟩ := refines'
          rw [represents.evictions, represents'.evictions] at counted
          exact counted
        · rw [Lru.peek?_eq refines, found]
          rfl
        · exact (Lru.peek?_eq refines' key).trans (by rw [gone]; rfl)

theorem after_refines (refines : memo.entries.Refines recency) (act : Act K V) :
    ∃ later, (memo.after act).entries.Refines later ∧ later.ttl = recency.ttl ∧
      later.capacity = recency.capacity := by
  have same : ∃ later, memo.entries.Refines later ∧ later.ttl = recency.ttl ∧
      later.capacity = recency.capacity := ⟨recency, refines, rfl, rfl⟩
  have emptied : ∃ later, memo.entries.clear.Refines later ∧ later.ttl = recency.ttl ∧
      later.capacity = recency.capacity := ⟨_, Lru.clear_refines refines, rfl, rfl⟩
  cases act with
  | clear => exact emptied
  | poison | idle => exact same
  | spoil =>
      rw [Memo.after, poison]
      split
      · exact emptied
      · split <;> exact same
  | look key now =>
      cases poisoned : memo.poisoned with
      | true =>
          rw [Memo.after, look_of_poisoned poisoned]
          exact emptied
      | false =>
          exact ⟨_, (look_refines poisoned refines key now).2, recency.ttl_get key now,
            recency.capacity_get key now⟩
  | keep key value now =>
      cases poisoned : memo.poisoned with
      | true =>
          rw [Memo.after, keep_of_poisoned poisoned]
          exact emptied
      | false =>
          exact ⟨_, keep_refines poisoned refines key value now, recency.ttl_insert key value now,
            recency.capacity_insert key value now⟩

theorem after_sound_any (sound : memo.entries.Sound fun _ => True) (act : Act K V) :
    (memo.after act).entries.Sound (fun _ => True) ∧
      (memo.after act).entries.ttl = memo.entries.ttl ∧
      (memo.after act).entries.capacity = memo.entries.capacity := by
  obtain ⟨recency, refines, -⟩ := sound
  obtain ⟨later, refines', ttl, capacity⟩ := after_refines refines act
  rw [Lru.Sound.ttl_eq refines, Lru.Sound.ttl_eq refines'] at ttl
  rw [Lru.Sound.capacity_eq refines, Lru.Sound.capacity_eq refines'] at capacity
  exact ⟨⟨later, refines', fun _ _ => trivial⟩, ttl, capacity⟩

theorem through_sound (sound : memo.entries.Sound fun _ => True) (acts : List (Act K V)) :
    (memo.through acts).entries.Sound (fun _ => True) ∧
      (memo.through acts).entries.ttl = memo.entries.ttl ∧
      (memo.through acts).entries.capacity = memo.entries.capacity := by
  induction acts generalizing memo with
  | nil => exact ⟨sound, rfl, rfl⟩
  | cons act rest ih =>
      obtain ⟨sound', ttl, capacity⟩ := after_sound_any sound act
      obtain ⟨sound'', ttl', capacity'⟩ := ih sound'
      exact ⟨sound'', ttl'.trans ttl, capacity'.trans capacity⟩

/-- What is found under a key is still found later, unless it is lost in between. -/
theorem Finds.through (finds : memo.Finds key value stored)
    (sound : memo.entries.Sound fun _ => True) (acts : List (Act K V)) {asked : Instant}
    (early : ∀ looked now, .look looked now ∈ acts → now.nanos ≤ asked.nanos)
    (fresh : asked.nanos ≤ stored.nanos + memo.entries.ttl.nanos) :
    ((memo.through acts).look key asked).2 = some value ∨
      ∃ before act since, acts ++ [.look key asked] = before ++ act :: since ∧
        (memo.through before).Loses act key := by
  have lasting {now : Instant} (within : now.nanos ≤ asked.nanos) :
      Instant.outlives memo.entries.ttl stored now = false := by
    rw [Bool.eq_false_iff, Ne, Instant.outlives_iff]
    omega
  induction acts generalizing memo with
  | nil =>
      cases poisoned : memo.poisoned with
      | true => exact .inr ⟨[], .look key asked, [], rfl, .emptied poisoned⟩
      | false => exact .inl (finds.look poisoned (lasting (Nat.le_refl _)))
  | cons act rest ih =>
      by_cases loses : memo.Loses act key
      · exact .inr ⟨[], act, rest ++ [.look key asked], rfl, loses⟩
      · have kept := finds.after loses fun looked now looks =>
          lasting (early looked now (looks ▸ List.mem_cons_self))
        obtain ⟨sound', ttl, -⟩ := after_sound_any sound act
        have later := ih kept sound'
          (fun looked now member => early looked now (List.mem_cons_of_mem act member))
          (ttl.symm ▸ fresh) (by rwa [ttl])
        rcases later with found | ⟨before, lost, since, split, loses⟩
        · exact .inl found
        · exact .inr ⟨act :: before, lost, since, congrArg (act :: ·) split, loses⟩

/-- What is found was kept, is not too old, and was neither kept anew nor emptied since. -/
theorem retained_of_look (empty : origin.entries.Sound fun _ => False) {acts : List (Act K V)}
    {asked : Instant} (found : ((origin.through acts).look key asked).2 = some value) :
    ∃ stored, origin.Retained acts key value stored ∧
      asked.nanos ≤ stored.nanos + origin.entries.ttl.nanos := by
  have looked := look_looked (entries_retained empty acts) key asked
  have ttl := (through_sound (empty.mono fun _ _ => trivial) acts).2.1
  generalize (origin.through acts).look key asked = result at looked found
  cases looked with
  | missed | reset => cases found
  | @hit entries entry working _ retained equal fresh =>
      cases found
      refine ⟨entry.inserted, retained.congr equal, ?_⟩
      rw [ttl, Bool.eq_false_iff, Ne, Instant.outlives_iff] at fresh
      omega

end Persistence

/-! Whoever uses a cache does something to it with each event, or nothing. -/

section Uses

variable {σ ε : Type} (step : σ → ε → σ) (act : σ → ε → Act K V)

def actsOf : σ → List ε → List (Act K V)
  | _, [] => []
  | state, event :: rest => act state event :: actsOf (step state event) rest

omit [BEq K] [Hashable K] in
theorem actsOf_append (state : σ) (events later : List ε) :
    actsOf step act state (events ++ later) =
      actsOf step act state events ++ actsOf step act (events.foldl step state) later := by
  induction events generalizing state with
  | nil => rfl
  | cons event rest ih => exact congrArg (_ :: ·) (ih (step state event))

omit [BEq K] [Hashable K] in
theorem actsOf_split {state : σ} {events : List ε} {before since : List (Act K V)} {done : Act K V}
    (split : actsOf step act state events = before ++ done :: since) :
    ∃ earlier event later, events = earlier ++ event :: later ∧
      actsOf step act state earlier = before ∧ act (earlier.foldl step state) event = done := by
  induction events generalizing state before with
  | nil => cases before <;> cases split
  | cons event rest ih =>
      cases before with
      | nil =>
          obtain ⟨same, -⟩ := List.cons.inj split
          exact ⟨[], event, rest, rfl, rfl, same⟩
      | cons first before =>
          obtain ⟨rfl, rest_split⟩ := List.cons.inj split
          obtain ⟨earlier, other, later, rfl, rfl, same⟩ := ih rest_split
          exact ⟨event :: earlier, other, later, rfl, rfl, same⟩

theorem through_actsOf (memo : σ → Memo K V)
    (follows : ∀ state event, memo (step state event) = (memo state).after (act state event))
    (state : σ) (events : List ε) :
    memo (events.foldl step state) = (memo state).through (actsOf step act state events) := by
  induction events generalizing state with
  | nil => rfl
  | cons event rest ih =>
      rw [List.foldl_cons, ih, follows]
      rfl

/-- What an event keeps under a usable lock is found by a later event that looks for it, unless it is
lost with one of those after the first, the last included. -/
theorem look_of_kept [EquivBEq K] [LawfulHashable K] (memo : σ → Memo K V)
    (follows : ∀ state event, memo (step state event) = (memo state).after (act state event))
    {state : σ} (sound : (memo state).entries.Sound fun _ => True) {event : ε} {own : K}
    (keeps : act state event = .keep own value stored) (working : (memo state).poisoned = false)
    (room : (memo state).entries.capacity ≠ 0) {key : K} (equal : own == key) {last : ε}
    {asked : Instant} (looks : ∀ state, act state last = .look key asked) (between : List ε)
    (early : ∀ looked now, .look looked now ∈ actsOf step act (step state event) between →
      now.nanos ≤ asked.nanos)
    (fresh : asked.nanos ≤ stored.nanos + (memo state).entries.ttl.nanos) :
    ((memo (between.foldl step (step state event))).look key asked).2 = some value ∨
      ∃ first other rest, between ++ [last] = first ++ other :: rest ∧
        (memo (first.foldl step (step state event))).Loses
          (act (first.foldl step (step state event)) other) key := by
  have kept := follows state event
  rw [keeps] at kept
  have finds : (memo (step state event)).Finds key value stored := by
    rw [kept]
    exact (finds_keep sound working room own value stored).congr equal
  obtain ⟨sound', ttl, -⟩ := after_sound_any sound (.keep own value stored)
  rw [← kept] at sound' ttl
  rw [through_actsOf step act memo follows]
  refine (finds.through sound' _ early (ttl.symm ▸ fresh)).imp_right ?_
  rintro ⟨before, done, since, split, loses⟩
  have whole : actsOf step act (step state event) (between ++ [last]) = before ++ done :: since := by
    rw [actsOf_append, ← split, actsOf, actsOf, looks]
  obtain ⟨first, other, rest, same, rfl, rfl⟩ := actsOf_split step act whole
  exact ⟨first, other, rest, same, by rwa [through_actsOf step act memo follows]⟩

end Uses

end Memo

end Roster.Cache
