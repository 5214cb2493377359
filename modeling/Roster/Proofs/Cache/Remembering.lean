import Mathlib.Logic.Function.Basic
import Roster.Cache.Memo
import Roster.Proofs.Cache.Contents

namespace Roster.Cache.Memo

/-! What a cache of fetched answers gives back is the answer that was kept last under the key, and it
gives it back no longer than the lifetime of its entries. -/

variable {K V : Type} [BEq K] [Hashable K]

/-- Each entry is what was kept last under its key, with the moment at which it was. -/
structure Faithful (memo : Memo K V) (latest? : K → Option (V × Instant)) : Prop where
  usable : memo.poisoned = false
  entries : memo.entries.Sound fun entry => latest? entry.key = some (entry.value, entry.inserted)

theorem look_of_usable {memo : Memo K V} (usable : memo.poisoned = false) {key : K} {now : Instant}
    {entries : Lru K V} {found : Option V} (gets : memo.entries.get key now = .ok (entries, found)) :
    (memo.look key now).2 = found ∧ (memo.look key now).1.entries = entries ∧
      (memo.look key now).1.poisoned = false := by
  rw [look, withEntries, usable, if_neg nofun, gets]
  cases found <;> exact ⟨rfl, rfl, rfl⟩

theorem look_new (name : String) (capacity : Nat) (ttl : Span) (key : K) (now : Instant) :
    (new name capacity ttl : Memo K V).look key now =
      ({ new name capacity ttl with counters := Counters.miss {} }, none) := by
  rw [look, withEntries, if_neg nofun]
  simp only [new, Lru.get, Lru.new, Std.HashMap.getElem?_empty]
  rfl

theorem keep_of_usable {memo : Memo K V} (usable : memo.poisoned = false) {key : K} {value : V}
    {now : Instant} {entries : Lru K V} (inserts : memo.entries.insert key value now = .ok entries) :
    (memo.keep key value now).entries = entries ∧ (memo.keep key value now).poisoned = false := by
  rw [keep, withEntries, usable, if_neg nofun, inserts]
  exact ⟨rfl, rfl⟩

namespace Faithful

variable {memo : Memo K V} {latest? : K → Option (V × Instant)}

theorem new (name : String) (capacity : Nat) (ttl : Span) (latest? : K → Option (V × Instant)) :
    (Memo.new name capacity ttl : Memo K V).Faithful latest? :=
  ⟨rfl, .new capacity ttl _⟩

variable [LawfulBEq K]

/-- What is found is the latest, and has not outlived the lifetime. -/
theorem look (faithful : memo.Faithful latest?) (key : K) (now : Instant) :
    (memo.look key now).1.Faithful latest? ∧
      (memo.look key now).1.entries.ttl = memo.entries.ttl ∧
      ∀ value, (memo.look key now).2 = some value →
        ∃ made, latest? key = some (value, made) ∧
          Instant.outlives memo.entries.ttl made now = false := by
  obtain ⟨entries, found, gets, sound, ttl, served, -⟩ := faithful.entries.get key now
  obtain ⟨found_eq, entries_eq, usable⟩ := look_of_usable faithful.usable gets
  refine ⟨⟨usable, entries_eq ▸ sound⟩, entries_eq ▸ ttl, fun value hit => ?_⟩
  obtain ⟨entry, latest, sameKey, rfl, fresh⟩ := served value (found_eq ▸ hit)
  exact ⟨entry.inserted, eq_of_beq sameKey ▸ latest, fresh⟩

/-- What was never kept is not found. -/
theorem look_of_none (faithful : memo.Faithful latest?) {key : K} (never : latest? key = none)
    (now : Instant) : (memo.look key now).2 = none := by
  refine Option.eq_none_iff_forall_ne_some.mpr fun value hit => ?_
  obtain ⟨made, latest, -⟩ := (faithful.look key now).2.2 value hit
  cases never.symm.trans latest

theorem keep [DecidableEq K] (faithful : memo.Faithful latest?) (key : K) (value : V)
    (now : Instant) :
    (memo.keep key value now).Faithful (Function.update latest? key (some (value, now))) ∧
      (memo.keep key value now).entries.ttl = memo.entries.ttl := by
  obtain ⟨entries, inserts, sound, ttl⟩ := faithful.entries.insert_apart key value now
  obtain ⟨entries_eq, usable⟩ := keep_of_usable faithful.usable inserts
  refine ⟨⟨usable, entries_eq ▸ sound.mono fun entry stands => ?_⟩, entries_eq ▸ ttl⟩
  rcases stands with ⟨latest, apart⟩ | ⟨sameKey, rfl, rfl⟩
  · rwa [Function.update_of_ne (ne_of_beq_false apart)]
  · rw [eq_of_beq sameKey, Function.update_self]

/-- A kept answer is found again while its lifetime lasts, if nothing comes between. -/
theorem look_keep (faithful : memo.Faithful latest?) (room : memo.entries.capacity ≠ 0) (key : K)
    (value : V) {made now : Instant}
    (fresh : Instant.outlives memo.entries.ttl made now = false) :
    ((memo.keep key value made).look key now).2 = some value := by
  obtain ⟨recency, refines, -⟩ := faithful.entries
  obtain ⟨entries, inserts, refines'⟩ := Lru.insert_refines refines key value made
  obtain ⟨entries', gets, -⟩ := Lru.get_refines refines' key now
  obtain ⟨chain, represents⟩ := refines
  obtain ⟨entries_eq, usable⟩ := keep_of_usable faithful.usable inserts
  rw [Recency.get_insert (represents.capacity ▸ room) represents.distinct_keys
    (represents.ttl ▸ fresh)] at gets
  exact (look_of_usable usable (entries_eq ▸ gets)).1

end Faithful

end Roster.Cache.Memo
