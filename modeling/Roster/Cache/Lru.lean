import Roster.Cache.Error
import Roster.Time.Instant
import Std.Data.HashMap

namespace Roster.Cache

/-! A bounded map whose entries expire. Entries live in the slots of a slab and are threaded into a
list by the slots before and after them, from the least to the most recently used one; an index
leads from keys to slots. Vacant slots are used again. An expired entry is dropped by the look-up
that meets it.

A slot that should hold an entry and does not is an error, which no sequence of operations brings
about. -/

structure Node (K V : Type) where
  key : K
  value : V
  inserted : Instant
  prev : Option Nat := none
  next : Option Nat := none

structure Lru (K V : Type) [BEq K] [Hashable K] where
  capacity : Nat
  ttl : Span
  slots : Array (Option (Node K V)) := #[]
  free : List Nat := []
  index : Std.HashMap K Nat := ∅
  head : Option Nat := none
  tail : Option Nat := none
  evictions : Nat := 0
  expirations : Nat := 0

namespace Lru

variable {K V : Type} [BEq K] [Hashable K]

def new (capacity : Nat) (ttl : Span) : Lru K V := { capacity, ttl }

def size (lru : Lru K V) : Nat := lru.index.size

def isEmpty (lru : Lru K V) : Bool := lru.index.isEmpty

def dangling : CacheError := .corrupted "dangling slot index"

def node? (lru : Lru K V) (slot : Nat) : Option (Node K V) := lru.slots[slot]?.join

def node (lru : Lru K V) (slot : Nat) : Except CacheError (Node K V) :=
  match lru.node? slot with
  | some node => .ok node
  | none => .error dangling

def setSlot (lru : Lru K V) (slot : Nat) (content : Option (Node K V)) : Lru K V :=
  { lru with slots := lru.slots.setIfInBounds slot content }

def modifyNode (lru : Lru K V) (slot : Nat) (change : Node K V → Node K V) :
    Except CacheError (Lru K V) :=
  match lru.node? slot with
  | some node => .ok (lru.setSlot slot (some (change node)))
  | none => .error dangling

/-- Sets what follows a slot. What follows no slot is the head of the list. -/
def setNext (lru : Lru K V) (slot? next : Option Nat) : Except CacheError (Lru K V) :=
  match slot? with
  | some slot => lru.modifyNode slot fun node => { node with next }
  | none => .ok { lru with head := next }

/-- Sets what comes before a slot. What comes before no slot is the tail of the list. -/
def setPrev (lru : Lru K V) (slot? prev : Option Nat) : Except CacheError (Lru K V) :=
  match slot? with
  | some slot => lru.modifyNode slot fun node => { node with prev }
  | none => .ok { lru with tail := prev }

def unlink (lru : Lru K V) (slot : Nat) : Except CacheError (Lru K V) := do
  let node ← lru.node slot
  let lru ← lru.setNext node.prev node.next
  let lru ← lru.setPrev node.next node.prev
  lru.modifyNode slot fun node => { node with prev := none, next := none }

/-- Puts an entry that is not in the list at its end. -/
def linkBack (lru : Lru K V) (slot : Nat) : Except CacheError (Lru K V) := do
  let old := lru.tail
  let lru ← lru.modifyNode slot fun node => { node with prev := old, next := none }
  let lru ← lru.setNext old (some slot)
  return { lru with tail := some slot }

def moveToBack (lru : Lru K V) (slot : Nat) : Except CacheError (Lru K V) :=
  if lru.tail = some slot then .ok lru
  else do (← lru.unlink slot).linkBack slot

/-- Places an entry in a vacant slot, or else in a new one. -/
def alloc (lru : Lru K V) (node : Node K V) : Lru K V × Nat :=
  match lru.free with
  | slot :: free => ({ lru.setSlot slot (some node) with free }, slot)
  | [] => ({ lru with slots := lru.slots.push (some node) }, lru.slots.size)

def removeAt (lru : Lru K V) (slot : Nat) : Except CacheError (Lru K V × V) := do
  let lru ← lru.unlink slot
  match lru.node? slot with
  | some node =>
    return ({ lru.setSlot slot none with
      index := lru.index.erase node.key
      free := slot :: lru.free }, node.value)
  | none => throw (.corrupted "remove on vacant slot")

/-- A look-up counts as use. -/
def get (lru : Lru K V) (key : K) (now : Instant) :
    Except CacheError (Lru K V × Option V) := do
  match lru.index[key]? with
  | none => return (lru, none)
  | some slot =>
    let node ← lru.node slot
    if Instant.outlives lru.ttl node.inserted now then
      let (lru, _) ← lru.removeAt slot
      return ({ lru with expirations := lru.expirations + 1 }, none)
    else
      let lru ← lru.moveToBack slot
      return (lru, some (← lru.node slot).value)

/-- Removes least recently used entries until there is room for one more. -/
def evict (lru : Lru K V) : Nat → Except CacheError (Lru K V)
  | 0 => .ok lru
  | rounds + 1 =>
    if lru.capacity ≤ lru.size then
      match lru.head with
      | none => .error (.corrupted "index non-empty but recency list is empty")
      | some slot => do
        let (lru, _) ← lru.removeAt slot
        evict { lru with evictions := lru.evictions + 1 } rounds
    else .ok lru

/-- A value under a key that is there replaces the old one and starts a new lifetime. Nothing is
kept without capacity. -/
def insert (lru : Lru K V) (key : K) (value : V) (now : Instant) :
    Except CacheError (Lru K V) :=
  if lru.capacity = 0 then .ok lru
  else
    match lru.index[key]? with
    | some slot => do
      let lru ← lru.modifyNode slot fun node => { node with value, inserted := now }
      lru.moveToBack slot
    | none => do
      let lru ← lru.evict (lru.size + 1)
      let (lru, slot) := lru.alloc { key, value, inserted := now }
      linkBack { lru with index := lru.index.insert key slot } slot

def remove (lru : Lru K V) (key : K) : Except CacheError (Lru K V × Option V) :=
  match lru.index[key]? with
  | some slot => do
    let (lru, value) ← lru.removeAt slot
    return (lru, some value)
  | none => .ok (lru, none)

/-- Removes all entries; what was counted stays counted. -/
def clear (lru : Lru K V) : Lru K V :=
  { lru with slots := #[], free := [], index := ∅, head := none, tail := none }

/-- The keys from a slot to the end of the list. -/
def keysFrom (lru : Lru K V) : Nat → Option Nat → Except CacheError (List K)
  | _, none => .ok []
  | 0, some _ => .error (.corrupted "recency list longer than index")
  | rounds + 1, some slot => do
    let node ← lru.node slot
    return node.key :: (← lru.keysFrom rounds node.next)

def keysByRecency (lru : Lru K V) : Except CacheError (List K) :=
  lru.keysFrom (lru.size + 1) lru.head

end Lru

end Roster.Cache
