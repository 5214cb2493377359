import Roster.Refresh.Cycle

namespace Roster.Refresh

/-! The worker runs a refresh cycle at every tick of a clock until it is told to stop. -/

/-- Ticks at a fixed distance. Ticks that were missed are left out: the ones that follow keep to
multiples of the period. -/
structure Ticker where
  next : Instant
  period : Span
  deriving DecidableEq

namespace Ticker

/-- A ticker whose first tick is one period away, unless the clock cannot hold that or the period is
empty. -/
def start (now : Instant) (period : Span) : Option Ticker :=
  if period = .zero then none else (now.after? period).map fun next => { next, period }

/-- How late a tick may be taken without counting as missed, in nanoseconds. -/
def tolerance : Nat := 5000000

def isDue (ticker : Ticker) (now : Instant) : Bool := decide (ticker.next ≤ now)

def take (ticker : Ticker) (now : Instant) : Ticker :=
  let period := ticker.period.nanos
  if ticker.next.nanos + tolerance < now.nanos then
    { ticker with next := ⟨now.nanos + period - now.since ticker.next % period⟩ }
  else { ticker with next := ⟨ticker.next.nanos + period⟩ }

end Ticker

/-- What the worker has been told: the last value, whether it has been read, and whether nothing
more can be said. -/
structure Signal where
  stop : Bool := false
  unread : Bool := false
  closed : Bool := false
  deriving DecidableEq, Inhabited

namespace Signal

def send (signal : Signal) (stop : Bool) : Signal := { signal with stop, unread := true }

def close (signal : Signal) : Signal := { signal with closed := true }

def isReady (signal : Signal) : Bool := signal.unread || signal.closed

/-- Reads the signal, and tells whether the worker has to stop. -/
def read (signal : Signal) : Signal × Bool :=
  ({ signal with unread := false }, !signal.unread || signal.stop)

end Signal

inductive Worker (L : Type) where
  | waiting (ticker : Ticker)
  | refreshing (ticker : Ticker) (cycle : Cycle L)
  | stopped

namespace Worker

variable {L : Type}

def start (now : Instant) (interval : Span) : Option (Worker L) :=
  (Ticker.start now interval).map waiting

/-- What a waiting worker can react to. If both are at hand it may choose either. -/
inductive Event where
  | signal
  | tick
  deriving DecidableEq

def ready (ticker : Ticker) (signal : Signal) (now : Instant) : List Event :=
  (if signal.isReady then [.signal] else []) ++ (if ticker.isDue now then [.tick] else [])

/-- Reacts to one of the events at hand. -/
def react (replica : Replica) (ticker : Ticker) (signal : Signal) (now : Instant) :
    Event → Replica × Signal × Worker L
  | .signal =>
    let (signal, stop) := signal.read
    (replica, signal, if stop then .stopped else .waiting ticker)
  | .tick =>
    let (replica, cycle) := Cycle.start replica .refresh
    (replica, signal, .refreshing (ticker.take now) cycle)

/-- Goes on after a step of the cycle that it runs. -/
def after (ticker : Ticker) : Cycle.Step L → Worker L
  | .await cycle => .refreshing ticker cycle
  | .ended _ => .waiting ticker

end Worker

end Roster.Refresh
