import Roster.Character
import Roster.Source.Error

namespace Roster.Source

/-! A walk through the pages of a source, from the first to the one that has no successor. A page
is fetched only when it is asked for, and the first failure ends the walk. -/

structure Walk where
  /-- The page that comes next; none once the walk has ended. -/
  next : Option UInt32 := some 1
  deriving DecidableEq, Inhabited

namespace Walk

/-- Where a walk stands after the result for its next page. -/
def advance (walk : Walk) (result : Except SourceError SourcePage) : Walk :=
  match walk.next, result with
  | some number, .ok page => ⟨if page.hasNext then some (number + 1) else none⟩
  | _, _ => ⟨none⟩

def hasEnded (walk : Walk) : Bool := walk.next.isNone

end Walk

end Roster.Source
