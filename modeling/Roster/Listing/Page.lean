import Roster.Character
import Roster.Listing.Query

namespace Roster.Listing

/-! One page of a listing: as the store answers it, and as it is served. -/

structure Slice where
  records : List Character
  total : Nat
  outOfRange : Bool
  deriving DecidableEq, Inhabited

namespace Slice

def ofRows (query : Query) (records : List Character) (total : Nat) : Slice where
  records := records
  total := total
  outOfRange := query.isOutOfRange total

end Slice

structure Page where
  page : UInt32
  size : UInt32
  total : Nat
  totalPages : Nat
  hasPrev : Bool
  hasNext : Bool
  records : List Character
  deriving DecidableEq, Inhabited

namespace Page

def ofSlice (query : Query) (slice : Slice) : Page where
  page := query.page
  size := query.size
  total := slice.total
  totalPages := query.totalPages slice.total
  hasPrev := decide (1 < query.page.toNat)
  hasNext := decide (query.page.toNat < query.totalPages slice.total)
  records := slice.records

end Page

end Roster.Listing
