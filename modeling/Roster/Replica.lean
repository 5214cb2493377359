import Roster.Cache.Coalescing
import Roster.Freshness
import Roster.Listing.Page
import Roster.Refresh.Outcome
import Roster.Refresh.Policy
import Roster.Source.Client

namespace Roster

/-! One running instance of the service. Several may share a store. -/

/-- Pages of the listing, by the query that they answer. -/
abbrev PageCache := Cache.Coalescing Listing.Query Listing.Slice

structure Replica where
  client : Source.Client
  pages : PageCache
  freshness : Freshness
  policy : Refresh.PartialPolicy := .proceed
  phase : Refresh.Phase := .idle
  tally : Refresh.Tally := {}

end Roster
