import Roster.Source.Client

namespace Roster.Source.Client

/-! What a client has counted, as JSON. -/

def fields (client : Client) : List (String × Json) :=
  let memo := client.memo.stats
  [("calls", .int client.tally.calls), ("retries", .int client.tally.retries),
    ("failures", .int client.tally.failures), ("cache_hits", .int memo.hits),
    ("cache", memo.toJson)]

def toJson (client : Client) : Json := .obj client.fields

end Roster.Source.Client
