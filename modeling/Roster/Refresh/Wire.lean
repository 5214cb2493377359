import Roster.Json.Value
import Roster.Refresh.Outcome

namespace Roster.Refresh

/-! Outcomes and their counts as JSON. -/

namespace Outcome

def fields : Outcome → List (String × Json)
  | skipped => [("outcome", .str "skipped")]
  | completed completion =>
    [("outcome", .str "completed"), ("pages", .int completion.pages),
      ("fetched", .int completion.fetched), ("kept", .int completion.kept),
      ("upserted", .int completion.upserted), ("partial", .bool completion.cutShort)]
  | failed kind records =>
    [("outcome", .str "failed"), ("kind", .str kind), ("records_processed", .int records)]

def toJson (outcome : Outcome) : Json := .obj outcome.fields

end Outcome

def Tally.toJson (tally : Tally) : Json :=
  .obj [("cycles_completed", .int tally.completed), ("cycles_partial", .int tally.cutShort),
    ("cycles_skipped", .int tally.skipped), ("cycles_failed", .int tally.failed),
    ("records_upserted", .int tally.upserted)]

end Roster.Refresh
