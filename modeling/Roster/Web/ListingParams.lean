import Roster.Listing.Wire
import Roster.Problem
import Roster.Text.FormEncoded
import Roster.Text.Numeral

namespace Roster.Web

/-! The parameters of a listing, read from the query of a request. The first pair that cannot be
taken is what the client is told of. -/

namespace ListingParams

inductive ParamError where
  | duplicate (field : String)
  | numeral (error : Text.NumeralError)
  deriving DecidableEq

def ParamError.message : ParamError → String
  | duplicate field => "duplicate field `" ++ field ++ "`"
  | numeral error => error.message

structure Given where
  sort : Option String := none
  order : Option String := none
  page : Option UInt32 := none
  size : Option UInt32 := none
  deriving DecidableEq, Inhabited

def number (text : String) : Except ParamError UInt32 :=
  match Text.numeral UInt32.size text with
  | .ok n => .ok (UInt32.ofNat n)
  | .error error => .error (.numeral error)

/-- Takes a pair; names that mean nothing are passed over. -/
def Given.take (given : Given) : String × String → Except ParamError Given
  | ("sort", value) =>
    if given.sort.isSome then .error (.duplicate "sort")
    else .ok { given with sort := some value }
  | ("order", value) =>
    if given.order.isSome then .error (.duplicate "order")
    else .ok { given with order := some value }
  | ("page", value) =>
    if given.page.isSome then .error (.duplicate "page")
    else (number value).map fun n => { given with page := some n }
  | ("page_size", value) =>
    if given.size.isSome then .error (.duplicate "page_size")
    else (number value).map fun n => { given with size := some n }
  | _ => .ok given

def Given.toParams (given : Given) : Listing.Params :=
  let absent : Listing.Params := {}
  { sort := given.sort.getD absent.sort
    order := given.order.getD absent.order
    page := given.page.getD absent.page
    size := given.size.getD absent.size }

def parse (query : String) : Except ParamError Listing.Params :=
  ((Text.FormEncoded.parse query).foldlM Given.take {}).map Given.toParams

end ListingParams

/-- The query that a request for a listing asks for. -/
def listingQuery (query : Option String) : Except Problem Listing.Query :=
  match ListingParams.parse (query.getD "") with
  | .error error =>
    .error (.invalidQuery ("Failed to deserialize query string: " ++ error.message))
  | .ok params =>
    match params.toQuery with
    | .error error => .error (.ofQueryError error)
    | .ok query => .ok query

end Roster.Web
