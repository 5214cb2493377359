import Roster.Character.Wire
import Roster.Listing.Page

namespace Roster

/-! Listings as JSON. -/

namespace Listing

def SortKey.ofTree? (tree : Json.Tree) : Option SortKey := tree.choice? SortKey.ofLabel?

def SortDirection.ofTree? (tree : Json.Tree) : Option SortDirection :=
  tree.choice? SortDirection.ofLabel?

namespace Slice

def toJson (slice : Slice) : Json :=
  .obj [("records", .arr (slice.records.map Character.toJson)), ("total_count", .int slice.total),
    ("out_of_range", .bool slice.outOfRange)]

def ofTree? (tree : Json.Tree) : Option Slice := do
  match ← tree.fields? ["records", "total_count", "out_of_range"] with
  | [records, total, outOfRange] =>
    return {
      records := ← records.required (Json.Tree.list? Character.ofTree?)
      total := ← total.required Json.Tree.count?
      outOfRange := ← outOfRange.required Json.Tree.bool? }
  | _ => none

end Slice

namespace Page

def toJson (page : Page) : Json :=
  .obj [("page", .int page.page.toNat), ("page_size", .int page.size.toNat),
    ("total_count", .int page.total), ("total_pages", .int page.totalPages),
    ("has_prev", .bool page.hasPrev), ("has_next", .bool page.hasNext),
    ("results", .arr (page.records.map Character.toJson))]

def fieldNames : List String :=
  ["page", "page_size", "total_count", "total_pages", "has_prev", "has_next", "results"]

def ofTree? (tree : Json.Tree) : Option Page := do
  match ← tree.fields? fieldNames with
  | [page, size, total, totalPages, hasPrev, hasNext, records] =>
    return {
      page := ← page.required Json.Tree.uint32?
      size := ← size.required Json.Tree.uint32?
      total := ← total.required Json.Tree.count?
      totalPages := ← totalPages.required Json.Tree.count?
      hasPrev := ← hasPrev.required Json.Tree.bool?
      hasNext := ← hasNext.required Json.Tree.bool?
      records := ← records.required (Json.Tree.list? Character.ofTree?) }
  | _ => none

end Page

/-- What a request for a listing names, before it is checked. -/
structure Params where
  sort : String := "id"
  order : String := "asc"
  page : UInt32 := 1
  size : UInt32 := 20
  deriving DecidableEq, Inhabited

namespace Params

def toQuery (params : Params) : Except QueryError Query :=
  Query.parse params.sort params.order params.page params.size

def toJson (params : Params) : Json :=
  .obj [("sort", .str params.sort), ("order", .str params.order),
    ("page", .int params.page.toNat), ("page_size", .int params.size.toNat)]

def ofTree? (tree : Json.Tree) : Option Params := do
  match ← tree.fields? ["sort", "order", "page", "page_size"] with
  | [sort, order, page, size] =>
    return {
      sort := ← sort.defaulting Json.Tree.text? "id"
      order := ← order.defaulting Json.Tree.text? "asc"
      page := ← page.defaulting Json.Tree.uint32? 1
      size := ← size.defaulting Json.Tree.uint32? 20 }
  | _ => none

end Params

end Listing

end Roster
