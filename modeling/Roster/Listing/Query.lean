namespace Roster.Listing

/-! What part of the stored characters is asked for, and in which order. -/

inductive SortKey where
  | id
  | name
  deriving DecidableEq, Hashable, Inhabited

inductive SortDirection where
  | ascending
  | descending
  deriving DecidableEq, Hashable, Inhabited

inductive QueryError where
  | unsupportedSort (value : String)
  | unsupportedOrder (value : String)
  | invalidPage (page : UInt32)
  | invalidPageSize (size : UInt32) (most : UInt32)
  deriving DecidableEq

namespace QueryError

def kind : QueryError → String
  | unsupportedSort _ => "UnsupportedSort"
  | unsupportedOrder _ => "UnsupportedOrder"
  | invalidPage _ => "InvalidPage"
  | invalidPageSize .. => "InvalidPageSize"

def message : QueryError → String
  | unsupportedSort value => "Unsupported sort field '" ++ value ++ "', expected one of: id, name"
  | unsupportedOrder value => "Unsupported sort order '" ++ value ++ "', expected one of: asc, desc"
  | invalidPage page => "Page must be >= 1, got " ++ toString page.toNat
  | invalidPageSize size most =>
    "Page size must be between 1 and " ++ toString most.toNat ++ ", got " ++ toString size.toNat

end QueryError

namespace SortKey

def label : SortKey → String
  | id => "id"
  | name => "name"

def ofLabel? : String → Option SortKey
  | "id" => some id
  | "name" => some name
  | _ => none

def parse (text : String) : Except QueryError SortKey :=
  match ofLabel? text with
  | some key => .ok key
  | none => .error (.unsupportedSort text)

@[simp] theorem ofLabel?_label (key : SortKey) : ofLabel? key.label = some key := by
  cases key <;> rfl

end SortKey

namespace SortDirection

def label : SortDirection → String
  | ascending => "asc"
  | descending => "desc"

def ofLabel? : String → Option SortDirection
  | "asc" => some ascending
  | "desc" => some descending
  | _ => none

def parse (text : String) : Except QueryError SortDirection :=
  match ofLabel? text with
  | some direction => .ok direction
  | none => .error (.unsupportedOrder text)

@[simp] theorem ofLabel?_label (direction : SortDirection) :
    ofLabel? direction.label = some direction := by
  cases direction <;> rfl

end SortDirection

def defaultPageSize : UInt32 := 20

def maxPageSize : UInt32 := 100

/-- A valid query. Pages are counted from one. -/
structure Query where
  sort : SortKey := .id
  direction : SortDirection := .ascending
  page : UInt32 := 1
  size : UInt32 := defaultPageSize
  page_pos : 1 ≤ page.toNat := by decide
  size_pos : 1 ≤ size.toNat := by decide
  size_le : size.toNat ≤ 100 := by decide
  deriving DecidableEq

namespace Query

instance : Inhabited Query := ⟨{}⟩

instance : Hashable Query :=
  ⟨fun query => hash (query.sort, query.direction, query.page, query.size)⟩

def make (sort : SortKey) (direction : SortDirection) (page size : UInt32) :
    Except QueryError Query :=
  if hpage : page = 0 then .error (.invalidPage page)
  else if hsize : size = 0 ∨ maxPageSize < size then .error (.invalidPageSize size maxPageSize)
  else
    .ok {
      sort, direction, page, size
      page_pos := by
        have : page.toNat ≠ 0 := fun h => hpage (UInt32.toNat_inj.1 h)
        omega
      size_pos := by
        have : size.toNat ≠ 0 := fun h => hsize (.inl (UInt32.toNat_inj.1 h))
        omega
      size_le := by
        have : ¬ maxPageSize.toNat < size.toNat := fun h => hsize (.inr (UInt32.lt_iff_toNat_lt.2 h))
        simpa [maxPageSize] using this }

/-- A query from the texts of its sort field and order. -/
def parse (sort order : String) (page size : UInt32) : Except QueryError Query := do
  make (← SortKey.parse sort) (← SortDirection.parse order) page size

def offset (query : Query) : Nat := (query.page.toNat - 1) * query.size.toNat

/-- How many pages a number of rows fills. No rows fill one empty page. -/
def totalPages (query : Query) (total : Nat) : Nat :=
  max 1 ((total + query.size.toNat - 1) / query.size.toNat)

/-- Whether the page lies behind the last one. -/
def isOutOfRange (query : Query) (total : Nat) : Bool :=
  decide (1 < query.page.toNat) && decide (total ≤ query.offset)

end Query

end Roster.Listing
