import Roster.Database.Store
import Roster.Proofs.Listing.Order

namespace Roster.Database

/-! What a database makes of the statements that it is sent. A statement is carried out on the rows
that its session sees: those of the table or, in a transaction, those of a copy that becomes the
table at the commit. It reads nothing but the statement's parameters and what the text says of the
order of rows. -/

/-- The rows that columns make: the first item of each, then the second, and so on. Only the last
two columns may lack a text. -/
def rowsOf : List Int64 → List (Option String) → List (Option String) → List (Option String) →
    List (Option String) → List (Option String) → List (Option String) → Option (List Character)
  | id :: ids, some name :: names, some status :: statuses, some kind :: species,
      some origin :: origins, image :: images, url :: urls =>
    (rowsOf ids names statuses species origins images urls).map
      (⟨id, name, status, kind, origin, image, url⟩ :: ·)
  | [], [], [], [], [], [], [] => some []
  | _, _, _, _, _, _, _ => none

def unnest : List Param → Option (List Character)
  | [.ints ids, .texts names, .texts statuses, .texts species, .texts origins, .texts images,
      .texts urls] => rowsOf ids names statuses species origins images urls
  | _ => none

theorem unnest_columns (rows : List Character) : unnest (Statement.columns rows) = some rows := by
  simp only [unnest, Statement.columns]
  induction rows with
  | nil => rfl
  | cons row rows ih =>
      simp only [List.map_cons, rowsOf, ih]
      rfl

/-! Rows are sorted by several columns, each with a direction of its own. The first that tells two
rows apart decides. -/

abbrev SortClause := List (Listing.SortKey × Listing.SortDirection)

def Lower (column : Listing.SortKey) (a b : Character) : Prop :=
  match column with
  | .id => a.id < b.id
  | .name => a.name < b.name

def Equal (column : Listing.SortKey) (a b : Character) : Prop :=
  match column with
  | .id => a.id = b.id
  | .name => a.name = b.name

namespace SortClause

def text (clause : SortClause) : String :=
  ", ".intercalate (clause.map fun term => term.1.label ++ " " ++ Statement.directionText term.2)

def Allows : SortClause → Character → Character → Prop
  | [], _, _ => True
  | (column, .ascending) :: rest, a, b => Lower column a b ∨ Equal column a b ∧ Allows rest a b
  | (column, .descending) :: rest, a, b => Lower column b a ∨ Equal column b a ∧ Allows rest a b

def ofQuery (query : Listing.Query) : SortClause :=
  [(query.sort, query.direction), (.id, query.direction)]

/-- What the text of a listing says of the order of its rows. -/
theorem selectText_eq (query : Listing.Query) :
    Statement.selectText query =
      "SELECT id, name, status, species, origin, image, url FROM characters ORDER BY " ++
        (ofQuery query).text ++ " LIMIT $1 OFFSET $2" := by
  obtain ⟨sort, direction, _, _⟩ := query
  cases sort <;> cases direction <;> rfl

theorem allows_ofQuery {query : Listing.Query} {a b : Character} (apart : a.id ≠ b.id) :
    (ofQuery query).Allows a b ↔ query.Precedes a b := by
  obtain ⟨sort, direction, _, _⟩ := query
  cases sort <;> cases direction <;>
    simp [ofQuery, Allows, Lower, Equal, Listing.Query.Precedes, Listing.SortKey.Below, apart,
      apart.symm]

end SortClause

/-- The largest number of rows that can be counted. -/
def maxCount : Nat := 0x7FFFFFFFFFFFFFFF

/-- What comes of a statement that is carried out on rows. No statement may write a row twice. -/
inductive Takes (rows : Batch) : Statement → Answer → Batch → Prop
  | ping {answer : Answer} : Takes rows .ping answer rows
  | createSchema {answer : Answer} : Takes rows .createSchema answer rows
  | readOnly {answer : Answer} : Takes rows .readOnly answer rows
  | upsert {sent written : List Character} {params : List Param} {answer : Answer}
      (sends : (Statement.upsert sent).params = some params) (reads : unnest params = some written)
      (distinct : (written.map Character.id).Nodup) (affected : answer.affected = written.length) :
      Takes rows (.upsert sent) answer (rows.insertAll written)
  | count {answer : Answer} (countable : rows.size ≤ maxCount)
      (counts : answer.rows = [[.int (.ofNat rows.size)]]) : Takes rows .count answer rows
  | select {query : Listing.Query} {limit offset : Int64} {listing : List Character}
      {answer : Answer} (sends : (Statement.select query).params = some [.int limit, .int offset])
      (limit_nonneg : 0 ≤ limit.toInt) (offset_nonneg : 0 ≤ offset.toInt)
      (all : listing.Perm rows.rows) (sorted : listing.Pairwise (SortClause.ofQuery query).Allows)
      (page : answer.rows =
        ((listing.drop offset.toInt.toNat).take limit.toInt.toNat).map Row.ofCharacter) :
      Takes rows (.select query) answer rows

/-- The rows of a page as the database sends them. -/
def pageRows (table : Batch) (query : Listing.Query) : List Row :=
  let listing := Store.Memory.ordered { rows := table } query
  ((listing.drop query.offset).take query.size.toNat).map Row.ofCharacter

theorem pairwise_apart {table : Batch} {listing : List Character}
    (all : listing.Perm table.rows) : listing.Pairwise fun a b => a.id ≠ b.id := by
  rw [all.pairwise_iff Ne.symm]
  exact table.ascending.imp Int64.ne_of_lt

/-- To sort by columns leaves no choice. -/
theorem eq_ordered {table : Batch} {query : Listing.Query} {listing : List Character}
    (all : listing.Perm table.rows) (sorted : listing.Pairwise (SortClause.ofQuery query).Allows) :
    listing = Store.Memory.ordered { rows := table } query := by
  have inMemory := Store.Memory.perm_ordered { rows := table } query
  apply Listing.eq_of_perm _ (Store.Memory.pairwise_ordered { rows := table } query)
    (all.trans inMemory.symm)
  apply (sorted.and (pairwise_apart all)).imp
  rintro a b ⟨allows, apart⟩
  exact (SortClause.allows_ofQuery apart).mp allows

theorem allows_ordered (table : Batch) (query : Listing.Query) :
    (Store.Memory.ordered { rows := table } query).Pairwise (SortClause.ofQuery query).Allows := by
  have apart := pairwise_apart (Store.Memory.perm_ordered { rows := table } query)
  apply ((Store.Memory.pairwise_ordered { rows := table } query).and apart).imp
  rintro a b ⟨precedes, apart⟩
  exact (SortClause.allows_ofQuery apart).mpr precedes

theorem toInt_ofNat {number : Nat} (small : number ≤ maxCount) :
    (Int64.ofNat number).toInt = number :=
  Int64.toInt_ofNat_of_lt (Nat.lt_of_le_of_lt small (by decide))

theorem offset_le (query : Listing.Query) : query.offset ≤ Store.maxOffset := by
  have page_lt := query.page.toNat_lt
  have bound : (query.page.toNat - 1) * query.size.toNat ≤ 0xFFFFFFFF * 100 :=
    Nat.mul_le_mul (by omega) query.size_le
  exact Nat.le_trans bound (by decide)

theorem Takes.select_pageRows (table : Batch) (query : Listing.Query) :
    Takes table (.select query) { rows := pageRows table query } table := by
  have size_le : query.size.toNat ≤ maxCount := Nat.le_trans query.size_le (by decide)
  have limit := toInt_ofNat size_le
  have offset := toInt_ofNat (offset_le query)
  refine .select rfl (by omega) (by omega) (Store.Memory.perm_ordered _ query)
    (allows_ordered table query) ?_
  rw [limit, offset]
  rfl

theorem Takes.rows_of_select {table after : Batch} {query : Listing.Query} {answer : Answer}
    (takes : Takes table (.select query) answer after) :
    answer.rows = pageRows table query ∧ after = table := by
  cases takes with
  | select sends _ _ all sorted page =>
      cases sends
      have size_le : query.size.toNat ≤ maxCount := Nat.le_trans query.size_le (by decide)
      rw [page, toInt_ofNat size_le, toInt_ofNat (offset_le query), eq_ordered all sorted]
      exact ⟨rfl, rfl⟩

/-- A table, and the transaction that is under way: its session, and the rows that it sees. -/
structure Content where
  table : Batch := {}
  work : Option (Session × Batch) := none

inductive Executes (session : Session) : Content → Statement → Answer → Content → Prop
  | start {table : Batch} {answer : Answer} :
      Executes session ⟨table, none⟩ .start answer ⟨table, some (session, table)⟩
  | commit {table rows : Batch} {answer : Answer} :
      Executes session ⟨table, some (session, rows)⟩ .commit answer ⟨rows, none⟩
  | rollback {table rows : Batch} {answer : Answer} :
      Executes session ⟨table, some (session, rows)⟩ .rollback answer ⟨table, none⟩
  | inside {table rows after : Batch} {statement : Statement} {answer : Answer}
      (takes : Takes rows statement answer after) :
      Executes session ⟨table, some (session, rows)⟩ statement answer
        ⟨table, some (session, after)⟩
  | outside {table after : Batch} {statement : Statement} {answer : Answer}
      (takes : Takes table statement answer after) :
      Executes session ⟨table, none⟩ statement answer ⟨after, none⟩

/-- What there is to see of a server: whether it does its work, and what it has stored. -/
structure Ledger (σ : Type) where
  well : σ → Prop
  content : σ → Content

/-- The server still does its work, and no session has ended. -/
structure Persists {σ : Type} (server : Server σ) (ledger : Ledger σ) (state after : σ) : Prop where
  well : ledger.well after
  isOpen : ∀ session, server.isOpen state session = true → server.isOpen after session = true

/-- Sessions can be opened, and a statement that can be carried out is carried out. -/
structure Relational {σ : Type} (server : Server σ) (ledger : Ledger σ) : Prop where
  connect : ∀ {state : σ}, ledger.well state → ∃ after session,
    server.connect state = (after, .ok session) ∧ server.isOpen after session = true ∧
      Persists server ledger state after ∧ ledger.content after = ledger.content state
  prepare : ∀ {state : σ} {session : Session} (statement : Statement), ledger.well state →
    server.isOpen state session = true → ∃ after answer,
      server.answer state session (.prepare statement) = (after, .ok answer) ∧
        Persists server ledger state after ∧ ledger.content after = ledger.content state
  execute : ∀ {state : σ} {session : Session} {statement : Statement}, ledger.well state →
    server.isOpen state session = true →
    (∃ answer content, Executes session (ledger.content state) statement answer content) →
    ∃ after answer, server.answer state session (.execute statement) = (after, .ok answer) ∧
      Persists server ledger state after ∧
      Executes session (ledger.content state) statement answer (ledger.content after)

end Roster.Database
