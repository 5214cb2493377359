import Roster.Character
import Roster.Listing.Query
import Roster.LockTable

namespace Roster.Database

/-! The statements that a database is sent, with their text and their parameters. -/

inductive Statement where
  | ping
  | createSchema
  | start
  /-- Has all that follows in the transaction see one state of the tables. -/
  | readOnly
  | commit
  | rollback
  /-- Writes characters with different ids. -/
  | upsert (rows : List Character)
  | count
  | select (query : Listing.Query)
  /-- Takes a lock for the session, without waiting for it. -/
  | tryLock (key : LockKey)
  | unlock (key : LockKey)
  deriving DecidableEq

/-- Parameters are numbers, or columns of numbers or texts. -/
inductive Param where
  | int (value : Int64)
  | ints (values : List Int64)
  | texts (values : List (Option String))
  deriving DecidableEq

namespace Statement

def schemaText : String :=
  "CREATE TABLE IF NOT EXISTS characters ( id BIGINT PRIMARY KEY, name TEXT NOT NULL, " ++
    "status TEXT NOT NULL, species TEXT NOT NULL, origin TEXT NOT NULL, image TEXT, url TEXT ); " ++
    "CREATE INDEX IF NOT EXISTS characters_name_id_idx ON characters (name, id);"

def upsertText : String :=
  "INSERT INTO characters (id, name, status, species, origin, image, url) " ++
    "SELECT * FROM UNNEST( $1::BIGINT[], $2::TEXT[], $3::TEXT[], $4::TEXT[], $5::TEXT[], " ++
    "$6::TEXT[], $7::TEXT[] ) ON CONFLICT (id) DO UPDATE SET name = EXCLUDED.name, " ++
    "status = EXCLUDED.status, species = EXCLUDED.species, origin = EXCLUDED.origin, " ++
    "image = EXCLUDED.image, url = EXCLUDED.url"

def directionText : Listing.SortDirection → String
  | .ascending => "ASC"
  | .descending => "DESC"

def selectText (query : Listing.Query) : String :=
  let direction := directionText query.direction
  "SELECT id, name, status, species, origin, image, url FROM characters ORDER BY " ++
    query.sort.label ++ " " ++ direction ++ ", id " ++ direction ++ " LIMIT $1 OFFSET $2"

def text : Statement → String
  | ping => "SELECT 1"
  | createSchema => schemaText
  | start => "START TRANSACTION"
  | readOnly => "SET TRANSACTION ISOLATION LEVEL REPEATABLE READ READ ONLY"
  | commit => "COMMIT"
  | rollback => "ROLLBACK"
  | upsert _ => upsertText
  | count => "SELECT COUNT(*) FROM characters"
  | select query => selectText query
  | tryLock _ => "SELECT pg_try_advisory_lock($1)"
  | unlock _ => "SELECT pg_advisory_unlock($1)"

def columns (rows : List Character) : List Param :=
  [.ints (rows.map (·.id)), .texts (rows.map fun row => some row.name),
    .texts (rows.map fun row => some row.status), .texts (rows.map fun row => some row.species),
    .texts (rows.map fun row => some row.origin), .texts (rows.map (·.image)),
    .texts (rows.map (·.url))]

/-- The parameters of a statement that takes some; such a statement is prepared first. -/
def params : Statement → Option (List Param)
  | upsert rows => some (columns rows)
  | count => some []
  | select query => some [.int (.ofNat query.size.toNat), .int (.ofNat query.offset)]
  | tryLock key => some [.int key]
  | unlock key => some [.int key]
  | _ => none

def isPrepared (statement : Statement) : Bool := statement.params.isSome

end Statement

end Roster.Database
