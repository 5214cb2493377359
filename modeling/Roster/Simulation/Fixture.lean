import Roster.Character
import Roster.Chunks
import Roster.Source.Error
import Roster.Time.Timestamp

namespace Roster.Simulation

/-! Made-up candidates and pages. -/

namespace Fixture

def apiRoot : String := "https://rickandmortyapi.com/api/"

def earthHuman (id : Int64) (name : String) : Candidate where
  id := id
  name := name
  status := "Alive"
  species := "Human"
  origin := { name := "Earth (C-137)", url := some (apiRoot ++ "location/1") }
  image := some (apiRoot ++ "character/avatar/" ++ toString id.toInt ++ ".jpeg")
  url := some (apiRoot ++ "character/" ++ toString id.toInt)

def alien (id : Int64) (name : String) : Candidate :=
  { earthHuman id name with species := "Alien" }

/-- Candidates with the ids from one up, named by their ids. -/
def earthHumans (count : Nat) : List Candidate :=
  (List.range count).map fun n =>
    earthHuman (Int64.ofNat (n + 1)) ("Human " ++ Timestamp.pad 4 (n + 1))

def storedCharacters (count : Nat) : List Character :=
  (earthHumans count).map Candidate.toCharacter

/-- Characters with the ids from `first` up, named by what their ids leave when divided. -/
def numbered (first : Int) (count : Nat) (divisor : Int) : List Character :=
  (List.range count).map fun (n : Nat) =>
    let id : Int := first + n
    (earthHuman (Int64.ofInt id) ("N" ++ toString (id % divisor))).toCharacter

/-- A time in the year 2023. -/
def today : Timestamp := .ofMillis 1700000000000

def pageAddress (page : Nat) : String := apiRoot ++ "character?page=" ++ toString page

/-- Candidates laid out in pages that name their neighbours. No candidates make one empty page. -/
def paginate (candidates : List Candidate) (size : Nat) : List SourcePage :=
  let pieces := chunks size candidates
  let pages := max 1 pieces.length
  let page (index : Nat) (results : List Candidate) : SourcePage := {
    info := {
      count := some candidates.length.toUInt64
      pages := some pages.toUInt32
      next := if index + 1 < pages then some (pageAddress (index + 2)) else none
      prev := if 0 < index then some (pageAddress index) else none }
    results := results }
  if pieces.isEmpty then [page 0 []] else pieces.mapIdx page

def transient (page : UInt32) : SourceError := .transient page "status 503" none

end Fixture

end Roster.Simulation
