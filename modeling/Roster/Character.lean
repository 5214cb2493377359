namespace Roster

/-! Characters as they are stored and served, and the candidates that a source offers. -/

structure Character where
  id : Int64
  name : String
  status : String
  species : String
  origin : String
  image : Option String
  url : Option String
  deriving DecidableEq, Inhabited

namespace Candidate

structure Origin where
  name : String := ""
  url : Option String := none
  deriving DecidableEq, Inhabited

end Candidate

structure Candidate where
  id : Int64
  name : String := ""
  status : String := ""
  species : String := ""
  origin : Candidate.Origin := {}
  image : Option String := none
  url : Option String := none
  deriving DecidableEq, Inhabited

namespace Candidate

/-- What a character keeps of a candidate: all but the address of its origin. -/
def toCharacter (candidate : Candidate) : Character where
  id := candidate.id
  name := candidate.name
  status := candidate.status
  species := candidate.species
  origin := candidate.origin.name
  image := candidate.image
  url := candidate.url

/-! Only living humans from some Earth are admitted. -/

def requiredSpecies : String := "Human"

def requiredStatus : String := "Alive"

def requiredOrigin : String := "Earth ("

def isAdmitted (candidate : Candidate) : Bool :=
  candidate.species == requiredSpecies && candidate.status == requiredStatus &&
    requiredOrigin.toList.isPrefixOf candidate.origin.name.toList

theorem isAdmitted_iff {candidate : Candidate} :
    candidate.isAdmitted = true ↔
      candidate.species = "Human" ∧ candidate.status = "Alive" ∧
        "Earth (".toList <+: candidate.origin.name.toList := by
  simp only [isAdmitted, requiredSpecies, requiredStatus, requiredOrigin, Bool.and_eq_true,
    beq_iff_eq, List.isPrefixOf_iff_prefix, and_assoc]

/-- The characters that a list of candidates adds, in the order of the list. -/
def admitted (candidates : List Candidate) : List Character :=
  (candidates.filter isAdmitted).map toCharacter

@[simp] theorem admitted_nil : admitted [] = [] := rfl

@[simp] theorem admitted_append (left right : List Candidate) :
    admitted (left ++ right) = admitted left ++ admitted right := by
  simp [admitted]

theorem mem_admitted {character : Character} {candidates : List Candidate} :
    character ∈ admitted candidates ↔
      ∃ candidate ∈ candidates, candidate.isAdmitted = true ∧
        candidate.toCharacter = character := by
  simp only [admitted, List.mem_map, List.mem_filter, and_assoc]

end Candidate

/-! A source serves its candidates in numbered pages. -/

structure PageInfo where
  count : Option UInt64 := none
  pages : Option UInt32 := none
  next : Option String := none
  prev : Option String := none
  deriving DecidableEq, Inhabited

structure SourcePage where
  info : PageInfo := {}
  results : List Candidate := []
  deriving DecidableEq, Inhabited

namespace SourcePage

/-- A page has a successor if it names one, and by more than the empty text. -/
def hasNext (page : SourcePage) : Bool :=
  match page.info.next with
  | some address => address != ""
  | none => false

end SourcePage

end Roster
