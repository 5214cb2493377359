import Roster.Proofs.Character.Encoding

namespace Roster

/-! A source page that loses fields stays a page. Fields are set to `null`, are deleted, or are there
that nobody knows, on any level: what is lost has its default, and nothing else changes. -/

namespace Json.Tree

/-- An object loses one of its parts, which is set to `null` or deleted, or has a field more that
nobody knows. -/
inductive Loses (names : List String) {Part : Type} (label : Part → String) :
    Option Part → Tree → Tree → Prop
  | null (part : Part) {fields fields' : List (List Piece × Tree)}
      (revises : Revises names (some (label part, some .null)) fields fields') :
      Loses names label (some part) (.object fields) (.object fields')
  | delete (part : Part) {fields fields' : List (List Piece × Tree)}
      (revises : Revises names (some (label part, none)) fields fields') :
      Loses names label (some part) (.object fields) (.object fields')
  | ignore {fields fields' : List (List Piece × Tree)} (revises : Revises names none fields fields') :
      Loses names label none (.object fields) (.object fields')

variable {names : List String} {Part : Type} {label : Part → String} {part? : Option Part}
  {tree tree' : Tree}

theorem Loses.objects (loses : Loses names label part? tree tree') :
    ∃ fields fields', tree = .object fields ∧ tree' = .object fields' := by
  cases loses <;> exact ⟨_, _, rfl, rfl⟩

theorem Loses.legible (loses : Loses names label part? tree tree') (legible : tree.Legible) :
    tree'.Legible := by
  have still {effect : Option (String × Option Tree)} {fields fields' : List (List Piece × Tree)}
      (revises : Revises names effect fields fields')
      (new_legible : ∀ name new, effect = some (name, some new) → new.Legible)
      (legible : (object fields).Legible) : (object fields').Legible := by
    cases legible with
    | object keys values =>
        exact .of_fields (revises.legible new_legible fun field member =>
          ⟨keys field member, values field member⟩)
  cases loses with
  | null _ revises =>
      refine still revises ?_ legible
      rintro _ _ ⟨⟩
      exact .null
  | delete _ revises => exact still revises (by rintro _ _ ⟨⟩) legible
  | ignore revises => exact still revises (by rintro _ _ ⟨⟩) legible

/-- What is lost is empty, and what is not lost is the same. -/
theorem Loses.fields? {slots : List Field} (loses : Loses names label part? tree tree')
    (distinct : names.Nodup) (found : tree.fields? names = some slots) :
    ∃ slots', tree'.fields? names = some slots' ∧
      (part? = none ∧ slots' = slots ∨
        ∃ part empty, part? = some part ∧ Field.Empty empty ∧
          slots' = slots.set (names.idxOf (label part)) empty) := by
  cases loses with
  | null part revises =>
      exact ⟨_, revises.fields? distinct found, .inr ⟨part, _, rfl, .null, rfl⟩⟩
  | delete part revises =>
      exact ⟨_, revises.fields? distinct found, .inr ⟨part, _, rfl, .absent, rfl⟩⟩
  | ignore revises => exact ⟨_, revises.fields? distinct found, .inl ⟨rfl, rfl⟩⟩

end Json.Tree

/-- What there is after something has been lost, or nothing. -/
def afterLoss {α Loss : Type} (lose : α → Loss → α) (a : α) (loss? : Option Loss) : α :=
  loss?.elim a (lose a)

namespace Candidate

namespace Origin

inductive Part where
  | name
  | url
  deriving DecidableEq

def Part.label : Part → String
  | name => "name"
  | url => "url"

def lose (origin : Origin) : Part → Origin
  | .name => { origin with name := "" }
  | .url => { origin with url := none }

abbrev Loses : Option Part → Json.Tree → Json.Tree → Prop :=
  Json.Tree.Loses ["name", "url"] Part.label

theorem Read.lose {slots : List Json.Tree.Field} {origin : Origin} (read : Read slots origin)
    (part : Part) {empty : Json.Tree.Field} (isEmpty : empty.Empty) :
    Read (slots.set (["name", "url"].idxOf part.label) empty) (origin.lose part) := by
  obtain ⟨name_read, url_read⟩ := read
  cases part with
  | name =>
      have position : ["name", "url"].idxOf Part.name.label = 0 := by decide
      rw [position]
      exact .fields (isEmpty.lenient _ _) url_read
  | url =>
      have position : ["name", "url"].idxOf Part.url.label = 1 := by decide
      rw [position]
      exact .fields name_read (isEmpty.omissible _)

theorem Loses.ofTree? {part? : Option Part} {tree tree' : Json.Tree} {origin : Origin}
    (loses : Loses part? tree tree') (decodes : Origin.ofTree? tree = some origin) :
    Origin.ofTree? tree' = some (afterLoss lose origin part?) := by
  obtain ⟨slots, found, read⟩ := ofTree?_eq_some.mp decodes
  obtain ⟨slots', found', ⟨rfl, rfl⟩ | ⟨part, empty, rfl, isEmpty, rfl⟩⟩ :=
    Json.Tree.Loses.fields? loses (by decide) found
  · exact ofTree?_eq_some.mpr ⟨_, found', read⟩
  · exact ofTree?_eq_some.mpr ⟨_, found', read.lose part isEmpty⟩

end Origin

inductive Part where
  | name
  | status
  | species
  | origin
  | image
  | url
  deriving DecidableEq

def Part.label : Part → String
  | name => "name"
  | status => "status"
  | species => "species"
  | origin => "origin"
  | image => "image"
  | url => "url"

def losePart (candidate : Candidate) : Part → Candidate
  | .name => { candidate with name := "" }
  | .status => { candidate with status := "" }
  | .species => { candidate with species := "" }
  | .origin => { candidate with origin := {} }
  | .image => { candidate with image := none }
  | .url => { candidate with url := none }

inductive Loss where
  | part (part : Part)
  | ofOrigin (part : Origin.Part)
  deriving DecidableEq

def lose (candidate : Candidate) : Loss → Candidate
  | .part part => candidate.losePart part
  | .ofOrigin part => { candidate with origin := candidate.origin.lose part }

/-- What a candidate loses on its own level or on that of its origin. -/
inductive Loses : Option Loss → Json.Tree → Json.Tree → Prop
  | own {part? : Option Part} {tree tree' : Json.Tree}
      (loses : Json.Tree.Loses fieldNames Part.label part? tree tree') :
      Loses (part?.map .part) tree tree'
  | inOrigin {before after : List (List Json.Piece × Json.Tree)} {key : List Json.Piece}
      {part? : Option Origin.Part} {tree tree' : Json.Tree}
      (names_key : Json.Piece.text? key = some "origin") (loses : Origin.Loses part? tree tree') :
      Loses (part?.map .ofOrigin) (.object (before ++ (key, tree) :: after))
        (.object (before ++ (key, tree') :: after))

theorem Read.lose {slots : List Json.Tree.Field} {candidate : Candidate}
    (read : Read slots candidate) (part : Part) {empty : Json.Tree.Field} (isEmpty : empty.Empty) :
    Read (slots.set (fieldNames.idxOf part.label) empty) (candidate.losePart part) := by
  obtain ⟨id_read, name_read, status_read, species_read, origin_read, image_read, url_read⟩ := read
  cases part with
  | name =>
      have position : fieldNames.idxOf Part.name.label = 1 := by decide
      rw [position]
      exact .fields id_read (isEmpty.lenient _ _) status_read species_read origin_read image_read
        url_read
  | status =>
      have position : fieldNames.idxOf Part.status.label = 2 := by decide
      rw [position]
      exact .fields id_read name_read (isEmpty.lenient _ _) species_read origin_read image_read
        url_read
  | species =>
      have position : fieldNames.idxOf Part.species.label = 3 := by decide
      rw [position]
      exact .fields id_read name_read status_read (isEmpty.lenient _ _) origin_read image_read
        url_read
  | origin =>
      have position : fieldNames.idxOf Part.origin.label = 4 := by decide
      rw [position]
      exact .fields id_read name_read status_read species_read (isEmpty.lenient _ _) image_read
        url_read
  | image =>
      have position : fieldNames.idxOf Part.image.label = 5 := by decide
      rw [position]
      exact .fields id_read name_read status_read species_read origin_read (isEmpty.omissible _)
        url_read
  | url =>
      have position : fieldNames.idxOf Part.url.label = 6 := by decide
      rw [position]
      exact .fields id_read name_read status_read species_read origin_read image_read
        (isEmpty.omissible _)

theorem Loses.legible {loss? : Option Loss} {tree tree' : Json.Tree}
    (loses : Loses loss? tree tree') (legible : tree.Legible) : tree'.Legible := by
  cases loses with
  | own loses => exact loses.legible legible
  | inOrigin _ loses => exact legible.replace fun old => Json.Tree.Loses.legible loses old

theorem Loses.ofTree? {loss? : Option Loss} {tree tree' : Json.Tree} {candidate : Candidate}
    (loses : Loses loss? tree tree') (decodes : Candidate.ofTree? tree = some candidate) :
    Candidate.ofTree? tree' = some (afterLoss lose candidate loss?) := by
  obtain ⟨slots, found, read⟩ := ofTree?_eq_some.mp decodes
  have distinct : fieldNames.Nodup := by decide
  cases loses with
  | own loses =>
      obtain ⟨slots', found', ⟨rfl, rfl⟩ | ⟨part, empty, rfl, isEmpty, rfl⟩⟩ :=
        loses.fields? distinct found
      · exact ofTree?_eq_some.mpr ⟨_, found', read⟩
      · exact ofTree?_eq_some.mpr ⟨_, found', read.lose part isEmpty⟩
  | @inOrigin before after key part? tree tree' names_key loses =>
      have isKnown : "origin" ∈ fieldNames := by decide
      have position : fieldNames.idxOf "origin" = 4 := by decide
      have found' := Json.Tree.fields?_replace names_key isKnown distinct found tree'
      have given := Json.Tree.slot_of_field names_key isKnown found
      obtain ⟨fields, fields', rfl, rfl⟩ := Json.Tree.Loses.objects loses
      rw [position] at found' given
      obtain ⟨id_read, name_read, status_read, species_read, origin_read, image_read, url_read⟩ := read
      cases given
      rw [Json.Tree.Field.lenient_object] at origin_read
      have origin_read' := (Json.Tree.Field.lenient_object Origin.ofTree? {} fields').trans
        (loses.ofTree? origin_read)
      have read' : Read _ { candidate with origin := afterLoss Origin.lose candidate.origin part? } :=
        .fields id_read name_read status_read species_read origin_read' image_read url_read
      have same : afterLoss lose candidate (part?.map .ofOrigin) =
          { candidate with origin := afterLoss Origin.lose candidate.origin part? } := by
        cases part? <;> rfl
      exact same ▸ ofTree?_eq_some.mpr ⟨_, found', read'⟩

/-- Whether nobody is admitted who has lost this. -/
def Loss.isVital : Loss → Bool
  | .part .status | .part .species | .part .origin | .ofOrigin .name => true
  | _ => false

theorem isAdmitted_lose (candidate : Candidate) (loss : Loss) :
    (candidate.lose loss).isAdmitted = (candidate.isAdmitted && !loss.isVital) := by
  have named : requiredOrigin.toList.isPrefixOf [] = false := by decide
  have alive : ("" == requiredStatus) = false := by decide
  have human : ("" == requiredSpecies) = false := by decide
  rcases loss with (_ | _ | _ | _ | _ | _) | _ | _ <;>
    simp [isAdmitted, lose, losePart, Origin.lose, Loss.isVital, named, alive, human]

theorem isAdmitted_loseAll (candidate : Candidate) (losses : List Loss) :
    (losses.foldl lose candidate).isAdmitted =
      (candidate.isAdmitted && losses.all fun loss => !loss.isVital) := by
  induction losses generalizing candidate with
  | nil => rw [List.foldl_nil, List.all_nil, Bool.and_true]
  | cons loss rest ih =>
      rw [List.foldl_cons, ih, isAdmitted_lose, List.all_cons, Bool.and_assoc]

end Candidate

namespace PageInfo

inductive Part where
  | count
  | pages
  | next
  | prev
  deriving DecidableEq

def Part.label : Part → String
  | count => "count"
  | pages => "pages"
  | next => "next"
  | prev => "prev"

def lose (info : PageInfo) : Part → PageInfo
  | .count => { info with count := none }
  | .pages => { info with pages := none }
  | .next => { info with next := none }
  | .prev => { info with prev := none }

abbrev Loses : Option Part → Json.Tree → Json.Tree → Prop :=
  Json.Tree.Loses ["count", "pages", "next", "prev"] Part.label

theorem Read.lose {slots : List Json.Tree.Field} {info : PageInfo} (read : Read slots info)
    (part : Part) {empty : Json.Tree.Field} (isEmpty : empty.Empty) :
    Read (slots.set (["count", "pages", "next", "prev"].idxOf part.label) empty)
      (info.lose part) := by
  obtain ⟨count_read, pages_read, next_read, prev_read⟩ := read
  cases part with
  | count =>
      have position : ["count", "pages", "next", "prev"].idxOf Part.count.label = 0 := by decide
      rw [position]
      exact .fields (isEmpty.omissible _) pages_read next_read prev_read
  | pages =>
      have position : ["count", "pages", "next", "prev"].idxOf Part.pages.label = 1 := by decide
      rw [position]
      exact .fields count_read (isEmpty.omissible _) next_read prev_read
  | next =>
      have position : ["count", "pages", "next", "prev"].idxOf Part.next.label = 2 := by decide
      rw [position]
      exact .fields count_read pages_read (isEmpty.omissible _) prev_read
  | prev =>
      have position : ["count", "pages", "next", "prev"].idxOf Part.prev.label = 3 := by decide
      rw [position]
      exact .fields count_read pages_read next_read (isEmpty.omissible _)

theorem Loses.ofTree? {part? : Option Part} {tree tree' : Json.Tree} {info : PageInfo}
    (loses : Loses part? tree tree') (decodes : PageInfo.ofTree? tree = some info) :
    PageInfo.ofTree? tree' = some (afterLoss lose info part?) := by
  obtain ⟨slots, found, read⟩ := ofTree?_eq_some.mp decodes
  obtain ⟨slots', found', ⟨rfl, rfl⟩ | ⟨part, empty, rfl, isEmpty, rfl⟩⟩ :=
    Json.Tree.Loses.fields? loses (by decide) found
  · exact ofTree?_eq_some.mpr ⟨_, found', read⟩
  · exact ofTree?_eq_some.mpr ⟨_, found', read.lose part isEmpty⟩

end PageInfo

namespace SourcePage

inductive Part where
  | info
  | results
  deriving DecidableEq

def Part.label : Part → String
  | info => "info"
  | results => "results"

inductive Loss where
  | part (part : Part)
  | ofInfo (part : PageInfo.Part)
  | ofRecord (index : Nat) (loss : Candidate.Loss)
  deriving DecidableEq

def lose (page : SourcePage) : Loss → SourcePage
  | .part .info => { page with info := {} }
  | .part .results => { page with results := [] }
  | .ofInfo part => { page with info := page.info.lose part }
  | .ofRecord index loss => { page with results := page.results.modify index (·.lose loss) }

/-- What a page loses on its own level, on that of its information, or in one of its records. -/
inductive Loses : Option Loss → Json.Tree → Json.Tree → Prop
  | own {part? : Option Part} {tree tree' : Json.Tree}
      (loses : Json.Tree.Loses ["info", "results"] Part.label part? tree tree') :
      Loses (part?.map .part) tree tree'
  | inInfo {before after : List (List Json.Piece × Json.Tree)} {key : List Json.Piece}
      {part? : Option PageInfo.Part} {tree tree' : Json.Tree}
      (names_key : Json.Piece.text? key = some "info") (loses : PageInfo.Loses part? tree tree') :
      Loses (part?.map .ofInfo) (.object (before ++ (key, tree) :: after))
        (.object (before ++ (key, tree') :: after))
  | inRecord {before after : List (List Json.Piece × Json.Tree)} {key : List Json.Piece}
      {earlier later : List Json.Tree} {loss? : Option Candidate.Loss} {tree tree' : Json.Tree}
      (names_key : Json.Piece.text? key = some "results")
      (loses : Candidate.Loses loss? tree tree') :
      Loses (loss?.map (.ofRecord earlier.length))
        (.object (before ++ (key, .array (earlier ++ tree :: later)) :: after))
        (.object (before ++ (key, .array (earlier ++ tree' :: later)) :: after))

theorem Loses.legible {loss? : Option Loss} {tree tree' : Json.Tree}
    (loses : Loses loss? tree tree') (legible : tree.Legible) : tree'.Legible := by
  cases loses with
  | own loses => exact loses.legible legible
  | inInfo _ loses => exact legible.replace fun old => Json.Tree.Loses.legible loses old
  | inRecord _ loses =>
      refine legible.replace fun old => ?_
      cases old with
      | array items =>
          obtain ⟨first, item, last⟩ := Json.Tree.forall_mem_middle.mp items
          exact .array (Json.Tree.forall_mem_middle.mpr ⟨first, loses.legible item, last⟩)

theorem Read.lose {slots : List Json.Tree.Field} {page : SourcePage} (read : Read slots page)
    (part : Part) {empty : Json.Tree.Field} (isEmpty : empty.Empty) :
    Read (slots.set (["info", "results"].idxOf part.label) empty) (page.lose (.part part)) := by
  obtain ⟨info_read, results_read⟩ := read
  cases part with
  | info =>
      have position : ["info", "results"].idxOf Part.info.label = 0 := by decide
      rw [position]
      exact .fields (isEmpty.lenient _ _) results_read
  | results =>
      have position : ["info", "results"].idxOf Part.results.label = 1 := by decide
      rw [position]
      exact .fields info_read (isEmpty.lenient _ _)

/-- A list in which one item is read differently. -/
theorem list?_modify {α : Type} {value : Json.Tree → Option α} {earlier later : List Json.Tree}
    {tree tree' : Json.Tree} {values : List α} (change : α → α)
    (changes : ∀ a, value tree = some a → value tree' = some (change a))
    (read : (earlier ++ tree :: later).mapM value = some values) :
    (earlier ++ tree' :: later).mapM value = some (values.modify earlier.length change) := by
  induction earlier generalizing values with
  | nil =>
      rw [List.nil_append, List.mapM_cons] at read
      obtain ⟨a, a_read, read⟩ := Option.bind_eq_some_iff.mp read
      obtain ⟨rest, rest_read, same⟩ := Option.bind_eq_some_iff.mp read
      cases same
      rw [List.nil_append, List.mapM_cons, changes a a_read, rest_read]
      rfl
  | cons item earlier ih =>
      rw [List.cons_append, List.mapM_cons] at read
      obtain ⟨first, first_read, read⟩ := Option.bind_eq_some_iff.mp read
      obtain ⟨rest, rest_read, same⟩ := Option.bind_eq_some_iff.mp read
      cases same
      rw [List.cons_append, List.mapM_cons, first_read, ih rest_read]
      rfl

theorem Loses.ofTree? {loss? : Option Loss} {tree tree' : Json.Tree} {page : SourcePage}
    (loses : Loses loss? tree tree') (decodes : SourcePage.ofTree? tree = some page) :
    SourcePage.ofTree? tree' = some (afterLoss lose page loss?) := by
  obtain ⟨slots, found, read⟩ := ofTree?_eq_some.mp decodes
  have distinct : ["info", "results"].Nodup := by decide
  cases loses with
  | own loses =>
      obtain ⟨slots', found', ⟨rfl, rfl⟩ | ⟨part, empty, rfl, isEmpty, rfl⟩⟩ :=
        loses.fields? distinct found
      · exact ofTree?_eq_some.mpr ⟨_, found', read⟩
      · exact ofTree?_eq_some.mpr ⟨_, found', read.lose part isEmpty⟩
  | @inInfo before after key part? tree tree' names_key loses =>
      have isKnown : "info" ∈ ["info", "results"] := by decide
      have position : ["info", "results"].idxOf "info" = 0 := by decide
      have found' := Json.Tree.fields?_replace names_key isKnown distinct found tree'
      have given := Json.Tree.slot_of_field names_key isKnown found
      obtain ⟨fields, fields', rfl, rfl⟩ := Json.Tree.Loses.objects loses
      rw [position] at found' given
      obtain ⟨info_read, results_read⟩ := read
      cases given
      rw [Json.Tree.Field.lenient_object] at info_read
      have info_read' := (Json.Tree.Field.lenient_object PageInfo.ofTree? {} fields').trans
        (loses.ofTree? info_read)
      have read' : Read _ { page with info := afterLoss PageInfo.lose page.info part? } :=
        .fields info_read' results_read
      have same : afterLoss lose page (part?.map .ofInfo) =
          { page with info := afterLoss PageInfo.lose page.info part? } := by
        cases part? <;> rfl
      exact same ▸ ofTree?_eq_some.mpr ⟨_, found', read'⟩
  | @inRecord before after key earlier later loss? tree tree' names_key loses =>
      have isKnown : "results" ∈ ["info", "results"] := by decide
      have position : ["info", "results"].idxOf "results" = 1 := by decide
      have found' := Json.Tree.fields?_replace names_key isKnown distinct found
        (.array (earlier ++ tree' :: later))
      have given := Json.Tree.slot_of_field names_key isKnown found
      rw [position] at found' given
      obtain ⟨info_read, results_read⟩ := read
      cases given
      rw [Json.Tree.Field.lenient_array] at results_read
      have results_read' := list?_modify (afterLoss Candidate.lose · loss?)
        (fun _ decodes => loses.ofTree? decodes) results_read
      have read' : Read _ { page with
          results := page.results.modify earlier.length (afterLoss Candidate.lose · loss?) } :=
        .fields info_read ((Json.Tree.Field.lenient_array (Json.Tree.list? _) [] _).trans results_read')
      have same : afterLoss lose page (loss?.map (.ofRecord earlier.length)) =
          { page with
            results := page.results.modify earlier.length (afterLoss Candidate.lose · loss?) } := by
        cases loss? with
        | some loss => rfl
        | none =>
            have unchanged : page.results.modify earlier.length (afterLoss Candidate.lose · none) =
                page.results := List.modify_id _ _
            rw [unchanged]
            rfl
      exact same ▸ ofTree?_eq_some.mpr ⟨_, found', read'⟩

/-- What a page loses one after the other. -/
inductive LosesAll : List Loss → Json.Tree → Json.Tree → Prop
  | refl (tree : Json.Tree) : LosesAll [] tree tree
  | snoc {losses : List Loss} {loss? : Option Loss} {tree between tree' : Json.Tree}
      (earlier : LosesAll losses tree between) (loses : Loses loss? between tree') :
      LosesAll (losses ++ loss?.toList) tree tree'

variable {losses : List Loss} {tree tree' : Json.Tree} {page : SourcePage}

theorem LosesAll.legible (loses : LosesAll losses tree tree') (legible : tree.Legible) :
    tree'.Legible := by
  induction loses with
  | refl => exact legible
  | snoc _ loses ih => exact loses.legible (ih legible)

theorem LosesAll.ofTree? (loses : LosesAll losses tree tree')
    (decodes : SourcePage.ofTree? tree = some page) :
    SourcePage.ofTree? tree' = some (losses.foldl lose page) := by
  induction loses with
  | refl => exact decodes
  | @snoc losses loss? _ _ _ _ loses ih =>
      rw [loses.ofTree? (ih decodes), List.foldl_append]
      cases loss? <;> rfl

/-- What is lost in the record in this place. -/
def Loss.of? (index : Nat) : Loss → Option Candidate.Loss
  | .ofRecord other loss => if other = index then some loss else none
  | _ => none

def lossesOf (losses : List Loss) (index : Nat) : List Candidate.Loss :=
  losses.filterMap (Loss.of? index)

/-- What there is of the record in this place after all losses. -/
def thinned (losses : List Loss) (index : Nat) (candidate : Candidate) : Candidate :=
  (lossesOf losses index).foldl Candidate.lose candidate

theorem results_loseAll (losses : List Loss) (page : SourcePage) :
    (losses.foldl lose page).results =
      if .part .results ∈ losses then [] else page.results.mapIdx (thinned losses) := by
  induction losses generalizing page with
  | nil =>
      rw [List.foldl_nil, if_neg List.not_mem_nil]
      refine List.ext_getElem? fun index => ?_
      rw [List.getElem?_mapIdx]
      exact (Option.map_id' (x := page.results[index]?)).symm
  | cons loss rest ih =>
      rw [List.foldl_cons, ih]
      -- If the results are lost later on, it does not matter what is lost of them before.
      by_cases lost : .part .results ∈ rest
      · rw [if_pos lost, if_pos (.tail _ lost)]
      · rw [if_neg lost]
        cases loss with
        | part part =>
            cases part with
            | info => exact (if_neg (by simpa using lost)).symm
            | results => exact (if_pos (.head _)).symm
        | ofInfo part => exact (if_neg (by simpa using lost)).symm
        | ofRecord place loss =>
            rw [if_neg (by simpa using lost)]
            refine List.ext_getElem? fun index => ?_
            rw [List.getElem?_mapIdx, List.getElem?_mapIdx, lose, List.getElem?_modify,
              Option.map_eq_map, Option.map_map]
            refine congrArg (Option.map · _) (funext fun candidate => ?_)
            by_cases same : place = index
            · simp [thinned, lossesOf, Loss.of?, same]
            · simp [thinned, lossesOf, Loss.of?, same]

/-- Whether the record in this place is still admitted. -/
def survives (losses : List Loss) (record : Candidate × Nat) : Bool :=
  record.1.isAdmitted && (lossesOf losses record.2).all fun loss => !loss.isVital

theorem admitted_loseAll (losses : List Loss) (page : SourcePage) :
    Candidate.admitted (losses.foldl lose page).results =
      if .part .results ∈ losses then []
      else (page.results.zipIdx.filter (survives losses)).map fun record =>
        (thinned losses record.2 record.1).toCharacter := by
  rw [results_loseAll]
  split
  · rfl
  · have same (record : Candidate × Nat) :
        (thinned losses record.2 record.1).isAdmitted = survives losses record :=
      Candidate.isAdmitted_loseAll record.1 _
    rw [List.mapIdx_eq_zipIdx_map, Candidate.admitted, List.filter_map, List.map_map]
    refine congrArg (List.map _) (List.filter_congr fun record _ => same record)

/-- Whatever fields a page loses, set to `null` or deleted, and whatever unknown fields it has more,
it is still read, as the page with the defaults of all that was lost. None of its records is admitted
that has lost its status, species, origin or the name of its origin, and all others are admitted as
before. -/
theorem ofBytes?_sparse {bytes : List UInt8} (reads : Json.Tree.ofBytes bytes = some tree)
    (decodes : ofBytes? bytes = some page) (loses : LosesAll losses tree tree') :
    (∃ text, Json.Tree.ofBytes text = some tree') ∧
    (∀ text, Json.Tree.ofBytes text = some tree' →
      ofBytes? text = some (losses.foldl lose page)) ∧
    Candidate.admitted (losses.foldl lose page).results =
      if .part .results ∈ losses then []
      else (page.results.zipIdx.filter (survives losses)).map fun record =>
        (thinned losses record.2 record.1).toCharacter := by
  have legible : tree.Legible := Json.Tree.legible_iff.mpr ⟨bytes, reads⟩
  rw [ofBytes?, Json.decode, reads, Option.bind_some] at decodes
  refine ⟨Json.Tree.legible_iff.mp (loses.legible legible), fun text same => ?_,
    admitted_loseAll losses page⟩
  rw [ofBytes?, Json.decode, same, Option.bind_some]
  exact loses.ofTree? decodes

/-! A page with one record that loses its status. -/

def aliveRecord : Json.Tree :=
  .object ((Json.Tree.present Candidate.fieldNames
    [some (.number (.ofInt 3)), none, some (.string (Json.Piece.ofText "Alive")), none, none, none,
      none]).map Json.Tree.underText)

def alivePage : Json.Tree :=
  .object ((Json.Tree.present ["info", "results"] [none, some (.array [aliveRecord])]).map
    Json.Tree.underText)

theorem legible_alivePage : alivePage.Legible := by
  have record : aliveRecord.Legible := by
    refine .of_fields (List.forall_mem_cons.mpr ⟨⟨Json.Piece.legible_ofText "id", ?_⟩,
      List.forall_mem_singleton.mpr ⟨Json.Piece.legible_ofText "status", ?_⟩⟩)
    · exact .number (Json.Numeral.legible_ofInt 3)
    · exact .string (Json.Piece.legible_ofText "Alive")
  exact .of_fields (List.forall_mem_singleton.mpr
    ⟨Json.Piece.legible_ofText "results", .array (List.forall_mem_singleton.mpr record)⟩)

theorem ofTree?_alivePage : ofTree? alivePage = some ⟨{}, [{ id := 3, status := "Alive" }]⟩ := by
  have record : Candidate.ofTree? aliveRecord = some { id := 3, status := "Alive" } := by
    have distinct : Candidate.fieldNames.Nodup := by decide
    have status : Json.Tree.nullable? Json.Tree.text? (.string (Json.Piece.ofText "Alive")) =
        some (some "Alive") :=
      congrArg (Option.map some) (Json.Piece.text?_ofText "Alive")
    exact Candidate.ofTree?_eq_some.mpr ⟨_, Json.Tree.fields?_present distinct rfl,
      .fields (by decide) rfl (Json.Tree.Field.lenient_given status "") rfl rfl rfl rfl⟩
  have distinct : ["info", "results"].Nodup := by decide
  have results : [aliveRecord].mapM Candidate.ofTree? = some [{ id := 3, status := "Alive" }] := by
    rw [List.mapM_cons, record]
    rfl
  exact ofTree?_eq_some.mpr ⟨_, Json.Tree.fields?_present distinct rfl, .fields rfl
    ((Json.Tree.Field.lenient_array (Json.Tree.list? _) [] _).trans results)⟩

theorem ofBytes?_sparse_status :
    ∃ record : Json.Tree,
      LosesAll [.ofRecord 0 (.part .status)] alivePage
        (.object [(Json.Piece.ofText "results", .array [record])]) ∧
      ∀ text, Json.Tree.ofBytes text =
          some (.object [(Json.Piece.ofText "results", .array [record])]) →
        ofBytes? text = some ⟨{}, [{ id := 3 }]⟩ := by
  let record : Json.Tree := .object [(Json.Piece.ofText "id", .number (.ofInt 3))]
  have deletes : Json.Tree.Revises Candidate.fieldNames (some ("status", none))
      [(Json.Piece.ofText "id", .number (.ofInt 3)),
        (Json.Piece.ofText "status", .string (Json.Piece.ofText "Alive"))]
      [(Json.Piece.ofText "id", .number (.ofInt 3))] :=
    @Json.Tree.Revises.delete Candidate.fieldNames [(Json.Piece.ofText "id", .number (.ofInt 3))] []
      (Json.Piece.ofText "status") "status" _ (Json.Piece.text?_ofText "status") (by decide)
  have loses : LosesAll [.ofRecord 0 (.part .status)] alivePage
      (.object [(Json.Piece.ofText "results", .array [record])]) :=
    .snoc (.refl _) (@Loses.inRecord [] [] (Json.Piece.ofText "results") [] []
      (some (.part .status)) aliveRecord record (Json.Piece.text?_ofText "results")
      (@Candidate.Loses.own (some .status) _ _
        (.delete Candidate.Part.status deletes)))
  have reads := Json.Tree.ofBytes_written legible_alivePage
  have decodes : ofBytes? alivePage.written = some ⟨{}, [{ id := 3, status := "Alive" }]⟩ := by
    rw [ofBytes?, Json.decode, reads]
    exact ofTree?_alivePage
  exact ⟨record, loses, (ofBytes?_sparse reads decodes loses).2.1⟩

end SourcePage

end Roster
