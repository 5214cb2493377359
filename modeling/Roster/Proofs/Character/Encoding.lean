import Roster.Character.Wire
import Roster.Proofs.Json.RoundTrip

namespace Roster

/-! Characters, candidates and source pages are read as they are written. -/

open Json (ReadsAs)

namespace Character

theorem toJson_eq (character : Character) :
    character.toJson = .obj (Json.Tree.present fieldNames
      [some (.int character.id.toInt), some (.str character.name), some (.str character.status),
        some (.str character.species), some (.str character.origin), character.image.map .str,
        character.url.map .str]) := by
  obtain ⟨id, name, status, species, origin, image, url⟩ := character
  cases image <;> cases url <;> rfl

/-- What is left out if it is missing, and is read all the same. -/
theorem omissible_text (text? : Option String) :
    ∃ tree?, Option.Rel Json.Writes (text?.map .str) tree? ∧
      (Json.Tree.Field.ofOption tree?).omissible Json.Tree.text? = some text? := by
  cases text? with
  | none => exact ⟨none, .none, rfl⟩
  | some text =>
      obtain ⟨tree, writes, read⟩ := (ReadsAs.text text).nullable rfl
      exact ⟨some tree, .some writes, read⟩

theorem toJson_readsAs (character : Character) :
    character.toJson.ReadsAs ofTree? character := by
  obtain ⟨id, id_writes, id_read⟩ := ReadsAs.int64 character.id
  obtain ⟨name, name_writes, name_read⟩ := ReadsAs.text character.name
  obtain ⟨status, status_writes, status_read⟩ := ReadsAs.text character.status
  obtain ⟨species, species_writes, species_read⟩ := ReadsAs.text character.species
  obtain ⟨origin, origin_writes, origin_read⟩ := ReadsAs.text character.origin
  obtain ⟨image, image_writes, image_read⟩ := omissible_text character.image
  obtain ⟨url, url_writes, url_read⟩ := omissible_text character.url
  have distinct : fieldNames.Nodup := by decide
  obtain ⟨tree, writes, slots⟩ := ReadsAs.object distinct
    (by rfl) (.cons (.some id_writes) (.cons (.some name_writes) (.cons (.some status_writes)
      (.cons (.some species_writes) (.cons (.some origin_writes) (.cons image_writes
        (.cons url_writes .nil)))))))
  refine ⟨tree, character.toJson_eq ▸ writes, ?_⟩
  rw [ofTree?, slots]
  simp only [List.map_cons, List.map_nil, Option.bind_eq_bind, Option.bind_some, image_read, url_read]
  simp only [Json.Tree.Field.ofOption, Json.Tree.Field.required, id_read, name_read, status_read,
    species_read, origin_read, Option.bind_some, Option.pure_def]

end Character

namespace Candidate

namespace Origin

/-- What the fields of an origin are read as. -/
inductive Read : List Json.Tree.Field → Origin → Prop
  | fields {name url : Json.Tree.Field} {origin : Origin}
      (name_read : name.lenient Json.Tree.text? "" = some origin.name)
      (url_read : url.omissible Json.Tree.text? = some origin.url) : Read [name, url] origin

theorem ofTree?_eq_some {tree : Json.Tree} {origin : Origin} :
    ofTree? tree = some origin ↔
      ∃ slots, tree.fields? ["name", "url"] = some slots ∧ Read slots origin := by
  rw [ofTree?]
  constructor
  · intro found
    obtain ⟨slots, isSlots, read⟩ := Option.bind_eq_some_iff.mp found
    refine ⟨slots, isSlots, ?_⟩
    split at read
    · simp only [Option.bind_eq_bind, Option.bind_eq_some_iff, Option.pure_def,
        Option.some.injEq] at read
      obtain ⟨_, name_read, _, url_read, rfl⟩ := read
      exact .fields name_read url_read
    · cases read
  · rintro ⟨slots, isSlots, ⟨name_read, url_read⟩⟩
    rw [isSlots]
    simp only [Option.bind_eq_bind, Option.bind_some, name_read, url_read, Option.pure_def]

theorem toJson_readsAs (origin : Origin) : origin.toJson.ReadsAs ofTree? origin := by
  obtain ⟨name, name_writes, name_read⟩ := (ReadsAs.text origin.name).nullable rfl
  obtain ⟨url, url_writes, url_read⟩ := ReadsAs.option ReadsAs.text rfl origin.url
  have distinct : ["name", "url"].Nodup := by decide
  obtain ⟨tree, writes, slots⟩ := ReadsAs.object distinct (by rfl)
    (.cons (.some name_writes) (.cons (.some url_writes) .nil))
  exact ⟨tree, writes, ofTree?_eq_some.mpr ⟨_, slots,
    .fields (Json.Tree.Field.lenient_given name_read _) url_read⟩⟩

end Origin

inductive Read : List Json.Tree.Field → Candidate → Prop
  | fields {id name status species origin image url : Json.Tree.Field} {candidate : Candidate}
      (id_read : id.required Json.Tree.int64? = some candidate.id)
      (name_read : name.lenient Json.Tree.text? "" = some candidate.name)
      (status_read : status.lenient Json.Tree.text? "" = some candidate.status)
      (species_read : species.lenient Json.Tree.text? "" = some candidate.species)
      (origin_read : origin.lenient Origin.ofTree? {} = some candidate.origin)
      (image_read : image.omissible Json.Tree.text? = some candidate.image)
      (url_read : url.omissible Json.Tree.text? = some candidate.url) :
      Read [id, name, status, species, origin, image, url] candidate

theorem ofTree?_eq_some {tree : Json.Tree} {candidate : Candidate} :
    ofTree? tree = some candidate ↔
      ∃ slots, tree.fields? fieldNames = some slots ∧ Read slots candidate := by
  rw [ofTree?]
  constructor
  · intro found
    obtain ⟨slots, isSlots, read⟩ := Option.bind_eq_some_iff.mp found
    refine ⟨slots, isSlots, ?_⟩
    split at read
    · simp only [Option.bind_eq_bind, Option.bind_eq_some_iff, Option.pure_def,
        Option.some.injEq] at read
      obtain ⟨_, id_read, _, name_read, _, status_read, _, species_read, _, origin_read, _,
        image_read, _, url_read, rfl⟩ := read
      exact .fields id_read name_read status_read species_read origin_read image_read url_read
    · cases read
  · rintro ⟨slots, isSlots,
      ⟨id_read, name_read, status_read, species_read, origin_read, image_read, url_read⟩⟩
    rw [isSlots]
    simp only [Option.bind_eq_bind, Option.bind_some, id_read, name_read, status_read, species_read,
      origin_read, image_read, url_read, Option.pure_def]

theorem toJson_readsAs (candidate : Candidate) :
    candidate.toJson.ReadsAs ofTree? candidate := by
  obtain ⟨id, id_writes, id_read⟩ := ReadsAs.int64 candidate.id
  obtain ⟨name, name_writes, name_read⟩ := (ReadsAs.text candidate.name).nullable rfl
  obtain ⟨status, status_writes, status_read⟩ := (ReadsAs.text candidate.status).nullable rfl
  obtain ⟨species, species_writes, species_read⟩ := (ReadsAs.text candidate.species).nullable rfl
  obtain ⟨origin, origin_writes, origin_read⟩ := candidate.origin.toJson_readsAs.nullable rfl
  obtain ⟨image, image_writes, image_read⟩ := ReadsAs.option ReadsAs.text rfl candidate.image
  obtain ⟨url, url_writes, url_read⟩ := ReadsAs.option ReadsAs.text rfl candidate.url
  have distinct : fieldNames.Nodup := by decide
  obtain ⟨tree, writes, slots⟩ := ReadsAs.object distinct (by rfl)
    (.cons (.some id_writes) (.cons (.some name_writes) (.cons (.some status_writes)
      (.cons (.some species_writes) (.cons (.some origin_writes) (.cons (.some image_writes)
        (.cons (.some url_writes) .nil)))))))
  exact ⟨tree, writes, ofTree?_eq_some.mpr ⟨_, slots, .fields id_read
    (Json.Tree.Field.lenient_given name_read _) (Json.Tree.Field.lenient_given status_read _)
    (Json.Tree.Field.lenient_given species_read _) (Json.Tree.Field.lenient_given origin_read _)
    image_read url_read⟩⟩

end Candidate

namespace PageInfo

inductive Read : List Json.Tree.Field → PageInfo → Prop
  | fields {count pages next prev : Json.Tree.Field} {info : PageInfo}
      (count_read : count.omissible Json.Tree.uint64? = some info.count)
      (pages_read : pages.omissible Json.Tree.uint32? = some info.pages)
      (next_read : next.omissible Json.Tree.text? = some info.next)
      (prev_read : prev.omissible Json.Tree.text? = some info.prev) :
      Read [count, pages, next, prev] info

theorem ofTree?_eq_some {tree : Json.Tree} {info : PageInfo} :
    ofTree? tree = some info ↔
      ∃ slots, tree.fields? ["count", "pages", "next", "prev"] = some slots ∧ Read slots info := by
  rw [ofTree?]
  constructor
  · intro found
    obtain ⟨slots, isSlots, read⟩ := Option.bind_eq_some_iff.mp found
    refine ⟨slots, isSlots, ?_⟩
    split at read
    · simp only [Option.bind_eq_bind, Option.bind_eq_some_iff, Option.pure_def,
        Option.some.injEq] at read
      obtain ⟨_, count_read, _, pages_read, _, next_read, _, prev_read, rfl⟩ := read
      exact .fields count_read pages_read next_read prev_read
    · cases read
  · rintro ⟨slots, isSlots, ⟨count_read, pages_read, next_read, prev_read⟩⟩
    rw [isSlots]
    simp only [Option.bind_eq_bind, Option.bind_some, count_read, pages_read, next_read, prev_read,
      Option.pure_def]

theorem toJson_readsAs (info : PageInfo) : info.toJson.ReadsAs ofTree? info := by
  obtain ⟨count, count_writes, count_read⟩ := ReadsAs.option ReadsAs.uint64 rfl info.count
  obtain ⟨pages, pages_writes, pages_read⟩ := ReadsAs.option ReadsAs.uint32 rfl info.pages
  obtain ⟨next, next_writes, next_read⟩ := ReadsAs.option ReadsAs.text rfl info.next
  obtain ⟨prev, prev_writes, prev_read⟩ := ReadsAs.option ReadsAs.text rfl info.prev
  have distinct : ["count", "pages", "next", "prev"].Nodup := by decide
  obtain ⟨tree, writes, slots⟩ := ReadsAs.object distinct (by rfl)
    (.cons (.some count_writes) (.cons (.some pages_writes) (.cons (.some next_writes)
      (.cons (.some prev_writes) .nil))))
  exact ⟨tree, writes, ofTree?_eq_some.mpr
    ⟨_, slots, .fields count_read pages_read next_read prev_read⟩⟩

end PageInfo

namespace SourcePage

inductive Read : List Json.Tree.Field → SourcePage → Prop
  | fields {info results : Json.Tree.Field} {page : SourcePage}
      (info_read : info.lenient PageInfo.ofTree? {} = some page.info)
      (results_read : results.lenient (Json.Tree.list? Candidate.ofTree?) [] = some page.results) :
      Read [info, results] page

theorem ofTree?_eq_some {tree : Json.Tree} {page : SourcePage} :
    ofTree? tree = some page ↔
      ∃ slots, tree.fields? ["info", "results"] = some slots ∧ Read slots page := by
  rw [ofTree?]
  constructor
  · intro found
    obtain ⟨slots, isSlots, read⟩ := Option.bind_eq_some_iff.mp found
    refine ⟨slots, isSlots, ?_⟩
    split at read
    · simp only [Option.bind_eq_bind, Option.bind_eq_some_iff, Option.pure_def,
        Option.some.injEq] at read
      obtain ⟨_, info_read, _, results_read, rfl⟩ := read
      exact .fields info_read results_read
    · cases read
  · rintro ⟨slots, isSlots, ⟨info_read, results_read⟩⟩
    rw [isSlots]
    simp only [Option.bind_eq_bind, Option.bind_some, info_read, results_read, Option.pure_def]

theorem toJson_readsAs (page : SourcePage) : page.toJson.ReadsAs ofTree? page := by
  obtain ⟨info, info_writes, info_read⟩ := page.info.toJson_readsAs.nullable rfl
  obtain ⟨results, results_writes, results_read⟩ :=
    (ReadsAs.list Candidate.toJson_readsAs page.results).nullable rfl
  have distinct : ["info", "results"].Nodup := by decide
  obtain ⟨tree, writes, slots⟩ := ReadsAs.object distinct (by rfl)
    (.cons (.some info_writes) (.cons (.some results_writes) .nil))
  exact ⟨tree, writes, ofTree?_eq_some.mpr ⟨_, slots,
    .fields (Json.Tree.Field.lenient_given info_read _)
      (Json.Tree.Field.lenient_given results_read _)⟩⟩

end SourcePage

end Roster
