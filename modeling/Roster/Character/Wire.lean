import Roster.Character
import Roster.Json.Decode

namespace Roster

/-! Characters, candidates and source pages as JSON. Of a candidate only the id is needed; whatever
else is missing or `null` takes its default. -/

namespace Character

def toJson (character : Character) : Json :=
  .obj ([("id", .int character.id.toInt), ("name", .str character.name),
      ("status", .str character.status), ("species", .str character.species),
      ("origin", .str character.origin)] ++
    (match character.image with
      | some image => [("image", .str image)]
      | none => []) ++
    (match character.url with
      | some url => [("url", .str url)]
      | none => []))

def fieldNames : List String := ["id", "name", "status", "species", "origin", "image", "url"]

def ofTree? (tree : Json.Tree) : Option Character := do
  match ← tree.fields? fieldNames with
  | [id, name, status, species, origin, image, url] =>
    return {
      id := ← id.required Json.Tree.int64?
      name := ← name.required Json.Tree.text?
      status := ← status.required Json.Tree.text?
      species := ← species.required Json.Tree.text?
      origin := ← origin.required Json.Tree.text?
      image := ← image.omissible Json.Tree.text?
      url := ← url.omissible Json.Tree.text? }
  | _ => none

end Character

namespace Candidate

namespace Origin

def toJson (origin : Origin) : Json :=
  .obj [("name", .str origin.name), ("url", Json.ofText? origin.url)]

def ofTree? (tree : Json.Tree) : Option Origin := do
  match ← tree.fields? ["name", "url"] with
  | [name, url] =>
    return {
      name := ← name.lenient Json.Tree.text? ""
      url := ← url.omissible Json.Tree.text? }
  | _ => none

end Origin

def toJson (candidate : Candidate) : Json :=
  .obj [("id", .int candidate.id.toInt), ("name", .str candidate.name),
    ("status", .str candidate.status), ("species", .str candidate.species),
    ("origin", candidate.origin.toJson), ("image", Json.ofText? candidate.image),
    ("url", Json.ofText? candidate.url)]

def fieldNames : List String := ["id", "name", "status", "species", "origin", "image", "url"]

def ofTree? (tree : Json.Tree) : Option Candidate := do
  match ← tree.fields? fieldNames with
  | [id, name, status, species, origin, image, url] =>
    return {
      id := ← id.required Json.Tree.int64?
      name := ← name.lenient Json.Tree.text? ""
      status := ← status.lenient Json.Tree.text? ""
      species := ← species.lenient Json.Tree.text? ""
      origin := ← origin.lenient Origin.ofTree? {}
      image := ← image.omissible Json.Tree.text?
      url := ← url.omissible Json.Tree.text? }
  | _ => none

end Candidate

namespace PageInfo

def toJson (info : PageInfo) : Json :=
  .obj [("count", Json.ofOption (fun n => .int n.toNat) info.count),
    ("pages", Json.ofOption (fun n => .int n.toNat) info.pages),
    ("next", Json.ofText? info.next), ("prev", Json.ofText? info.prev)]

def ofTree? (tree : Json.Tree) : Option PageInfo := do
  match ← tree.fields? ["count", "pages", "next", "prev"] with
  | [count, pages, next, prev] =>
    return {
      count := ← count.omissible Json.Tree.uint64?
      pages := ← pages.omissible Json.Tree.uint32?
      next := ← next.omissible Json.Tree.text?
      prev := ← prev.omissible Json.Tree.text? }
  | _ => none

end PageInfo

namespace SourcePage

def toJson (page : SourcePage) : Json :=
  .obj [("info", page.info.toJson), ("results", .arr (page.results.map Candidate.toJson))]

def ofTree? (tree : Json.Tree) : Option SourcePage := do
  match ← tree.fields? ["info", "results"] with
  | [info, results] =>
    return {
      info := ← info.lenient PageInfo.ofTree? {}
      results := ← results.lenient (Json.Tree.list? Candidate.ofTree?) [] }
  | _ => none

def ofBytes? (bytes : List UInt8) : Option SourcePage := Json.decode ofTree? bytes

end SourcePage

end Roster
