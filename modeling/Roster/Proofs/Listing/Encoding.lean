import Roster.Listing.Wire
import Roster.Proofs.Character.Encoding

namespace Roster

/-! Listings are read as they are written. -/

namespace Listing

open Json (ReadsAs)

theorem Slice.toJson_readsAs {slice : Slice} (total_lt : slice.total < UInt64.size) :
    slice.toJson.ReadsAs ofTree? slice := by
  obtain ⟨records, records_writes, records_read⟩ :=
    ReadsAs.list Character.toJson_readsAs slice.records
  obtain ⟨total, total_writes, total_read⟩ := ReadsAs.count total_lt
  obtain ⟨outOfRange, outOfRange_writes, outOfRange_read⟩ := ReadsAs.bool slice.outOfRange
  have distinct : ["records", "total_count", "out_of_range"].Nodup := by decide
  obtain ⟨tree, writes, slots⟩ := ReadsAs.object distinct (by rfl)
    (.cons (.some records_writes) (.cons (.some total_writes) (.cons (.some outOfRange_writes) .nil)))
  refine ⟨tree, writes, ?_⟩
  rw [ofTree?, slots]
  simp only [List.map_cons, List.map_nil, Option.bind_eq_bind, Option.bind_some,
    Json.Tree.Field.ofOption, Json.Tree.Field.required, records_read, total_read, outOfRange_read,
    Option.pure_def]

theorem Page.toJson_readsAs {page : Page} (total_lt : page.total < UInt64.size)
    (totalPages_lt : page.totalPages < UInt64.size) : page.toJson.ReadsAs ofTree? page := by
  obtain ⟨number, number_writes, number_read⟩ := ReadsAs.uint32 page.page
  obtain ⟨size, size_writes, size_read⟩ := ReadsAs.uint32 page.size
  obtain ⟨total, total_writes, total_read⟩ := ReadsAs.count total_lt
  obtain ⟨totalPages, totalPages_writes, totalPages_read⟩ := ReadsAs.count totalPages_lt
  obtain ⟨hasPrev, hasPrev_writes, hasPrev_read⟩ := ReadsAs.bool page.hasPrev
  obtain ⟨hasNext, hasNext_writes, hasNext_read⟩ := ReadsAs.bool page.hasNext
  obtain ⟨records, records_writes, records_read⟩ :=
    ReadsAs.list Character.toJson_readsAs page.records
  have distinct : fieldNames.Nodup := by decide
  obtain ⟨tree, writes, slots⟩ := ReadsAs.object distinct (by rfl)
    (.cons (.some number_writes) (.cons (.some size_writes) (.cons (.some total_writes)
      (.cons (.some totalPages_writes) (.cons (.some hasPrev_writes) (.cons (.some hasNext_writes)
        (.cons (.some records_writes) .nil)))))))
  refine ⟨tree, writes, ?_⟩
  rw [ofTree?, slots]
  simp only [List.map_cons, List.map_nil, Option.bind_eq_bind, Option.bind_some,
    Json.Tree.Field.ofOption, Json.Tree.Field.required, number_read, size_read, total_read,
    totalPages_read, hasPrev_read, hasNext_read, records_read, Option.pure_def]

end Listing

/-- Pages of a source, characters and listings with all they hold are read from their text as they
were written, if no count is too large for the type of counts. -/
theorem decode_render :
    (∀ page : SourcePage, SourcePage.ofBytes? page.toJson.render.toUTF8.toList = some page) ∧
    (∀ character : Character,
      Json.decode Character.ofTree? character.toJson.render.toUTF8.toList = some character) ∧
    (∀ slice : Listing.Slice, slice.total < UInt64.size →
      Json.decode Listing.Slice.ofTree? slice.toJson.render.toUTF8.toList = some slice) ∧
    ∀ page : Listing.Page, page.total < UInt64.size → page.totalPages < UInt64.size →
      Json.decode Listing.Page.ofTree? page.toJson.render.toUTF8.toList = some page :=
  ⟨fun page => page.toJson_readsAs.decode, fun character => character.toJson_readsAs.decode,
    fun _ total_lt => (Listing.Slice.toJson_readsAs total_lt).decode,
    fun _ total_lt totalPages_lt => (Listing.Page.toJson_readsAs total_lt totalPages_lt).decode⟩

/-- Control characters, quotes and characters beyond the basic plane. -/
def Character.unusual : Character where
  id := -0x8000000000000000
  name := "\"Rick\"\\\n\x01\x7f"
  status := ""
  species := "😀"
  origin := "Earth (C-137)"
  image := none
  url := some "/"

theorem decode_render_unusual :
    let slice : Listing.Slice := ⟨[.unusual], 0xFFFFFFFFFFFFFFFF, false⟩
    let page : Listing.Page := ⟨1, 20, 0xFFFFFFFFFFFFFFFF, 1, false, false, [.unusual]⟩
    Json.decode Listing.Slice.ofTree? slice.toJson.render.toUTF8.toList = some slice ∧
      Json.decode Listing.Page.ofTree? page.toJson.render.toUTF8.toList = some page :=
  ⟨decode_render.2.2.1 _ (by decide), decode_render.2.2.2 _ (by decide) (by decide)⟩

end Roster
