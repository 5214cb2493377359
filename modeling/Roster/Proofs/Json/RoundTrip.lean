import Roster.Proofs.Json.Fields
import Roster.Proofs.Json.Rendering

namespace Roster.Json

/-! What is written for a value of a type is read as that value. -/

/-- The text of the value is the text of the tree. -/
structure Writes (json : Json) (tree : Tree) : Prop where
  legible : tree.Legible
  encoded : json.encoded = tree.written

/-- The value is read from what is written as this one. -/
def ReadsAs {α : Type} (json : Json) (value : Tree → Option α) (a : α) : Prop :=
  ∃ tree, json.Writes tree ∧ value tree = some a

theorem ReadsAs.decode {α : Type} {json : Json} {value : Tree → Option α} {a : α}
    (reads : json.ReadsAs value a) : decode value json.render.toUTF8.toList = some a := by
  obtain ⟨tree, writes, found⟩ := reads
  rw [Json.decode, toUTF8_render, writes.encoded, Tree.ofBytes_written writes.legible]
  exact found

namespace Writes

theorem null : Json.null.Writes .null := ⟨.null, by decide⟩

theorem bool (value : Bool) : (Json.bool value).Writes (.bool value) :=
  ⟨.bool value, by cases value <;> decide⟩

theorem int (n : Int) : (Json.int n).Writes (.number (.ofInt n)) :=
  ⟨.number (Numeral.legible_ofInt n), (Numeral.written_ofInt n).symm⟩

theorem str (text : String) : (Json.str text).Writes (.string (Piece.ofText text)) :=
  ⟨.string (Piece.legible_ofText text), (Piece.quoted_ofText text).symm⟩

theorem encoded_items {items : List Json} {trees : List Tree}
    (writes : List.Forall₂ Writes items trees) :
    (itemChars items).flatMap String.utf8EncodeChar = Tree.itemsWritten trees := by
  induction writes with
  | nil => decide
  | @cons json tree items trees first later ih =>
      cases later with
      | nil =>
          rw [itemChars, Tree.itemsWritten, List.flatMap_append]
          exact congrArg (· ++ [0x5D]) first.encoded
      | cons =>
          rw [itemChars, Tree.itemsWritten, List.flatMap_append, List.flatMap_cons, ih]
          · exact congrArg (· ++ _) first.encoded
          · exact List.cons_ne_nil _ _
          · exact List.cons_ne_nil _ _

theorem arr {items : List Json} {trees : List Tree} (writes : List.Forall₂ Writes items trees) :
    (Json.arr items).Writes (.array trees) where
  legible := by
    refine .array fun tree member => ?_
    induction writes with
    | nil => cases member
    | cons first _ ih =>
        rcases List.mem_cons.mp member with rfl | later
        · exact first.legible
        · exact ih later
  encoded := congrArg (0x5B :: ·) (encoded_items writes)

/-- A field of an object is written under its name. -/
def field (named : String × Json) (tree : List Piece × Tree) : Prop :=
  tree.1 = Piece.ofText named.1 ∧ named.2.Writes tree.2

theorem encoded_fields {fields : List (String × Json)} {trees : List (List Piece × Tree)}
    (writes : List.Forall₂ field fields trees) :
    (fieldChars fields).flatMap String.utf8EncodeChar = Tree.fieldsWritten trees := by
  induction writes with
  | nil => decide
  | @cons named tree fields trees first later ih =>
      obtain ⟨name, json⟩ := named
      obtain ⟨key, tree⟩ := tree
      obtain ⟨rfl, written⟩ := first
      have encoded : json.chars.flatMap String.utf8EncodeChar = tree.written := written.encoded
      cases later with
      | nil =>
          rw [fieldChars, Tree.fieldsWritten, Piece.quoted_ofText, List.append_assoc,
            List.cons_append, List.flatMap_append, List.flatMap_cons, List.flatMap_append, encoded]
          rfl
      | cons =>
          rw [fieldChars, Tree.fieldsWritten, Piece.quoted_ofText, List.append_assoc,
            List.cons_append, List.flatMap_append, List.flatMap_cons, List.flatMap_append,
            List.flatMap_cons, encoded, ih]
          · rfl
          · exact List.cons_ne_nil _ _
          · exact List.cons_ne_nil _ _

theorem obj {fields : List (String × Json)} {trees : List (List Piece × Tree)}
    (writes : List.Forall₂ field fields trees) : (Json.obj fields).Writes (.object trees) where
  legible := by
    have each (tree : List Piece × Tree) (member : tree ∈ trees) :
        (∀ piece ∈ tree.1, piece.Legible) ∧ tree.2.Legible := by
      induction writes with
      | nil => cases member
      | cons first _ ih =>
          rcases List.mem_cons.mp member with rfl | later
          · exact ⟨first.1 ▸ Piece.legible_ofText _, first.2.legible⟩
          · exact ih later
    exact .object (fun tree member => (each tree member).1) fun tree member => (each tree member).2
  encoded := congrArg (0x7B :: ·) (encoded_fields writes)

end Writes

/-- A field under a written name. -/
def Tree.underText (field : String × Tree) : List Piece × Tree := (Piece.ofText field.1, field.2)

theorem Tree.known_underText {names : List String} {fields : List (String × Tree)}
    (among : ∀ field ∈ fields, field.1 ∈ names) :
    Tree.known names (fields.map Tree.underText) = fields := by
  induction fields with
  | nil => rfl
  | cons field rest ih =>
      have first := Tree.named?_of_mem (Piece.text?_ofText field.1) (among field (.head _)) field.2
      rw [List.map_cons, Tree.known]
      refine (List.filterMap_cons_some first).trans ?_
      exact congrArg (field :: ·) (ih fun field member => among field (.tail _ member))

/-- The fields of an object are found where they belong, and those that are left out are missed. -/
theorem Tree.fields?_present {names : List String} (distinct : names.Nodup)
    {trees : List (Option Tree)} (sized : names.length = trees.length) :
    (Tree.object ((Tree.present names trees).map Tree.underText)).fields? names =
      some (trees.map Tree.Field.ofOption) := by
  have among (field : String × Tree) (member : field ∈ Tree.present names trees) :
      field.1 ∈ names :=
    (Tree.present_sublist names trees).subset (List.mem_map_of_mem member)
  have known := Tree.known_underText among
  refine Tree.fields?_object.mpr ⟨⟨?_, ?_⟩, ?_⟩
  · intro field member
    obtain ⟨named, -, rfl⟩ := List.mem_map.mp member
    exact Option.isSome_iff_exists.mpr ⟨_, Piece.text?_ofText named.1⟩
  · rw [known]
    exact distinct.sublist (Tree.present_sublist names trees)
  · have found := congrArg (List.map Tree.Field.ofOption) (Tree.lookup_present distinct sized)
    rw [List.map_map] at found
    simp only [Tree.value?, known]
    exact found.symm

theorem Writes.present {names : List String} {jsons : List (Option Json)}
    {trees : List (Option Tree)} (writes : List.Forall₂ (Option.Rel Writes) jsons trees) :
    List.Forall₂ Writes.field (Tree.present names jsons)
      ((Tree.present names trees).map Tree.underText) := by
  induction writes generalizing names with
  | nil => cases names <;> exact .nil
  | cons first _ ih =>
      cases names with
      | nil => exact .nil
      | cons name names =>
          cases first with
          | none => exact ih
          | some writes => exact .cons ⟨rfl, writes⟩ ih

namespace ReadsAs

variable {α : Type} {json : Json} {value : Tree → Option α} {a : α}

/-- What is no `null` is read as something that may be missing, too. -/
theorem nullable (reads : json.ReadsAs value a) (strict : value .null = none) :
    json.ReadsAs (Tree.nullable? value) (some a) := by
  obtain ⟨tree, writes, found⟩ := reads
  refine ⟨tree, writes, ?_⟩
  cases tree with
  | null => cases strict.symm.trans found
  | _ => exact congrArg (Option.map some) found

theorem bool (b : Bool) : (Json.bool b).ReadsAs Tree.bool? b := ⟨_, .bool b, rfl⟩

theorem text (text : String) : (Json.str text).ReadsAs Tree.text? text :=
  ⟨_, .str text, Piece.text?_ofText text⟩

theorem int64 (n : Int64) : (Json.int n.toInt).ReadsAs Tree.int64? n := by
  have least := n.minValue_le_toInt
  have most := n.toInt_le
  refine ⟨_, .int n.toInt, ?_⟩
  have read : (Numeral.ofInt n.toInt).int? = some n.toInt := by
    refine Numeral.int?_ofInt ?_ ?_
    · exact least
    · exact lt_of_le_of_lt most (by decide)
  rw [Tree.int64?, Tree.int?, read, Option.bind_some, if_pos ⟨least, most⟩, Int64.ofInt_toInt]

theorem count {n : Nat} (small : n < UInt64.size) : (Json.int n).ReadsAs Tree.count? n := by
  refine ⟨_, .int n, ?_⟩
  have read : (Numeral.ofInt n).int? = some (n : Int) :=
    Numeral.int?_ofInt (by omega) (Int.ofNat_lt.mpr small)
  rw [Tree.count?, Tree.uint64?, Tree.int?, read, Option.bind_some, if_pos (Int.natCast_nonneg n),
    Option.map_some, Int.toNat_natCast]
  exact congrArg some (Nat.mod_eq_of_lt small)

theorem uint64 (n : UInt64) : (Json.int n.toNat).ReadsAs Tree.uint64? n := by
  refine ⟨_, .int n.toNat, ?_⟩
  have read : (Numeral.ofInt n.toNat).int? = some (n.toNat : Int) :=
    Numeral.int?_ofInt (by omega) (Int.ofNat_lt.mpr n.toNat_lt)
  rw [Tree.uint64?, Tree.int?, read, Option.bind_some, if_pos (Int.natCast_nonneg _),
    Int.toNat_natCast, UInt64.ofNat_toNat]

theorem uint32 (n : UInt32) : (Json.int n.toNat).ReadsAs Tree.uint32? n := by
  refine ⟨_, .int n.toNat, ?_⟩
  have small : (n.toNat : Int) < UInt32.size := Int.ofNat_lt.mpr n.toNat_lt
  have read : (Numeral.ofInt n.toNat).int? = some (n.toNat : Int) :=
    Numeral.int?_ofInt (by omega) (lt_trans small (by decide))
  rw [Tree.uint32?, Tree.int?, read, Option.bind_some, if_pos ⟨Int.natCast_nonneg _, small⟩,
    Int.toNat_natCast, UInt32.ofNat_toNat]

theorem option {toJson : α → Json} (reads : ∀ a, (toJson a).ReadsAs value a)
    (strict : value .null = none) (a? : Option α) :
    (ofOption toJson a?).ReadsAs (Tree.nullable? value) a? := by
  cases a? with
  | none => exact ⟨_, .null, rfl⟩
  | some a => exact (reads a).nullable strict

theorem list {toJson : α → Json} (reads : ∀ a, (toJson a).ReadsAs value a) (values : List α) :
    (Json.arr (values.map toJson)).ReadsAs (Tree.list? value) values := by
  suffices items : ∃ trees, List.Forall₂ Writes (values.map toJson) trees ∧
      trees.mapM value = some values by
    obtain ⟨trees, writes, read⟩ := items
    exact ⟨_, .arr writes, read⟩
  induction values with
  | nil => exact ⟨[], .nil, rfl⟩
  | cons a rest ih =>
      obtain ⟨tree, first, found⟩ := reads a
      obtain ⟨trees, later, read⟩ := ih
      refine ⟨tree :: trees, .cons first later, ?_⟩
      rw [List.mapM_cons, found, read]
      rfl

theorem object {names : List String} (distinct : names.Nodup) {jsons : List (Option Json)}
    {trees : List (Option Tree)} (sized : names.length = trees.length)
    (writes : List.Forall₂ (Option.Rel Writes) jsons trees) :
    (Json.obj (Tree.present names jsons)).ReadsAs (Tree.fields? names)
      (trees.map Tree.Field.ofOption) :=
  ⟨_, .obj (Writes.present writes), Tree.fields?_present distinct sized⟩

end ReadsAs

end Roster.Json
