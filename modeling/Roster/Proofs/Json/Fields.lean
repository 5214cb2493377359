import Mathlib.Data.List.Nodup
import Roster.Proofs.Json.Legibility

namespace Roster.Json.Tree

/-! What is read of the fields of an object, and what changes when one of them is set, deleted or
added. -/

def Field.ofOption : Option Tree → Field
  | some tree => .given tree
  | none => .absent

/-- Says nothing of the value of a field. -/
inductive Field.Empty : Field → Prop
  | absent : Empty .absent
  | null : Empty (.given .null)

theorem Field.Empty.lenient {α : Type} {field : Field} (empty : field.Empty)
    (value : Tree → Option α) (default : α) : field.lenient value default = some default := by
  cases empty <;> rfl

theorem Field.Empty.omissible {α : Type} {field : Field} (empty : field.Empty)
    (value : Tree → Option α) : field.omissible value = some none := by
  cases empty <;> rfl

theorem Field.lenient_object {α : Type} (value : Tree → Option α) (default : α)
    (fields : List (List Piece × Tree)) :
    (given (.object fields)).lenient value default = value (.object fields) := by
  change ((value (.object fields)).map some).map (fun a? : Option α => a?.getD default) = _
  rw [Option.map_map]
  exact Option.map_id'

theorem Field.lenient_array {α : Type} (value : Tree → Option α) (default : α)
    (items : List Tree) :
    (given (.array items)).lenient value default = value (.array items) := by
  change ((value (.array items)).map some).map (fun a? : Option α => a?.getD default) = _
  rw [Option.map_map]
  exact Option.map_id'

theorem Field.lenient_given {α : Type} {value : Tree → Option α} {tree : Tree} {a? : Option α}
    (read : nullable? value tree = some a?) (default : α) :
    (given tree).lenient value default = some (a?.getD default) :=
  congrArg (Option.map fun a? : Option α => a?.getD default) read

/-- A field with its name, if that is one of those that are known. -/
def named? (names : List String) (field : List Piece × Tree) : Option (String × Tree) :=
  (Piece.text? field.1).bind fun name => if names.contains name then some (name, field.2) else none

def known (names : List String) (fields : List (List Piece × Tree)) : List (String × Tree) :=
  fields.filterMap (named? names)

variable {names : List String} {fields before after : List (List Piece × Tree)} {key : List Piece}
  {name : String} {tree : Tree}

theorem named?_of_mem (names_key : Piece.text? key = some name) (isKnown : name ∈ names)
    (tree : Tree) : named? names (key, tree) = some (name, tree) := by
  rw [named?, names_key, Option.bind_some, if_pos (List.contains_iff_mem.mpr isKnown)]

theorem named?_of_not_mem (names_key : Piece.text? key = some name) (isKnown : name ∉ names)
    (tree : Tree) : named? names (key, tree) = none := by
  rw [named?, names_key, Option.bind_some,
    if_neg fun contains => isKnown (List.contains_iff_mem.mp contains)]

/-- All fields have names, and no known name stands twice. -/
structure WellNamed (names : List String) (fields : List (List Piece × Tree)) : Prop where
  texts : ∀ field ∈ fields, (Piece.text? field.1).isSome
  distinct : ((known names fields).map Prod.fst).Nodup

/-- The value of a known field. -/
def value? (names : List String) (fields : List (List Piece × Tree)) (name : String) : Option Tree :=
  (known names fields).lookup name

theorem known_append (left right : List (List Piece × Tree)) :
    known names (left ++ right) = known names left ++ known names right :=
  List.filterMap_append

theorem known_insert (names_key : Piece.text? key = some name) (isKnown : name ∈ names) :
    known names (before ++ (key, tree) :: after) =
      known names before ++ (name, tree) :: known names after := by
  rw [known_append]
  exact congrArg (_ ++ ·) (List.filterMap_cons_some (named?_of_mem names_key isKnown tree))

theorem known_ignore (names_key : Piece.text? key = some name) (unknown : name ∉ names) :
    known names (before ++ (key, tree) :: after) = known names (before ++ after) := by
  rw [known_append, known_append]
  exact congrArg (_ ++ ·) (List.filterMap_cons_none (named?_of_not_mem names_key unknown tree))

theorem texts_insert (names_key : Piece.text? key = some name) :
    (∀ field ∈ before ++ (key, tree) :: after, (Piece.text? field.1).isSome) ↔
      ∀ field ∈ before ++ after, (Piece.text? field.1).isSome := by
  have has_text : (Piece.text? key).isSome := names_key ▸ rfl
  simp only [List.mem_append, List.mem_cons]
  constructor
  · exact fun texts field member => texts field (member.imp_right .inr)
  · rintro texts field (member | rfl | member)
    · exact texts field (.inl member)
    · exact has_text
    · exact texts field (.inr member)

theorem value?_eq_none : value? names fields name = none ↔ name ∉ (known names fields).map Prod.fst := by
  rw [value?, List.lookup_eq_none_iff, List.mem_map, not_exists]
  refine forall_congr' fun field => ?_
  rw [not_and, bne_iff_ne, ne_comm]

theorem wellNamed_insert (names_key : Piece.text? key = some name) (isKnown : name ∈ names) :
    WellNamed names (before ++ (key, tree) :: after) ↔
      WellNamed names (before ++ after) ∧ value? names (before ++ after) name = none := by
  have distinct : ((known names (before ++ (key, tree) :: after)).map Prod.fst).Nodup ↔
      ((known names (before ++ after)).map Prod.fst).Nodup ∧
        name ∉ (known names (before ++ after)).map Prod.fst := by
    rw [known_insert names_key isKnown, known_append, List.map_append, List.map_append, List.map_cons,
      List.nodup_middle, List.nodup_cons, and_comm]
  constructor
  · rintro ⟨texts, once⟩
    exact ⟨⟨(texts_insert names_key).mp texts, (distinct.mp once).1⟩,
      value?_eq_none.mpr (distinct.mp once).2⟩
  · rintro ⟨⟨texts, once⟩, fresh⟩
    exact ⟨(texts_insert names_key).mpr texts, distinct.mpr ⟨once, value?_eq_none.mp fresh⟩⟩

theorem wellNamed_ignore (names_key : Piece.text? key = some name) (unknown : name ∉ names) :
    WellNamed names (before ++ (key, tree) :: after) ↔ WellNamed names (before ++ after) := by
  constructor
  · rintro ⟨texts, once⟩
    exact ⟨(texts_insert names_key).mp texts, known_ignore names_key unknown ▸ once⟩
  · rintro ⟨texts, once⟩
    refine ⟨(texts_insert names_key).mpr texts, ?_⟩
    rwa [known_ignore names_key unknown]

theorem value?_insert (names_key : Piece.text? key = some name) (isKnown : name ∈ names)
    (wellNamed : WellNamed names (before ++ (key, tree) :: after)) :
    value? names (before ++ (key, tree) :: after) =
      Function.update (value? names (before ++ after)) name (some tree) := by
  obtain ⟨-, fresh⟩ := (wellNamed_insert names_key isKnown).mp wellNamed
  rw [value?, known_append, List.lookup_append, Option.or_eq_none_iff] at fresh
  funext other
  rw [value?, known_insert names_key isKnown, List.lookup_append, List.lookup_cons]
  by_cases same : other = name
  · subst same
    rw [fresh.1, Function.update_self, BEq.rfl]
    rfl
  · rw [Function.update_of_ne same, value?, known_append, List.lookup_append,
      beq_false_of_ne same]

theorem namedFields_cons_known (names_key : Piece.text? key = some name) (isKnown : name ∈ names)
    (tree : Tree) (rest : List (List Piece × Tree)) :
    namedFields names ((key, tree) :: rest) = (namedFields names rest).bind fun found =>
      if found.any fun field => field.1 == name then none else some ((name, tree) :: found) := by
  rw [namedFields, names_key]
  exact Option.bind_congr fun found _ => if_pos (List.contains_iff_mem.mpr isKnown)

theorem namedFields_cons_unknown (names_key : Piece.text? key = some name)
    (unknown : name ∉ names) (tree : Tree) (rest : List (List Piece × Tree)) :
    namedFields names ((key, tree) :: rest) = namedFields names rest := by
  rw [namedFields, names_key]
  change (namedFields names rest).bind _ = _
  refine (Option.bind_congr fun found _ => ?_).trans (Option.bind_fun_some _)
  exact if_neg fun contains => unknown (List.contains_iff_mem.mp contains)

theorem any_known : ((known names fields).any fun field => field.1 == name) = true ↔
    value? names fields name ≠ none := by
  rw [Ne, value?_eq_none, not_not, List.any_eq_true, List.mem_map]
  simp only [beq_iff_eq]

/-- The fields of an object are found if all have names and no known name stands twice. -/
theorem namedFields_eq_some {found : List (String × Tree)} :
    namedFields names fields = some found ↔ WellNamed names fields ∧ found = known names fields := by
  -- The first field is looked at last, when all that it may repeat has been found.
  induction fields generalizing found with
  | nil =>
      rw [namedFields, Option.some.injEq, eq_comm]
      exact (and_iff_right ⟨List.forall_mem_nil _, List.nodup_nil⟩).symm
  | cons field rest ih =>
      obtain ⟨key, tree⟩ := field
      cases text : Piece.text? key with
      | none =>
          have failed : namedFields names ((key, tree) :: rest) = none := by
            rw [namedFields, text]
            rfl
          rw [failed]
          refine iff_of_false (fun some_found => by cases some_found) fun both => ?_
          have named := both.1.texts (key, tree) (.head _)
          rw [text] at named
          cases named
      | some name =>
          by_cases isKnown : name ∈ names
          · have wellNamed_cons : WellNamed names ((key, tree) :: rest) ↔
                WellNamed names rest ∧ value? names rest name = none :=
              @wellNamed_insert names [] rest key name tree text isKnown
            have known_cons : known names ((key, tree) :: rest) = (name, tree) :: known names rest :=
              @known_insert names [] rest key name tree text isKnown
            rw [namedFields_cons_known text isKnown, wellNamed_cons, known_cons,
              Option.bind_eq_some_iff]
            constructor
            · rintro ⟨earlier, others, chosen⟩
              obtain ⟨wellNamed, rfl⟩ := ih.mp others
              split at chosen
              · cases chosen
              · rename_i once
                cases chosen
                exact ⟨⟨wellNamed, not_not.mp fun twice => once (any_known.mpr twice)⟩, rfl⟩
            · rintro ⟨⟨wellNamed, fresh⟩, rfl⟩
              refine ⟨known names rest, ih.mpr ⟨wellNamed, rfl⟩, ?_⟩
              exact if_neg fun twice => any_known.mp twice fresh
          · have wellNamed_cons : WellNamed names ((key, tree) :: rest) ↔ WellNamed names rest :=
              @wellNamed_ignore names [] rest key name tree text isKnown
            have known_cons : known names ((key, tree) :: rest) = known names rest :=
              @known_ignore names [] rest key name tree text isKnown
            rw [namedFields_cons_unknown text isKnown, wellNamed_cons, known_cons]
            exact ih

theorem fields?_object {slots : List Field} :
    (object fields).fields? names = some slots ↔
      WellNamed names fields ∧ slots = names.map fun name => .ofOption (value? names fields name) := by
  rw [fields?]
  simp only [Option.bind_eq_bind, Option.bind_eq_some_iff, Option.pure_def, Option.some.injEq]
  constructor
  · rintro ⟨found, isFound, rfl⟩
    obtain ⟨wellNamed, rfl⟩ := namedFields_eq_some.mp isFound
    refine ⟨wellNamed, List.map_congr_left fun name _ => ?_⟩
    rw [value?]
    cases (known names fields).lookup name <;> rfl
  · rintro ⟨wellNamed, rfl⟩
    refine ⟨_, namedFields_eq_some.mpr ⟨wellNamed, rfl⟩, List.map_congr_left fun name _ => ?_⟩
    rw [value?]
    cases (known names fields).lookup name <;> rfl

/-! Objects in which all fields stand in order, or are left out. -/

/-- The values that there are, with their names. -/
def present {α : Type} : List String → List (Option α) → List (String × α)
  | name :: names, some a :: rest => (name, a) :: present names rest
  | _ :: names, none :: rest => present names rest
  | _, _ => []

theorem present_sublist {α : Type} (names : List String) (values : List (Option α)) :
    ((present names values).map Prod.fst).Sublist names := by
  fun_induction present names values with
  | case1 name names a rest ih => exact ih.cons_cons name
  | case2 name names rest ih => exact ih.cons name
  | case3 => exact List.nil_sublist _

theorem lookup_present {α : Type} (distinct : names.Nodup) {values : List (Option α)}
    (sized : names.length = values.length) :
    names.map (fun name => (present names values).lookup name) = values := by
  induction names generalizing values with
  | nil => exact (List.length_eq_zero_iff.mp sized.symm).symm
  | cons name names ih =>
      cases values with
      | nil => cases sized
      | cons value rest =>
          obtain ⟨fresh, distinct⟩ := List.nodup_cons.mp distinct
          have later := ih distinct (Nat.succ.inj sized)
          cases value with
          | none =>
              have absent : (present names rest).lookup name = none :=
                List.lookup_eq_none_iff.mpr fun field member => by
                  have among := (present_sublist names rest).subset (List.mem_map_of_mem member)
                  exact bne_iff_ne.mpr fun same : name = field.1 => fresh (same ▸ among)
              rw [present, List.map_cons, absent, later]
          | some a =>
              have others : names.map (fun other => ((name, a) :: present names rest).lookup other) =
                  names.map fun other => (present names rest).lookup other := by
                refine List.map_congr_left fun other member => ?_
                have apart : (other == name) = false :=
                  beq_false_of_ne fun same : other = name => fresh (same ▸ member)
                rw [List.lookup_cons, apart]
              rw [present, List.map_cons, others, later, List.lookup_cons_self]

/-! Objects that change in one field. -/

/-- One change of an object, and what it does to the fields that are known. -/
inductive Revises (names : List String) : Option (String × Option Tree) →
    List (List Piece × Tree) → List (List Piece × Tree) → Prop
  | set {before after : List (List Piece × Tree)} {key : List Piece} {name : String}
      {old new : Tree} (names_key : Piece.text? key = some name) (isKnown : name ∈ names) :
      Revises names (some (name, some new)) (before ++ (key, old) :: after)
        (before ++ (key, new) :: after)
  | delete {before after : List (List Piece × Tree)} {key : List Piece} {name : String} {old : Tree}
      (names_key : Piece.text? key = some name) (isKnown : name ∈ names) :
      Revises names (some (name, none)) (before ++ (key, old) :: after) (before ++ after)
  | add {before after : List (List Piece × Tree)} {key : List Piece} {name : String} {new : Tree}
      (names_key : Piece.text? key = some name) (isKnown : name ∈ names)
      (key_legible : ∀ piece ∈ key, piece.Legible)
      (absent : ∀ field ∈ before ++ after, Piece.text? field.1 ≠ some name) :
      Revises names (some (name, some new)) (before ++ after) (before ++ (key, new) :: after)
  | ignore {before after : List (List Piece × Tree)} {key : List Piece} {name : String}
      {new : Tree} (names_key : Piece.text? key = some name) (unknown : name ∉ names)
      (legible : LegibleField (key, new)) :
      Revises names none (before ++ after) (before ++ (key, new) :: after)

/-- What is found of the fields after a change. -/
def revised (names : List String) (slots : List Field) : Option (String × Option Tree) → List Field
  | some (name, tree?) => slots.set (names.idxOf name) (.ofOption tree?)
  | none => slots

theorem value?_of_absent (absent : ∀ field ∈ fields, Piece.text? field.1 ≠ some name) :
    value? names fields name = none := by
  rw [value?_eq_none, List.mem_map]
  rintro ⟨found, member, rfl⟩
  obtain ⟨field, inFields, named⟩ := List.mem_filterMap.mp member
  obtain ⟨name, text, chosen⟩ := Option.bind_eq_some_iff.mp named
  split at chosen
  · cases chosen
    exact absent field inFields text
  · cases chosen

/-- The field that was changed has its new value, and all others have the same as before. -/
theorem Revises.fields? {effect : Option (String × Option Tree)}
    {fields' : List (List Piece × Tree)} {slots : List Field}
    (revises : Revises names effect fields fields') (distinct : names.Nodup)
    (found : (object fields).fields? names = some slots) :
    (object fields').fields? names = some (revised names slots effect) := by
  have updated {old new : String → Option Tree} {name : String} {tree? : Option Tree}
      (isKnown : name ∈ names) (same : new = Function.update old name tree?) :
      revised names (names.map fun name => .ofOption (old name)) (some (name, tree?)) =
        names.map fun name => .ofOption (new name) := by
    have set := distinct.map_update (Field.ofOption ∘ old) name (.ofOption tree?)
    rw [if_pos isKnown, ← Function.comp_update, ← same] at set
    exact set.symm
  obtain ⟨wellNamed, rfl⟩ := fields?_object.mp found
  cases revises with
  | @set before after key name old new names_key isKnown =>
      have rest := (wellNamed_insert names_key isKnown).mp wellNamed
      have wellNamed' : WellNamed names (before ++ (key, new) :: after) :=
        (wellNamed_insert names_key isKnown).mpr rest
      refine fields?_object.mpr ⟨wellNamed', updated isKnown ?_⟩
      rw [value?_insert names_key isKnown wellNamed, value?_insert names_key isKnown wellNamed',
        Function.update_idem]
  | @delete before after key name old names_key isKnown =>
      obtain ⟨wellNamed', fresh⟩ := (wellNamed_insert names_key isKnown).mp wellNamed
      refine fields?_object.mpr ⟨wellNamed', updated isKnown ?_⟩
      rw [value?_insert names_key isKnown wellNamed, Function.update_idem, ← fresh,
        Function.update_eq_self]
  | @add before after key name new names_key isKnown _ absent =>
      have wellNamed' : WellNamed names (before ++ (key, new) :: after) :=
        (wellNamed_insert names_key isKnown).mpr ⟨wellNamed, value?_of_absent absent⟩
      exact fields?_object.mpr
        ⟨wellNamed', updated isKnown (value?_insert names_key isKnown wellNamed')⟩
  | @ignore before after key name new names_key unknown _ =>
      have same : value? names (before ++ (key, new) :: after) = value? names (before ++ after) := by
        funext other
        rw [value?, known_ignore names_key unknown, value?]
      refine fields?_object.mpr ⟨(wellNamed_ignore names_key unknown).mpr wellNamed, ?_⟩
      rw [same]
      rfl

theorem forall_mem_middle {α : Type} {p : α → Prop} {left right : List α} {a : α} :
    (∀ x ∈ left ++ a :: right, p x) ↔ (∀ x ∈ left, p x) ∧ p a ∧ ∀ x ∈ right, p x := by
  rw [List.forall_mem_append, List.forall_mem_cons]

theorem Revises.legible {effect : Option (String × Option Tree)}
    {fields' : List (List Piece × Tree)} (revises : Revises names effect fields fields')
    (new_legible : ∀ name new, effect = some (name, some new) → new.Legible)
    (legible : ∀ field ∈ fields, LegibleField field) : ∀ field ∈ fields', LegibleField field := by
  cases revises with
  | set =>
      obtain ⟨first, field, last⟩ := forall_mem_middle.mp legible
      exact forall_mem_middle.mpr ⟨first, ⟨field.key, new_legible _ _ rfl⟩, last⟩
  | delete =>
      obtain ⟨first, -, last⟩ := forall_mem_middle.mp legible
      exact List.forall_mem_append.mpr ⟨first, last⟩
  | add _ _ key_legible =>
      obtain ⟨first, last⟩ := List.forall_mem_append.mp legible
      exact forall_mem_middle.mpr ⟨first, ⟨key_legible, new_legible _ _ rfl⟩, last⟩
  | ignore _ _ field_legible =>
      obtain ⟨first, last⟩ := List.forall_mem_append.mp legible
      exact forall_mem_middle.mpr ⟨first, field_legible, last⟩

/-- A field that is there is found where its name belongs. -/
theorem slot_of_field {slots : List Field} (names_key : Piece.text? key = some name)
    (isKnown : name ∈ names)
    (found : (object (before ++ (key, tree) :: after)).fields? names = some slots) :
    slots[names.idxOf name]? = some (.given tree) := by
  obtain ⟨wellNamed, rfl⟩ := fields?_object.mp found
  rw [List.getElem?_map, List.getElem?_idxOf isKnown, Option.map_some,
    value?_insert names_key isKnown wellNamed, Function.update_self]
  rfl

/-- Another value of a field that is there is found in the place of the old one. -/
theorem fields?_replace {slots : List Field} (names_key : Piece.text? key = some name)
    (isKnown : name ∈ names) (distinct : names.Nodup)
    (found : (object (before ++ (key, tree) :: after)).fields? names = some slots) (new : Tree) :
    (object (before ++ (key, new) :: after)).fields? names =
      some (slots.set (names.idxOf name) (.given new)) :=
  (Revises.set names_key isKnown).fields? distinct found

theorem Legible.replace {new : Tree}
    (legible : (Tree.object (before ++ (key, tree) :: after)).Legible)
    (new_legible : tree.Legible → new.Legible) :
    (Tree.object (before ++ (key, new) :: after)).Legible := by
  cases legible with
  | object keys values =>
      obtain ⟨first, old, last⟩ := forall_mem_middle.mp fun field member =>
        LegibleField.mk (keys field member) (values field member)
      exact .of_fields (forall_mem_middle.mpr ⟨first, ⟨old.key, new_legible old.value⟩, last⟩)

end Roster.Json.Tree
