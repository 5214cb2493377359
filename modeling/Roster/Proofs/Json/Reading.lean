import Roster.Proofs.Json.Written

namespace Roster.Json

/-! A written tree is read back. -/

namespace Token

theorem scan_of_next {bytes after : List UInt8} {token : Token}
    (found : next bytes = some (token, after)) :
    scan bytes = (scan after).map (token :: ·) := by
  have starts : bytes.dropWhile isBlank = bytes := by
    cases bytes with
    | nil => rfl
    | cons b rest =>
        refine List.dropWhile_cons_of_neg fun blank => ?_
        simp only [isBlank, Bool.or_eq_true, beq_iff_eq] at blank
        rcases blank with ((rfl | rfl) | rfl) | rfl <;> cases found
  rw [scan]
  split
  · rename_i empty
    rw [starts] at empty
    rw [empty] at found
    cases found
  · rename_i b rest same
    rw [starts] at same
    subst same
    split
    · rename_i failed
      cases failed.symm.trans found
    · rename_i found'
      cases found'.symm.trans found
      rfl

end Token

namespace Tree

mutual

def written : Tree → List UInt8
  | null => [0x6E, 0x75, 0x6C, 0x6C]
  | bool true => [0x74, 0x72, 0x75, 0x65]
  | bool false => [0x66, 0x61, 0x6C, 0x73, 0x65]
  | number numeral => numeral.written
  | string pieces => Piece.quoted pieces
  | array items => 0x5B :: itemsWritten items
  | object fields => 0x7B :: fieldsWritten fields

def itemsWritten : List Tree → List UInt8
  | [] => [0x5D]
  | [item] => written item ++ [0x5D]
  | item :: rest => written item ++ 0x2C :: itemsWritten rest

def fieldsWritten : List (List Piece × Tree) → List UInt8
  | [] => [0x7D]
  | [(key, tree)] => Piece.quoted key ++ 0x3A :: (written tree ++ [0x7D])
  | (key, tree) :: rest => Piece.quoted key ++ 0x3A :: (written tree ++ 0x2C :: fieldsWritten rest)

end

/-- A tree that a text can have. -/
inductive Legible : Tree → Prop
  | null : Legible .null
  | bool (value : Bool) : Legible (.bool value)
  | number {numeral : Numeral} (numeral_legible : numeral.Legible) : Legible (.number numeral)
  | string {pieces : List Piece} (pieces_legible : ∀ piece ∈ pieces, piece.Legible) :
      Legible (.string pieces)
  | array {items : List Tree} (items_legible : ∀ item ∈ items, Legible item) :
      Legible (.array items)
  | object {fields : List (List Piece × Tree)}
      (keys_legible : ∀ field ∈ fields, ∀ piece ∈ field.1, piece.Legible)
      (fields_legible : ∀ field ∈ fields, Legible field.2) : Legible (.object fields)

namespace Expect

def read (expect : Expect) (bytes : List UInt8) : Option Expect :=
  (Token.scan bytes).bind expect.run

theorem read_nil (expect : Expect) : expect.read [] = some expect := by
  rw [read, Token.scan]
  rfl

theorem read_of_next {expect : Expect} {bytes after : List UInt8} {token : Token}
    (found : Token.next bytes = some (token, after)) :
    expect.read bytes = (expect.step token).bind (read · after) := by
  rw [read, Token.scan_of_next found]
  cases scanned : Token.scan after with
  | none => simp [read, scanned]
  | some tokens =>
      simp only [read, scanned, Option.map_some, Option.bind_some]
      rfl

/-- Waits for a value, or for the end of an array that is empty so far. -/
def Awaits (expect : Expect) (stack : List Frame) : Prop :=
  ∀ token, token ≠ .closeBracket → expect.step token = onValue stack token

theorem awaits_value (stack : List Frame) : (value stack).Awaits stack := fun _ _ => rfl

theorem awaits_itemOrClose (stack : List Frame) :
    (itemOrClose stack).Awaits (.array [] :: stack) := by
  intro token other
  cases token with
  | closeBracket => exact absurd rfl other
  | _ => rfl

/-- However a value is awaited, it is read where it is written. -/
def Reads (tree : Tree) : Prop :=
  ∀ (expect : Expect) (stack : List Frame) (rest : List UInt8), expect.Awaits stack →
    Token.Ends rest → expect.read (tree.written ++ rest) = (more tree stack).read rest

variable {expect : Expect} {stack : List Frame}

theorem Awaits.read (awaits : expect.Awaits stack) {bytes after : List UInt8} {token : Token}
    (found : Token.next bytes = some (token, after)) (other : token ≠ .closeBracket) :
    expect.read bytes = (onValue stack token).bind (Expect.read · after) := by
  rw [read_of_next found, awaits token other]

theorem reads_items {items : List Tree} (reads : ∀ item ∈ items, Reads item) (some_items : items ≠ [])
    (earlier : List Tree) (awaits : expect.Awaits (.array earlier :: stack)) (rest : List UInt8) :
    expect.read (itemsWritten items ++ rest) =
      (more (.array (earlier.reverse ++ items)) stack).read rest := by
  -- The first item is awaited by an array that could end, all others are awaited after a comma.
  induction items generalizing expect earlier with
  | nil => exact absurd rfl some_items
  | cons item later ih =>
      have first := reads item (.head _)
      cases later with
      | nil =>
          have closes : Token.next (0x5D :: rest) = some (.closeBracket, rest) := rfl
          rw [itemsWritten, List.append_assoc, List.singleton_append,
            first _ _ _ awaits (.cons (by decide) rest), read_of_next closes]
          change (more (.array (item :: earlier).reverse) stack).read rest = _
          rw [List.reverse_cons]
      | cons next others =>
          have parts : Token.next (0x2C :: (itemsWritten (next :: others) ++ rest)) =
              some (.comma, itemsWritten (next :: others) ++ rest) := rfl
          rw [itemsWritten, List.append_assoc, List.cons_append,
            first _ _ _ awaits (.cons (by decide) _), read_of_next parts]
          · have later := ih (fun item member => reads item (.tail _ member)) nofun (item :: earlier)
              (awaits_value (.array (item :: earlier) :: stack))
            rw [List.reverse_cons, List.append_assoc] at later
            exact later
          · exact nofun

theorem next_quoted {pieces : List Piece} (legible : ∀ piece ∈ pieces, piece.Legible)
    (rest : List UInt8) :
    Token.next (Piece.quoted pieces ++ rest) = some (.string pieces, rest) := by
  rw [Piece.quoted, List.cons_append, List.append_assoc, List.singleton_append, Token.next,
    Piece.pieces_quoted legible]
  rfl

/-- Waits for a key. -/
def AwaitsKey (expect : Expect) (fields : List (List Piece × Tree)) (stack : List Frame) : Prop :=
  ∀ key, expect.step (.string key) = some (colon fields key stack)

theorem reads_fields {fields : List (List Piece × Tree)}
    (legible : ∀ field ∈ fields, ∀ piece ∈ field.1, piece.Legible)
    (reads : ∀ field ∈ fields, Reads field.2) (some_fields : fields ≠ [])
    (earlier : List (List Piece × Tree)) (awaits : expect.AwaitsKey earlier stack)
    (rest : List UInt8) :
    expect.read (fieldsWritten fields ++ rest) =
      (more (.object (earlier.reverse ++ fields)) stack).read rest := by
  induction fields generalizing expect earlier with
  | nil => exact absurd rfl some_fields
  | cons field later ih =>
      obtain ⟨key, tree⟩ := field
      have first : Reads tree := reads (key, tree) (.head _)
      have named (after : List UInt8) :
          expect.read (Piece.quoted key ++ 0x3A :: after) =
            (value (.object earlier key :: stack)).read after := by
        have parts : Token.next (0x3A :: after) = some (.colon, after) := rfl
        rw [read_of_next (next_quoted (legible (key, tree) (.head _)) _), awaits key,
          Option.bind_some, read_of_next parts]
        rfl
      cases later with
      | nil =>
          have closes : Token.next (0x7D :: rest) = some (.closeBrace, rest) := rfl
          rw [fieldsWritten, List.append_assoc, List.cons_append, List.append_assoc,
            List.singleton_append, named, first _ _ _ (awaits_value _) (.cons (by decide) rest),
            read_of_next closes]
          change (more (.object ((key, tree) :: earlier).reverse) stack).read rest = _
          rw [List.reverse_cons]
      | cons next others =>
          have parts : Token.next (0x2C :: (fieldsWritten (next :: others) ++ rest)) =
              some (.comma, fieldsWritten (next :: others) ++ rest) := rfl
          rw [fieldsWritten, List.append_assoc, List.cons_append, List.append_assoc,
            List.cons_append, named, first _ _ _ (awaits_value _) (.cons (by decide) _),
            read_of_next parts]
          · have awaits : AwaitsKey (.key ((key, tree) :: earlier) stack) ((key, tree) :: earlier) stack :=
              fun _ => rfl
            have later := ih (fun field member => legible field (.tail _ member))
              (fun field member => reads field (.tail _ member)) nofun ((key, tree) :: earlier) awaits
            rw [List.reverse_cons, List.append_assoc] at later
            exact later
          · exact nofun

theorem reads_of_legible {tree : Tree} (legible : tree.Legible) : Reads tree := by
  induction legible with
  | null =>
      intro expect stack rest awaits _
      have found : Token.next (written .null ++ rest) = some (.null, rest) := rfl
      exact awaits.read found nofun
  | bool value =>
      intro expect stack rest awaits _
      cases value with
      | true =>
          have found : Token.next (written (.bool true) ++ rest) = some (.true, rest) := rfl
          exact awaits.read found nofun
      | false =>
          have found : Token.next (written (.bool false) ++ rest) = some (.false, rest) := rfl
          exact awaits.read found nofun
  | number legible =>
      intro expect stack rest awaits ends
      exact awaits.read (Numeral.next_written legible ends) nofun
  | string legible =>
      intro expect stack rest awaits _
      exact awaits.read (next_quoted legible rest) nofun
  | @array items _ reads =>
      intro expect stack rest awaits _
      have opens : Token.next (written (.array items) ++ rest) =
          some (.openBracket, itemsWritten items ++ rest) := rfl
      refine (awaits.read opens nofun).trans ?_
      cases items with
      | nil =>
          have closes : Token.next (itemsWritten [] ++ rest) = some (.closeBracket, rest) := rfl
          exact read_of_next closes
      | cons item later => exact reads_items reads nofun [] (awaits_itemOrClose stack) rest
  | @object fields keys _ reads =>
      intro expect stack rest awaits _
      have opens : Token.next (written (.object fields) ++ rest) =
          some (.openBrace, fieldsWritten fields ++ rest) := rfl
      refine (awaits.read opens nofun).trans ?_
      cases fields with
      | nil =>
          have closes : Token.next (fieldsWritten [] ++ rest) = some (.closeBrace, rest) := rfl
          exact read_of_next closes
      | cons field later => exact reads_fields keys reads nofun [] (fun _ => rfl) rest

end Expect

theorem ofBytes_written {tree : Tree} (legible : tree.Legible) : ofBytes tree.written = some tree := by
  have read := Expect.reads_of_legible legible (.value []) [] [] (Expect.awaits_value []) .nil
  rw [List.append_nil, Expect.read_nil, Expect.read] at read
  obtain ⟨tokens, scanned, run⟩ := Option.bind_eq_some_iff.mp read
  rw [ofBytes, scanned, Option.bind_some, ofTokens, run]

end Tree

end Roster.Json
