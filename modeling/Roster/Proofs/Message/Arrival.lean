import Mathlib.Data.List.TakeDrop
import Roster.Message.Response

namespace Roster.Message

/-! Messages while they arrive. What has been read of a message is not taken back by the bytes that
come behind it. -/

variable {bytes rest : List UInt8}

theorem dropWhile_append {p : UInt8 → Bool} {b : UInt8} (found : bytes.dropWhile p = b :: rest)
    (more : List UInt8) : (bytes ++ more).dropWhile p = b :: (rest ++ more) := by
  rw [List.dropWhile_append, found]
  rfl

theorem span_append {p : UInt8 → Bool} {front : List UInt8} {b : UInt8}
    (found : bytes.span p = (front, b :: rest)) (more : List UInt8) :
    (bytes ++ more).span p = (front, b :: (rest ++ more)) := by
  rw [List.span_eq_takeWhile_dropWhile] at found ⊢
  obtain ⟨taken, dropped⟩ := Prod.mk.inj found
  have apart := List.takeWhile_append_dropWhile (p := p) (l := bytes)
  rw [dropped] at apart
  have short : (bytes.takeWhile p).length ≠ bytes.length := by
    intro all
    have := congrArg List.length apart
    simp only [List.length_append, List.length_cons] at this
    omega
  rw [List.takeWhile_append, if_neg short, dropWhile_append dropped, taken]

theorem line?_append {line : List UInt8} (found : line? bytes = some (line, rest))
    (more : List UInt8) : line? (bytes ++ more) = some (line, rest ++ more) := by
  unfold line? at found ⊢
  split at found
  · rename_i front b behind split
    obtain ⟨rfl, rfl⟩ := Prod.mk.inj (Option.some.inj found)
    rw [span_append split more]
  · cases found

theorem Header.ofLines?_append {limit : Nat} {headers : List Header}
    (found : ofLines? limit bytes = some (headers, rest)) (more : List UInt8) :
    ofLines? limit (bytes ++ more) = some (headers, rest ++ more) := by
  induction limit generalizing bytes headers with
  | zero =>
      unfold ofLines? at found ⊢
      obtain ⟨⟨line, behind⟩, split, found⟩ := Option.bind_eq_some_iff.mp found
      rw [line?_append split more]
      dsimp only [Option.bind_eq_bind, Option.bind_some] at found ⊢
      split at found
      · rename_i blank
        cases found
        exact if_pos blank
      · cases found
  | succ limit ih =>
      unfold ofLines? at found ⊢
      obtain ⟨⟨line, behind⟩, split, found⟩ := Option.bind_eq_some_iff.mp found
      rw [line?_append split more]
      dsimp only [Option.bind_eq_bind, Option.bind_some] at found ⊢
      split at found
      · rename_i blank
        cases found
        exact if_pos blank
      · rename_i filled
        obtain ⟨header, named, found⟩ := Option.bind_eq_some_iff.mp found
        obtain ⟨⟨others, last⟩, followed, found⟩ := Option.bind_eq_some_iff.mp found
        cases found
        rw [if_neg filled, named, Option.bind_some, ih followed]
        rfl

namespace Head

theorem line?_skipLineEnds_append {line : List UInt8}
    (found : line? (skipLineEnds bytes) = some (line, rest)) (more : List UInt8) :
    line? (skipLineEnds (bytes ++ more)) = some (line, rest ++ more) := by
  fun_induction skipLineEnds bytes with
  | case1 bytes ih => exact ih found
  | case2 bytes ih => exact ih found
  | case3 bytes notEnd notFeed =>
      have kept : skipLineEnds (bytes ++ more) = bytes ++ more := by
        cases bytes with
        | nil => cases found
        | cons b behind =>
            cases behind with
            | nil =>
                have other : (b != lineFeed) = true :=
                  bne_iff_ne.mpr fun feed => notFeed [] (feed ▸ rfl)
                simp [line?, List.span, List.span.loop, other] at found
            | cons c behind =>
                unfold skipLineEnds
                split
                · rename_i same
                  cases same
                  exact absurd rfl (notEnd behind)
                · rename_i same
                  cases same
                  exact absurd rfl (notFeed (c :: behind))
                · rfl
      rw [kept]
      exact line?_append found more

theorem ofBytes?_append {head : Head} (found : ofBytes? bytes = some (head, rest))
    (more : List UInt8) : ofBytes? (bytes ++ more) = some (head, rest ++ more) := by
  unfold ofBytes? at found ⊢
  obtain ⟨⟨line, behind⟩, split, found⟩ := Option.bind_eq_some_iff.mp found
  obtain ⟨⟨version, status⟩, read, found⟩ := Option.bind_eq_some_iff.mp found
  obtain ⟨⟨headers, last⟩, followed, found⟩ := Option.bind_eq_some_iff.mp found
  cases found
  rw [line?_skipLineEnds_append split more]
  dsimp only [Option.bind_eq_bind, Option.bind_some]
  rw [read, Option.bind_some, Header.ofLines?_append followed more]
  rfl

/-- Neither bytes behind a head nor a larger number of heads allowed before it change it. -/
theorem final?_append {heads limit : Nat} {head : Head} (le : heads ≤ limit)
    (found : final? heads bytes = some (head, rest)) (more : List UInt8) :
    final? limit (bytes ++ more) = some (head, rest ++ more) := by
  induction heads generalizing limit bytes with
  | zero => cases found
  | succ heads ih =>
      obtain ⟨limit, rfl⟩ := Nat.exists_eq_succ_of_ne_zero (by omega : limit ≠ 0)
      unfold final? at found ⊢
      obtain ⟨⟨first, behind⟩, read, found⟩ := Option.bind_eq_some_iff.mp found
      rw [ofBytes?_append read more]
      dsimp only [Option.bind_eq_bind, Option.bind_some] at found ⊢
      split at found
      · rename_i interim
        rw [if_pos interim]
        exact ih (Nat.le_of_succ_le_succ le) found
      · rename_i last
        cases found
        exact if_neg last

end Head

namespace Chunked

theorem size?_append {size : Nat} (found : size? bytes = some (size, rest)) (more : List UInt8) :
    size? (bytes ++ more) = some (size, rest ++ more) := by
  unfold size? at found ⊢
  generalize separate : bytes.span _ = parts at found
  obtain ⟨digits, behind⟩ := parts
  dsimp only at found
  cases behind with
  | nil => cases found
  | cons b behind =>
      rw [span_append separate more]
      dsimp only
      rw [← List.cons_append]
      split at found
      · rename_i ended last reached
        split at found
        · cases found
        · rename_i written
          cases found
          split at reached
          · rename_i remark marked
            simp only [dropWhile_append marked more, dropWhile_append reached more]
            exact if_neg written
          · rename_i unmarked
            simp only [dropWhile_append reached more]
            exact if_neg written
      · cases found

theorem trailer?_append {isInLine : Bool} {lines : List UInt8}
    (found : trailer? isInLine bytes = some lines) (more : List UInt8) :
    trailer? isInLine (bytes ++ more) = some lines := by
  fun_induction trailer? isInLine bytes generalizing lines with
  | case1 isInLine rest ih =>
      obtain ⟨others, read, rfl⟩ := Option.map_eq_some_iff.mp found
      change (if isInLine then trailer? false (rest ++ more) else some []).map _ = _
      cases isInLine with
      | false => cases read; rfl
      | true => rw [if_pos rfl, ih read]; rfl
  | case2 => cases found
  | case3 isInLine b rest notEnd notReturn ih =>
      obtain ⟨others, read, rfl⟩ := Option.map_eq_some_iff.mp found
      rw [List.cons_append, trailer?, ih read]
      · rfl
      · exact fun _ isReturn _ => notReturn isReturn
      · exact notReturn
  | case4 => cases found

theorem isEnd_append {limit : Nat} (ends : isEnd limit bytes = true) (more : List UInt8) :
    isEnd limit (bytes ++ more) = true := by
  obtain ⟨headers, read⟩ := Option.isSome_iff_exists.mp ends
  obtain ⟨lines, followed, read⟩ := Option.bind_eq_some_iff.mp read
  rw [isEnd, trailer?_append followed more, Option.bind_some, read]
  rfl

/-- Neither bytes behind a body nor a larger number of chunks allowed for it change it. -/
theorem decodeWithin_append {limit chunks room : Nat} {body : List UInt8} (le : chunks ≤ room)
    (found : decodeWithin limit chunks bytes = some body) (more : List UInt8) :
    decodeWithin limit room (bytes ++ more) = some body := by
  induction chunks generalizing room bytes body with
  | zero => cases found
  | succ chunks ih =>
      obtain ⟨room, rfl⟩ := Nat.exists_eq_succ_of_ne_zero (by omega : room ≠ 0)
      unfold decodeWithin at found ⊢
      obtain ⟨⟨size, rest⟩, announced, found⟩ := Option.bind_eq_some_iff.mp found
      -- The size stands, and as many bytes were there, so that the rest of the body is where it was.
      rw [size?_append announced more]
      dsimp only [Option.bind_eq_bind, Option.bind_some] at found ⊢
      split at found
      · rename_i last
        rw [if_pos last]
        split at found
        · rename_i ends
          rw [if_pos (isEnd_append ends more)]
          exact found
        · cases found
      · rename_i filled
        rw [if_neg filled]
        split at found
        · cases found
        · rename_i enough
          have le_length : size ≤ rest.length := Nat.not_lt.mp enough
          rw [if_neg (by rw [List.length_append]; omega), List.drop_append_of_le_length le_length,
            List.take_append_of_le_length le_length]
          split at found
          · rename_i behind closed
            obtain ⟨others, read, found⟩ := Option.bind_eq_some_iff.mp found
            cases found
            simp only [closed, List.cons_append, ih (Nat.le_of_succ_le_succ le) read]
            rfl
          · cases found

theorem decode?_append {limit : Nat} {body : List UInt8} (found : decode? limit bytes = some body)
    (more : List UInt8) : decode? limit (bytes ++ more) = some body :=
  decodeWithin_append (by rw [List.length_append]; omega) found more

end Chunked

namespace Inflow

/-- More may come as long as the connection has not ended. -/
inductive Grows : Inflow → Inflow → Prop
  | refl (inflow : Inflow) : Grows inflow inflow
  | append (bytes more : List UInt8) (ending? : Option Ending) :
      Grows ⟨bytes, none⟩ ⟨bytes ++ more, ending?⟩

theorem response?_closed (bytes : List UInt8) :
    response? ⟨bytes, some .closed⟩ = Response.ofBytes? bytes := by
  have all (framing : Framing) (rest : List UInt8) :
      body? framing rest (some .closed) = Response.bodyOf framing rest := by
    cases framing <;> rfl
  simp only [response?, Response.ofBytes?, all]

theorem body?_append {framing : Framing} {body : List UInt8}
    (found : body? framing rest none = some body) (more : List UInt8) (ending? : Option Ending) :
    body? framing (rest ++ more) ending? = some body := by
  cases framing with
  | absent => exact found
  | chunked => exact Chunked.decode?_append found more
  | sized length =>
      change (if rest.length < length then none else some (rest.take length)) = some body at found
      change (if (rest ++ more).length < length then none
        else some ((rest ++ more).take length)) = some body
      split at found
      · cases found
      · rename_i enough
        have le_length : length ≤ rest.length := Nat.not_lt.mp enough
        rw [if_neg (by rw [List.length_append]; omega), List.take_append_of_le_length le_length]
        exact found
  | untilClosed => cases found

/-- What has come of a response stays, and a body that is complete stays the same. -/
theorem response?_grows {inflow later : Inflow} (grows : inflow.Grows later) {response : Response}
    (came : inflow.response? = some response) :
    ∃ response', later.response? = some response' ∧ response'.status = response.status ∧
      response'.headers = response.headers ∧
      ∀ body, response.body = some body → response'.body = some body := by
  cases grows with
  | refl => exact ⟨response, came, rfl, rfl, fun _ found => found⟩
  | append bytes more ending? =>
      obtain ⟨⟨head, rest⟩, read, came⟩ := Option.bind_eq_some_iff.mp came
      obtain ⟨framing, framed, came⟩ := Option.bind_eq_some_iff.mp came
      cases came
      have read' := Head.final?_append
        (by rw [List.length_append]; omega : bytes.length ≤ (bytes ++ more).length) read more
      let later : Response := {
        status := head.status
        headers := head.headers
        body := body? framing (rest ++ more) ending? }
      refine ⟨later, ?_, rfl, rfl, fun body found => body?_append found more ending?⟩
      simp only [response?, read', framed, Option.bind_eq_bind, Option.bind_some]
      rfl

end Inflow

namespace Inflow

theorem Grows.behind {inflow later : Inflow} (grows : inflow.Grows later) (bytes : List UInt8) :
    Grows { inflow with bytes := bytes ++ inflow.bytes }
      { later with bytes := bytes ++ later.bytes } := by
  cases grows with
  | refl => exact .refl _
  | append front more ending? =>
      rw [← List.append_assoc]
      exact .append (bytes ++ front) more ending?

theorem grows_within {left right : Nat} (le : left ≤ right) (deeds : List (Span × Deed)) :
    (within left deeds).Grows (within right deeds) := by
  induction deeds generalizing left right with
  | nil => exact .refl _
  | cons first deeds ih =>
      obtain ⟨pause, deed⟩ := first
      by_cases early : pause.nanos ≤ left
      · have early' : pause.nanos ≤ right := Nat.le_trans early le
        cases deed with
        | writes bytes =>
            simpa only [within, if_pos early, if_pos early'] using
              (ih (Nat.sub_le_sub_right le pause.nanos)).behind bytes
        | ends ending => simpa only [within, if_pos early, if_pos early'] using Grows.refl _
      · have nothing : within left ((pause, deed) :: deeds) = ⟨[], none⟩ := if_neg early
        rw [nothing]
        exact .append [] _ _

end Inflow

end Roster.Message
