import TableMapper.Proofs.Sql.Fragment
import TableMapper.Proofs.Text.Numeral
import TableMapper.Proofs.Text.Search

/-!
# Dollar-quoted literals read back

`DollarTag.read?` reads a text by the rule of dollar quoting: outside of a literal the tag opens
one, and inside of it the first occurrence of the tag closes it.

* `DollarTag.stripped_body`: the body of a literal is made from its text by deleting the opening of
  the tag until it does not occur any more;
* `DollarTag.read_quote`: a literal is read as one literal with that body, whatever follows it;
* `DollarTag.read_render_inline`: a fragment that is rendered with literals reads back, so no value
  ends its literal early, opens another one or reaches the text around it.

Neither the salt nor the SQL text may hold a dollar sign.  The only one in the opening of the tag is
then its first character, so the tag overlaps neither itself nor a body before it
(`DollarTag.not_prefix_append_chars`).
-/

namespace TableMapper

namespace DollarTag

variable {t : DollarTag}

theorem chars_eq (t : DollarTag) : t.chars = t.opening ++ ['$'] := rfl

theorem opening_ne_nil (t : DollarTag) : t.opening ≠ [] := List.cons_ne_nil _ _

theorem opening_prefix_chars (t : DollarTag) : t.opening <+: t.chars := List.prefix_append _ _

/-! ### Bodies -/

/-- `b` is `s` after the opening of the tag was deleted, one occurrence after the other, until none
was left. -/
def Stripped (t : DollarTag) (s b : List Char) : Prop :=
  Relation.ReflTransGen (Text.Deletes t.opening) s b ∧ ¬ t.opening <:+: b

theorem deletes_strip {p : List Char} (hp : p ≠ []) (rounds : Nat) (s : List Char) :
    Relation.ReflTransGen (Text.Deletes p) s (strip p rounds s) := by
  induction rounds generalizing s with
  | zero => exact .refl
  | succ n ih =>
    rw [strip]
    split_ifs
    · exact (Text.deletes_replaceFrom hp s).trans (ih _)
    · exact .refl

/-- As many rounds as there are characters are enough: each one that finds something shortens the
text. -/
theorem not_infix_strip {p : List Char} (hp : p ≠ []) {rounds : Nat} {s : List Char}
    (hs : s.length ≤ rounds) : ¬ p <:+: strip p rounds s := by
  induction rounds generalizing s with
  | zero =>
    rw [strip, List.length_eq_zero_iff.1 (Nat.le_zero.1 hs)]
    exact fun h => hp (List.infix_nil.1 h)
  | succ n ih =>
    rw [strip]
    split_ifs with h
    · have hlt := Text.length_replaceFrom_lt hp (Text.occurs_iff_infix.1 h)
      exact ih (by omega)
    · rwa [Text.occurs_iff_infix] at h

theorem stripped_body (t : DollarTag) (s : List Char) : t.Stripped s (t.body s) :=
  ⟨deletes_strip t.opening_ne_nil _ _, not_infix_strip t.opening_ne_nil le_rfl⟩

/-! ### Reading -/

/-- A piece of what is read. -/
inductive Token where
  /-- A character outside of literals. -/
  | char (c : Char)
  /-- A literal with the text between its tags. -/
  | literal (body : List Char)

namespace Token

/-- The text outside of literals. -/
def outside (ts : List Token) : List Char :=
  ts.flatMap fun
    | .char c => [c]
    | .literal _ => []

/-- The literals, in order. -/
def literals (ts : List Token) : List (List Char) :=
  ts.flatMap fun
    | .char _ => []
    | .literal b => [b]

end Token

/-- Reads a text by the rule of dollar quoting, unless its last literal is not closed. -/
def read? (t : DollarTag) (s : List Char) : Option (List Token) :=
  match s with
  | [] => some []
  | c :: cs =>
    match _hopen : Text.dropStart? t.chars (c :: cs) with
    | none => (read? t cs).map (.char c :: ·)
    | some inner =>
      match _hclose : Text.cutAtChars? t.chars inner with
      | none => none
      | some (b, rest) => (read? t rest).map (.literal b :: ·)
termination_by s.length
decreasing_by
  · simp
  · have hi := congrArg List.length (Text.dropStart?_eq_some_iff.1 _hopen)
    have hr := congrArg List.length (Text.eq_append_of_cutAtChars? _hclose)
    have ht := List.length_pos_iff.2 t.opening_ne_nil
    simp only [chars_eq, List.length_append] at hi hr
    omega

theorem read?_nil (t : DollarTag) : t.read? [] = some [] := by rw [read?]

theorem read?_cons {c : Char} {s : List Char} (h : ¬ t.chars <+: c :: s) :
    t.read? (c :: s) = (t.read? s).map (.char c :: ·) := by
  rw [read?]
  split
  case h_1 => rfl
  case h_2 inner hi => exact absurd ⟨inner, (Text.dropStart?_eq_some_iff.1 hi).symm⟩ h

theorem read?_chars_append {s b rest : List Char}
    (h : Text.cutAtChars? t.chars s = some (b, rest)) :
    t.read? (t.chars ++ s) = (t.read? rest).map (.literal b :: ·) := by
  obtain ⟨c, cs, hs⟩ : ∃ c cs, t.chars ++ s = c :: cs := ⟨_, _, rfl⟩
  rw [hs, read?]
  split
  case h_1 hn => exact absurd ⟨s, hs⟩ (Text.dropStart?_eq_none_iff.1 hn)
  case h_2 inner hi =>
    obtain rfl : s = inner := List.append_cancel_left (hs.trans (Text.dropStart?_eq_some_iff.1 hi))
    split
    case h_1 hn => rw [h] at hn; cases hn
    case h_2 b' rest' hb =>
      obtain ⟨rfl, rfl⟩ : b = b' ∧ rest = rest' := by simpa [h] using hb
      rfl

/-- Text without a dollar sign is outside of literals. -/
theorem read?_append {s : List Char} (hs : '$' ∉ s) (rest : List Char) :
    t.read? (s ++ rest) = (t.read? rest).map (s.map .char ++ ·) := by
  induction s with
  | nil => simp
  | cons c s ih =>
    rw [List.mem_cons, not_or] at hs
    have hc : ¬ t.chars <+: c :: (s ++ rest) := by
      rintro ⟨r, hr⟩
      exact hs.1 (List.cons.inj hr).1
    rw [List.cons_append, read?_cons hc, ih hs.2, Option.map_map]
    rfl

/-- The tag does not start in a text before it that the opening does not occur in, not even if it
ends in a part of the tag. -/
theorem not_prefix_append_chars (ht : '$' ∉ t.salt.toList) {v : List Char} (hv : v ≠ [])
    (ho : ¬ t.opening <:+: v) (rest : List Char) : ¬ t.chars <+: v ++ (t.chars ++ rest) := by
  rintro ⟨w, hw⟩
  obtain ⟨d, v, rfl⟩ := List.exists_cons_of_ne_nil hv
  rcases List.append_eq_append_iff.1 hw with ⟨x, hx, -⟩ | ⟨x, hx, hw⟩
  · -- the whole tag stands in `v`
    exact ho (hx ▸ (t.opening_prefix_chars.trans (List.prefix_append _ _)).isInfix)
  · cases x with
    | nil =>
      rw [List.append_nil] at hx
      exact ho (hx ▸ t.opening_prefix_chars.isInfix)
    | cons e x =>
      -- the dollar sign of the next tag is inside of this one, so it is its last character
      obtain rfl : '$' = e := (List.cons.inj hw).1
      have hu : '$' ∉ '_' :: (t.salt.toList ++ ['_']) := by simpa using ht
      have hx' : '_' :: (t.salt.toList ++ ['_']) ++ '$' :: [] = v ++ '$' :: x :=
        (List.cons.inj hx).2
      obtain ⟨rfl, -, -⟩ := (List.append_cons_inj_of_notMem hu List.not_mem_nil).1 hx'
      obtain rfl : '$' = d := (List.cons.inj hx).1
      exact ho (List.prefix_refl t.opening).isInfix

/-- A text as a literal is read as one literal, whatever follows it. -/
theorem read_quote (ht : '$' ∉ t.salt.toList) (s rest : List Char) :
    t.read? (t.chars ++ t.body s ++ t.chars ++ rest) =
      (t.read? rest).map (.literal (t.body s) :: ·) := by
  have hcut : Text.cutAtChars? t.chars (t.body s ++ (t.chars ++ rest)) =
      some (t.body s, rest) := by
    refine Text.cutAtChars?_append fun u v hs hv => ?_
    refine not_prefix_append_chars ht hv (fun h => ?_) rest
    exact (t.stripped_body s).2 (h.trans (hs ▸ (List.suffix_append u v).isInfix))
  rw [List.append_assoc, List.append_assoc]
  exact read?_chars_append hcut

/-! ### Fragments -/

/-- The text that stands in the literal of a value, before the opening of the tag is deleted; none
for a value that is written bare. -/
def quotedText? : Value → Option String
  | .text s => some s
  | .json d => some d.render
  | .double x => if x.isFinite then none else some x.plain
  | .null => none
  | .bool _ => none
  | .int _ => none

/-- The text of a value that is written bare; empty for one that is quoted. -/
def bareText : Value → String
  | .null => "NULL"
  | .bool b => if b then "TRUE" else "FALSE"
  | .int n => toString n
  | .double x => if x.isFinite then x.plain else ""
  | .text _ => ""
  | .json _ => ""

/-- What is read from the literal of a value. -/
def valueTokens (t : DollarTag) (v : Value) : List Token :=
  (bareText v).toList.map .char ++ ((quotedText? v).toList.map fun s => .literal (t.body s.toList))

theorem not_mem_of_isNumeral {s : List Char} (h : ∀ c ∈ s, Text.isNumeral c = true) : '$' ∉ s :=
  fun hs => absurd (h '$' hs) (by decide)

theorem read?_literal (ht : '$' ∉ t.salt.toList) (v : Value) (rest : List Char) :
    t.read? ((t.literal v).toList ++ rest) = (t.read? rest).map (t.valueTokens v ++ ·) := by
  have hquote : ∀ s : String, t.read? ((t.quote s).toList ++ rest) =
      (t.read? rest).map (.literal (t.body s.toList) :: ·) := by
    intro s
    rw [quote, String.toList_ofList]
    exact read_quote ht s.toList rest
  have hbare : ∀ s : String, '$' ∉ s.toList → t.read? (s.toList ++ rest) =
      (t.read? rest).map (s.toList.map .char ++ [] ++ ·) := by
    intro s hs
    rw [List.append_nil]
    exact read?_append hs rest
  cases v with
  | null => exact hbare "NULL" (by decide)
  | bool b =>
    cases b with
    | true => exact hbare "TRUE" (by decide)
    | false => exact hbare "FALSE" (by decide)
  | int n =>
    exact hbare (toString n) (not_mem_of_isNumeral fun _ => Text.isNumeral_of_mem_int)
  | double x =>
    by_cases hx : x.isFinite = true
    · have hd := hbare x.plain (not_mem_of_isNumeral fun _ => Text.isNumeral_of_mem_plain hx)
      simpa [literal, valueTokens, bareText, quotedText?, hx] using hd
    · simpa [literal, valueTokens, bareText, quotedText?, hx] using hquote x.plain
  | text s => exact hquote s
  | json d => exact hquote d.render

end DollarTag

namespace Piece

open DollarTag (Token)

/-- The text of a piece outside of literals. -/
def bareText : Piece → String
  | .sql s => s
  | .value v _ => DollarTag.bareText v
  | .untyped v => DollarTag.bareText v

/-- The text that a piece quotes, if it does. -/
def quotedText? : Piece → Option String
  | .sql _ => none
  | .value v _ => DollarTag.quotedText? v
  | .untyped v => DollarTag.quotedText? v

/-- What is read from a piece that is written with literals. -/
def tokens (t : DollarTag) (p : Piece) : List Token :=
  p.bareText.toList.map .char ++ (p.quotedText?.toList.map fun s => .literal (t.body s.toList))

end Piece

namespace DollarTag

variable {t : DollarTag}

theorem read?_text (ht : '$' ∉ t.salt.toList) {p : Piece} (hp : ∀ s, p = .sql s → '$' ∉ s.toList)
    (rest : List Char) :
    t.read? ((p.text t).toList ++ rest) = (t.read? rest).map (p.tokens t ++ ·) := by
  cases p with
  | sql s =>
    simpa [Piece.text, Piece.tokens, Piece.bareText, Piece.quotedText?] using
      read?_append (hp s rfl) rest
  | value v cast => exact read?_literal ht v rest
  | untyped v => exact read?_literal ht v rest

theorem outside_tokens (t : DollarTag) (f : Fragment) :
    Token.outside (f.flatMap (Piece.tokens t)) = (String.join (f.map Piece.bareText)).toList := by
  induction f with
  | nil => rfl
  | cons p f ih =>
    have hp : Token.outside (p.tokens t) = p.bareText.toList := by
      cases h : p.quotedText? <;> simp [Token.outside, Piece.tokens, h, List.flatMap_map]
    rw [List.flatMap_cons, List.map_cons, String.join_cons, String.toList_append, ← ih, ← hp]
    exact List.flatMap_append

theorem literals_tokens (t : DollarTag) (f : Fragment) :
    Token.literals (f.flatMap (Piece.tokens t)) =
      (f.filterMap Piece.quotedText?).map fun s => t.body s.toList := by
  induction f with
  | nil => rfl
  | cons p f ih =>
    have hp : Token.literals (p.tokens t) =
        p.quotedText?.toList.map fun s => t.body s.toList := by
      cases h : p.quotedText? <;> simp [Token.literals, Piece.tokens, h, List.flatMap_map]
    have happ : Token.literals (p.tokens t ++ f.flatMap (Piece.tokens t)) =
        Token.literals (p.tokens t) ++ Token.literals (f.flatMap (Piece.tokens t)) :=
      List.flatMap_append
    rw [List.flatMap_cons, happ, hp, ih, List.filterMap_cons]
    cases p.quotedText? <;> rfl

/-- **Rendering with literals cannot be escaped.**  If neither the salt nor the SQL text of a
fragment holds a dollar sign, the rendered fragment reads back piece by piece: outside of literals
stand the SQL text and the bare values, in order, and the literals are the quoted texts, in order,
each without the opening of the tag. -/
theorem read_render_inline (t : DollarTag) (f : Fragment) (ht : '$' ∉ t.salt.toList)
    (hf : ∀ s, Piece.sql s ∈ f → '$' ∉ s.toList) :
    ∃ ts, t.read? (Fragment.render .inline t f).sql.toList = some ts ∧
      ts = f.flatMap (Piece.tokens t) ∧
      Token.outside ts = (String.join (f.map Piece.bareText)).toList ∧
      Token.literals ts = (f.filterMap Piece.quotedText?).map (fun s => t.body s.toList) ∧
      ∀ s, t.Stripped s (t.body s) := by
  refine ⟨_, ?_, rfl, outside_tokens t f, literals_tokens t f, t.stripped_body⟩
  rw [Fragment.render, Fragment.texts_inline, String.toList_join]
  induction f with
  | nil => exact t.read?_nil
  | cons p f ih =>
    have hp : ∀ s, p = .sql s → '$' ∉ s.toList := fun s hs => hf s (hs ▸ List.mem_cons_self)
    rw [List.map_cons, List.flatMap_cons, read?_text ht hp,
      ih fun s hs => hf s (List.mem_cons_of_mem p hs)]
    rfl

/-- The first text holds the whole tag, and a second opening that forms when the first one is
deleted; the second text ends in a part of the tag, right before its closing tag. -/
theorem read_hostile_texts :
    let t : DollarTag := ⟨"ouvxwz"⟩
    let f : Fragment := [.sql "a = ", .value (.text "$_ouvxwz_$;$_ou$_ouvxwz_vxwz_$") none,
      .untyped (.text "x$_ouvxwz"), .sql " AND b = ", .untyped (.int (-3)), .untyped (.double .nan)]
    ∃ ts, t.read? (Fragment.render .inline t f).sql.toList = some ts ∧
      Token.outside ts = "a =  AND b = -3".toList ∧
      Token.literals ts = ["$;$".toList, "x$_ouvxwz".toList, "NaN".toList] := by
  intro t f
  have hf : ∀ s, Piece.sql s ∈ f → '$' ∉ s.toList := by
    intro s hs
    have hs' : s = "a = " ∨ s = " AND b = " := by simpa [f] using hs
    rcases hs' with rfl | rfl <;> decide
  obtain ⟨ts, hread, -, hout, hlit, -⟩ := read_render_inline t f (by decide) hf
  exact ⟨ts, hread, hout.trans (by decide), hlit.trans (by decide)⟩

end DollarTag

end TableMapper
