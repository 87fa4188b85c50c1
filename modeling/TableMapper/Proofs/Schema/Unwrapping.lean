import TableMapper.Proofs.Binary64.Reading
import TableMapper.Proofs.Schema.Wrapping
import TableMapper.Proofs.Sql.Lexing

/-!
# Taking casts and parentheses off

A default of the catalog is unwrapped in rounds.  A round takes off the cast at the end and then
what looks like a pair of parentheses around the rest.

* `Default.unwrap_eq_iterate`: the rounds go on until one changes nothing, and they end.
* `Default.Stuck` holds of what is left of tangled casts, and `Default.exists_settles` says where
  the rounds end for a quoted text in casts and parentheses.
* `Default.wrapped_agrees`: the text comes back unless casts are tangled.
-/

namespace TableMapper

namespace Default

variable {s : String} {ws : List Wrap} {t : CastTarget}

/-! ### Rounds -/

/-- The text without what looks like a pair of parentheses around it. -/
def unparenthesized (cs : List Char) : List Char :=
  match between? '(' ')' cs with
  | some inner => Text.trimChars inner
  | none => cs

theorem unwrapOnce_eq (cs : List Char) :
    unwrapOnce cs = unparenthesized (Text.trimChars (dropCast cs)) := rfl

theorem trimChars_parentheses (cs : List Char) :
    Text.trimChars ('(' :: cs ++ [')']) = '(' :: cs ++ [')'] :=
  trimChars_eq_self (a := '(') (z := ')') rfl List.getLast?_concat (by decide) (by decide)

/-- What looks like a pair of parentheses may be one. -/
theorem unparenthesized_parentheses :
    unparenthesized (Text.trimChars (wrappedChars (.parentheses :: ws) s)) =
      Text.trimChars (wrappedChars ws s) := by
  rw [wrappedChars_parentheses, trimChars_parentheses, unparenthesized, between?_append]

/-- A pair of parentheses is taken off. -/
theorem unwrapOnce_parentheses :
    unwrapOnce (Text.trimChars (wrappedChars (.parentheses :: ws) s)) =
      Text.trimChars (wrappedChars ws s) := by
  have kept : dropCast ('(' :: wrappedChars ws s ++ [')']) = '(' :: wrappedChars ws s ++ [')'] := by
    rw [List.cons_append, dropCast_cons_of_ne fun colon => absurd colon (by decide),
      dropCast_wrapped_append [] (.inr rfl)]
    rfl
  rw [unwrapOnce_eq, wrappedChars_parentheses, trimChars_parentheses, kept,
    ← wrappedChars_parentheses, unparenthesized_parentheses]

/-- A text that ends with a cast still does when it is trimmed. -/
theorem exists_trimmed_cast (ws : List Wrap) (s : String) (t : CastTarget) :
    ∃ t' : CastTarget, (t'.Closes ↔ t.Closes) ∧
      Text.trimChars (wrappedChars (.cast t :: ws) s) = wrappedChars (.cast t' :: ws) s := by
  obtain ⟨a, head, mark, -⟩ := exists_head ws s
  have front : (wrappedChars ws s ++ [':', ':']).head? = some a := by simp [head]
  obtain ⟨t', closes, trimmed⟩ := t.exists_trimmed front (isBlank_of_head mark)
  refine ⟨t', closes, ?_⟩
  simpa only [wrappedChars_cast, List.append_assoc, List.cons_append, List.nil_append] using trimmed

/-- A cast is taken off, and then what looks like a pair of parentheses. -/
theorem unwrapOnce_wrapped_cast :
    unwrapOnce (Text.trimChars (wrappedChars (.cast t :: ws) s)) =
      unparenthesized (Text.trimChars (wrappedChars ws s)) := by
  obtain ⟨t', -, trimmed⟩ := exists_trimmed_cast ws s t
  have ends : isCastType t'.text.toList = true := by
    simpa using t'.isCastType_text_append [] (by simp)
  rw [unwrapOnce_eq, trimmed, wrappedChars_cast, dropCast_wrapped_append _ (.inl rfl), dropCast,
    if_pos ends, List.append_nil]

/-- A text that ends with a cast has no pair of parentheses around it, unless it looks as if it
had. -/
theorem unparenthesized_cast (h : ¬ (t.Closes ∧ Wrap.parentheses ∈ ws)) :
    unparenthesized (Text.trimChars (wrappedChars (.cast t :: ws) s)) =
      Text.trimChars (wrappedChars (.cast t :: ws) s) := by
  obtain ⟨t', closes, trimmed⟩ := exists_trimmed_cast ws s t
  have none : between? '(' ')' (wrappedChars (.cast t' :: ws) s) = none := by
    by_cases inside : Wrap.parentheses ∈ ws
    · refine between?_eq_none_of_last fun last => h ⟨closes.mp (t'.getLast?_text.mp ?_), inside⟩
      have split : wrappedChars (.cast t' :: ws) s =
          (wrappedChars ws s ++ [':', ':']) ++ t'.text.toList := by simp
      rwa [split, List.getLast?_append_of_ne_nil _ t'.text_ne_nil] at last
    · obtain ⟨a, head, mark, opens⟩ := exists_head ws s
      refine between?_eq_none ?_
      rw [wrappedChars_cast, List.head?_append, head]
      simpa [opens] using inside
  rw [trimmed, unparenthesized, none]

/-! ### Texts that stay wrapped -/

/-- A text from which nothing is taken off, although it is not the quotation of `s`. -/
structure Stuck (s : String) (cs : List Char) : Prop where
  fixed : unwrapOnce cs = cs
  longer : s.toList.length < cs.length
  first : ∃ a, cs.head? = some a ∧ (a = '\'' ∨ a = '(')
  last : cs.getLast? ≠ some '\''

theorem length_le_doubled (cs : List Char) : cs.length ≤ (doubled cs).length := by
  induction cs with
  | nil => rfl
  | cons c cs ih =>
    rw [doubled, List.flatMap_cons, List.length_append, List.length_cons]
    have some : 1 ≤ (if c == '\'' then ['\'', '\''] else [c]).length := by split <;> simp
    exact (Nat.add_le_add ih some).trans_eq (Nat.add_comm _ _)

/-- A type without its last parenthesis is none. -/
theorem CastTarget.isCastType_unclosed (t : CastTarget) {a : List Char}
    (h : a.all isArgumentChar = true) : isCastType (t.name.toList ++ '(' :: a) = false := by
  obtain ⟨c, name, named, -⟩ := t.exists_name
  have kept : dropArguments ('(' :: a) = '(' :: a :=
    dropArguments_unclosed (List.dropWhile_eq_nil_iff.mpr (List.all_eq_true.mp h))
  have after : (t.name.toList ++ '(' :: a).dropWhile isNameChar = '(' :: a :=
    Text.dropWhile_append (List.all_eq_true.mp t.named) (by simp +decide)
  rw [named, List.cons_append] at after ⊢
  rw [isCastType, after, kept]
  exact Bool.and_false _

variable {body numbers : List Char}

/-- Inside of parentheses there is still the quotation. -/
theorem inside_parentheses (opened : wrappedChars ws s = '(' :: body) :
    s.toList.length < body.length ∧ ∃ a, body.head? = some a ∧ (a = '\'' ∨ a = '(') := by
  obtain ⟨k, after, chars, -⟩ := exists_openings ws s
  rw [opened] at chars
  cases k with
  | zero => simp at chars
  | succ k =>
    obtain rfl := (List.cons.inj chars).2
    refine ⟨?_, ?_⟩
    · have := length_le_doubled s.toList
      simp
      omega
    · cases k with
      | zero => exact ⟨'\'', rfl, .inl rfl⟩
      | succ k => exact ⟨'(', rfl, .inr rfl⟩

theorem exists_opened (inside : Wrap.parentheses ∈ ws) :
    ∃ body, wrappedChars ws s = '(' :: body := by
  obtain ⟨a, head, -, opens⟩ := exists_head ws s
  obtain rfl := opens.mpr inside
  exact ⟨_, List.eq_cons_of_mem_head? head⟩

/-- A cast to a type that lacks its last parenthesis is none. -/
theorem dropCast_unclosed (opened : wrappedChars ws s = '(' :: body)
    (numeric : numbers.all isArgumentChar = true) :
    dropCast (body ++ ':' :: ':' :: (t.name.toList ++ '(' :: numbers)) =
      body ++ ':' :: ':' :: (t.name.toList ++ '(' :: numbers) := by
  have colon : ':' ∉ t.name.toList ++ '(' :: numbers := by
    intro mem
    obtain name | number := List.mem_append.mp mem
    · exact absurd (List.all_eq_true.mp t.named _ name) (by decide)
    · obtain number := (List.mem_cons.mp number).resolve_left (by decide)
      exact absurd (List.all_eq_true.mp numeric _ number) (by decide)
  have second : dropCast (':' :: (t.name.toList ++ '(' :: numbers)) =
      ':' :: (t.name.toList ++ '(' :: numbers) := by
    rw [dropCast_cons_of_ne, dropCast_of_not_mem colon]
    exact fun _ head => colon (List.mem_of_mem_head? head)
  have both : dropCast (':' :: ':' :: (t.name.toList ++ '(' :: numbers)) =
      ':' :: ':' :: (t.name.toList ++ '(' :: numbers) := by
    rw [dropCast, if_neg (by simp [t.isCastType_unclosed numeric]), second]
  have all : dropCast (wrappedChars ws s ++ ':' :: ':' :: (t.name.toList ++ '(' :: numbers)) = _ :=
    dropCast_wrapped_append _ (.inl rfl)
  rw [opened, both, List.cons_append, dropCast_cons_of_ne fun colon => absurd colon (by decide)]
    at all
  exact (List.cons.inj all).2

/-- Nothing more is taken off when the last parenthesis of a type is gone. -/
theorem stuck_unclosed (opened : wrappedChars ws s = '(' :: body)
    (numeric : numbers.all isArgumentChar = true)
    (solid : ∀ c ∈ ('(' :: numbers).getLast?, Text.isBlank c = false) :
    Stuck s (body ++ ':' :: ':' :: (t.name.toList ++ '(' :: numbers)) := by
  obtain ⟨longer, a, head, mark⟩ := inside_parentheses opened
  obtain ⟨z, last⟩ : ∃ z, ('(' :: numbers).getLast? = some z :=
    ⟨_, List.getLast?_eq_some_getLast (List.cons_ne_nil _ _)⟩
  have other : z ≠ ')' ∧ z ≠ '\'' := by
    obtain rfl | number := List.mem_cons.mp (List.mem_of_getLast? last)
    · exact ⟨by decide, by decide⟩
    · have := List.all_eq_true.mp numeric z number
      constructor <;> (rintro rfl; exact absurd this (by decide))
  have starts : (body ++ ':' :: ':' :: (t.name.toList ++ '(' :: numbers)).head? = some a := by
    simp [List.head?_append, head]
  have ending : (body ++ ':' :: ':' :: (t.name.toList ++ '(' :: numbers)).getLast? = some z := by
    rw [← last]
    simp [List.getLast?_append, List.getLast?_cons]
  have whole := trimChars_eq_self starts ending (isBlank_of_head mark) (solid z last)
  have unpaired : between? '(' ')' (body ++ ':' :: ':' :: (t.name.toList ++ '(' :: numbers)) =
      none := between?_eq_none_of_last (by simpa [ending] using other.1)
  refine ⟨?_, ?_, ⟨a, starts, mark⟩, by simpa [ending] using other.2⟩
  · rw [unwrapOnce_eq, dropCast_unclosed opened numeric, whole, unparenthesized, unpaired]
  · rw [List.length_append]
    omega

/-- The parenthesis of a type is taken for that of the pair that starts the text. -/
theorem stuck_unparenthesized (closes : t.Closes) (inside : Wrap.parentheses ∈ ws) :
    Stuck s (unparenthesized (Text.trimChars (wrappedChars (.cast t :: ws) s))) := by
  obtain ⟨a, numeric, text⟩ := t.text_of_closes closes
  obtain ⟨body, opened⟩ := exists_opened (s := s) inside
  obtain ⟨-, b, head, mark⟩ := inside_parentheses opened
  have front : (body ++ ':' :: ':' :: t.name.toList).head? = some b := by
    simp [List.head?_append, head]
  obtain ⟨kept, early, trimmed, solid⟩ :=
    exists_trimChars a (c := '(') front (isBlank_of_head mark) rfl
  have whole : wrappedChars (.cast t :: ws) s =
      '(' :: (body ++ ':' :: ':' :: t.name.toList ++ '(' :: a) ++ [')'] := by
    simp [opened, text]
  have shorter : kept.all isArgumentChar = true := by
    rw [List.all_eq_true] at numeric ⊢
    exact fun c mem => numeric c (early.subset mem)
  rw [whole, trimChars_parentheses, unparenthesized, between?_append]
  show Stuck s (Text.trimChars (body ++ ':' :: ':' :: t.name.toList ++ '(' :: a))
  rw [trimmed, List.append_assoc]
  exact stuck_unclosed opened shorter solid

/-! ### The end of the rounds -/

theorem dropCast_sublist (cs : List Char) : (dropCast cs).Sublist cs := by
  induction cs with
  | nil => exact List.Sublist.refl _
  | cons c cs ih =>
    rw [dropCast.eq_def]
    split
    next eq =>
      obtain ⟨rfl, rfl⟩ := List.cons.inj eq
      split
      · exact List.nil_sublist _
      · exact ih.cons_cons _
    next eq =>
      obtain ⟨rfl, rfl⟩ := List.cons.inj eq
      exact ih.cons_cons _
    next eq => exact nomatch eq

theorem unparenthesized_sublist (cs : List Char) : (unparenthesized cs).Sublist cs := by
  unfold unparenthesized between?
  split
  next inner found =>
    split at found
    next c d rest =>
      split at found
      · cases found
        exact (Text.trimChars_sublist _).trans
          ((List.dropLast_sublist _).trans (List.sublist_cons_self _ _))
      · cases found
    next => cases found
  next => exact List.Sublist.refl _

theorem unwrapOnce_sublist (cs : List Char) : (unwrapOnce cs).Sublist cs :=
  (unparenthesized_sublist _).trans ((Text.trimChars_sublist _).trans (dropCast_sublist cs))

theorem length_unwrapOnce_lt {cs : List Char} (h : unwrapOnce cs ≠ cs) :
    (unwrapOnce cs).length < cs.length :=
  lt_of_le_of_ne (unwrapOnce_sublist cs).length_le fun same =>
    h ((unwrapOnce_sublist cs).eq_of_length same)

/-- The rounds go on until nothing is taken off any more, and not longer. -/
theorem unwrap_eq_iterate {rounds : Nat} {cs : List Char} (enough : cs.length < rounds) :
    ∃ n ≤ cs.length, unwrap rounds cs = unwrapOnce^[n] cs ∧
      unwrapOnce (unwrapOnce^[n] cs) = unwrapOnce^[n] cs ∧
      ∀ k < n, unwrapOnce (unwrapOnce^[k] cs) ≠ unwrapOnce^[k] cs := by
  induction rounds generalizing cs with
  | zero => exact absurd enough (Nat.not_lt_zero _)
  | succ rounds ih =>
    rw [unwrap]
    split_ifs with fixed
    · exact ⟨0, Nat.zero_le _, rfl, fixed, fun k hk => absurd hk (Nat.not_lt_zero k)⟩
    · have shorter := length_unwrapOnce_lt fixed
      obtain ⟨n, bound, same, stops, before⟩ := ih (show (unwrapOnce cs).length < rounds by omega)
      refine ⟨n + 1, by omega, same, stops, fun k hk => ?_⟩
      cases k with
      | zero => exact fixed
      | succ k => exact before k (Nat.lt_of_succ_lt_succ hk)

/-- From the first text the rounds lead to the second one, of which nothing is taken off. -/
inductive Settles : List Char → List Char → Prop
  | stop {cs : List Char} (fixed : unwrapOnce cs = cs) : Settles cs cs
  | round {cs next out : List Char} (first : unwrapOnce cs = next) (rest : Settles next out) :
      Settles cs out

theorem unwrap_of_settles {cs out : List Char} (h : Settles cs out) {rounds : Nat}
    (enough : cs.length < rounds) : unwrap rounds cs = out := by
  induction h generalizing rounds with
  | stop fixed => exact unwrap_of_fixed fixed rounds
  | @round cs next out first rest ih =>
    subst first
    by_cases fixed : unwrapOnce cs = cs
    · exact fixed ▸ ih (by rwa [fixed])
    · have shorter := length_unwrapOnce_lt fixed
      obtain ⟨rounds, rfl⟩ := Nat.exists_eq_add_one_of_ne_zero (Nat.ne_zero_of_lt enough)
      rw [unwrap, if_neg fixed]
      exact ih (by omega)

/-- What is left is taken out of its quotation marks. -/
def unquoted (cs : List Char) : List Char :=
  match between? '\'' '\'' cs with
  | some inner => undouble inner
  | none => cs

theorem normalize_eq (raw : String) :
    normalize raw = String.ofList (unquoted
      (unwrap ((Text.trimChars raw.toList).length + 1) (Text.trimChars raw.toList))) := by
  cases marks : between? '\'' '\'' (unwrap ((Text.trimChars raw.toList).length + 1)
      (Text.trimChars raw.toList)) with
  | none => simp only [normalize, unquoted, marks]
  | some inner => simp only [normalize, unquoted, marks]

theorem normalize_of_settles {raw : String} {out : List Char}
    (h : Settles (Text.trimChars raw.toList) out) :
    normalize raw = String.ofList (unquoted out) := by
  rw [normalize_eq, unwrap_of_settles h (Nat.lt_succ_self _)]

/-! ### Tangled casts -/

theorem tangled_cons {w : Wrap} :
    Tangled (w :: ws) ↔ Tangled ws ∨ ∃ outer inner rest, w = .cast outer ∧
      ws = .cast inner :: rest ∧ inner.Closes ∧ Wrap.parentheses ∈ rest := by
  constructor
  · rintro (⟨closes, inside⟩ | rest)
    · exact .inr ⟨_, _, _, rfl, rfl, closes, inside⟩
    · exact .inl rest
  · rintro (rest | ⟨outer, inner, rest, rfl, rfl, closes, inside⟩)
    · exact .further rest
    · exact .here closes inside

/-- The rounds end with the quotation, unless casts are tangled. -/
theorem exists_settles (ws : List Wrap) (s : String) :
    ∃ out, Settles (Text.trimChars (wrappedChars ws s)) out ∧ (Tangled ws → Stuck s out) ∧
      (¬ Tangled ws → out = '\'' :: doubled s.toList ++ ['\'']) := by
  -- a round takes off one thing, or a cast and the parentheses inside of it
  match ws with
  | [] =>
    refine ⟨_, ?_, nofun, fun _ => rfl⟩
    rw [wrappedChars_nil, trimChars_quoted]
    exact .stop (unwrapOnce_quoted _)
  | .parentheses :: ws =>
    obtain ⟨out, settles, stuck⟩ := exists_settles ws s
    refine ⟨out, .round unwrapOnce_parentheses settles, ?_⟩
    simpa [tangled_cons] using stuck
  | [.cast t] =>
    refine ⟨_, .round unwrapOnce_wrapped_cast ?_, ?_, fun _ => rfl⟩
    · rw [wrappedChars_nil, trimChars_quoted, unparenthesized, between?_eq_none (by simp)]
      exact .stop (unwrapOnce_quoted _)
    · rintro (_ | ⟨⟨⟩⟩)
  | .cast t :: .parentheses :: ws =>
    obtain ⟨out, settles, stuck⟩ := exists_settles ws s
    refine ⟨out, .round ?_ settles, ?_⟩
    · exact unwrapOnce_wrapped_cast.trans unparenthesized_parentheses
    · simpa [tangled_cons] using stuck
  | .cast t :: .cast inner :: ws =>
    by_cases here : inner.Closes ∧ Wrap.parentheses ∈ ws
    · have stuck := stuck_unparenthesized (s := s) here.1 here.2
      exact ⟨_, .round unwrapOnce_wrapped_cast (.stop stuck.fixed), fun _ => stuck,
        fun free => absurd (.here here.1 here.2) free⟩
    · obtain ⟨out, settles, stuck⟩ := exists_settles (.cast inner :: ws) s
      refine ⟨out, .round ?_ settles, ?_⟩
      · exact unwrapOnce_wrapped_cast.trans (unparenthesized_cast here)
      · rw [tangled_cons]
        simpa [here] using stuck

/-! ### What is read -/

theorem unquoted_quotation (s : String) :
    String.ofList (unquoted ('\'' :: doubled s.toList ++ ['\''])) = s := by
  simp only [unquoted, between?_append, undouble_doubled, String.ofList_toList]

theorem Stuck.unquoted {cs : List Char} (h : Stuck s cs) : unquoted cs = cs := by
  rw [Default.unquoted, between?_eq_none_of_last h.last]

/-- A text that starts with a quotation mark or a parenthesis is no number. -/
theorem read?_eq_none {a : Char} {cs : List Char} (h : a = '\'' ∨ a = '(') :
    Binary64.read? (String.ofList (a :: cs)) = none := by
  have unmarked : Binary64.Unmarked (a :: cs) := by
    rintro _ ⟨⟩
    obtain rfl | rfl := h <;> decide
  have special : Binary64.special? false (a :: cs) = none := by
    obtain rfl | rfl := h <;> exact Binary64.special?_cons (by decide) (by decide)
  have digits : Binary64.readUnsigned? false (a :: cs) = none := by
    obtain rfl | rfl := h <;> rfl
  rw [Binary64.read?_unmarked unmarked, Binary64.readSigned?, special, digits, Option.or_none]

theorem Stuck.ofList_ne {cs : List Char} (h : Stuck s cs) : String.ofList cs ≠ s := by
  rintro rfl
  simpa using h.longer

/-- What is left of a stuck text is not equal to the default in any way. -/
theorem Stuck.agrees_eq_false {raw : String} {cs : List Char} (h : Stuck s cs)
    (found : normalize raw = String.ofList cs) : agrees (some raw) (.string s) = false := by
  obtain ⟨a, head, mark⟩ := h.first
  have number : Binary64.read? (String.ofList cs) = none := by
    rw [List.eq_cons_of_mem_head? head]
    exact read?_eq_none mark
  have letters : Text.sameLetters (String.ofList cs) s = false := by
    refine beq_eq_false_iff_ne.mpr fun same => ?_
    have lengths : cs.length = s.toList.length := by
      simpa [Text.lowerAscii] using congrArg (·.toList.length) same
    exact absurd h.longer (by omega)
  simp [agrees, found, text, number, h.ofList_ne, letters]

/-! ### The literal in a definition -/

theorem scan_doubled (cs text : List Char) :
    scan Lexing.step (.quoted .single false text) ((doubled cs).map Sign.char) =
      some (.quoted .single false (text ++ cs), []) := by
  induction cs generalizing text with
  | nil => simp [doubled, scan]
  | cons c cs ih =>
    have others := ih (text ++ [c])
    rw [List.append_assoc, List.singleton_append] at others
    have next : scan Lexing.step (.quoted .single false text)
        ((if c == '\'' then ['\'', '\''] else [c]).map Sign.char) =
          some (.quoted .single false (text ++ [c]), []) := by
      split_ifs with quote
      · obtain rfl := eq_of_beq quote
        rfl
      · have inside : c ≠ '\'' := by simpa using quote
        simp [scan, Lexing.step, Lexing.stepChar, Quote.char, inside]
    rw [doubled, List.flatMap_cons, List.map_append]
    exact scan_append next others

/-- A literal of text is one lexeme, which has the text. -/
theorem lexemes?_quoted (s : String) :
    Fragment.lexemes? [.sql (quoted s)] = some [.quoted ['\''] s.toList] := by
  have signs : Fragment.signs [.sql (quoted s)] =
      .char '\'' :: ((doubled s.toList).map Sign.char ++ [.char '\'']) := by
    simp [Fragment.signs, Piece.signs, Sign.ofText, toList_quoted]
  have opening : Lexing.step .ground (.char '\'') = some (.quoted .single false [], []) := rfl
  have closing : scan Lexing.step (.quoted .single false s.toList) [.char '\''] =
      some (.closing .single false s.toList, []) := rfl
  refine Lexing.lexemes?_eq_some_iff.mpr ⟨.closing .single false s.toList, [], _, ?_, rfl, rfl⟩
  rw [signs]
  exact scan_cons opening (scan_append (scan_doubled s.toList []) closing)

/-- **A default survives the casts and parentheses around it, unless casts are tangled.**  The
literal of a text is one lexeme of SQL, which has the text.  Of every expression casts and
parentheses are taken off in rounds, at most as many as it has characters: until a round changes
nothing, and not longer.  The text comes back from its literal in casts and parentheses, and
compares equal with the declared default, just when no cast is tangled. -/
theorem wrapped_agrees (s : String) (ws : List Wrap) :
    Fragment.lexemes? [.sql (literal (.string s))] = some [.quoted ['\''] s.toList] ∧
      (∀ raw : String, ∃ n ≤ raw.toList.length,
        normalize raw =
            String.ofList (unquoted (unwrapOnce^[n] (Text.trimChars raw.toList))) ∧
          unwrapOnce (unwrapOnce^[n] (Text.trimChars raw.toList)) =
            unwrapOnce^[n] (Text.trimChars raw.toList) ∧
          ∀ k < n, unwrapOnce (unwrapOnce^[k] (Text.trimChars raw.toList)) ≠
            unwrapOnce^[k] (Text.trimChars raw.toList)) ∧
      (normalize (wrapped ws (literal (.string s))) = s ↔ ¬ Tangled ws) ∧
      (agrees (some (wrapped ws (literal (.string s)))) (.string s) = true ↔ ¬ Tangled ws) := by
  obtain ⟨out, settles, stuck, free⟩ := exists_settles ws s
  have found : normalize (wrapped ws (literal (.string s))) = String.ofList (unquoted out) :=
    normalize_of_settles settles
  refine ⟨lexemes?_quoted s, fun raw => ?_, ?_, ?_⟩
  · obtain ⟨n, bound, same, stops, before⟩ :=
      unwrap_eq_iterate (Nat.lt_succ_self (Text.trimChars raw.toList).length)
    exact ⟨n, bound.trans (Text.trimChars_sublist _).length_le, by rw [normalize_eq, same], stops,
      before⟩
  · by_cases tangled : Tangled ws
    · rw [(stuck tangled).unquoted] at found
      exact iff_of_false (found ▸ (stuck tangled).ofList_ne) (not_not_intro tangled)
    · rw [free tangled, unquoted_quotation] at found
      exact iff_of_true found tangled
  · by_cases tangled : Tangled ws
    · rw [(stuck tangled).unquoted] at found
      simp [(stuck tangled).agrees_eq_false found, tangled]
    · rw [free tangled, unquoted_quotation] at found
      exact iff_of_true (by simp [agrees, found, text]) tangled

/-- The parentheses of the quotation and of the inner type are taken for a pair. -/
example : normalize "('x')::varchar(10)::text" = "'x')::varchar(10" := rfl

end Default

end TableMapper
