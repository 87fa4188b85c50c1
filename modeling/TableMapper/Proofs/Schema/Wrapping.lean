import Mathlib.Data.List.DropRight
import TableMapper.Proofs.Schema.Default

/-!
# Defaults in casts and parentheses

The catalog may report a default in casts and parentheses.

* `Default.CastTarget` is a type as casts are made to, and `Default.wrapped` an expression in casts
  and parentheses.
* `Default.Tangled` holds of casts that stand so that parentheses which do not belong together come
  to stand around the rest.
* `Default.dropCast_wrapped_append`: no cast inside of such an expression is taken for one at its
  end.
-/

namespace TableMapper

namespace Default

/-! ### Casts and parentheses -/

/-- A character of the numbers in parentheses after a type name. -/
def isArgumentChar (c : Char) : Bool := Text.isDigit c || c == ',' || c == ' '

/-- A type that an expression is cast to: a name, which may be followed by numbers in parentheses
and by the brackets of an array. -/
structure CastTarget where
  name : String
  arguments : Option String := none
  isArray : Bool := false
  /-- The name starts with a letter or an underscore. -/
  starts : name.toList.head?.any (fun c => Text.isLetter c || c == '_') = true
  /-- It has letters, digits, underscores and blanks. -/
  named : name.toList.all isNameChar = true
  numeric : ∀ a ∈ arguments, a.toList.all isArgumentChar = true

namespace CastTarget

/-- The numbers in their parentheses. -/
def argumentText (t : CastTarget) : String := t.arguments.elim "" fun a => "(" ++ a ++ ")"

/-- The brackets of an array. -/
def arrayText (t : CastTarget) : String := if t.isArray then "[]" else ""

/-- The type as it is written. -/
def text (t : CastTarget) : String := t.name ++ t.argumentText ++ t.arrayText

/-- The text of the type ends with a parenthesis. -/
def Closes (t : CastTarget) : Prop := t.arguments.isSome = true ∧ t.isArray = false

end CastTarget

/-- Something that stands around an expression. -/
inductive Wrap where
  | cast (target : CastTarget)
  | parentheses

/-- The expression with one more thing around it. -/
def Wrap.around : Wrap → String → String
  | cast target, e => e ++ "::" ++ target.text
  | parentheses, e => "(" ++ e ++ ")"

/-- The expression with things around it, the outermost first. -/
def wrapped (ws : List Wrap) (e : String) : String := ws.foldr Wrap.around e

/-- A cast stands around one to a type that closes with a parenthesis, which has parentheses further
inside.  Without the outer cast the text then starts and ends with parentheses that do not belong
together. -/
inductive Tangled : List Wrap → Prop
  | here {outer inner : CastTarget} {ws : List Wrap} (closes : inner.Closes)
      (inside : Wrap.parentheses ∈ ws) : Tangled (.cast outer :: .cast inner :: ws)
  | further {w : Wrap} {ws : List Wrap} (rest : Tangled ws) : Tangled (w :: ws)

/-! ### Blanks at the end -/

/-- Of a text that starts with no blank, the blanks at the end are trimmed. -/
theorem exists_trimChars {a c : Char} {front : List Char} (cs : List Char)
    (head : front.head? = some a) (first : Text.isBlank a = false)
    (solid : Text.isBlank c = false) :
    ∃ kept, kept <+: cs ∧ Text.trimChars (front ++ c :: cs) = front ++ c :: kept ∧
      ∀ last ∈ (c :: kept).getLast?, Text.isBlank last = false := by
  have start : Text.dropStartWhile Text.isBlank (front ++ c :: cs) = front ++ c :: cs := by
    cases front with
    | nil => cases head
    | cons b front =>
      obtain rfl : b = a := by simpa using head
      exact List.dropWhile_cons_of_neg (by simp [first])
  have kept : (c :: cs).rdropWhile Text.isBlank ≠ [] := fun none =>
    absurd (List.rdropWhile_eq_nil_iff.mp none c List.mem_cons_self) (by simp [solid])
  have trimmed : Text.trimChars (front ++ c :: cs) =
      front ++ (c :: cs).rdropWhile Text.isBlank := by
    have some : ((c :: cs).reverse.dropWhile Text.isBlank).isEmpty ≠ true := by
      simpa [List.rdropWhile] using kept
    rw [Text.trimChars, start, Text.dropEndWhile, List.reverse_append, List.dropWhile_append,
      if_neg some, List.reverse_append, List.reverse_reverse]
    rfl
  have last := List.rdropWhile_last_not Text.isBlank (c :: cs) kept
  have early := List.rdropWhile_prefix Text.isBlank (l := c :: cs)
  rw [trimmed]
  generalize (c :: cs).rdropWhile Text.isBlank = whole at kept last early
  cases whole with
  | nil => exact absurd rfl kept
  | cons d whole =>
    obtain ⟨rfl, kept⟩ := List.cons_prefix_cons.mp early
    refine ⟨whole, kept, rfl, fun z tail => ?_⟩
    rw [List.getLast?_eq_some_getLast (List.cons_ne_nil _ _)] at tail
    obtain rfl := Option.some.inj tail
    simpa using last

/-! ### The text of a type -/

theorem dropArguments_closed {cs rest : List Char}
    (h : cs.dropWhile isArgumentChar = ')' :: rest) : dropArguments ('(' :: cs) = rest := by
  unfold isArgumentChar at h
  simp only [dropArguments, h]

theorem dropArguments_unclosed {cs : List Char} (h : cs.dropWhile isArgumentChar = []) :
    dropArguments ('(' :: cs) = '(' :: cs := by
  unfold isArgumentChar at h
  simp only [dropArguments, h]

namespace CastTarget

variable (t : CastTarget)

theorem toList_text :
    t.text.toList = t.name.toList ++ (t.argumentText.toList ++ t.arrayText.toList) := by
  simp [text, String.toList_append]

theorem colon_not_mem_text : ':' ∉ t.text.toList := by
  have name : ':' ∉ t.name.toList := fun mem =>
    absurd (List.all_eq_true.mp t.named ':' mem) (by decide)
  have arguments : ':' ∉ t.argumentText.toList := by
    unfold argumentText
    cases given : t.arguments with
    | none => simp
    | some a =>
      have numeric : ':' ∉ a.toList := fun mem =>
        absurd (List.all_eq_true.mp (t.numeric a given) ':' mem) (by decide)
      simp [String.toList_append, numeric]
  have array : ':' ∉ t.arrayText.toList := by
    unfold arrayText
    split <;> decide
  simp [toList_text, name, arguments, array]

theorem exists_name : ∃ c name, t.name.toList = c :: name ∧
    (Text.isLetter c || c == '_') = true ∧ (c :: name).all isNameChar = true := by
  have starts := t.starts
  have named := t.named
  cases name : t.name.toList with
  | nil => simp [name] at starts
  | cons c more => exact ⟨c, more, rfl, by simpa [name] using starts, name ▸ named⟩

/-- The numbers after the name are taken off. -/
theorem dropArguments_append {rest : List Char} (h : rest.head? ≠ some '(') :
    dropArguments (t.argumentText.toList ++ rest) = rest := by
  unfold argumentText
  cases given : t.arguments with
  | none =>
    show dropArguments rest = rest
    unfold dropArguments
    split
    next => exact absurd rfl h
    next => rfl
  | some a =>
    have chars : ("(" ++ a ++ ")").toList ++ rest = '(' :: (a.toList ++ ')' :: rest) := by
      simp [String.toList_append]
    show dropArguments (("(" ++ a ++ ")").toList ++ rest) = rest
    rw [chars]
    exact dropArguments_closed
      (Text.dropWhile_append (List.all_eq_true.mp (t.numeric a given)) (by simp +decide))

/-- The type is recognized where it stands at the end, and nowhere else. -/
theorem isCastType_text_append (rest : List Char) (h : ∀ c ∈ rest.head?, c = ':' ∨ c = ')') :
    isCastType (t.text.toList ++ rest) = rest.isEmpty := by
  obtain ⟨c, name, named, starts, -⟩ := t.exists_name
  have array : (t.arrayText.toList ++ rest).head? ≠ some '(' := by
    unfold arrayText
    split
    · simp
    · intro opened
      exact absurd (h '(' opened) (by decide)
  have arguments : ∀ c ∈ (t.argumentText.toList ++ (t.arrayText.toList ++ rest)).head?,
      isNameChar c = false := by
    unfold argumentText arrayText
    cases t.arguments with
    | none =>
      split
      · simp +decide
      · intro c head
        obtain rfl | rfl := h c head <;> rfl
    | some a => simp +decide [String.toList_append]
  have split : t.text.toList ++ rest =
      t.name.toList ++ (t.argumentText.toList ++ (t.arrayText.toList ++ rest)) := by
    simp [toList_text]
  have after : dropArguments ((t.text.toList ++ rest).dropWhile isNameChar) =
      t.arrayText.toList ++ rest := by
    rw [split, Text.dropWhile_append (List.all_eq_true.mp t.named) arguments,
      t.dropArguments_append array]
  have first : t.text.toList ++ rest =
      c :: (name ++ (t.argumentText.toList ++ (t.arrayText.toList ++ rest))) := by
    rw [split, named, List.cons_append]
  rw [first] at after ⊢
  rw [isCastType, starts, after, Bool.true_and]
  unfold arrayText
  cases rest with
  | nil => cases t.isArray <;> rfl
  | cons c rest =>
    obtain rfl | rfl := h c rfl <;> cases t.isArray <;> rfl

theorem text_of_closes (h : t.Closes) :
    ∃ a, a.all isArgumentChar = true ∧ t.text.toList = t.name.toList ++ '(' :: a ++ [')'] := by
  obtain ⟨some, array⟩ := h
  obtain ⟨a, given⟩ := Option.isSome_iff_exists.mp some
  exact ⟨a.toList, t.numeric a given, by simp [toList_text, argumentText, arrayText, given, array]⟩

/-- A type ends with the brackets of an array, with the parenthesis of its numbers, or with its
name. -/
theorem text_cases :
    (t.isArray = true ∧ ∃ front, t.text.toList = front ++ [']']) ∨
      (t.Closes ∧ ∃ front, t.text.toList = front ++ [')']) ∨
      (t.arguments = none ∧ t.isArray = false ∧ t.text.toList = t.name.toList) := by
  cases array : t.isArray with
  | true =>
    exact .inl ⟨rfl, t.name.toList ++ t.argumentText.toList ++ ['['], by
      simp [toList_text, arrayText, array]⟩
  | false =>
    cases given : t.arguments with
    | none =>
      exact .inr (.inr ⟨rfl, rfl, by simp [toList_text, arrayText, argumentText, array, given]⟩)
    | some a =>
      have closes : t.Closes := ⟨by simp [given], array⟩
      obtain ⟨a, -, text⟩ := t.text_of_closes closes
      exact .inr (.inl ⟨closes, _, text⟩)

theorem getLast?_text : t.text.toList.getLast? = some ')' ↔ t.Closes := by
  obtain ⟨array, front, text⟩ | ⟨closes, front, text⟩ | ⟨bare, -, text⟩ := t.text_cases
  · simp [text, Closes, array]
  · simp [text, closes, List.getLast?_append, List.getLast?_cons]
  · refine ⟨fun last => ?_, fun closes => absurd closes (by simp [Closes, bare])⟩
    rw [text] at last
    exact absurd (List.all_eq_true.mp t.named _ (List.mem_of_getLast? last)) (by decide)

theorem text_ne_nil : t.text.toList ≠ [] := by
  obtain ⟨c, name, named, -⟩ := t.exists_name
  simp [toList_text, named]

/-- With its blanks at the end trimmed a type is still the same kind of type. -/
theorem exists_trimmed {a : Char} {front : List Char} (head : front.head? = some a)
    (first : Text.isBlank a = false) :
    ∃ t' : CastTarget, (t'.Closes ↔ t.Closes) ∧
      Text.trimChars (front ++ t.text.toList) = front ++ t'.text.toList := by
  have same (z : Char) (last : t.text.toList.getLast? = some z)
      (solid : Text.isBlank z = false) :
      Text.trimChars (front ++ t.text.toList) = front ++ t.text.toList := by
    refine trimChars_eq_self (a := a) (z := z) ?_ ?_ first solid
    · simp [List.head?_append, head]
    · simp [List.getLast?_append, last]
  obtain ⟨-, body, text⟩ | ⟨closes, -⟩ | ⟨bare, array, text⟩ := t.text_cases
  · exact ⟨t, Iff.rfl, same ']' (by simp [text]) (by decide)⟩
  · exact ⟨t, Iff.rfl, same ')' (t.getLast?_text.mpr closes) (by decide)⟩
  · obtain ⟨c, name, named, starts, chars⟩ := t.exists_name
    have solid : Text.isBlank c = false := by
      rw [Bool.or_eq_true, beq_iff_eq] at starts
      obtain letter | rfl := starts
      · exact isBlank_of_isLetter letter
      · rfl
    obtain ⟨kept, early, trimmed, -⟩ := exists_trimChars name head first solid
    have part : (c :: kept).all isNameChar = true := by
      rw [List.all_eq_true] at chars ⊢
      exact fun d mem => chars d ((List.cons_prefix_cons.mpr ⟨rfl, early⟩).subset mem)
    let t' : CastTarget := ⟨String.ofList (c :: kept), none, false, by simpa using starts,
      by simpa using part, by simp⟩
    refine ⟨t', by simp [Closes, t', bare], ?_⟩
    rw [text, named, trimmed]
    simp [toList_text, argumentText, arrayText, t']

end CastTarget

/-! ### Layers -/

/-- The characters of a quoted text with things around it. -/
def wrappedChars (ws : List Wrap) (s : String) : List Char := (wrapped ws (quoted s)).toList

variable {s : String} {ws : List Wrap} {t : CastTarget}

@[simp] theorem wrappedChars_nil : wrappedChars [] s = '\'' :: doubled s.toList ++ ['\''] :=
  toList_quoted s

@[simp] theorem wrappedChars_cast :
    wrappedChars (.cast t :: ws) s = wrappedChars ws s ++ ':' :: ':' :: t.text.toList := by
  simp [wrappedChars, wrapped, Wrap.around, String.toList_append]

@[simp] theorem wrappedChars_parentheses :
    wrappedChars (.parentheses :: ws) s = '(' :: wrappedChars ws s ++ [')'] := by
  simp [wrappedChars, wrapped, Wrap.around, String.toList_append]

/-- Before the quotation there are parentheses only. -/
theorem exists_openings (ws : List Wrap) (s : String) :
    ∃ k after, wrappedChars ws s =
        List.replicate k '(' ++ '\'' :: (doubled s.toList ++ '\'' :: after) ∧
      (0 < k ↔ Wrap.parentheses ∈ ws) := by
  induction ws with
  | nil => exact ⟨0, [], by simp, by simp⟩
  | cons w ws ih =>
    obtain ⟨k, after, chars, inside⟩ := ih
    cases w with
    | cast t => exact ⟨k, after ++ ':' :: ':' :: t.text.toList, by simp [chars], by simp [inside]⟩
    | parentheses =>
      exact ⟨k + 1, after ++ [')'], by simp [chars, List.replicate_succ], by simp⟩

/-- An expression starts with a parenthesis if there is one around the quotation. -/
theorem exists_head (ws : List Wrap) (s : String) :
    ∃ a, (wrappedChars ws s).head? = some a ∧ (a = '\'' ∨ a = '(') ∧
      (a = '(' ↔ Wrap.parentheses ∈ ws) := by
  obtain ⟨k, after, chars, inside⟩ := exists_openings ws s
  cases k with
  | zero => exact ⟨'\'', by simp [chars], .inl rfl, by simp [← inside]⟩
  | succ k => exact ⟨'(', by simp [chars, List.replicate_succ], .inr rfl, by simp [← inside]⟩

theorem isBlank_of_head {a : Char} (h : a = '\'' ∨ a = '(') : Text.isBlank a = false := by
  obtain rfl | rfl := h <;> rfl

/-- What is taken off for a cast does not start inside, where every type is followed by a colon or
a parenthesis. -/
theorem dropCast_wrapped_append {c : Char} (rest : List Char) (h : c = ':' ∨ c = ')') :
    dropCast (wrappedChars ws s ++ c :: rest) = wrappedChars ws s ++ dropCast (c :: rest) := by
  induction ws generalizing c rest with
  | nil =>
    have quote : dropCast ('\'' :: c :: rest) = '\'' :: dropCast (c :: rest) :=
      dropCast_cons_of_ne fun colon => absurd colon (by decide)
    have kept : dropCast (('\'' :: doubled s.toList) ++ '\'' :: c :: rest) = _ :=
      dropCast_append List.mem_cons_self
    simpa [quote] using kept
  | cons w ws ih =>
    cases w with
    | cast t =>
      have unended : isCastType (t.text.toList ++ c :: rest) = false :=
        t.isCastType_text_append _ (by simpa using h)
      have colon : ':' ∉ t.text.toList := t.colon_not_mem_text
      have second : dropCast (':' :: (t.text.toList ++ c :: rest)) =
          ':' :: (t.text.toList ++ dropCast (c :: rest)) := by
        rw [dropCast_cons_of_ne, dropCast_append_of_not_mem colon]
        rintro - head
        rw [List.head?_append_of_ne_nil _ t.text_ne_nil] at head
        exact colon (List.mem_of_mem_head? head)
      have both : dropCast (':' :: ':' :: (t.text.toList ++ c :: rest)) =
          ':' :: ':' :: (t.text.toList ++ dropCast (c :: rest)) := by
        rw [dropCast, if_neg (by simp [unended]), second]
      simp only [wrappedChars_cast, List.append_assoc, List.cons_append]
      rw [ih _ (.inl rfl), both]
    | parentheses =>
      have closing : dropCast (')' :: c :: rest) = ')' :: dropCast (c :: rest) :=
        dropCast_cons_of_ne fun colon => absurd colon (by decide)
      simp only [wrappedChars_parentheses, List.append_assoc, List.cons_append, List.nil_append]
      rw [dropCast_cons_of_ne (by simp), ih _ (.inr rfl), closing]

end Default

end TableMapper
