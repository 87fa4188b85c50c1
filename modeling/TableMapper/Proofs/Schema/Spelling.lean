import TableMapper.Proofs.Binary64.Reading
import TableMapper.Proofs.Schema.TypeName
import TableMapper.Proofs.Text.Search
import TableMapper.Schema.Catalog

/-!
# The spelling of types

A type may be declared in any case of letters, with blanks wherever there may be some.

* `TypeName.Form` is a type that is compared, with the name under which it is reported, and
  `TypeName.Declared` such a type with its numbers.  `TypeName.exists_form`: there are no others.
* `TypeName.Declared.Spells` relates it to the texts that declare it, `TypeName.Declared.Reports` to
  the columns that have it.
* `TypeName.words_of_spelled` and `TypeName.base_of_padded` say what is read of the words in such a
  text, `TypeName.arguments?_of_listed` what is read of the numbers.
-/

namespace TableMapper

namespace TypeName

/-! ### Types and their texts -/

/-- What the numbers after a name are: a length, precision and scale, or a precision that is not
compared. -/
inductive Numbers
  | none
  | length
  | decimal
  | moment
  deriving DecidableEq

/-- The numbers that there are at most. -/
def Numbers.most : Numbers → Nat
  | .none => 0
  | .length => 1
  | .decimal => 2
  | .moment => 1

/-- A type that is compared: the words before its numbers and those after them, and its name in the
catalog. -/
structure Form where
  words : List String
  suffix : List String := []
  reported : String
  numbers : Numbers := .none
  deriving DecidableEq

/-- The types that are compared. -/
def forms : List Form :=
  [{ words := ["varchar"], reported := "character varying", numbers := .length },
    { words := ["character", "varying"], reported := "character varying", numbers := .length },
    { words := ["char"], reported := "character", numbers := .length },
    { words := ["character"], reported := "character", numbers := .length },
    { words := ["text"], reported := "text" },
    { words := ["decimal"], reported := "numeric", numbers := .decimal },
    { words := ["numeric"], reported := "numeric", numbers := .decimal },
    { words := ["integer"], reported := "integer" },
    { words := ["int"], reported := "integer" },
    { words := ["int4"], reported := "integer" },
    { words := ["smallint"], reported := "smallint" },
    { words := ["int2"], reported := "smallint" },
    { words := ["bigint"], reported := "bigint" },
    { words := ["int8"], reported := "bigint" },
    { words := ["boolean"], reported := "boolean" },
    { words := ["bool"], reported := "boolean" },
    { words := ["bytea"], reported := "bytea" },
    { words := ["jsonb"], reported := "jsonb" },
    { words := ["json"], reported := "json" },
    { words := ["date"], reported := "date" },
    { words := ["time"], reported := "time without time zone", numbers := .moment },
    { words := ["timestamp"], reported := "timestamp without time zone", numbers := .moment },
    { words := ["timestamp"], suffix := ["with", "time", "zone"],
      reported := "timestamp with time zone", numbers := .moment },
    { words := ["timestamptz"], reported := "timestamp with time zone", numbers := .moment },
    { words := ["real"], reported := "real" },
    { words := ["float4"], reported := "real" },
    { words := ["double", "precision"], reported := "double precision" },
    { words := ["float8"], reported := "double precision" },
    { words := ["uuid"], reported := "uuid" }]

/-- All words of a type, with one blank between each two. -/
def Form.name (f : Form) : String := " ".intercalate (f.words ++ f.suffix)

/-- A number as it is written. -/
structure Numeral where
  text : String
  value : Int
  read : Text.integer? text = some value

/-- A type as it is declared, with its numbers. -/
structure Declared where
  form : Form
  numerals : List Numeral := []
  listed : form ∈ forms
  few : numerals.length ≤ form.numbers.most

/-- The words, in any case of letters, with blanks between them. -/
inductive Spelled : List String → String → Prop
  | word {w s : String} (same : Text.sameLetters s w = true) : Spelled [w] s
  | more {w s gap rest : String} {ws : List String} (same : Text.sameLetters s w = true)
      (some : gap ≠ "") (blank : Text.isBlankText gap = true) (others : Spelled ws rest) :
      Spelled (w :: ws) (s ++ gap ++ rest)

/-- The words, if there are any, with blanks around them. -/
inductive Padded : List String → String → Prop
  | none {gap : String} (blank : Text.isBlankText gap = true) : Padded [] gap
  | words {ws : List String} {before name after : String} (early : Text.isBlankText before = true)
      (spelled : Spelled ws name) (late : Text.isBlankText after = true) :
      Padded ws (before ++ name ++ after)

/-- The numbers, with blanks around each and commas between them. -/
inductive Listed : List Numeral → String → Prop
  | last {n : Numeral} {before after : String} (early : Text.isBlankText before = true)
      (late : Text.isBlankText after = true) : Listed [n] (before ++ n.text ++ after)
  | more {n : Numeral} {ns : List Numeral} {before after rest : String}
      (early : Text.isBlankText before = true) (late : Text.isBlankText after = true)
      (others : Listed ns rest) : Listed (n :: ns) (before ++ n.text ++ after ++ "," ++ rest)

namespace Declared

/-- The texts that declare a type. -/
inductive Spells (d : Declared) : String → Prop
  | bare {name : String} (none : d.numerals = [])
      (words : Padded (d.form.words ++ d.form.suffix) name) : Spells d name
  | numbered {name inner rest : String} (words : Padded d.form.words name)
      (numbers : Listed d.numerals inner) (suffix : Padded d.form.suffix rest) :
      Spells d (name ++ "(" ++ inner ++ ")" ++ rest)

/-- A live column of the type, as the catalog reports it: a length if it is given, and precision
and scale if a precision is given, the scale being zero when it is left out. -/
structure Reports (d : Declared) (c : CatalogColumn) : Prop where
  name : c.dataType = d.form.reported
  length : d.form.numbers = .length → ∀ n ∈ d.numerals, c.charLength = some n.value
  decimal : d.form.numbers = .decimal → ∀ p, d.numerals.head? = some p →
    c.numericPrecision = some p.value ∧
      c.numericScale = some (d.numerals[1]?.elim 0 (·.value))

end Declared

/-! ### Names -/

/-- A small letter or a digit. -/
def isPlain (c : Char) : Bool := ('a' ≤ c && c ≤ 'z') || Text.isDigit c

theorem toNat_of_isPlain {c : Char} (h : isPlain c = true) :
    97 ≤ c.toNat ∧ c.toNat ≤ 122 ∨ 48 ≤ c.toNat ∧ c.toNat ≤ 57 := by
  rw [isPlain, Bool.or_eq_true, Text.isDigit_iff] at h
  exact h.imp_left fun small => by simpa [Char.le_def, UInt32.le_iff_toNat_le] using small

theorem toLower_of_isPlain {c : Char} (h : isPlain c = true) : c.toLower = c := by
  obtain same | ⟨low, high, -⟩ := Text.toLower_cases c
  · exact same
  · have := toNat_of_isPlain h
    omega

theorem isBlank_of_isPlain {c : Char} (h : isPlain c = true) : Text.isBlank c = false := by
  have := toNat_of_isPlain h
  exact Text.isBlank_eq_false (by omega) (by omega)

theorem toLower_of_isBlank {c : Char} (h : Text.isBlank c = true) : c.toLower = c := by
  obtain same | ⟨low, high, -⟩ := Text.toLower_cases c
  · exact same
  · rw [Text.isBlank_eq_false (by omega) (by omega)] at h
    cases h

/-- Words of small letters and digits. -/
def PlainWords (ws : List String) : Prop :=
  ∀ w ∈ ws, w ≠ "" ∧ ∀ c ∈ w.toList, isPlain c = true

theorem plainWords_of_mem {f : Form} (listed : f ∈ forms) : PlainWords (f.words ++ f.suffix) := by
  have all : (forms.all fun f => (f.words ++ f.suffix).all fun w =>
      w != "" && w.toList.all isPlain) = true := by decide +kernel
  intro w word
  have plain := List.all_eq_true.mp (List.all_eq_true.mp all f listed) w word
  simpa using plain

theorem words_name {f : Form} (listed : f ∈ forms) : Text.words f.name = f.words ++ f.suffix := by
  have all : ∀ f ∈ forms, Text.words f.name = f.words ++ f.suffix := by decide +kernel
  exact all f listed

theorem catalogName?_name {f : Form} (listed : f ∈ forms) :
    catalogName? f.name = some f.reported := by
  have all : ∀ f ∈ forms, catalogName? f.name = some f.reported := by decide +kernel
  exact all f listed

/-- Every name that is known is that of a form. -/
theorem exists_form {name reported : String} (known : catalogName? name = some reported) :
    ∃ f ∈ forms, f.name = name := by
  have listed : name ∈ forms.map Form.name := by
    unfold catalogName? at known
    split at known
    all_goals first
      | decide +kernel
      | exact absurd known (by simp)
  exact List.mem_map.mp listed

variable {ws : List String} {s w gap text rest : String}

theorem map_toLower_of_blank (blank : Text.isBlankText gap = true) :
    gap.toList.map Char.toLower = gap.toList :=
  Text.map_toLower_eq_self fun c hc => toLower_of_isBlank (List.all_eq_true.mp blank c hc)

theorem toList_of_sameLetters (plain : ∀ c ∈ w.toList, isPlain c = true)
    (same : Text.sameLetters s w = true) : s.toList.map Char.toLower = w.toList := by
  have lowered := congrArg String.toList (eq_of_beq same)
  simp only [Text.lowerAscii, String.toList_ofList] at lowered
  rw [lowered]
  exact Text.map_toLower_eq_self fun c hc => toLower_of_isPlain (plain c hc)

/-- The words are read from the text in lower case. -/
theorem words_of_spelled (plain : PlainWords ws) (spelled : Spelled ws s) :
    Text.words (Text.lowerAscii s) = ws := by
  induction spelled with
  | @word w s same =>
    obtain ⟨some, small⟩ := plain w List.mem_cons_self
    have chars := toList_of_sameLetters small same
    have alone : Text.wordsFrom [] w.toList = [[].reverse ++ w.toList] :=
      Text.wordsFrom_solid (by simpa using some) fun c hc => isBlank_of_isPlain (small c hc)
    simp [Text.words, Text.lowerAscii, chars, alone]
  | @more w s gap rest ws same parted blank others ih =>
    obtain ⟨some, small⟩ := plain w List.mem_cons_self
    have later : Text.words (Text.lowerAscii rest) = ws :=
      ih fun v hv => plain v (List.mem_cons_of_mem w hv)
    have chars := toList_of_sameLetters small same
    have kept := map_toLower_of_blank blank
    obtain ⟨b, gap', first⟩ := List.exists_cons_of_ne_nil (mt String.toList_eq_nil_iff.mp parted)
    have blanks : ∀ c ∈ b :: gap', Text.isBlank c = true := first ▸ List.all_eq_true.mp blank
    have lowered : (Text.lowerAscii (s ++ gap ++ rest)).toList =
        w.toList ++ (gap.toList ++ (Text.lowerAscii rest).toList) := by
      simp only [Text.lowerAscii, String.toList_ofList, String.toList_append, List.map_append,
        chars, kept, List.append_assoc]
    have split : Text.wordsFrom [] (w.toList ++ b :: (gap' ++ (Text.lowerAscii rest).toList)) =
        ([].reverse ++ w.toList) :: Text.wordsFrom [] (gap' ++ (Text.lowerAscii rest).toList) :=
      Text.wordsFrom_append (by simpa using some) (fun c hc => isBlank_of_isPlain (small c hc))
        (blanks b List.mem_cons_self)
    rw [Text.words, lowered, first, List.cons_append, split,
      Text.wordsFrom_blanks fun c hc => blanks c (List.mem_cons_of_mem b hc), List.map_cons,
      List.reverse_nil, List.nil_append, String.ofList_toList, ← later]
    rfl

/-- A character of a word, in any case, or a blank. -/
def isMild (c : Char) : Bool := isPlain c.toLower || Text.isBlank c

theorem mild_of_blank (blank : Text.isBlankText gap = true) : ∀ c ∈ gap.toList, isMild c = true :=
  fun c hc => by simp [isMild, List.all_eq_true.mp blank c hc]

theorem plain_of_sameLetters (plain : ∀ c ∈ w.toList, isPlain c = true)
    (same : Text.sameLetters s w = true) {c : Char} (hc : c ∈ s.toList) :
    isPlain c.toLower = true := by
  refine plain c.toLower ?_
  rw [← toList_of_sameLetters plain same]
  exact List.mem_map_of_mem hc

theorem mild_of_spelled (plain : PlainWords ws) (spelled : Spelled ws s) :
    ∀ c ∈ s.toList, isMild c = true := by
  induction spelled with
  | @word w s same =>
    intro c hc
    simp [isMild, plain_of_sameLetters (plain w List.mem_cons_self).2 same hc]
  | @more w s gap rest ws same parted blank others ih =>
    intro c hc
    rw [String.toList_append, String.toList_append, List.mem_append, List.mem_append] at hc
    obtain (hc | hc) | hc := hc
    · simp [isMild, plain_of_sameLetters (plain w List.mem_cons_self).2 same hc]
    · exact mild_of_blank blank c hc
    · exact ih (fun v hv => plain v (List.mem_cons_of_mem w hv)) c hc

theorem mild_of_padded (plain : PlainWords ws) (padded : Padded ws s) :
    ∀ c ∈ s.toList, isMild c = true := by
  cases padded with
  | none blank => exact mild_of_blank blank
  | @words ws before name after early spelled late =>
    intro c hc
    rw [String.toList_append, String.toList_append, List.mem_append, List.mem_append] at hc
    obtain (hc | hc) | hc := hc
    · exact mild_of_blank early c hc
    · exact mild_of_spelled plain spelled c hc
    · exact mild_of_blank late c hc

theorem isBlank_of_plain {c : Char} (plain : isPlain c.toLower = true) :
    Text.isBlank c = false := by
  by_contra blank
  rw [Bool.not_eq_false] at blank
  rw [toLower_of_isBlank blank] at plain
  exact absurd blank (by simp [isBlank_of_isPlain plain])

/-- Words start and end with no blank. -/
theorem ends_of_spelled (plain : PlainWords ws) (spelled : Spelled ws s) :
    s.toList ≠ [] ∧ (∀ c ∈ s.toList.head?, Text.isBlank c = false) ∧
      ∀ c ∈ s.toList.getLast?, Text.isBlank c = false := by
  have word {w s : String} (plain : w ≠ "" ∧ ∀ c ∈ w.toList, isPlain c = true)
      (same : Text.sameLetters s w = true) :
      s.toList ≠ [] ∧ ∀ c ∈ s.toList, Text.isBlank c = false := by
    refine ⟨fun none => plain.1 ?_, fun c hc =>
      isBlank_of_plain (plain_of_sameLetters plain.2 same hc)⟩
    have chars := toList_of_sameLetters plain.2 same
    rw [none] at chars
    exact String.toList_eq_nil_iff.mp chars.symm
  induction spelled with
  | @word w s same =>
    obtain ⟨some, solid⟩ := word (plain w List.mem_cons_self) same
    exact ⟨some, fun c hc => solid c (List.mem_of_mem_head? hc),
      fun c hc => solid c (List.mem_of_getLast? hc)⟩
  | @more w s gap rest ws same parted blank others ih =>
    obtain ⟨some, solid⟩ := word (plain w List.mem_cons_self) same
    obtain ⟨some', -, last⟩ := ih fun v hv => plain v (List.mem_cons_of_mem w hv)
    simp only [String.toList_append]
    refine ⟨by simp [some], fun c hc => ?_, fun c hc => ?_⟩
    · rw [List.append_assoc, List.head?_append_of_ne_nil _ some] at hc
      exact solid c (List.mem_of_mem_head? hc)
    · rw [List.getLast?_append_of_ne_nil _ some'] at hc
      exact last c hc

/-- The name is what stands before a parenthesis, without the blanks around it. -/
theorem base_of_padded (plain : PlainWords ws) (some : ws ≠ []) (padded : Padded ws s)
    (rest : String) (stop : ∀ c ∈ rest.toList.head?, c = '(') :
    ∃ name, Spelled ws name ∧ base (s ++ rest) = Text.lowerAscii name := by
  have outside : ∀ c ∈ s.toList, (c != '(' && c != '[') = true := by
    intro c hc
    have mild := mild_of_padded plain padded c hc
    have ne (mark : Char) (other : isMild mark = false) : c ≠ mark := by
      rintro rfl
      rw [mild] at other
      cases other
    simp [ne '(' (by decide), ne '[' (by decide)]
  have before : (s ++ rest).toList.takeWhile (fun c => c != '(' && c != '[') = s.toList := by
    rw [String.toList_append, List.takeWhile_append_of_pos outside]
    cases tail : rest.toList with
    | nil => simp
    | cons c cs =>
      obtain rfl := stop c (by rw [tail]; rfl)
      simp
  cases padded with
  | none blank => exact absurd rfl some
  | @words ws before' name after early spelled late =>
    obtain ⟨kept, first, last⟩ := ends_of_spelled plain spelled
    have trimmed := Text.trimChars_padded kept (List.all_eq_true.mp early)
      (List.all_eq_true.mp late) first last
    refine ⟨name, spelled, ?_⟩
    rw [base]
    simp only [before]
    rw [String.toList_append, String.toList_append, trimmed, String.ofList_toList]

/-- The name in lower case is that of the type if it is known at all. -/
theorem known_of_spelled {f : Form} (listed : f ∈ forms)
    (spelled : Spelled (f.words ++ f.suffix) s) {reported : String}
    (known : catalogName? (Text.lowerAscii s) = some reported) :
    reported = f.reported ∧ Text.lowerAscii s = f.name := by
  obtain ⟨g, listed', named⟩ := exists_form known
  have words : g.words ++ g.suffix = f.words ++ f.suffix := by
    rw [← words_name listed', named, words_of_spelled (plainWords_of_mem listed) spelled]
  have same : Text.lowerAscii s = f.name := by
    rw [← named, Form.name, words, Form.name]
  rw [same, catalogName?_name listed] at known
  exact ⟨(Option.some.inj known).symm, same⟩

/-! ### Numbers -/

/-- A digit or a sign. -/
def isMark (c : Char) : Bool := Text.isDigit c || c == '-' || c == '+'

theorem isBlank_of_isMark {c : Char} (h : isMark c = true) : Text.isBlank c = false := by
  simp only [isMark, Bool.or_eq_true, beq_iff_eq] at h
  obtain (digit | rfl) | rfl := h
  · have := Text.isDigit_iff.mp digit
    exact Text.isBlank_eq_false (by omega) (by omega)
  · rfl
  · rfl

theorem digits_of_digits? {cs : List Char} {k : Nat} (h : Text.digits? cs = some k) :
    cs ≠ [] ∧ ∀ c ∈ cs, isMark c = true := by
  unfold Text.digits? at h
  split at h
  next => cases h
  next digits =>
    rw [Bool.or_eq_true, not_or, Bool.not_eq_true', Bool.not_eq_false, List.isEmpty_iff,
      List.all_eq_true] at digits
    exact ⟨digits.1, fun c hc => by simp [isMark, digits.2 c hc]⟩

/-- A number is written with digits and a sign. -/
theorem Numeral.chars (n : Numeral) :
    n.text.toList ≠ [] ∧ ∀ c ∈ n.text.toList, isMark c = true := by
  have read := n.read
  rw [← String.ofList_toList (s := n.text)] at read
  obtain ⟨sign, ds, mark, chars⟩ | unmarked := Binary64.sign_cases n.text.toList
  · obtain ⟨value, signed⟩ := Binary64.integer?_signed mark
    rw [chars, signed] at read
    obtain ⟨k, digits, -⟩ := Option.map_eq_some_iff.mp read
    have first : isMark sign = true := by obtain rfl | rfl := mark <;> rfl
    rw [chars]
    exact ⟨List.cons_ne_nil _ _,
      List.forall_mem_cons.mpr ⟨first, (digits_of_digits? digits).2⟩⟩
  · rw [Binary64.integer?_unmarked unmarked] at read
    obtain ⟨k, digits, -⟩ := Option.map_eq_some_iff.mp read
    exact digits_of_digits? digits

theorem not_mem_numeral (n : Numeral) {mark : Char} (other : isMark mark = false) :
    mark ∉ n.text.toList := fun mem => by
  rw [n.chars.2 mark mem] at other
  cases other

theorem filter_of_blank {cs : List Char} (blank : cs.all Text.isBlank = true) :
    cs.filter (!Text.isBlank ·) = [] :=
  List.filter_eq_nil_iff.mpr fun c hc => by simp [List.all_eq_true.mp blank c hc]

theorem filter_numeral (n : Numeral) :
    n.text.toList.filter (!Text.isBlank ·) = n.text.toList :=
  List.filter_eq_self.mpr fun c hc => by simp [isBlank_of_isMark (n.chars.2 c hc)]

variable {ns : List Numeral} {inner : String}

/-- Without blanks the numbers stand between commas. -/
theorem filter_of_listed (h : Listed ns inner) :
    inner.toList.filter (!Text.isBlank ·) = (",".intercalate (ns.map (·.text))).toList := by
  induction h with
  | @last n before after early late =>
    simp [String.toList_append, filter_of_blank early, filter_of_blank late, filter_numeral]
  | @more n ns before after rest early late others ih =>
    have some : ns.map (·.text) ≠ [] := by cases others <;> simp
    obtain ⟨m, ms, more⟩ := List.exists_cons_of_ne_nil some
    rw [more] at ih
    rw [List.map_cons, more, String.intercalate_cons_cons]
    simp only [String.toList_append, List.filter_append, filter_of_blank early,
      filter_of_blank late, filter_numeral, ih, List.nil_append, List.append_nil]
    rfl

theorem mem_of_listed (h : Listed ns inner) {c : Char} (hc : c ∈ inner.toList) :
    isMark c = true ∨ Text.isBlank c = true ∨ c = ',' := by
  induction h with
  | @last n before after early late =>
    simp only [String.toList_append, List.mem_append] at hc
    obtain (hc | hc) | hc := hc
    · exact .inr (.inl (List.all_eq_true.mp early c hc))
    · exact .inl (n.chars.2 c hc)
    · exact .inr (.inl (List.all_eq_true.mp late c hc))
  | @more n ns before after rest early late others ih =>
    simp only [String.toList_append, List.mem_append] at hc
    obtain (((hc | hc) | hc) | hc) | hc := hc
    · exact .inr (.inl (List.all_eq_true.mp early c hc))
    · exact .inl (n.chars.2 c hc)
    · exact .inr (.inl (List.all_eq_true.mp late c hc))
    · exact .inr (.inr (List.mem_singleton.mp hc))
    · exact ih hc

/-- The numbers are read without the blanks. -/
theorem arguments?_of_listed (h : Listed ns inner) (outside : '(' ∉ s.toList) (rest : String) :
    arguments? (s ++ "(" ++ inner ++ ")" ++ rest) =
      some (",".intercalate (ns.map (·.text))) := by
  have inside : ')' ∉ inner.toList := fun mem => absurd (mem_of_listed h mem) (by decide)
  have some : inner.toList.filter (!Text.isBlank ·) ≠ [] := by
    have mark (n : Numeral) : n.text.toList.filter (!Text.isBlank ·) ≠ [] :=
      (filter_numeral n).symm ▸ n.chars.1
    cases h <;> simp only [String.toList_append, List.filter_append] <;> simp [mark]
  rw [arguments?_parentheses outside inside, if_neg some, filter_of_listed h,
    String.ofList_toList]

end TypeName

end TableMapper
