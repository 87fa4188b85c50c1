import TableMapper.Id.Strategy
import TableMapper.Proofs.Id.TextKeys
import TableMapper.Proofs.Schema.TypeSeen

/-!
# The length of text keys

A key column of text gets random keys of the length that its type declares.  The type is read by its
name with one space between two words; under any other name, and without a length, keys have twelve
characters.

* `Id.exists_short` says that a short key is what stands in front and as many characters as asked
  for.
* `IdStrategy.infer_of_spells` says which strategy is found for a text type.
* `IdStrategy.key_fits_iff` says which keys fit into the columns that they are made for.
-/

namespace TableMapper

/-! ### Trimming in parts -/

namespace Text

variable {p b : Char → Bool} {cs : List Char} {s : String} {c : Char}

theorem takeWhile_dropWhile (passed : ∀ c, b c = true → p c = true) (cs : List Char) :
    (cs.dropWhile b).takeWhile p = (cs.takeWhile p).dropWhile b := by
  induction cs with
  | nil => rfl
  | cons c cs ih =>
    by_cases blank : b c = true
    · rw [List.dropWhile_cons_of_pos blank, List.takeWhile_cons_of_pos (passed c blank),
        List.dropWhile_cons_of_pos blank, ih]
    · rw [List.dropWhile_cons_of_neg blank]
      by_cases more : p c = true
      · rw [List.takeWhile_cons_of_pos more, List.dropWhile_cons_of_neg blank]
      · rw [List.takeWhile_cons_of_neg more]
        rfl

theorem exists_dropEndWhile (b : Char → Bool) (cs : List Char) :
    ∃ last, cs = dropEndWhile b cs ++ last ∧ ∀ c ∈ last, b c = true :=
  ⟨cs.rtakeWhile b, List.rdropWhile_append_rtakeWhile.symm, fun _ => List.mem_rtakeWhile_imp⟩

theorem dropEndWhile_append {blanks : List Char} (late : ∀ c ∈ blanks, b c = true) :
    dropEndWhile b (cs ++ blanks) = dropEndWhile b cs := by
  rw [dropEndWhile, List.reverse_append,
    List.dropWhile_append_of_pos fun c hc => late c (List.mem_reverse.mp hc), dropEndWhile]

theorem dropEndWhile_takeWhile (passed : ∀ c, b c = true → p c = true) (cs : List Char) :
    dropEndWhile b ((dropEndWhile b cs).takeWhile p) = dropEndWhile b (cs.takeWhile p) := by
  obtain ⟨blanks, parts, late⟩ := exists_dropEndWhile b cs
  generalize dropEndWhile b cs = front at parts ⊢
  rw [parts, List.takeWhile_append, List.takeWhile_eq_self_iff.mpr fun c hc => passed c (late c hc)]
  split
  next whole =>
    rw [dropEndWhile_append late, (List.takeWhile_prefix p).eq_of_length whole]
  next => rfl

theorem dropStartWhile_of_prefix {ds : List Char} (start : ds <+: dropStartWhile b cs) :
    dropStartWhile b ds = ds := by
  obtain ⟨rest, parts⟩ := start
  cases ds with
  | nil => rfl
  | cons c ds =>
    have first := List.head?_dropWhile_not b cs
    rw [← dropStartWhile, ← parts] at first
    exact List.dropWhile_cons_of_neg (by simpa using first)

/-- Blanks at the ends of a text do not count for a part of it that is trimmed as well. -/
theorem trimChars_takeWhile (passed : ∀ c, isBlank c = true → p c = true) (cs : List Char) :
    trimChars ((trimChars cs).takeWhile p) = trimChars (cs.takeWhile p) := by
  have start (ds : List Char) : dropStartWhile isBlank (ds.takeWhile p) =
      (dropStartWhile isBlank ds).takeWhile p := (takeWhile_dropWhile passed ds).symm
  obtain ⟨blanks, parts, -⟩ := exists_dropEndWhile isBlank (dropStartWhile isBlank cs)
  have front : trimChars cs <+: dropStartWhile isBlank cs := ⟨blanks, parts.symm⟩
  rw [trimChars, start, dropStartWhile_of_prefix front, trimChars, trimChars,
    dropEndWhile_takeWhile passed, start]

theorem isBlank_toLower (c : Char) : isBlank c.toLower = isBlank c := by
  obtain same | ⟨low, high, lowered⟩ := toLower_cases c
  · rw [same]
  · rw [isBlank_eq_false (by omega) (by omega), isBlank_eq_false (by omega) (by omega)]

theorem trimChars_lower (cs : List Char) :
    trimChars (cs.map Char.toLower) = (trimChars cs).map Char.toLower := by
  have blanks : isBlank ∘ Char.toLower = isBlank := funext isBlank_toLower
  simp only [trimChars, dropStartWhile, dropEndWhile, List.dropWhile_map, blanks,
    ← List.map_reverse]

/-- A text up to its closing parenthesis, without blanks around. -/
theorem trimChars_closed {blanks : List Char} (late : ∀ c ∈ blanks, isBlank c = true)
    (name inner : List Char) : trimChars (name ++ '(' :: (inner ++ ')' :: blanks)) =
      name.dropWhile isBlank ++ '(' :: (inner ++ [')']) := by
  have start : dropStartWhile isBlank (name ++ '(' :: (inner ++ ')' :: blanks)) =
      name.dropWhile isBlank ++ '(' :: inner ++ [')'] ++ blanks := by
    have open_ : isBlank '(' = false := rfl
    rw [dropStartWhile, List.dropWhile_append]
    split
    next none => simp [List.isEmpty_iff.mp none, open_]
    next => simp
  have closed : dropEndWhile isBlank (name.dropWhile isBlank ++ '(' :: inner ++ [')']) =
      name.dropWhile isBlank ++ '(' :: inner ++ [')'] :=
    List.rdropWhile_concat_neg isBlank _ ')' (by decide)
  rw [trimChars, start, dropEndWhile_append late, closed, List.append_assoc, List.cons_append]

end Text

namespace Id

/-- **A short key** is what stands in front and as many digits and letters as asked for, whatever
the random choices are. -/
theorem exists_short (len : Nat) (lead : String) (r : Randomness) :
    ∃ cs, (short len lead r).1 = lead ++ String.ofList cs ∧ cs.length = len ∧
      ∀ c ∈ cs, c ∈ base36 := by
  have word : ∀ c ∈ Text.inBase 16 r.draw.1, c ∈ base36 := fun c digit => by
    obtain ⟨d, small, rfl⟩ := Text.exists_digitChar_of_mem_lowDigits (by decide) digit
    have all : ∀ d < 16, Text.digitChar d ∈ base36 := by decide
    exact all d small
  have chosen (c : Char) (random : c ∈ (r.draw.2.pickChars shortAlphabet
      (len - (Text.inBase 16 r.draw.1).length)).1) : c ∈ base36 := by
    have letters : shortAlphabet.all base36.contains = true := by decide
    obtain letter | rfl := Randomness.mem_or_zero_of_mem_pickChars random
    · exact List.contains_iff_mem.mp (List.all_eq_true.mp letters c letter)
    · decide
  have filled : (fill shortAlphabet (Text.inBase 16 r.draw.1) len r.draw.2).1.length =
      (Text.inBase 16 r.draw.1).length + (len - (Text.inBase 16 r.draw.1).length) := by
    rw [← Randomness.length_pickChars shortAlphabet (len - _) r.draw.2, ← List.length_append]
    rfl
  generalize cut : (fill shortAlphabet (Text.inBase 16 r.draw.1) len r.draw.2).1 = cs at filled
  refine ⟨cs.drop (cs.length - len), by rw [← cut]; rfl, ?_, fun c last => ?_⟩
  · rw [List.length_drop]
    omega
  · rw [← cut] at last
    exact (List.mem_append.mp (List.mem_of_mem_drop last)).elim (word c) (chosen c)

end Id

namespace TypeName

variable {text : String} {cs : List Char}

/-- The name is found in the same place by both readings of a type, if there are no brackets. -/
theorem base_of_trimmed (outside : '[' ∉ text.toList) :
    Text.trim (Text.beforeFirst '(' (Text.lowerAscii (Text.trim text))) = base text := by
  have marks : (· != '(') ∘ Char.toLower = (· != '(') := funext fun c => by
    rw [Function.comp_apply, Bool.eq_iff_iff, bne_iff_ne, bne_iff_ne, ne_eq, ne_eq,
      Text.toLower_eq_iff (by decide)]
  have passed : ∀ c, Text.isBlank c = true → (c != '(') = true := by
    rintro c blank
    rw [bne_iff_ne]
    rintro rfl
    cases blank
  have stop : text.toList.takeWhile (· != '(') =
      text.toList.takeWhile (fun c => c != '(' && c != '[') := by
    generalize text.toList = cs at outside
    induction cs with
    | nil => rfl
    | cons c cs ih =>
      have here : c ≠ '[' := fun same => outside (same ▸ List.mem_cons_self)
      have rest := ih fun later => outside (List.mem_cons_of_mem c later)
      simp [List.takeWhile_cons, here, rest]
  simp only [Text.trim, Text.beforeFirst, Text.lowerAscii, base, String.toList_ofList,
    List.takeWhile_map, marks, Text.trimChars_lower, Text.trimChars_takeWhile passed, stop]

end TypeName

namespace IdStrategy

variable {name inner : List Char}

/-- The names of types that keys are made by. -/
def keyNames : List String :=
  ["varchar", "character varying", "char", "character", "bigint", "int8", "serial", "bigserial",
    "smallserial", "int", "integer", "int4", "smallint", "int2"]

theorem declaredLength?_bare {type : String} (outside : '(' ∉ type.toList) :
    declaredLength? type = Option.none := by
  have uncut : Text.cutAt? "(" type = Option.none :=
    congrArg (Option.map _) (Text.cutAtChars?_eq_none outside)
  simp only [declaredLength?, uncut, Option.bind_eq_bind, Option.bind_none]

theorem declaredLength?_closed (outside : '(' ∉ name) (inside : ')' ∉ inner) :
    declaredLength? (String.ofList (name ++ '(' :: (inner ++ [')']))) =
      Text.naturalBelow? (Nat.pow 2 64) (Text.trim (String.ofList inner)) := by
  have cut : Text.cutAt? "(" (String.ofList (name ++ '(' :: (inner ++ [')']))) =
      some (String.ofList name, String.ofList (inner ++ [')'])) := by
    have parts := Text.cutAtChars?_singleton outside (inner ++ [')'])
    rw [← String.toList_ofList (l := name ++ '(' :: (inner ++ [')']))] at parts
    exact congrArg (Option.map _) parts
  have closed : Text.dropEndWhile (· == ')') (inner ++ [')']) = inner := by
    refine (Text.dropEndWhile_append (by simp)).trans ?_
    refine (List.rdropWhile_eq_self_iff ..).mpr fun some last => inside ?_
    rw [← eq_of_beq last]
    exact List.getLast_mem some
  simp only [declaredLength?, cut, Option.bind_eq_bind, Option.bind_some, String.toList_ofList,
    closed]

end IdStrategy

namespace TypeName

theorem toLower_of_isMark {c : Char} (h : isMark c = true) : c.toLower = c := by
  simp only [isMark, Bool.or_eq_true, beq_iff_eq] at h
  obtain (digit | rfl) | rfl := h
  · exact Text.toLower_of_isDigit digit
  · rfl
  · rfl

/-- A positive number is read as a natural one. -/
theorem Numeral.natural? (n : Numeral) (positive : 0 < n.value) :
    Text.natural? n.text = some n.value.toNat := by
  obtain ⟨text, value, read⟩ := n
  unfold Text.integer? at read
  unfold Text.natural?
  split at read
  next cs plus =>
    obtain ⟨k, digits, rfl⟩ := Option.map_eq_some_iff.mp read
    simp [plus, digits]
  next cs minus =>
    cases digits : Text.digits? cs with
    | none => simp [digits] at read
    | some k =>
      have negative : -(k : Int) = value := by simpa [digits] using read
      have positive : 0 < value := positive
      omega
  next cs unsigned _ =>
    obtain ⟨k, digits, rfl⟩ := Option.map_eq_some_iff.mp read
    split
    next cs plus => exact absurd plus (unsigned cs)
    next => simp [digits]

theorem trim_of_listed {n : Numeral} {inner : String} (h : Listed [n] inner) :
    Text.trim inner = n.text := by
  obtain ⟨some, marks⟩ := n.chars
  cases h with
  | last early late =>
    rw [Text.trim, String.toList_append, String.toList_append, Text.trimChars_padded some
      (List.all_eq_true.mp early) (List.all_eq_true.mp late)
      (fun c first => isBlank_of_isMark (marks c (List.mem_of_mem_head? first)))
      (fun c last => isBlank_of_isMark (marks c (List.mem_of_getLast? last))),
      String.ofList_toList]
  | more _ _ others => cases others

namespace Declared

variable {d : Declared} {text : String}

/-- The characters that keys for a column of text get. -/
def keyLength (d : Declared) (text : String) : Nat :=
  match d.numerals with
  | [] => 12
  | n :: _ => if base text = d.form.name ∧ n.value < 2 ^ 64 then n.value.toNat else 12

/-- The most characters that a column of text holds: the declared length, or one for a character
without a length. -/
def capacity? (d : Declared) : Option Int :=
  match d.numerals with
  | [] => if d.form.reported = "character" then some 1 else none
  | n :: _ => some n.value

/-- A text of `len` characters fits into the column. -/
def Holds (d : Declared) (len : Nat) : Prop := ∀ most ∈ d.capacity?, (len : Int) ≤ most

/-- Keys are longer than what the column holds: it is one character, or its length is not read since
other blanks than one stand inside of its name. -/
inductive Overlong (d : Declared) (text : String) : Prop
  | single (none : d.numerals = []) (character : d.form.reported = "character")
  | unread (n : Numeral) (given : n ∈ d.numerals) (short : n.value < 12)
      (spaced : base text ≠ d.form.name)

theorem numerals_cases (kind : d.form.numbers = .length) :
    d.numerals = [] ∨ ∃ n, d.numerals = [n] := by
  have few := d.few
  rw [kind] at few
  match d.numerals, few with
  | [], _ => exact .inl rfl
  | [n], _ => exact .inr ⟨n, rfl⟩

/-- The name that is read is the one of the type, or none that keys are made by. -/
theorem base_cases (kind : d.form.numbers = .length) (spells : d.Spells text) :
    base text = d.form.name ∨ base text ∉ IdStrategy.keyNames := by
  have all : ∀ f ∈ forms, f.numbers = .length → f.suffix = [] ∧ ∀ known ∈ IdStrategy.keyNames,
      Text.words known = f.words ++ f.suffix → known = f.name := by decide +kernel
  obtain ⟨short, same⟩ := all d.form d.listed kind
  obtain ⟨name, spelled, named⟩ := exists_found spells (.inr short)
  have words := words_of_spelled (plainWords_of_mem d.listed) spelled
  rw [← named] at words
  rw [or_iff_not_imp_right, not_not]
  exact fun known => same _ known words

/-- The declared length is read wherever it is asked for. -/
theorem declaredLength?_of_spells (kind : d.form.numbers = .length) (spells : d.Spells text)
    (positive : ∀ n ∈ d.numerals, 0 < n.value) :
    IdStrategy.declaredLength? (Text.lowerAscii (Text.trim text)) =
      d.numerals.head?.bind fun n => if n.value < 2 ^ 64 then some n.value.toNat else none := by
  have outside {name : String} {ws : List String} (plain : PlainWords ws)
      (padded : Padded ws name) : '(' ∉ name.toList := fun mem =>
    absurd (mild_of_padded plain padded _ mem) (by decide)
  have low {cs : List Char} (none : '(' ∉ cs) : '(' ∉ cs.map Char.toLower := fun mem => by
    obtain ⟨c, inside, lowered⟩ := List.mem_map.mp mem
    obtain rfl := (Text.toLower_eq_iff (by decide)).mp lowered
    exact none inside
  cases spells with
  | bare bare words =>
    have unmarked : '(' ∉ (Text.lowerAscii (Text.trim text)).toList := by
      rw [Text.lowerAscii, String.toList_ofList, Text.trim, String.toList_ofList]
      exact low fun mem =>
        outside (plainWords_of_mem d.listed) words ((Text.trimChars_sublist _).subset mem)
    rw [IdStrategy.declaredLength?_bare unmarked, bare]
    rfl
  | @numbered name inner rest words numbers suffix =>
    obtain none | ⟨n, single⟩ := numerals_cases kind
    · exact absurd none (ne_nil_of_listed numbers)
    rw [single] at numbers positive ⊢
    have inside : ')' ∉ inner.toList := fun mem => absurd (mem_of_listed numbers mem) (by decide)
    have blanks : ∀ c ∈ rest.toList, Text.isBlank c = true := by
      have all : ∀ f ∈ forms, f.numbers = .length → f.suffix = [] := by decide
      rw [all d.form d.listed kind] at suffix
      cases suffix with
      | none blank => exact List.all_eq_true.mp blank
      | words _ spelled => cases spelled
    have kept : inner.toList.map Char.toLower = inner.toList := by
      refine Text.map_toLower_eq_self fun c hc => ?_
      obtain mark | blank | rfl := mem_of_listed numbers hc
      · exact toLower_of_isMark mark
      · exact toLower_of_isBlank blank
      · rfl
    have lowered : Text.lowerAscii (Text.trim (name ++ "(" ++ inner ++ ")" ++ rest)) =
        String.ofList ((name.toList.dropWhile Text.isBlank).map Char.toLower ++
          '(' :: (inner.toList ++ [')'])) := by
      have chars : (name ++ "(" ++ inner ++ ")" ++ rest).toList =
          name.toList ++ '(' :: (inner.toList ++ ')' :: rest.toList) := by
        simp [String.toList_append]
      rw [Text.lowerAscii, Text.trim, String.toList_ofList, chars, Text.trimChars_closed blanks]
      simp [kept]
    have front : '(' ∉ (name.toList.dropWhile Text.isBlank).map Char.toLower :=
      low fun mem => outside plain_words words ((List.dropWhile_sublist _).subset mem)
    rw [lowered, IdStrategy.declaredLength?_closed front inside, String.ofList_toList,
      trim_of_listed numbers, Text.naturalBelow?,
      n.natural? (positive n (List.mem_singleton_self n))]
    have word : n.value.toNat < Nat.pow 2 64 ↔ n.value < 2 ^ 64 := by
      change n.value.toNat < 2 ^ 64 ↔ _
      omega
    simp only [Option.filter_some, decide_eq_true_eq, word, List.head?_cons, Option.bind_some]

/-- Keys have the declared length if it is read, or by chance. -/
theorem keyLength_eq_iff (kind : d.form.numbers = .length)
    (positive : ∀ n ∈ d.numerals, 0 < n.value) {n : Numeral} (given : n ∈ d.numerals) :
    (d.keyLength text : Int) = n.value ↔
      n.value = 12 ∨ base text = d.form.name ∧ n.value < 2 ^ 64 := by
  have some := positive n given
  obtain bare | ⟨m, single⟩ := numerals_cases kind
  · simp [bare] at given
  · obtain rfl : n = m := by simpa [single] using given
    simp only [keyLength, single]
    split
    next read => exact iff_of_true (Int.toNat_of_nonneg (Int.le_of_lt some)) (.inr read)
    next unread =>
      rw [or_iff_left unread]
      exact eq_comm

/-- Keys fit unless they are overlong. -/
theorem holds_keyLength (kind : d.form.numbers = .length)
    (positive : ∀ n ∈ d.numerals, 0 < n.value) :
    d.Holds (d.keyLength text) ↔ ¬ d.Overlong text := by
  have bare_iff (bare : d.numerals = []) : d.Overlong text ↔ d.form.reported = "character" := by
    constructor
    · rintro (⟨-, character⟩ | ⟨n, given⟩)
      · exact character
      · simp [bare] at given
    · exact .single bare
  have single_iff {n : Numeral} (single : d.numerals = [n]) :
      d.Overlong text ↔ n.value < 12 ∧ base text ≠ d.form.name := by
    constructor
    · rintro (⟨bare⟩ | ⟨m, given, short, spaced⟩)
      · simp [single] at bare
      · obtain rfl : m = n := by simpa [single] using given
        exact ⟨short, spaced⟩
    · exact fun ⟨short, spaced⟩ => .unread n (by simp [single]) short spaced
  obtain bare | ⟨n, single⟩ := numerals_cases kind
  · rw [bare_iff bare, Holds, capacity?, keyLength, bare]
    by_cases character : d.form.reported = "character" <;> simp [character]
  · have some : 0 < n.value := positive n (by simp [single])
    rw [single_iff single, Holds, capacity?, keyLength, single]
    simp only [Option.mem_some_iff, forall_eq']
    split
    next read =>
      have whole : (n.value.toNat : Int) = n.value := Int.toNat_of_nonneg (Int.le_of_lt some)
      exact iff_of_true (Int.le_of_eq whole) fun overlong => overlong.2 read.1
    next unread =>
      refine ⟨fun fits overlong => Int.not_le.mpr overlong.1 fits, fun fits => ?_⟩
      by_contra long
      have short : n.value < 12 := Int.not_le.mp long
      exact fits ⟨short, fun named => unread ⟨named, Int.lt_trans short (by decide)⟩⟩

end Declared

end TypeName

namespace IdStrategy

variable {d : TypeName.Declared} {text : String}

/-- The strategy for a column of text: keys of the length that is read. -/
theorem infer_of_spells (kind : d.form.numbers = .length) (spells : d.Spells text)
    (positive : ∀ n ∈ d.numerals, 0 < n.value) : infer text = .short (d.keyLength text) "" := by
  have character : ∀ f ∈ TypeName.forms, f.numbers = .length → f.name ∈ keyNames ∧
      ["varchar", "character varying", "char", "character"].contains f.name = true := by
    decide +kernel
  obtain ⟨listed, character⟩ := character d.form d.listed kind
  have found := TypeName.base_of_trimmed fun bracket =>
    absurd (TypeName.Declared.mem_of_spells spells bracket) (by decide)
  have length := TypeName.Declared.declaredLength?_of_spells kind spells positive
  have single := TypeName.Declared.numerals_cases kind
  obtain named | unknown := TypeName.Declared.base_cases kind spells
  · simp only [infer, found, length, named, character, if_pos]
    obtain bare | ⟨n, single⟩ := single
    · rw [TypeName.Declared.keyLength, bare]
      rfl
    · rw [TypeName.Declared.keyLength, single]
      simp only [List.head?_cons, Option.bind_some, named, true_and]
      split <;> rfl
  · have other : TypeName.base text ≠ d.form.name := fun named => unknown (named ▸ listed)
    have default : d.keyLength text = 12 := by
      obtain bare | ⟨n, single⟩ := single
      · rw [TypeName.Declared.keyLength, bare]
      · simp [TypeName.Declared.keyLength, single, other]
    rw [default]
    simp only [keyNames, List.mem_cons, List.not_mem_nil, or_false, not_or] at unknown
    simp [infer, found, unknown]

/-- **Keys and their columns.**  Let a text declare a column of characters, with a positive length
or without one, in any case of letters and with any blanks.  Whatever the random choices are, it
gets keys of digits and small letters, and they fit into the column unless it is a single character,
or a length below twelve is not read since other blanks than one stand inside of the name.  A
declared length is the length of the keys if it is read, and otherwise only if it is twelve.  A
short key is always what stands in front and as many digits and small letters as asked for. -/
theorem key_fits_iff (d : TypeName.Declared) (text : String) (kind : d.form.numbers = .length)
    (spells : d.Spells text) (positive : ∀ n ∈ d.numerals, 0 < n.value) :
    (∀ supply, ∃ cs, ((infer text).generate supply).1 = some (.string (String.ofList cs)) ∧
      (∀ c ∈ cs, c ∈ Id.base36) ∧ (d.Holds cs.length ↔ ¬ d.Overlong text) ∧
      ∀ n ∈ d.numerals, (cs.length : Int) = n.value ↔
        n.value = 12 ∨ TypeName.base text = d.form.name ∧ n.value < 2 ^ 64) ∧
    ∀ len lead r, ∃ cs, (Id.short len lead r).1 = lead ++ String.ofList cs ∧ cs.length = len ∧
      ∀ c ∈ cs, c ∈ Id.base36 := by
  refine ⟨fun supply => ?_, Id.exists_short⟩
  obtain ⟨cs, key, length, digits⟩ := Id.exists_short (d.keyLength text) "" supply.random
  rw [String.empty_append] at key
  rw [infer_of_spells kind spells positive]
  refine ⟨cs, congrArg (some ∘ Json.string) key, digits, ?_, fun n given => ?_⟩
  · rw [length]
    exact d.holds_keyLength kind positive
  · rw [length]
    exact d.keyLength_eq_iff kind positive given

/-- A name of at most eight characters. -/
def nick : TypeName.Declared where
  form := { words := ["character", "varying"], reported := "character varying", numbers := .length }
  numerals := [⟨"8", 8, by decide +kernel⟩]
  listed := by decide
  few := by decide

/-- A single character. -/
def initial : TypeName.Declared where
  form := { words := ["char"], reported := "character", numbers := .length }
  listed := by decide
  few := by decide

/-- The same name spelled with a gap. -/
theorem spells_nick (gap : String) {text : String} (some : gap ≠ "")
    (blank : Text.isBlankText gap = true)
    (spelled : text = "" ++ ("Character" ++ gap ++ "varying") ++ "" ++ "(" ++
      ("" ++ "8" ++ "") ++ ")" ++ "") : nick.Spells text :=
  spelled ▸ .numbered
    (.words rfl (.more (by decide +kernel) some blank (.word (by decide +kernel))) rfl)
    (.last rfl rfl) (.none rfl)

theorem spells_initial : initial.Spells "char" := by
  have whole : "char" = "" ++ "char" ++ "" := by decide +kernel
  rw [whole]
  exact .bare rfl (.words rfl (.word (by decide +kernel)) rfl)

/-- Keys have the declared eight characters with one blank in the name of the type, but are too long
with two, and for a single character. -/
theorem key_fits_nick :
    let supply : IdSupply := ⟨0, 0, .cycle [2 ^ 63]⟩
    nick.Spells "Character varying(8)" ∧ nick.Spells "Character  varying(8)" ∧
      initial.Spells "char" ∧
      (∃ cs, ((infer "Character varying(8)").generate supply).1 =
        some (.string (String.ofList cs)) ∧ cs.length = 8 ∧ nick.Holds cs.length) ∧
      (∃ cs, ((infer "Character  varying(8)").generate supply).1 =
        some (.string (String.ofList cs)) ∧ ¬ nick.Holds cs.length) ∧
      ∃ cs, ((infer "char").generate supply).1 = some (.string (String.ofList cs)) ∧
        ¬ initial.Holds cs.length := by
  intro supply
  have one : nick.Spells "Character varying(8)" :=
    spells_nick " " (by decide) (by decide) (by decide +kernel)
  have two : nick.Spells "Character  varying(8)" :=
    spells_nick "  " (by decide) (by decide) (by decide +kernel)
  have positive : ∀ n ∈ nick.numerals, 0 < n.value := by decide
  have given : nick.numerals.head? = some ⟨"8", 8, by decide +kernel⟩ := rfl
  have eight := List.mem_of_head? given
  refine ⟨one, two, spells_initial, ?_, ?_, ?_⟩
  · obtain ⟨cs, key, -, fits, length⟩ := (key_fits_iff nick _ rfl one positive).1 supply
    have read := (length _ eight).mpr (.inr (by decide +kernel))
    refine ⟨cs, key, Int.ofNat_inj.mp read, fits.mpr ?_⟩
    rintro (⟨bare⟩ | ⟨n, -, -, spaced⟩)
    · cases bare
    · exact spaced (by decide +kernel)
  · obtain ⟨cs, key, -, fits, -⟩ := (key_fits_iff nick _ rfl two positive).1 supply
    exact ⟨cs, key, fun holds => fits.mp holds (.unread _ eight (by decide) (by decide +kernel))⟩
  · obtain ⟨cs, key, -, fits, -⟩ := (key_fits_iff initial _ rfl spells_initial nofun).1 supply
    exact ⟨cs, key, fun holds => fits.mp holds (.single rfl rfl)⟩

end IdStrategy

end TableMapper
