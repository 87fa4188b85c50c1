import Mathlib.Data.List.TakeWhile
import TableMapper.Proofs.Json.Number
import TableMapper.Proofs.Schema.TypeName
import TableMapper.Schema.Default

/-!
# Defaults as the catalog reports them

A default that has been set comes back from the catalog as an SQL expression: numbers and truth
values as they are, everything else in quotation marks and cast to the type of its column.

* `Default.reported` is that expression.
* `Default.CastName` holds of the type names that a cast is recognized by, among them every name
  that the catalog has for a managed type (`Default.castName_of_catalogName?`).
* `Default.agrees_reported`: what was set compares equal with what is reported.
-/

namespace TableMapper

namespace Default

/-- The expression under which the catalog reports a default of a column whose type has the name
`dataType`. -/
def reported (dataType : String) : Json → String
  | .string s => quoted s ++ "::" ++ dataType
  | .bool b => if b then "true" else "false"
  | .int n => toString n
  | .double x => Json.doubleText x
  | other => quoted other.render ++ "::" ++ dataType

/-- A name that a cast at the end of an expression is recognized by. -/
structure CastName (dataType : String) : Prop where
  shape : isCastType dataType.toList = true
  /-- No blank stands at the end. -/
  last : ∀ c ∈ dataType.toList.getLast?, Text.isBlank c = false

/-! ### Casts -/

theorem not_quote_of_isNameChar {c : Char} (h : isNameChar c = true) : c ≠ '\'' := by
  rintro rfl
  exact absurd h (by decide)

/-- Arguments have no quotation mark. -/
theorem quote_mem_dropArguments {cs : List Char} (h : '\'' ∈ cs) : '\'' ∈ dropArguments cs := by
  unfold dropArguments
  split
  next rest =>
    split
    next after closed =>
      have inside : '\'' ∈ rest := by simpa using h
      rw [← List.takeWhile_append_dropWhile
        (p := fun c => Text.isDigit c || c == ',' || c == ' ') (l := rest)] at inside
      obtain early | late := List.mem_append.mp inside
      · exact absurd (List.mem_takeWhile_imp early) (by decide)
      · rw [closed] at late
        simpa using late
    next => exact h
  next => exact h

/-- A text with a quotation mark is not the type of a cast. -/
theorem isCastType_eq_false {cs : List Char} (h : '\'' ∈ cs) : isCastType cs = false := by
  have later : '\'' ∈ dropArguments (cs.dropWhile isNameChar) := by
    refine quote_mem_dropArguments ?_
    rw [← List.takeWhile_append_dropWhile (p := isNameChar) (l := cs)] at h
    obtain early | late := List.mem_append.mp h
    · exact absurd rfl (not_quote_of_isNameChar (List.mem_takeWhile_imp early))
    · exact late
  unfold isCastType
  split
  next =>
    split
    next stop => rw [stop] at later; simp at later
    next stop => rw [stop] at later; simp at later
    next => exact Bool.and_false _
  next => rfl

/-- What precedes a quotation mark is no part of a cast. -/
theorem dropCast_cons {c : Char} {cs : List Char} (h : '\'' ∈ cs) :
    dropCast (c :: cs) = c :: dropCast cs := by
  rw [dropCast.eq_def]
  split
  next rest eq =>
    obtain ⟨rfl, rfl⟩ := List.cons.inj eq
    rw [isCastType_eq_false (by simpa using h)]
    rfl
  next eq => obtain ⟨rfl, rfl⟩ := List.cons.inj eq; rfl
  next eq => exact nomatch eq

theorem dropCast_append {a cs : List Char} (h : '\'' ∈ cs) :
    dropCast (a ++ cs) = a ++ dropCast cs := by
  induction a with
  | nil => rfl
  | cons c a ih =>
    rw [List.cons_append, dropCast_cons (List.mem_append_right a h), ih, List.cons_append]

/-- The cast after a quoted text is taken off. -/
theorem dropCast_quoted {body type : List Char} (h : isCastType type = true) :
    dropCast (body ++ '\'' :: ':' :: ':' :: type) = body ++ ['\''] := by
  rw [dropCast_append List.mem_cons_self]
  simp [dropCast, h]

/-- A character at which no colons stand is no part of a cast. -/
theorem dropCast_cons_of_ne {c : Char} {cs : List Char} (h : c = ':' → cs.head? ≠ some ':') :
    dropCast (c :: cs) = c :: dropCast cs := by
  rw [dropCast.eq_def]
  split
  next eq =>
    obtain ⟨rfl, rfl⟩ := List.cons.inj eq
    exact absurd rfl (h rfl)
  next eq => obtain ⟨rfl, rfl⟩ := List.cons.inj eq; rfl
  next eq => exact nomatch eq

/-- A text without colons is no part of a cast. -/
theorem dropCast_append_of_not_mem {a : List Char} (h : ':' ∉ a) (cs : List Char) :
    dropCast (a ++ cs) = a ++ dropCast cs := by
  induction a with
  | nil => rfl
  | cons c a ih =>
    rw [List.mem_cons, not_or] at h
    rw [List.cons_append, dropCast_cons_of_ne fun colon => absurd colon.symm h.1, ih h.2,
      List.cons_append]

theorem dropCast_of_not_mem {cs : List Char} (h : ':' ∉ cs) : dropCast cs = cs := by
  simpa [dropCast] using dropCast_append_of_not_mem h []

/-! ### Blanks and parentheses -/

theorem trimChars_eq_self {a z : Char} {cs : List Char} (head : cs.head? = some a)
    (tail : cs.getLast? = some z) (first : Text.isBlank a = false)
    (last : Text.isBlank z = false) : Text.trimChars cs = cs := by
  have front : Text.dropStartWhile Text.isBlank cs = cs := by
    cases cs with
    | nil => rfl
    | cons c cs =>
      obtain rfl : c = a := by simpa using head
      simp [Text.dropStartWhile, first]
  have back : cs.reverse.dropWhile Text.isBlank = cs.reverse := by
    rw [← List.head?_reverse] at tail
    cases rev : cs.reverse with
    | nil => rfl
    | cons c more =>
      obtain rfl : c = z := by simpa [rev] using tail
      rw [List.dropWhile_cons, last]
      rfl
  rw [Text.trimChars, front, Text.dropEndWhile, back, List.reverse_reverse]

theorem between?_eq_none {first last : Char} {cs : List Char} (h : cs.head? ≠ some first) :
    between? first last cs = none := by
  unfold between?
  split
  next c d rest => rw [if_neg fun both => h (congrArg some both.1)]
  next => rfl

theorem between?_eq_none_of_last {first last : Char} {cs : List Char}
    (h : cs.getLast? ≠ some last) : between? first last cs = none := by
  unfold between?
  split
  next c d rest =>
    refine if_neg fun both => h ?_
    rw [List.getLast?_cons_cons]
    exact both.2
  next => rfl

theorem between?_append (first last : Char) (body : List Char) :
    between? first last (first :: body ++ [last]) = some body := by
  cases body with
  | nil => simp [between?]
  | cons c body =>
    show (if first = first ∧ (c :: body ++ [last]).getLast? = some last then
      some (c :: body ++ [last]).dropLast else none) = some (c :: body)
    rw [if_pos ⟨rfl, List.getLast?_concat⟩, List.dropLast_concat]

/-- What does not change is not unwrapped. -/
theorem unwrap_of_fixed {cs : List Char} (h : unwrapOnce cs = cs) (rounds : Nat) :
    unwrap rounds cs = cs := by
  cases rounds with
  | zero => rfl
  | succ rounds => rw [unwrap, if_pos h]

/-! ### Quoted texts -/

/-- The characters with every quotation mark written twice. -/
def doubled (cs : List Char) : List Char :=
  cs.flatMap fun c => if c == '\'' then ['\'', '\''] else [c]

theorem toList_quoted (s : String) :
    (quoted s).toList = '\'' :: doubled s.toList ++ ['\''] := by
  simp [quoted, doubled]

theorem undouble_doubled (cs : List Char) : undouble (doubled cs) = cs := by
  induction cs with
  | nil => rfl
  | cons c cs ih =>
    by_cases quote : c = '\''
    · subst quote
      exact congrArg ('\'' :: ·) ih
    · have single : doubled (c :: cs) = c :: doubled cs := by simp [doubled, quote]
      rw [single, undouble.eq_def]
      split
      next eq => exact absurd (List.cons.inj eq).1 quote
      next eq => obtain ⟨rfl, rfl⟩ := List.cons.inj eq; rw [ih]
      next eq => exact nomatch eq

theorem trimChars_quoted (body : List Char) :
    Text.trimChars ('\'' :: body ++ ['\'']) = '\'' :: body ++ ['\''] :=
  trimChars_eq_self (a := '\'') (z := '\'') rfl List.getLast?_concat (by decide) (by decide)

/-- A quoted text that is cast loses the cast. -/
theorem unwrapOnce_cast {body type : List Char} (h : isCastType type = true) :
    unwrapOnce ('\'' :: body ++ '\'' :: ':' :: ':' :: type) = '\'' :: body ++ ['\''] := by
  rw [unwrapOnce, dropCast_quoted h, trimChars_quoted, between?_eq_none (by simp)]

/-- A quoted text without a cast stays as it is. -/
theorem unwrapOnce_quoted (body : List Char) :
    unwrapOnce ('\'' :: body ++ ['\'']) = '\'' :: body ++ ['\''] := by
  have same : dropCast ('\'' :: body ++ ['\'']) = '\'' :: body ++ ['\''] := by
    rw [dropCast_append (List.mem_singleton_self _)]
    rfl
  rw [unwrapOnce, same, trimChars_quoted, between?_eq_none (by simp)]

/-- A quoted and cast text is read back. -/
theorem normalize_quoted {dataType : String} (name : CastName dataType) (s : String) :
    normalize (quoted s ++ "::" ++ dataType) = s := by
  have chars : (quoted s ++ "::" ++ dataType).toList =
      '\'' :: doubled s.toList ++ '\'' :: ':' :: ':' :: dataType.toList := by
    simp [String.toList_append, toList_quoted]
  have ended : dataType.toList ≠ [] := by
    intro empty
    exact absurd name.shape (by simp [empty, isCastType])
  have trimmed : Text.trimChars ('\'' :: doubled s.toList ++ '\'' :: ':' :: ':' :: dataType.toList)
      = '\'' :: doubled s.toList ++ '\'' :: ':' :: ':' :: dataType.toList := by
    refine trimChars_eq_self (a := '\'') rfl ?_ (by decide)
      (name.last _ (List.getLast?_eq_some_getLast ended))
    simp [List.getLast?_append, List.getLast?_cons, List.getLast?_eq_some_getLast ended]
  have longer : '\'' :: doubled s.toList ++ ['\''] ≠
      '\'' :: doubled s.toList ++ '\'' :: ':' :: ':' :: dataType.toList := by simp
  rw [normalize]
  simp only [chars, trimmed]
  rw [unwrap, unwrapOnce_cast name.shape, if_neg longer, unwrap_of_fixed (unwrapOnce_quoted _),
    between?_append]
  simp [undouble_doubled]

/-! ### Numbers and truth values -/

/-- A character that means nothing in an expression. -/
def isBare (c : Char) : Bool := c != ':' && c != '(' && c != '\'' && !Text.isBlank c

/-- A text of bare characters is taken as it is. -/
theorem normalize_bare {s : String} (h : ∀ c ∈ s.toList, isBare c = true) : normalize s = s := by
  have bare {c : Char} (hc : c ∈ s.toList) :
      c ≠ ':' ∧ c ≠ '(' ∧ c ≠ '\'' ∧ Text.isBlank c = false := by
    have := h c hc
    simp_all [isBare]
  have trimmed : Text.trimChars s.toList = s.toList := by
    cases head : s.toList.head? with
    | none => rw [List.head?_eq_none_iff.mp head]; rfl
    | some first =>
      obtain ⟨last, tail⟩ : ∃ last, s.toList.getLast? = some last := by
        cases tail : s.toList.getLast? with
        | none => simp_all
        | some last => exact ⟨last, rfl⟩
      exact trimChars_eq_self head tail (bare (List.mem_of_mem_head? head)).2.2.2
        (bare (List.mem_of_getLast? tail)).2.2.2
  have outside (mark : Char) (other : mark ∉ s.toList) (last : Char) :
      between? mark last s.toList = none :=
    between?_eq_none fun head => other (List.mem_of_mem_head? head)
  have fixed : unwrapOnce s.toList = s.toList := by
    rw [unwrapOnce, dropCast_of_not_mem fun colon => (bare colon).1 rfl, trimmed,
      outside '(' (fun mem => (bare mem).2.1 rfl)]
  rw [normalize]
  simp only [trimmed]
  rw [unwrap_of_fixed fixed, outside '\'' (fun mem => (bare mem).2.2.1 rfl), String.ofList_toList]

theorem isBlank_of_isLetter {c : Char} (h : Text.isLetter c = true) : Text.isBlank c = false := by
  have range : 65 ≤ c.toNat ∧ c.toNat ≤ 122 := by
    simp only [Text.isLetter, Bool.or_eq_true, Bool.and_eq_true, decide_eq_true_eq, Char.le_def,
      UInt32.le_iff_toNat_le] at h
    obtain ⟨low, high⟩ | ⟨low, high⟩ := h
    · exact ⟨le_trans (by decide) low, high⟩
    · exact ⟨low, le_trans high (by decide)⟩
  exact Text.isBlank_eq_false (by omega) (by omega)

theorem isBare_of_isNumeral {c : Char} (h : Text.isNumeral c = true) : isBare c = true := by
  have ne (mark : Char) (other : Text.isNumeral mark = false) : c ≠ mark := by
    rintro rfl
    exact absurd h (by simp [other])
  simp [isBare, Text.isBlank_of_isNumeral h, ne ':' rfl, ne '(' rfl, ne '\'' rfl]

theorem isBare_of_isScientific {c : Char} (h : Text.isScientific c = true) : isBare c = true := by
  simp only [Text.isScientific, Bool.or_eq_true, beq_iff_eq] at h
  obtain (numeral | rfl) | rfl := h
  · exact isBare_of_isNumeral numeral
  · rfl
  · rfl

theorem isBare_of_mem_int {n : Int} {c : Char} (h : c ∈ (toString n).toList) : isBare c = true :=
  isBare_of_isNumeral (Text.isNumeral_of_mem_int h)

theorem isBare_of_mem_doubleText {x : Binary64} {c : Char} (h : c ∈ (Json.doubleText x).toList) :
    isBare c = true := by
  by_cases finite : x.isFinite = true
  · exact isBare_of_isScientific (Document.isScientific_of_mem_double finite h)
  · rw [Json.doubleText, if_neg finite] at h
    have null : ∀ c ∈ "null".toList, isBare c = true := List.all_eq_true.mp (by decide)
    exact null c h

/-- Reading a default as it is reported gives the text of what was set. -/
theorem normalize_reported {dataType : String} (name : CastName dataType) (v : Json) :
    normalize (reported dataType v) = text v := by
  cases v with
  | null | array | object => exact normalize_quoted name _
  | string s => exact normalize_quoted name s
  | int n =>
    have same : text (.int n) = toString n := by simp only [text, Json.render]
    rw [same]
    exact normalize_bare fun c => isBare_of_mem_int
  | double x =>
    have same : text (.double x) = Json.doubleText x := by simp only [text, Json.render]
    rw [same]
    exact normalize_bare fun c => isBare_of_mem_doubleText
  | bool b =>
    have same : text (.bool b) = if b then "true" else "false" := by
      cases b <;> simp [text, Json.render]
    rw [same]
    refine normalize_bare (s := if b then "true" else "false") ?_
    cases b <;> exact List.all_eq_true.mp (by decide)

/-- What was set compares equal with what is reported. -/
theorem agrees_reported {dataType : String} (name : CastName dataType) (v : Json) :
    agrees (some (reported dataType v)) v = true := by
  simp [agrees, normalize_reported name]

/-! ### The names of types -/

theorem castName_of_catalogName? {base name : String} (h : TypeName.catalogName? base = some name) :
    CastName name := by
  have all : ∀ name ∈ TypeName.catalogNames, isCastType name.toList = true ∧
      name.toList.getLast?.any Text.isBlank = false := by decide
  obtain ⟨shape, last⟩ := all name (TypeName.mem_catalogNames h)
  refine ⟨shape, fun c hc => ?_⟩
  rwa [Option.mem_def.mp hc] at last

theorem isLetter_of_toLower {c : Char} (h : Text.isLetter c.toLower = true) :
    Text.isLetter c = true := by
  unfold Char.toLower at h
  split at h
  next capital =>
    simp only [Text.isLetter, Bool.or_eq_true, Bool.and_eq_true, decide_eq_true_eq]
    exact .inr capital
  next => exact h

/-- Letters alone are the type of a cast. -/
theorem isCastType_of_isLetter {cs : List Char} (some : cs ≠ [])
    (h : ∀ c ∈ cs, Text.isLetter c = true) : isCastType cs = true := by
  have name : cs.dropWhile isNameChar = [] :=
    List.dropWhile_eq_nil_iff.mpr fun c hc => by simp [isNameChar, h c hc]
  cases cs with
  | nil => exact absurd rfl some
  | cons c cs =>
    simp only [isCastType, name, h c List.mem_cons_self]
    rfl

/-- The name of arrays, in any case. -/
theorem castName_of_sameLetters {dataType : String} (h : Text.sameLetters dataType "ARRAY" = true) :
    CastName dataType := by
  have lowered : dataType.toList.map Char.toLower = ['a', 'r', 'r', 'a', 'y'] := by
    have := congrArg String.toList (eq_of_beq h)
    simpa [Text.lowerAscii] using this
  have letters : ∀ c ∈ dataType.toList, Text.isLetter c = true := by
    intro c hc
    have low : c.toLower ∈ ['a', 'r', 'r', 'a', 'y'] := lowered ▸ List.mem_map_of_mem hc
    refine isLetter_of_toLower ?_
    revert low
    generalize c.toLower = d
    simp only [List.mem_cons, List.not_mem_nil, or_false]
    rintro (rfl | rfl | rfl | rfl | rfl) <;> rfl
  refine ⟨isCastType_of_isLetter ?_ letters, fun c hc => ?_⟩
  · intro empty
    simp [empty] at lowered
  · exact isBlank_of_isLetter (letters c (List.mem_of_getLast? hc))

end Default

end TableMapper
