import TableMapper.Proofs.Schema.Plan
import TableMapper.Proofs.Schema.Unwrapping

/-!
# Changes of defaults

A declared default is compared with the live one as text, as a number and up to the case of letters,
whatever the type of the column is.  Some defaults are taken for others so.

* `Default.Shows` relates texts and integers to the expressions that the catalog reports them as.
* `Default.Taken` holds of the defaults that are taken for others: `Default.agrees_iff_taken`.
* `Plan.sets_default_iff` says when a plan changes the default of a column.
-/

namespace TableMapper

namespace Default

/-- The expressions that the catalog reports a text or an integer as. -/
inductive Shows : Json → String → Prop
  | text (s : String) {ws : List Wrap} (free : ¬ Tangled ws) :
      Shows (.string s) (wrapped ws (quoted s))
  | integer (n : Int) : Shows (.int n) (toString n)
  | quotedInteger (n : Int) {ws : List Wrap} (free : ¬ Tangled ws) :
      Shows (.int n) (wrapped ws (quoted (toString n)))

/-- Both are texts, or both are integers. -/
inductive SameKind : Json → Json → Prop
  | texts (s t : String) : SameKind (.string s) (.string t)
  | integers (m n : Int) : SameKind (.int m) (.int n)

/-- Both texts are read as numbers, which are the same. -/
def SameNumber (s t : String) : Prop :=
  ∃ x y, Binary64.read? s = some x ∧ Binary64.read? t = some y ∧ x.same y = true

/-- A default that is taken for another one. -/
inductive Taken : Json → Json → Prop
  | equal (v : Json) : Taken v v
  /-- The texts are numbers that are the same. -/
  | number {s t : String} (same : SameNumber s t) : Taken (.string s) (.string t)
  /-- The texts are no numbers, and differ in the case of letters. -/
  | letters {s t : String} (word : Binary64.read? s = none) (same : Text.sameLetters s t = true) :
      Taken (.string s) (.string t)
  /-- The integers have more than 53 bits, and one double is nearest to both. -/
  | rounded {m n : Int} (large : 2 ^ 53 ≤ m.natAbs) (large' : 2 ^ 53 ≤ n.natAbs)
      (same : Binary64.ofInt m = Binary64.ofInt n) : Taken (.int m) (.int n)

variable {v w : Json} {raw s t : String} {m n : Int}

theorem text_int (n : Int) : text (.int n) = toString n := by simp only [text, Json.render]

theorem normalize_wrapped {ws : List Wrap} (free : ¬ Tangled ws) (s : String) :
    normalize (wrapped ws (quoted s)) = s := by
  obtain ⟨out, settles, -, untangled⟩ := exists_settles ws s
  have found : normalize (wrapped ws (quoted s)) = String.ofList (unquoted out) :=
    normalize_of_settles settles
  rw [found, untangled free, unquoted_quotation]

theorem normalize_of_shows (shows : Shows v raw) : normalize raw = text v := by
  cases shows with
  | text s free => exact normalize_wrapped free s
  | integer n =>
    rw [text_int]
    exact normalize_bare fun c => isBare_of_mem_int
  | quotedInteger n free =>
    rw [text_int]
    exact normalize_wrapped free _

/-- Texts that differ in the case of letters are the same number, if they are numbers. -/
theorem read?_of_sameLetters (same : Text.sameLetters s t = true) :
    Binary64.read? s = Binary64.read? t := by
  rw [← Binary64.read?_lowerAscii s, eq_of_beq same, Binary64.read?_lowerAscii]

/-- What is compared is the text, then the number, and then the letters of what is no number. -/
theorem agrees_iff (found : normalize raw = s) (w : Json) : agrees (some raw) w = true ↔
    s = text w ∨ SameNumber s (text w) ∨
      Binary64.read? s = none ∧ Text.sameLetters s (text w) = true := by
  simp only [agrees, found, Bool.or_eq_true, beq_iff_eq]
  refine or_congr_right ?_
  cases left : Binary64.read? s with
  | none => simp [SameNumber, left]
  | some x =>
    cases right : Binary64.read? (text w) with
    | none =>
      have differ : ¬ Text.sameLetters s (text w) = true := fun same => by
        rw [read?_of_sameLetters same, right] at left
        cases left
      simp [SameNumber, left, right, differ]
    | some y => simp [SameNumber, left, right]

theorem sameNumber_int : SameNumber (toString m) (toString n) ↔
    Binary64.ofInt m = Binary64.ofInt n := by
  simp only [SameNumber, Binary64.read?_int, ← Binary64.same_ofInt]
  simp

theorem taken_int : Taken (.int m) (.int n) ↔ Binary64.ofInt m = Binary64.ofInt n := by
  constructor
  · intro taken
    cases taken with
    | equal => rfl
    | rounded large large' same => exact same
  · intro same
    by_cases small : m.natAbs < 2 ^ 53
    · exact (Binary64.ofInt_inj_of_lt small).mp same ▸ .equal _
    by_cases small' : n.natAbs < 2 ^ 53
    · exact (Binary64.ofInt_inj_of_lt small').mp same.symm ▸ .equal _
    exact .rounded (Nat.le_of_not_lt small) (Nat.le_of_not_lt small') same

theorem taken_string : Taken (.string s) (.string t) ↔
    s = t ∨ SameNumber s t ∨ Binary64.read? s = none ∧ Text.sameLetters s t = true := by
  constructor
  · intro taken
    cases taken with
    | equal => exact .inl rfl
    | number same => exact .inr (.inl same)
    | letters word same => exact .inr (.inr ⟨word, same⟩)
  · rintro (rfl | same | ⟨word, same⟩)
    · exact .equal _
    · exact .number same
    · exact .letters word same

/-- A live default compares equal with a declared one of its kind when it is taken for it. -/
theorem agrees_iff_taken (shows : Shows v raw) (kind : SameKind v w) :
    agrees (some raw) w = true ↔ Taken v w := by
  have found := normalize_of_shows shows
  cases kind with
  | texts s t => exact (agrees_iff found _).trans taken_string.symm
  | integers m n =>
    rw [text_int] at found
    rw [agrees_iff found, text_int, sameNumber_int, taken_int, Binary64.read?_int]
    refine ⟨?_, fun same => .inr (.inl same)⟩
    rintro (same | same | ⟨word, -⟩)
    · have read := congrArg Binary64.read? same
      rw [Binary64.read?_int, Binary64.read?_int] at read
      exact Option.some.inj read
    · exact same
    · cases word

/-- Integers of 64 bits that are taken for each other differ by their last bits only. -/
theorem Taken.sub_le (taken : Taken (.int m) (.int n)) (hm : m.natAbs < 2 ^ 64)
    (hn : n.natAbs < 2 ^ 64) : 2 ^ 53 * (m - n).natAbs ≤ m.natAbs + n.natAbs :=
  Binary64.sub_le_of_ofInt_eq hm hn (taken_int.mp taken)

end Default

namespace Plan

variable {t : TableDecl} {live : Catalog} {force : Bool} {name : String} {c : ColumnDecl}
  {found : CatalogColumn} {v : Json}

/-- The default of a column is compared with that of the live column: this takes the place of that
one, with a type that is compared, and it is no key. -/
structure Compared (t : TableDecl) (live : Catalog) (name : String) (c : ColumnDecl)
    (found : CatalogColumn) : Prop where
  active : c.isActive = true
  stands : liveColumn? live name c = some found
  managed : isManaged c = true
  convertible : ¬ NeedsForce found c
  free : t.keyColumns.contains name = false

theorem ne_setDefault_of_mem_nullability {object : String} {s : Step}
    (h : s ∈ (columnNullability object name c found).steps) : s.change ≠ .setDefault name v := by
  unfold columnNullability at h
  intro change
  split at h
  next => simp_all [step]
  next => split at h <;> simp_all [step]

/-- Around the step for its default, if there is one, such a column has only others. -/
theorem exists_steps_of_compared (force : Bool) (h : Compared t live name c found) :
    ∃ before after, (column t live force name c).steps =
        before ++ (columnDefault (t.member name) name c found).steps ++ after ∧
      ∀ s ∈ before ++ after, ∀ v, s.change ≠ .setDefault name v := by
  obtain ⟨drop, skip⟩ : c.drop = false ∧ c.ignore = false := by
    simpa [ColumnDecl.isActive] using h.active
  have renames : ∀ s ∈ (rename t live name c).steps, ∀ v, s.change ≠ .setDefault name v := by
    intro s hs v
    obtain ⟨old, -, change⟩ := mem_steps_rename hs
    rw [change]
    exact Ddl.noConfusion
  let after := (columnNullability (t.member name) name c found).steps
  rw [column_found skip drop h.stands, if_pos h.managed, columnType, columnConstraints, h.free]
  cases same : found.hasType c.type with
  | true =>
    refine ⟨(rename t live name c).steps, after, by simp [after], fun s hs v => ?_⟩
    obtain hs | hs := List.mem_append.mp hs
    · exact renames s hs v
    · exact ne_setDefault_of_mem_nullability hs
  | false =>
    have converts : ¬ (found.isTextual && !TypeName.isString (TypeName.base c.type)) = true := by
      intro needs
      rw [Bool.and_eq_true, Bool.not_eq_true'] at needs
      exact h.convertible ⟨same, needs⟩
    refine ⟨(rename t live name c).steps ++ [⟨.alterType name c.type, t.member name, false⟩], after,
      by simp [after, converts, step, change], fun s hs v => ?_⟩
    obtain hs | hs := List.mem_append.mp hs
    · obtain hs | hs := List.mem_append.mp hs
      · exact renames s hs v
      · rw [List.mem_singleton.mp hs]
        exact Ddl.noConfusion
    · exact ne_setDefault_of_mem_nullability hs

/-- A plan changes the default of a column that is compared exactly when it does not agree. -/
theorem sets_default_iff (h : Compared t live name c found)
    (declared : Default.effective? c = some v) :
    (∃ s ∈ (column t live force name c).steps, s.change = .setDefault name v) ↔
      Default.agrees found.default? v = false := by
  obtain ⟨before, after, steps, others⟩ := exists_steps_of_compared force h
  have own : (∃ s ∈ (columnDefault (t.member name) name c found).steps,
      s.change = .setDefault name v) ↔ Default.agrees found.default? v = false := by
    unfold columnDefault
    cases agrees : Default.agrees found.default? v <;> simp [declared, agrees, step]
  rw [steps, ← own]
  constructor
  · rintro ⟨s, hs, change⟩
    simp only [List.mem_append] at hs
    obtain (hs | hs) | hs := hs
    · exact absurd change (others s (List.mem_append_left _ hs) v)
    · exact ⟨s, hs, change⟩
    · exact absurd change (others s (List.mem_append_right _ hs) v)
  · rintro ⟨s, hs, change⟩
    exact ⟨s, List.mem_append_left _ (List.mem_append_right _ hs), change⟩

/-- **Changes of defaults.**  Let the catalog report a text or an integer.  It compares equal with a
declared default of its kind when it is the same, or is taken for it: for text, when both are
numbers that are the same, or no numbers and the same up to the case of letters; for integers, when
both have more than 53 bits and one double is nearest to both, so that of 64-bit integers the last
bits only differ.  A plan changes the default of a column that is compared in all other cases. -/
theorem default_taken_iff {v w : Json} {raw : String} (shows : Default.Shows v raw)
    (kind : Default.SameKind v w) :
    (Default.agrees (some raw) w = true ↔ Default.Taken v w) ∧
      (∀ m n : Int, v = .int m → w = .int n → m.natAbs < 2 ^ 64 → n.natAbs < 2 ^ 64 →
        Default.Taken v w → 2 ^ 53 * (m - n).natAbs ≤ m.natAbs + n.natAbs) ∧
      ∀ (t : TableDecl) (live : Catalog) (force : Bool) (name : String) (c : ColumnDecl)
        (found : CatalogColumn), Compared t live name c found → c.default? = some w →
          found.default? = some raw →
            ((∃ s ∈ (column t live force name c).steps, s.change = .setDefault name w) ↔
              ¬ Default.Taken v w) := by
  have agrees := Default.agrees_iff_taken shows kind
  refine ⟨agrees, ?_, fun t live force name c found compared declared reported => ?_⟩
  · rintro m n rfl rfl hm hn taken
    exact taken.sub_le hm hn
  · have effective : Default.effective? c = some w := by
      cases kind <;> simp [Default.effective?, declared]
    rw [sets_default_iff compared effective, reported, ← agrees, Bool.not_eq_true]

/-! ### Entries -/

/-- The word of an entry. -/
def word : ColumnDecl := { type := "text", default? := some (.string "abc") }

/-- The weight of an entry. -/
def weight : ColumnDecl := { type := "bigint", default? := some (.int 9007199254740992) }

/-- A table of entries. -/
def entries : TableDecl :=
  { name := "entries", columns := [("word", word), ("weight", weight)] }

/-- The word as it was before, with another default. -/
def formerWord : CatalogColumn :=
  { name := "word", dataType := "text", default? := some "'Abc'::text" }

/-- The weight as it was before, with another default. -/
def formerWeight : CatalogColumn :=
  { name := "weight", dataType := "bigint", default? := some "9007199254740993" }

/-- The entries as they were before. -/
def formerEntries : Catalog :=
  { present := true, columns := [formerWord, formerWeight] }

theorem shows_formerWord : Default.Shows (.string "Abc") "'Abc'::text" := by
  let text : Default.CastTarget :=
    { name := "text", starts := by decide, named := by decide, numeric := by simp }
  have raw : Default.wrapped [.cast text] (Default.quoted "Abc") = "'Abc'::text" := by
    decide +kernel
  rw [← raw]
  exact .text "Abc" (by rintro (_ | ⟨⟨⟩⟩))

theorem compared_word : Compared entries formerEntries "word" word formerWord where
  active := rfl
  stands := by decide +kernel
  managed := by decide +kernel
  convertible := by
    unfold NeedsForce
    decide +kernel
  free := rfl

theorem compared_weight : Compared entries formerEntries "weight" weight formerWeight where
  active := rfl
  stands := by decide +kernel
  managed := by decide +kernel
  convertible := by
    unfold NeedsForce
    decide +kernel
  free := rfl

/-- Neither change of a default is noticed. -/
theorem default_taken_entries :
    Default.agrees formerWord.default? (.string "abc") = true ∧
      Default.agrees formerWeight.default? (.int 9007199254740992) = true ∧
      2 ^ 53 * ((9007199254740993 : Int) - 9007199254740992).natAbs ≤
        (9007199254740993 : Int).natAbs + (9007199254740992 : Int).natAbs ∧
      (¬ ∃ s ∈ (column entries formerEntries false "word" word).steps,
        s.change = .setDefault "word" (.string "abc")) ∧
      ¬ ∃ s ∈ (column entries formerEntries false "weight" weight).steps,
        s.change = .setDefault "weight" (.int 9007199254740992) := by
  have letters : Default.Taken (.string "Abc") (.string "abc") :=
    .letters (by decide +kernel) (by decide +kernel)
  have rounded : Default.Taken (.int 9007199254740993) (.int 9007199254740992) :=
    .rounded (by decide) (by decide) (by decide +kernel)
  obtain ⟨sameWord, -, words⟩ := default_taken_iff shows_formerWord (.texts "Abc" "abc")
  obtain ⟨sameWeight, last, weights⟩ := default_taken_iff (.integer 9007199254740993)
    (.integers 9007199254740993 9007199254740992)
  refine ⟨sameWord.mpr letters, sameWeight.mpr rounded,
    last _ _ rfl rfl (by decide) (by decide) rounded, fun set => ?_, fun set => ?_⟩
  · exact (words _ _ _ _ _ _ compared_word rfl rfl).mp set letters
  · exact (weights _ _ _ _ _ _ compared_weight rfl (by decide +kernel)).mp set rounded

end Plan

end TableMapper
