import TableMapper.Proofs.Schema.Plan
import TableMapper.Proofs.Schema.Spelling

/-!
# Types that are seen

* `TypeName.Declared.Missed` holds of the texts that declare a type and are not taken to do so.
* `TypeName.Declared.hasType_iff`: by any other text a live column is seen to have its type.
* `Plan.type_seen_iff` says so, and that a plan alters a column that has its type already when the
  text is missed.
-/

namespace TableMapper

namespace TypeName

/-- A type is that of arrays only if a bracket closes in it. -/
theorem mem_of_isArray {text : String} (h : isArray text = true) : ']' ∈ text.toList := by
  obtain ⟨front, found⟩ := Option.isSome_iff_exists.mp h
  obtain ⟨back, opened, -⟩ := Option.map_eq_some_iff.mp found
  have chars := Text.dropStart?_eq_some_iff.mp opened
  rw [Text.trimEnd, String.toList_ofList, Text.dropEndWhile, List.reverse_reverse] at chars
  have last : ']' ∈ text.toList.reverse.dropWhile Text.isBlank := by
    rw [chars]
    exact List.mem_append_left _ (List.mem_singleton_self _)
  exact List.mem_reverse.mp ((List.dropWhile_sublist _).subset last)

namespace Declared

/-- The text is not seen to declare the type: there are numbers inside of the name, or a number that
is compared is not written as the catalog writes it. -/
inductive Missed (d : Declared) (text : String) : Prop
  | inside (some : d.numerals ≠ []) (further : d.form.suffix ≠ [])
  | numeral (n : Numeral) (given : n ∈ d.numerals) (other : n.text ≠ toString n.value)
      (compared : d.form.numbers = .length ∨ d.form.numbers = .decimal)
      (known : base text = d.form.name)

variable {d : Declared} {ns : List Numeral} {s text inner : String}

theorem plain_words : PlainWords d.form.words := fun w hw =>
  plainWords_of_mem d.listed w (List.mem_append_left _ hw)

theorem plain_suffix : PlainWords d.form.suffix := fun w hw =>
  plainWords_of_mem d.listed w (List.mem_append_right _ hw)

theorem words_ne_nil : d.form.words ≠ [] := by
  have all : ∀ f ∈ forms, f.words ≠ [] := by decide
  exact all d.form d.listed

/-- A text has letters, digits and blanks outside of its numbers. -/
theorem mem_of_spells (spells : d.Spells text) {c : Char} (hc : c ∈ text.toList) :
    isMild c = true ∨ isMark c = true ∨ c ∈ ['(', ',', ')'] := by
  cases spells with
  | bare none words => exact .inl (mild_of_padded (plainWords_of_mem d.listed) words c hc)
  | @numbered name inner rest words numbers suffix =>
    simp only [String.toList_append, List.mem_append] at hc
    obtain (((hc | hc) | hc) | hc) | hc := hc
    · exact .inl (mild_of_padded plain_words words c hc)
    · obtain rfl := List.mem_singleton.mp hc
      exact .inr (.inr (by decide))
    · obtain mark | blank | rfl := mem_of_listed numbers hc
      · exact .inr (.inl mark)
      · exact .inl (by simp [isMild, blank])
      · exact .inr (.inr (by decide))
    · obtain rfl := List.mem_singleton.mp hc
      exact .inr (.inr (by decide))
    · exact .inl (mild_of_padded plain_suffix suffix c hc)

theorem isArray_of_spells (spells : d.Spells text) : isArray text = false :=
  Bool.eq_false_iff.mpr fun array =>
    absurd (mem_of_spells spells (mem_of_isArray array)) (by decide)

theorem ne_nil_of_listed (h : Listed ns inner) : ns ≠ [] := by
  cases h <;> exact List.cons_ne_nil _ _

/-- The name before the numbers is found. -/
theorem base_of_numbered {name : String} (words : Padded d.form.words name) (inner rest : String) :
    ∃ found, Spelled d.form.words found ∧
      base (name ++ "(" ++ inner ++ ")" ++ rest) = Text.lowerAscii found := by
  have whole : name ++ "(" ++ inner ++ ")" ++ rest = name ++ ("(" ++ inner ++ ")" ++ rest) := by
    simp only [String.append_assoc]
  rw [whole]
  refine base_of_padded plain_words words_ne_nil words _ fun c first => ?_
  have opened : ("(" ++ inner ++ ")" ++ rest).toList =
      '(' :: (inner.toList ++ ')' :: rest.toList) := by
    simp [String.toList_append]
  rw [opened] at first
  exact (Option.some.inj first).symm

/-- All words of a type are found, if no numbers stand among them. -/
theorem exists_found (spells : d.Spells text) (reach : d.numerals = [] ∨ d.form.suffix = []) :
    ∃ name, Spelled (d.form.words ++ d.form.suffix) name ∧ base text = Text.lowerAscii name := by
  cases spells with
  | bare none words =>
    obtain ⟨name, spelled, named⟩ := base_of_padded (plainWords_of_mem d.listed)
      (List.append_ne_nil_of_left_ne_nil words_ne_nil _) words "" nofun
    rw [String.append_empty] at named
    exact ⟨name, spelled, named⟩
  | numbered words numbers suffix =>
    have short : d.form.suffix = [] := reach.resolve_left (ne_nil_of_listed numbers)
    rw [short, List.append_nil]
    exact base_of_numbered words _ _

/-- With numbers inside of its name a type is taken for the one that is named before them. -/
theorem base_of_inside (spells : d.Spells text) (some : d.numerals ≠ [])
    (further : d.form.suffix ≠ []) :
    base text = "timestamp" ∧ d.form.reported = "timestamp with time zone" := by
  have all : ∀ f ∈ forms, f.suffix ≠ [] →
      f.words = ["timestamp"] ∧ f.reported = "timestamp with time zone" := by decide
  obtain ⟨words', reported⟩ := all d.form d.listed further
  refine ⟨?_, reported⟩
  cases spells with
  | bare none => exact absurd none some
  | @numbered name inner rest words =>
    obtain ⟨found, spelled, named⟩ := base_of_numbered words inner rest
    rw [words'] at spelled
    rw [named]
    cases spelled with
    | word same =>
      rw [eq_of_beq same]
      decide +kernel
    | more _ _ _ others => cases others

/-- Without numbers, no arguments are found. -/
theorem arguments?_of_bare (none : d.numerals = []) (spells : d.Spells text) :
    arguments? text = Option.none := by
  cases spells with
  | bare _ words =>
    have outside : '(' ∉ text.toList := fun mem =>
      absurd (mild_of_padded (plainWords_of_mem d.listed) words _ mem) (by decide)
    have uncut : Text.cutAt? "(" text = Option.none :=
      congrArg (Option.map _) (Text.cutAtChars?_eq_none outside)
    simp only [arguments?, uncut, Option.bind_eq_bind, Option.bind_none]
  | numbered _ numbers => exact absurd none (ne_nil_of_listed numbers)

theorem arguments?_of_numbered (some : d.numerals ≠ []) (spells : d.Spells text) :
    arguments? text = Option.some (",".intercalate (d.numerals.map (·.text))) := by
  cases spells with
  | bare none => exact absurd none some
  | numbered words numbers suffix =>
    refine arguments?_of_listed numbers (fun mem => ?_) _
    exact absurd (mild_of_padded plain_words words _ mem) (by decide)

/-- The numbers are written as the catalog writes them. -/
def Written (d : Declared) : Prop := ∀ n ∈ d.numerals, n.text = toString n.value

theorem length_iff {c : CatalogColumn} (kind : d.form.numbers = .length) (some : d.numerals ≠ [])
    (reports : d.Reports c) :
    (c.lengthText == ",".intercalate (d.numerals.map (·.text))) = true ↔ d.Written := by
  have few := d.few
  have length := reports.length kind
  rw [kind] at few
  obtain ⟨n, ns, numerals⟩ := List.exists_cons_of_ne_nil some
  obtain rfl : ns = [] := by
    rw [numerals] at few
    exact List.length_eq_zero_iff.mp (Nat.le_zero.mp (Nat.le_of_succ_le_succ few))
  rw [numerals] at length
  simp only [CatalogColumn.lengthText, length n (List.mem_singleton_self n), Option.map_some,
    Option.getD_some, numerals, List.map_cons, List.map_nil, String.intercalate_singleton,
    beq_iff_eq, Written, List.mem_singleton, forall_eq]
  exact eq_comm

theorem contains_comma : Text.contains "," s = true ↔ ',' ∈ s.toList := by
  rw [Text.contains, Text.occurs_iff_infix]
  exact List.singleton_infix_iff _ _

/-- Texts around a comma are the same if neither first one has a comma. -/
theorem comma_inj {a b a' b' : String} (h : ',' ∉ a.toList) (h' : ',' ∉ a'.toList) :
    a ++ "," ++ b = a' ++ "," ++ b' ↔ a = a' ∧ b = b' := by
  refine ⟨fun same => ?_, fun ⟨first, second⟩ => by rw [first, second]⟩
  have chars : a.toList ++ ',' :: b.toList = a'.toList ++ ',' :: b'.toList := by
    have := congrArg String.toList same
    simpa [String.toList_append] using this
  have cut := Text.cutAtChars?_singleton h b.toList
  rw [chars, Text.cutAtChars?_singleton h' b'.toList] at cut
  obtain ⟨first, second⟩ := Prod.mk.inj (Option.some.inj cut)
  exact ⟨(String.toList_inj.mp first).symm, (String.toList_inj.mp second).symm⟩

/-- A scale that is left out is zero. -/
theorem full_arguments (p : Numeral) :
    (if Text.contains "," p.text then p.text else p.text ++ ",0") =
      p.text ++ "," ++ toString 0 := by
  have comma : ',' ∉ p.text.toList := not_mem_numeral p (by decide)
  rw [if_neg (mt contains_comma.mp comma), String.append_assoc]
  rfl

theorem decimal_iff {c : CatalogColumn} (kind : d.form.numbers = .decimal) (some : d.numerals ≠ [])
    (reports : d.Reports c) {args : String}
    (given : ",".intercalate (d.numerals.map (·.text)) = args) :
    (c.precisionText == (if Text.contains "," args then args else args ++ ",0")) = true ↔
      d.Written := by
  have few := d.few
  have decimal := reports.decimal kind
  rw [kind] at few
  subst given
  obtain ⟨p, ns, numerals⟩ := List.exists_cons_of_ne_nil some
  rw [numerals] at few decimal
  obtain ⟨precision, scale⟩ := decimal p rfl
  have comma : ',' ∉ p.text.toList := not_mem_numeral p (by decide)
  have comma' : ',' ∉ (toString p.value).toList := comma_not_mem_int
  have found : c.precisionText = toString p.value ++ "," ++ toString (c.numericScale.getD 0) := by
    rw [CatalogColumn.precisionText, precision, Option.getD_some]
  match ns with
  | [] =>
    have zero : c.numericScale = Option.some 0 := scale
    rw [found, zero, numerals, List.map_singleton, String.intercalate_singleton, full_arguments,
      beq_iff_eq, Option.getD_some, comma_inj comma' comma]
    simp only [Written, numerals, List.mem_singleton, forall_eq]
    exact ⟨fun same => same.1.symm, fun same => ⟨same.symm, rfl⟩⟩
  | [s] =>
    have written : c.numericScale = Option.some s.value := scale
    have joined : ",".intercalate ([p, s].map (·.text)) = p.text ++ "," ++ s.text := by
      simp only [List.map_cons, List.map_nil, String.intercalate_cons_cons,
        String.intercalate_singleton]
    have both : Text.contains "," (p.text ++ "," ++ s.text) = true :=
      contains_comma.mpr (by simp [String.toList_append])
    rw [found, written, numerals, joined, if_pos both, beq_iff_eq, Option.getD_some,
      comma_inj comma' comma]
    simp only [Written, numerals, List.forall_mem_cons, List.not_mem_nil, false_imp_iff,
      implies_true, and_true]
    exact and_congr eq_comm eq_comm
  | _ :: _ :: _ => exact absurd few (by simp [Numbers.most])

/-- If the name is found, what counts is how the numbers are written. -/
theorem missed_iff_of_found (reach : d.numerals = [] ∨ d.form.suffix = [])
    (found : base text = d.form.name) : d.Missed text ↔
      (d.form.numbers = .length ∨ d.form.numbers = .decimal) ∧ ¬ d.Written := by
  constructor
  · intro missed
    cases missed with
    | inside some further => exact absurd reach (not_or.mpr ⟨some, further⟩)
    | numeral n given other compared known =>
      exact ⟨compared, fun written => other (written n given)⟩
  · rintro ⟨compared, unwritten⟩
    obtain ⟨n, given, other⟩ : ∃ n ∈ d.numerals, n.text ≠ toString n.value := by
      simpa [Written] using unwritten
    exact .numeral n given other compared found

/-- A live column is seen to have the type that it has unless the text is missed. -/
theorem hasType_iff {c : CatalogColumn} (spells : d.Spells text) (reports : d.Reports c) :
    c.hasType text = true ↔ ¬ d.Missed text := by
  have kinds : ∀ f ∈ forms, Text.sameLetters f.reported "ARRAY" = false ∧
      (f.numbers = .length → withArguments.contains f.reported = true ∧
        Text.startsWith "character" f.reported = true) ∧
      (f.numbers = .decimal → withArguments.contains f.reported = true ∧
        Text.startsWith "character" f.reported = false) ∧
      (f.numbers = .moment → withArguments.contains f.reported = false) := by decide +kernel
  obtain ⟨scalar, length, decimal, moment⟩ := kinds d.form d.listed
  have single : (c.isArray || isArray text) = false := by
    rw [CatalogColumn.isArray, reports.name, scalar, isArray_of_spells spells]
    rfl
  rw [CatalogColumn.hasType, single, if_neg Bool.false_ne_true]
  by_cases inside : d.numerals ≠ [] ∧ d.form.suffix ≠ []
  · obtain ⟨named, reported⟩ := base_of_inside spells inside.1 inside.2
    have other : catalogName? "timestamp" = some "timestamp without time zone" := rfl
    refine iff_of_false ?_ (not_not_intro (.inside inside.1 inside.2))
    simp [named, other, reports.name, reported]
  have reach : d.numerals = [] ∨ d.form.suffix = [] := by
    rwa [not_and_or, not_not, not_not] at inside
  obtain ⟨name, spelled, named⟩ := exists_found spells reach
  cases known : catalogName? (base text) with
  | none =>
    -- a name with other blanks in it is not known, so that the type is not compared
    refine iff_of_true rfl fun missed => ?_
    cases missed with
    | inside some further => exact inside ⟨some, further⟩
    | numeral _ _ _ _ found =>
      rw [found, catalogName?_name d.listed] at known
      cases known
  | some reported =>
    rw [named] at known
    obtain ⟨rfl, same⟩ := known_of_spelled d.listed spelled known
    rw [missed_iff_of_found reach (named.trans same)]
    simp only [reports.name, beq_self_eq_true, Bool.true_and]
    by_cases bare : d.numerals = []
    · rw [arguments?_of_bare bare spells]
      exact iff_of_true rfl fun missed => missed.2 fun n given => by simp [bare] at given
    rw [arguments?_of_numbered bare spells]
    cases kind : d.form.numbers with
    | none =>
      have few := d.few
      rw [kind] at few
      exact absurd (List.length_eq_zero_iff.mp (Nat.le_zero.mp few)) bare
    | length =>
      obtain ⟨compared, text⟩ := length kind
      simp only [compared, text, Bool.not_true, Bool.false_eq_true, if_false, if_true,
        length_iff kind bare reports]
      simp
    | decimal =>
      obtain ⟨compared, number⟩ := decimal kind
      simp only [compared, number, Bool.not_true, Bool.false_eq_true, if_false,
        decimal_iff kind bare reports rfl]
      simp
    | moment =>
      simp only [moment kind, Bool.not_false, if_true]
      simp

/-- A type that is missed is changed in place: it is not text that is to become something else. -/
theorem convertible_of_missed {c : CatalogColumn} (spells : d.Spells text) (reports : d.Reports c)
    (missed : d.Missed text) : (c.isTextual && !isString (base text)) = false := by
  have kinds : ∀ f ∈ forms, (f.numbers = .length → isString f.name = true) ∧
      (f.numbers = .decimal → f.reported = "numeric") := by decide +kernel
  obtain ⟨length, decimal⟩ := kinds d.form d.listed
  have other {name : String} (reported : d.form.reported = name)
      (number : (name == "text" || Text.startsWith "character" name) = false) :
      c.isTextual = false := by
    rw [CatalogColumn.isTextual, reports.name, reported, number]
  cases missed with
  | inside some further =>
    rw [other (base_of_inside spells some further).2 (by decide), Bool.false_and]
  | numeral n given unlike compared known =>
    obtain kind | kind := compared
    · rw [known, length kind, Bool.not_true, Bool.and_false]
    · rw [other (decimal kind) (by decide), Bool.false_and]

end Declared

end TypeName

namespace Plan

variable {t : TableDecl} {live : Catalog} {force : Bool} {name : String} {c : ColumnDecl}
  {found : CatalogColumn}

/-- A column is altered in type when it has another one that can be converted. -/
theorem alters_type_iff (active : c.isActive = true) (unlocked : c.typeLock = false)
    (stands : liveColumn? live name c = some found)
    (convertible : found.hasType c.type = false →
      (found.isTextual && !TypeName.isString (TypeName.base c.type)) = false) :
    (∃ s ∈ (column t live force name c).steps, s.change = .alterType name c.type) ↔
      found.hasType c.type = false := by
  obtain ⟨drop, skip⟩ : c.drop = false ∧ c.ignore = false := by
    simpa [ColumnDecl.isActive] using active
  have renames : ∀ s ∈ (rename t live name c).steps, s.change ≠ .alterType name c.type := by
    intro s hs
    obtain ⟨old, -, change⟩ := mem_steps_rename hs
    rw [change]
    exact Ddl.noConfusion
  have constrains : ∀ s ∈ (columnConstraints (t.member name) name c found
      (t.keyColumns.contains name)).steps, s.change ≠ .alterType name c.type := by
    intro s hs change
    have adjusts := mem_steps_columnConstraints hs
    rw [change] at adjusts
    exact adjusts.elim
  rw [column_found skip drop stands, steps_append]
  constructor
  · rintro ⟨s, hs, change⟩
    by_contra same
    rw [Bool.not_eq_false] at same
    obtain hs | hs := List.mem_append.mp hs
    · exact renames s hs change
    · split at hs
      next =>
        rw [columnType, same, if_pos rfl] at hs
        exact constrains s hs change
      next => exact absurd hs List.not_mem_nil
  · intro other
    have managed : isManaged c = true := by
      unfold CatalogColumn.hasType at other
      split at other
      next => cases other
      next single =>
        rw [Bool.or_eq_true, not_or, Bool.not_eq_true, Bool.not_eq_true] at single
        split at other
        next => cases other
        next known => simp [isManaged, unlocked, single.2, known]
    refine ⟨⟨.alterType name c.type, t.member name, false⟩, List.mem_append_right _ ?_, rfl⟩
    rw [if_pos managed, columnType, other, convertible other, if_neg Bool.false_ne_true,
      if_neg Bool.false_ne_true]
    exact List.mem_append_left _ (List.mem_singleton_self _)

/-- **The spelling of types.**  Let a text declare a type that is compared, in any case of letters
and with any blanks, and let a live column be of that type.  The column is seen to have it, and no
step alters it, except when numbers stand inside of the name, as in `timestamp(3) with time zone`,
or a length, precision or scale is written otherwise than the catalog writes it, as in
`varchar(030)`.  Then every plan alters the column. -/
theorem type_seen_iff (d : TypeName.Declared) (text : String) (found : CatalogColumn)
    (spells : d.Spells text) (reports : d.Reports found) :
    (found.hasType text = true ↔ ¬ d.Missed text) ∧
      ∀ (t : TableDecl) (live : Catalog) (force : Bool) (name : String) (c : ColumnDecl),
        c.isActive = true → c.typeLock = false → c.type = text →
          liveColumn? live name c = some found →
            ((∃ s ∈ (column t live force name c).steps, s.change = .alterType name text) ↔
              d.Missed text) := by
  have seen := d.hasType_iff spells reports
  refine ⟨seen, fun t live force name c active unlocked type stands => ?_⟩
  subst type
  have unseen : found.hasType c.type = false ↔ d.Missed c.type := by
    rw [← Bool.not_eq_true, seen, not_not]
  rw [alters_type_iff active unlocked stands fun other =>
    d.convertible_of_missed spells reports (unseen.mp other), unseen]

/-! ### Sales -/

/-- A moment with a time zone, to the millisecond. -/
def soldAt : TypeName.Declared where
  form := { words := ["timestamp"], suffix := ["with", "time", "zone"]
            reported := "timestamp with time zone", numbers := .moment }
  numerals := [⟨"3", 3, by decide +kernel⟩]
  listed := by decide
  few := by decide

/-- A price with cents. -/
def price : TypeName.Declared where
  form := { words := ["numeric"], reported := "numeric", numbers := .decimal }
  numerals := [⟨"10", 10, by decide +kernel⟩, ⟨"2", 2, by decide +kernel⟩]
  listed := by decide
  few := by decide

theorem spells_soldAt : soldAt.Spells "timestamp(3) with time zone" := by
  have whole : "timestamp(3) with time zone" = ("" ++ "timestamp" ++ "") ++ "(" ++
      ("" ++ "3" ++ "") ++ ")" ++ (" " ++ ("with" ++ " " ++ ("time" ++ " " ++ "zone")) ++ "") := by
    decide +kernel
  have same (w : String) : Text.sameLetters w w = true := beq_self_eq_true _
  have zone :
      TypeName.Spelled ["with", "time", "zone"] ("with" ++ " " ++ ("time" ++ " " ++ "zone")) :=
    .more (same _) (by decide) rfl (.more (same _) (by decide) rfl (.word (same _)))
  rw [whole]
  exact .numbered (.words rfl (.word (same _)) rfl) (.last rfl rfl) (.words rfl zone rfl)

theorem spells_price : price.Spells "Numeric ( 10, 2)" := by
  have whole : "Numeric ( 10, 2)" = ("" ++ "Numeric" ++ " ") ++ "(" ++
      (" " ++ "10" ++ "" ++ "," ++ (" " ++ "2" ++ "")) ++ ")" ++ "" := by
    decide +kernel
  rw [whole]
  exact .numbered (.words rfl (.word (by decide +kernel)) rfl) (.more rfl rfl (.last rfl rfl))
    (.none rfl)

/-- A column that was created with such a moment. -/
def liveSoldAt : CatalogColumn :=
  { name := "sold_at", dataType := "timestamp with time zone" }

/-- A column that was created with such a price. -/
def livePrice : CatalogColumn :=
  { name := "price", dataType := "numeric", numericPrecision := some 10, numericScale := some 2 }

theorem reports_soldAt : soldAt.Reports liveSoldAt where
  name := rfl
  length kind := nomatch kind
  decimal kind := nomatch kind

theorem reports_price : price.Reports livePrice where
  name := rfl
  length kind := nomatch kind
  decimal _ p first := by
    obtain rfl := Option.some.inj first
    exact ⟨rfl, rfl⟩

/-- The moment is altered again, the price is not. -/
theorem type_seen_sales :
    liveSoldAt.hasType "timestamp(3) with time zone" = false ∧
      (∃ s ∈ (column { name := "sales" } { columns := [liveSoldAt] } false "sold_at"
          { type := "timestamp(3) with time zone" }).steps,
        s.change = .alterType "sold_at" "timestamp(3) with time zone") ∧
      livePrice.hasType "Numeric ( 10, 2)" = true := by
  have missed : soldAt.Missed "timestamp(3) with time zone" :=
    .inside (List.cons_ne_nil _ _) (List.cons_ne_nil _ _)
  obtain ⟨seen, alters⟩ := type_seen_iff soldAt _ _ spells_soldAt reports_soldAt
  obtain ⟨seen', -⟩ := type_seen_iff price _ _ spells_price reports_price
  refine ⟨?_, ?_, seen'.mpr fun missed => ?_⟩
  · rw [← Bool.not_eq_true, seen]
    exact not_not_intro missed
  · exact (alters _ _ _ _ { type := "timestamp(3) with time zone" } rfl rfl rfl
      (by decide +kernel)).mpr missed
  · cases missed with
    | inside _ further => exact further rfl
    | numeral n given other =>
      have written : ∀ n ∈ price.numerals, n.text = toString n.value := by decide +kernel
      exact other (written n given)

end Plan

end TableMapper
