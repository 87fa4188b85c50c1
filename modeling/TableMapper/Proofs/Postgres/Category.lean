import TableMapper.Postgres.Decode
import TableMapper.Proofs.Text.Letter

/-!
# Names of decimal types

A type is taken for a decimal number if its name has one of two words in it, wherever it stands and
before anything else is asked.

* `TypeCategory.ofName_eq` says that the category is that of any lower case of the name.
* `TypeCategory.ofLower_eq_decimal_iff` says which names are those of decimal types.
* `Wire.column_array` says what is shown of an array of numbers.
* `TypeCategory.decimal_names` says exactly which types are taken for decimal numbers without being
  them, arrays among them.
-/

namespace TableMapper

namespace TypeCategory

open Text (IsForeign Lowered IsWord)

/-! ### Words in a name -/

/-- The names of decimal types. -/
def decimalWords : List String := ["decimal", "numeric"]

/-- One of the words stands in the name. -/
def Mentions (lower : String) : Prop := ∃ word ∈ decimalWords, word.toList <:+: lower.toList

/-- One of the words stands in the name, with something before it or after it. -/
def MentionsInside (lower : String) : Prop := ∃ word ∈ decimalWords, ∃ before after,
  lower.toList = before ++ word.toList ++ after ∧ (before ≠ [] ∨ after ≠ [])

/-- What the decoder of decimal numbers asks of the name of a type. -/
def isDecoded (lower : String) : Bool :=
  Text.contains "numeric" lower || Text.contains "decimal" lower

theorem contains_iff {p s : String} : Text.contains p s = true ↔ p.toList <:+: s.toList :=
  Text.occurs_iff_infix

theorem mentions_iff (lower : String) :
    Mentions lower ↔ (Text.contains "decimal" lower || Text.contains "numeric" lower) = true := by
  simp [Mentions, decimalWords, contains_iff]

theorem isDecoded_iff (lower : String) : isDecoded lower = true ↔ Mentions lower := by
  rw [isDecoded, Bool.or_comm, mentions_iff]

/-- A word that is all of the name, or a part of it. -/
theorem eq_or_mentionsInside {lower : String} (mentions : Mentions lower) :
    (lower = "numeric" ∨ lower = "decimal") ∨ MentionsInside lower := by
  obtain ⟨word, listed, before, after, same⟩ := mentions
  by_cases all : before = [] ∧ after = []
  · obtain ⟨rfl, rfl⟩ := all
    have whole : word = lower := by
      rw [← String.toList_inj, ← same, List.nil_append, List.append_nil]
    rw [← whole]
    simp only [decimalWords, List.mem_cons, List.not_mem_nil, or_false] at listed
    exact .inl listed.symm
  · exact .inr ⟨word, listed, before, after, same.symm, not_and_or.mp all⟩

theorem mentions_of_inside {lower : String} (inside : MentionsInside lower) :
    Mentions lower ∧ lower ≠ "numeric" ∧ lower ≠ "decimal" := by
  obtain ⟨word, listed, before, after, same, more⟩ := inside
  have seven : word.toList.length = 7 := by
    simp only [decimalWords, List.mem_cons, List.not_mem_nil, or_false] at listed
    obtain rfl | rfl := listed <;> rfl
  have long : 7 < lower.toList.length := by
    rw [same, List.length_append, List.length_append, seven]
    obtain before | after := more
    · have some := List.length_pos_iff.mpr before
      omega
    · have some := List.length_pos_iff.mpr after
      omega
  refine ⟨⟨word, listed, before, after, same.symm⟩, ?_, ?_⟩
  all_goals
    rintro rfl
    exact absurd long (by decide)

/-! ### Categories of names in lower case -/

/-- A character that no type name has of those that are known. -/
def HasOdd (s : String) : Prop := ∃ c ∈ s.toList, IsForeign c ∨ c = 'k'

instance (s : String) : Decidable (HasOdd s) :=
  decidable_of_iff ((s.toList.any fun c => decide (IsForeign c) || c == 'k') = true)
    (by simp [HasOdd])

theorem ofScalar_ne_decimal (s : String) : ofScalar s ≠ .decimal := by
  unfold ofScalar
  split <;> decide

theorem ofScalar_of_odd {s : String} (odd : HasOdd s) : ofScalar s = .unknown := by
  unfold ofScalar
  split
  -- every name but the last, which is any, has small letters and digits only
  rotate_right
  · rfl
  all_goals exact absurd odd (by decide +kernel)

theorem ofName?_of_odd {s : String} (odd : HasOdd s) : ArrayElement.ofName? s = none := by
  unfold ArrayElement.ofName?
  split
  rotate_right
  · rfl
  all_goals exact absurd odd (by decide +kernel)

/-- The category of an array, or none at all. -/
def IsArrayOrUnknown (c : TypeCategory) : Prop := c = .unknown ∨ ∃ e, c = .array e

theorem ofLower_of_mentions {lower : String} (mentions : Mentions lower) :
    ofLower lower = .decimal := by
  rw [ofLower, if_pos ((mentions_iff lower).mp mentions)]

/-- The category of the elements decides that of an array. -/
theorem ofLower_array {lower : String} {element : List Char} (none : ¬ Mentions lower)
    (array : lower.toList = element ++ ['[', ']']) :
    ofLower lower =
      ((ArrayElement.ofName? (String.ofList element)).map TypeCategory.array).getD .unknown := by
  have cut : Text.before? "[]" lower = some (String.ofList element) := by
    rw [Text.before?, array]
    exact congrArg (Option.map String.ofList) (Text.dropEnd?_append element ['[', ']'])
  simp only [ofLower, if_neg (mt (mentions_iff lower).mpr none), cut]
  cases ArrayElement.ofName? (String.ofList element) <;> rfl

theorem ofLower_scalar {lower : String} (none : ¬ Mentions lower)
    (scalar : Text.before? "[]" lower = .none) : ofLower lower = ofScalar lower := by
  rw [ofLower, if_neg (mt (mentions_iff lower).mpr none), scalar]

/-- A name is that of an array if two brackets are at its end. -/
theorem exists_element {lower : String} (array : Text.before? "[]" lower ≠ none) :
    ∃ element, lower.toList = element ++ ['[', ']'] := by
  obtain ⟨element, cut⟩ := Option.ne_none_iff_exists'.mp array
  obtain ⟨rest, dropped, -⟩ := Option.map_eq_some_iff.mp cut
  obtain ⟨start, found, -⟩ := Option.map_eq_some_iff.mp dropped
  refine ⟨start.reverse, ?_⟩
  rw [← List.reverse_reverse lower.toList, Text.dropStart?_eq_some_iff.mp found,
    List.reverse_append, List.reverse_reverse]
  rfl

theorem isArrayOrUnknown_ofLower {lower : String} {element : List Char} (none : ¬ Mentions lower)
    (array : lower.toList = element ++ ['[', ']']) : (ofLower lower).IsArrayOrUnknown := by
  rw [ofLower_array none array]
  cases ArrayElement.ofName? (String.ofList element) with
  | none => exact .inl rfl
  | some e => exact .inr ⟨e, rfl⟩

/-- **The names of decimal types** are those with one of the words in them. -/
theorem ofLower_eq_decimal_iff (lower : String) : ofLower lower = .decimal ↔ Mentions lower := by
  refine ⟨fun decimal => ?_, ofLower_of_mentions⟩
  by_contra none
  by_cases array : Text.before? "[]" lower = Option.none
  · rw [ofLower_scalar none array] at decimal
    exact ofScalar_ne_decimal lower decimal
  · obtain ⟨element, same⟩ := exists_element array
    obtain unknown | ⟨e, array⟩ := isArrayOrUnknown_ofLower none same
    · rw [unknown] at decimal
      cases decimal
    · rw [array] at decimal
      cases decimal

/-- Names that are not known have no category, unless one of the words is in them. -/
theorem ofLower_of_odd {lower : String} (odd : HasOdd lower) (none : ¬ Mentions lower) :
    ofLower lower = .unknown := by
  by_cases array : Text.before? "[]" lower = Option.none
  · rw [ofLower_scalar none array, ofScalar_of_odd odd]
  · obtain ⟨element, same⟩ := exists_element array
    have inElement : HasOdd (String.ofList element) := by
      obtain ⟨c, inside, odd⟩ := odd
      rw [same, List.mem_append] at inside
      obtain inside | bracket := inside
      · exact ⟨c, by rwa [String.toList_ofList], odd⟩
      · simp only [List.mem_cons, List.not_mem_nil, or_false] at bracket
        obtain rfl | rfl := bracket <;> exact absurd odd (by decide +kernel)
    simp only [ofLower_array none same, ofName?_of_odd inElement, Option.map_none, Option.getD_none]

/-- **The category does not depend on capitals beyond ASCII.** -/
theorem ofName_eq {name lower : String} (h : Lowered name.toList lower.toList) :
    ofName name = ofLower lower := by
  have ascii : (Text.lowerAscii name).toList = name.toList.map Char.toLower :=
    String.toList_ofList
  by_cases foreign : ∃ c ∈ name.toList, IsForeign c
  -- neither lower case is the name of a known type, so only the words count
  · have same : Mentions lower ↔ Mentions (Text.lowerAscii name) := by
      refine exists_congr fun word => and_congr_right fun listed => ?_
      have all : ∀ word ∈ decimalWords, IsWord word.toList ∧ word.toList ≠ [] := by decide +kernel
      obtain ⟨isWord, some⟩ := all word listed
      rw [ascii]
      exact Text.infix_lowered_iff h isWord some
    have oddAscii : HasOdd (Text.lowerAscii name) := by
      obtain ⟨c, inside, far⟩ := foreign
      refine ⟨c, ?_, .inl far⟩
      rw [ascii]
      exact List.mem_map.mpr ⟨c, inside, Text.toLower_of_isForeign far⟩
    have odd : HasOdd lower := h.exists_odd foreign
    by_cases mentions : Mentions lower
    · rw [ofName, ofLower_of_mentions mentions, ofLower_of_mentions (same.mp mentions)]
    · rw [ofName, ofLower_of_odd odd mentions, ofLower_of_odd oddAscii (mt same.mpr mentions)]
  · have only : ∀ c ∈ name.toList, ¬ IsForeign c := by
      intro c inside far
      exact foreign ⟨c, inside, far⟩
    have lowered : lower = Text.lowerAscii name := by
      rw [← String.toList_inj, ascii]
      exact h.eq_of_ascii only
    rw [ofName, lowered]

/-- Of the types in the catalog, numbers and arrays of numbers are taken for decimal numbers. -/
theorem category_eq_decimal_iff (type : ColumnType) :
    type.category = .decimal ↔ type = 1700 ∨ type = 1231 := by
  by_cases number : type = 1700
  · subst number
    decide +kernel
  by_cases array : type = 1231
  · subst array
    decide +kernel
  have other : type.category ≠ .decimal := by
    unfold ColumnType.category ColumnType.name
    split
    any_goals decide +kernel
    · exact absurd rfl array
    · exact absurd rfl number
  simp [number, array, other]

end TypeCategory

/-! ### Values that are no decimal numbers -/

namespace Numeric

section NoGroups

variable {f : Form}

theorem group_of_none (none : f.groups = []) (k : Int) : f.group k = 0 := by
  simp [Form.group, none]

theorem flatMap_padded_zero (n : Nat) :
    ((List.range n).flatMap fun _ => padded 0) = List.replicate (4 * n) '0' := by
  have four : padded 0 = List.replicate 4 '0' := by decide +kernel
  induction n with
  | zero => rfl
  | succ n ih =>
    rw [List.range_succ, List.flatMap_append, ih, List.flatMap_singleton, four,
      List.replicate_append_replicate]
    rfl

theorem whole_of_none (none : f.groups = []) :
    f.whole = List.replicate (1 + 4 * f.weight.toNat) '0' := by
  have zero : (toString (0 : Int)).toList = ['0'] := by decide +kernel
  rw [Form.whole]
  by_cases small : f.weight < 0
  · rw [if_pos small, Int.toNat_of_nonpos (by omega)]
    rfl
  · simp only [group_of_none none]
    rw [if_neg small, zero, flatMap_padded_zero, Nat.add_comm]
    rfl

theorem fraction_of_none (none : f.groups = []) : f.fraction = List.replicate f.scale '0' := by
  have enough : min f.scale (4 * (f.scale / 4 + 1)) = f.scale := by omega
  simp only [Form.fraction, group_of_none none]
  rw [flatMap_padded_zero, List.take_replicate, enough]

end NoGroups

end Numeric

namespace Wire

/-- An array starts with the number of its dimensions and with a flag.  Read as the header of a
decimal number, these are a weight and a number of decimals, and there are no groups. -/
theorem column_array (dimensions flag : UInt8) (rest : List UInt8) :
    column 1231 (some (0 :: 0 :: 0 :: dimensions :: 0 :: 0 :: 0 :: flag :: rest)) =
      .string (String.ofList (List.replicate (1 + 4 * dimensions.toNat) '0' ++
        if flag = 0 then [] else '.' :: List.replicate flag.toNat '0')) := by
  -- the upper halves of both numbers are zero: there are no groups and there is no sign
  let form : Numeric.Form :=
    { weight := dimensions.toNat, sign := 0, scale := flag.toNat, groups := [] }
  have weight : signed [0, dimensions] = dimensions.toNat := by
    have small := dimensions.toNat_lt
    simp [signed, unsigned]
    omega
  have scale : unsigned [0, flag] = flag.toNat := by simp [unsigned]
  have text : Numeric.text? (0 :: 0 :: 0 :: dimensions :: 0 :: 0 :: 0 :: flag :: rest) =
      some form.text := by
    have count : (signed [0, 0]).toNat = 0 := rfl
    have sign : unsigned [0, 0] = 0 := rfl
    simp [Numeric.text?, count, sign, weight, scale, form]
  have decimal : ColumnType.category 1231 = .decimal :=
    (TypeCategory.category_eq_decimal_iff 1231).mpr (.inr rfl)
  have noDecimals : flag.toNat = 0 ↔ flag = 0 := by
    rw [← UInt8.toNat_inj]
    rfl
  have whole := Numeric.whole_of_none (f := form) rfl
  have fraction := Numeric.fraction_of_none (f := form) rfl
  simp only [column, Option.bind_some, decimal, value?, text, Option.map_some, Option.getD_some,
    Numeric.Form.text, whole, fraction]
  simp [form, noDecimals]

end Wire

namespace TypeCategory

open Text (IsForeign)

/-- **What is taken for a decimal number.**  The category of a type is that of decimal numbers if
and only if one of the words is in the lower case of its name, and then the decoder reads its values
too.  So the types other than the two that are meant are those with something before or after the
word, and the name of an array is taken for neither an array nor an unknown type if and only if the
word is in it.  In the catalog these are the arrays of numbers, and such an array is shown as zeros,
four for every dimension and one more, whatever its elements. -/
theorem decimal_names {name lower : String} (h : Text.Lowered name.toList lower.toList) :
    (ofName name = .decimal ↔ Mentions lower) ∧
    (ofName name = .decimal ↔ isDecoded lower = true) ∧
    ((ofName name = .decimal → lower = "numeric" ∨ lower = "decimal") ↔ ¬ MentionsInside lower) ∧
    (∀ element, lower.toList = element ++ ['[', ']'] →
      ((ofName name).IsArrayOrUnknown ↔ ¬ Mentions lower)) ∧
    (∀ type : ColumnType, type.category = .decimal ↔ type = 1700 ∨ type = 1231) ∧
    ∀ dimensions flag : UInt8, ∀ rest,
      Wire.column 1231 (some (0 :: 0 :: 0 :: dimensions :: 0 :: 0 :: 0 :: flag :: rest)) =
        .string (String.ofList (List.replicate (1 + 4 * dimensions.toNat) '0' ++
          if flag = 0 then [] else '.' :: List.replicate flag.toNat '0')) := by
  have decimal : ofName name = .decimal ↔ Mentions lower := by
    rw [ofName_eq h]
    exact ofLower_eq_decimal_iff lower
  refine ⟨decimal, decimal.trans (isDecoded_iff lower).symm, ?_, ?_, category_eq_decimal_iff,
    Wire.column_array⟩
  · constructor
    · intro only inside
      obtain ⟨mentions, notNumeric, notDecimal⟩ := mentions_of_inside inside
      exact (only (decimal.mpr mentions)).elim notNumeric notDecimal
    · intro notInside isDecimal
      exact (eq_or_mentionsInside (decimal.mp isDecimal)).resolve_right notInside
  · intro element array
    by_cases mentions : Mentions lower
    · have other : ¬ (ofName name).IsArrayOrUnknown := by
        rw [decimal.mpr mentions]
        simp [IsArrayOrUnknown]
      exact iff_of_false other (not_not.mpr mentions)
    · refine iff_of_true ?_ mentions
      rw [ofName_eq h]
      exact isArrayOrUnknown_ofLower mentions array

/-- Arrays of numbers are such a type: one of one dimension, with or without numbers that are NULL,
is shown as five zeros. -/
theorem decimal_names_array :
    Text.Lowered "NUMERIC[]".toList "numeric[]".toList ∧ MentionsInside "numeric[]" ∧
    ofName "NUMERIC[]" = .decimal ∧ ¬ (ofName "NUMERIC[]").IsArrayOrUnknown ∧
    ∀ rest, Wire.column 1231 (some (0 :: 0 :: 0 :: 1 :: 0 :: 0 :: 0 :: 0 :: rest)) =
        .string "00000" ∧
      Wire.column 1231 (some (0 :: 0 :: 0 :: 1 :: 0 :: 0 :: 0 :: 1 :: rest)) =
        .string "00000.0" := by
  have ascii : ∀ c ∈ "NUMERIC[]".toList, ¬ IsForeign c := by simp [IsForeign]
  have lowered : Text.Lowered "NUMERIC[]".toList "numeric[]".toList := Text.lowered_of_ascii ascii
  obtain ⟨decimal, -, -, array, -, shown⟩ := decimal_names lowered
  have mentions : Mentions "numeric[]" := (mentions_iff "numeric[]").mpr (by decide +kernel)
  refine ⟨lowered, ⟨"numeric", by decide, [], ['[', ']'], by decide, by decide⟩,
    decimal.mpr mentions, ?_, ?_⟩
  · rw [array "numeric".toList (by decide)]
    exact not_not.mpr mentions
  · intro rest
    rw [shown 1 0 rest, shown 1 1 rest]
    exact ⟨rfl, rfl⟩

end TypeCategory

end TableMapper
