import TableMapper.Postgres.Exchange
import TableMapper.Proofs.Postgres.Numeric
import TableMapper.Proofs.Table.Traversal
import TableMapper.Proofs.Text.Utf8

/-!
# Arrays on the wire

An array of one dimension is sent as five words of 32 bits, the number of its dimensions, a flag,
the type of its elements, their number and the place of the first of them, followed by the elements,
each with its length in front.  A NULL has the length -1 and no bytes.  An array without elements
has no dimension, and only the first three words are sent.

* `ArrayElement.Entry` are the elements of an array, `Entry.bytes` is what is sent for one of them,
  and `Entry.json?` its JSON value.
* `ArrayValue` is an array, and `ArrayValue.bytes` what is sent for it.
* `Wire.elements?_sent` says that either all elements are read or none, and `Wire.array_shown_iff`
  exactly when an array is shown; otherwise `null` is.
-/

namespace TableMapper

/-! ### Numbers -/

namespace Wire

variable {size : Nat} {n : Int}

/-- All bits but the one for the sign count. -/
theorem inBytes_iff (least : 0 < size) :
    InBytes size n ↔ -(2 ^ (8 * size - 1) : Int) ≤ n ∧ n < 2 ^ (8 * size - 1) := by
  have power : 256 ^ size = 2 * 2 ^ (8 * size - 1) := by
    have byte : (256 : Nat) = 2 ^ 8 := rfl
    rw [byte, ← Nat.pow_mul, ← Nat.pow_succ']
    congr 1
    omega
  rw [InBytes, power]
  push_cast
  omega

/-- A length is sent as a number of 32 bits. -/
theorem inBytes_length {length : Nat} (small : length < 2 ^ 31) : InBytes 4 (length : Int) := by
  constructor <;> omega

theorem takeSigned?_signedBytes (fits : InBytes size n) (rest : List UInt8) :
    takeSigned? size (signedBytes size n ++ rest) = some (n, rest) := by
  have length := length_signedBytes size n
  have enough : ¬ (signedBytes size n ++ rest).length < size := by
    rw [List.length_append]
    omega
  rw [takeSigned?, if_neg enough, List.take_left' length, List.drop_left' length,
    signed_signedBytes fits]

theorem integer?_signedBytes (least : 0 < size) (most : size ≤ 8) (fits : InBytes size n) :
    integer? (signedBytes size n) = some n := by
  have length := length_signedBytes size n
  have bytes : ((signedBytes size n).isEmpty || decide (8 < (signedBytes size n).length)) =
      false := by
    rw [Bool.or_eq_false_iff, List.isEmpty_eq_false_iff_exists_mem]
    refine ⟨List.exists_mem_of_length_pos (by omega), decide_eq_false (by omega)⟩
  rw [integer?, bytes, if_neg Bool.false_ne_true, signed_signedBytes fits]

theorem integerOf?_signedBytes (least : 0 < size) (most : size ≤ 8) (fits : InBytes size n) :
    integerOf? (8 * size) (signedBytes size n) = some n := by
  have inside : (decide (-(Nat.pow 2 (8 * size - 1) : Int) ≤ n) &&
      decide (n < (Nat.pow 2 (8 * size - 1) : Int))) = true := by
    rw [Bool.and_eq_true, decide_eq_true_iff, decide_eq_true_iff]
    simpa using (inBytes_iff least).mp fits
  rw [integerOf?, integer?_signedBytes least most fits, Option.filter_some, if_pos inside]

theorem unsigned_bytesOf_of_lt {n : Nat} (small : n < 256 ^ size) :
    unsigned (bytesOf size n) = n := by
  rw [unsigned_bytesOf, Nat.mod_eq_of_lt small]

end Wire

/-! ### Elements -/

/-- The values of elements of a kind.  A floating-point number of either width is given by its
bits, and a JSON document by its text. -/
inductive ArrayElement.Entry : ArrayElement → Type
  | int2 (n : Int16) : Entry .int2
  | int4 (n : Int32) : Entry .int4
  | int8 (n : Int64) : Entry .int8
  | float4 (bits : UInt32) : Entry .double
  | float8 (bits : UInt64) : Entry .double
  | boolean (b : Bool) : Entry .boolean
  | text (s : String) : Entry .text
  | json (s : String) : Entry .json

namespace ArrayElement.Entry

open Wire

variable {e : ArrayElement}

/-- What is sent for an element of this type. -/
def bytes (type : ColumnType) : Entry e → List UInt8
  | .int2 n => signedBytes 2 n.toInt
  | .int4 n => signedBytes 4 n.toInt
  | .int8 n => signedBytes 8 n.toInt
  | .float4 bits => bytesOf 4 bits.toNat
  | .float8 bits => bytesOf 8 bits.toNat
  | .boolean b => [if b then 1 else 0]
  | .text s => Utf8.encode s
  | .json s => (if type = 3802 then [1] else []) ++ Utf8.encode s

/-- A number, or `null` for one that JSON does not have. -/
def number (x : Binary64) : Json := if x.isFinite then .double x else .null

/-- The JSON value of an element.  Not every document has one: its nesting can be too deep, or a
number in it too large. -/
def json? : Entry e → Option Json
  | .int2 n => some (.int n.toInt)
  | .int4 n => some (.int n.toInt)
  | .int8 n => some (.int n.toInt)
  | .float4 bits => some (number (.ofBits32 bits.toNat))
  | .float8 bits => some (number (.ofBits bits.toNat))
  | .boolean b => some (.bool b)
  | .text s => some (.string s)
  | .json s => Json.read? s

end ArrayElement.Entry

/-! ### Arrays -/

/-- The type of the elements of arrays of this type. -/
def ColumnType.element : ColumnType → ColumnType
  | 1000 => 16
  | 1005 => 21 | 1007 => 23 | 1016 => 20
  | 1009 => 25 | 1015 => 1043 | 1014 => 1042 | 1003 => 19
  | 199 => 114 | 3807 => 3802
  | 1021 => 700 | 1022 => 701
  | _ => 0

/-- What is sent for an element with these bytes, or for NULL. -/
def Wire.sent : Option (List UInt8) → List UInt8
  | some bytes => signedBytes 4 bytes.length ++ bytes
  | none => signedBytes 4 (-1)

/-- An array of one dimension, whose elements are of this kind and this type. -/
structure ArrayValue (e : ArrayElement) (type : ColumnType) where
  /-- The elements, in order; `none` for NULL. -/
  entries : List (Option e.Entry)
  /-- The place of the first element. -/
  lower : Int32
  few : entries.length < 2 ^ 31
  short : ∀ v, some v ∈ entries → (v.bytes type).length < 2 ^ 31

namespace ArrayValue

open Wire

variable {e : ArrayElement} {type : ColumnType}

/-- What the elements are sent as, `none` for NULL. -/
def contents (a : ArrayValue e type) : List (Option (List UInt8)) :=
  a.entries.map fun v => v.map (·.bytes type)

/-- What is sent for an array. -/
def bytes (a : ArrayValue e type) : List UInt8 :=
  let flag : Int := if a.contents.contains none then 1 else 0
  if a.entries.isEmpty then signedBytes 4 0 ++ (signedBytes 4 flag ++ signedBytes 4 type)
  else signedBytes 4 1 ++ (signedBytes 4 flag ++ (signedBytes 4 type ++
    (signedBytes 4 a.entries.length ++ (signedBytes 4 a.lower.toInt ++ a.contents.flatMap sent))))

/-- The JSON values of the elements, in order, with `null` for NULL. -/
def items (a : ArrayValue e type) : List Json :=
  a.entries.map fun v => (v.bind (·.json?)).getD .null

/-- The elements are counted from one, and each is there and has a JSON value. -/
def IsPlain (a : ArrayValue e type) : Prop :=
  (a.entries ≠ [] → a.lower = 1) ∧ ∀ v ∈ a.entries, ∃ entry, v = some entry ∧ entry.json? ≠ none

end ArrayValue

namespace Wire

variable {e : ArrayElement} {type : ColumnType}

/-! ### Reading -/

/-- An element is read from what is sent for it. -/
theorem element?_bytes (v : e.Entry) : element? e type (v.bytes type) = v.json? := by
  cases v with
  | int2 n =>
    have fits : InBytes 2 n.toInt := (inBytes_iff (by decide)).mpr ⟨n.le_toInt, n.toInt_lt⟩
    have read := integerOf?_signedBytes (by decide) (by decide) fits
    exact congrArg (Option.map Json.int) read
  | int4 n =>
    have fits : InBytes 4 n.toInt := (inBytes_iff (by decide)).mpr ⟨n.le_toInt, n.toInt_lt⟩
    have read := integerOf?_signedBytes (by decide) (by decide) fits
    exact congrArg (Option.map Json.int) read
  | int8 n =>
    have fits : InBytes 8 n.toInt := (inBytes_iff (by decide)).mpr ⟨n.le_toInt, n.toInt_lt⟩
    have read := integer?_signedBytes (by decide) (by decide) fits
    exact congrArg (Option.map Json.int) read
  | float4 bits =>
    rw [element?, ArrayElement.Entry.bytes, double?, length_bytesOf,
      unsigned_bytesOf_of_lt bits.toNat_lt]
    rfl
  | float8 bits =>
    rw [element?, ArrayElement.Entry.bytes, double?, length_bytesOf,
      unsigned_bytesOf_of_lt bits.toNat_lt]
    rfl
  | boolean b => cases b <;> rfl
  | text s =>
    rw [element?, ArrayElement.Entry.bytes, Utf8.decode?_encode]
    rfl
  | json s =>
    have text : (Utf8.decode? (Utf8.encode s)).bind Json.read? = Json.read? s := by
      rw [Utf8.decode?_encode, Option.bind_some]
    rw [element?, ArrayElement.Entry.bytes]
    by_cases binary : type = 3802
    · subst binary
      exact text
    · rw [if_neg binary, beq_false_of_ne binary]
      exact text

/-- **All elements are read, or none.** -/
theorem elements?_sent {α : Type} {read : List UInt8 → Option α}
    {contents : List (Option (List UInt8))}
    (short : ∀ bytes, some bytes ∈ contents → bytes.length < 2 ^ 31) :
    elements? read contents.length (contents.flatMap sent) =
      contents.mapM fun v => v.bind read := by
  induction contents with
  | nil => rfl
  | cons v contents ih =>
    have later := ih fun bytes inside => short bytes (List.mem_cons_of_mem v inside)
    rw [List.flatMap_cons, List.length_cons, elements?, List.mapM_cons]
    cases v with
    | none =>
      rw [sent, takeSigned?_signedBytes (by decide)]
      rfl
    | some bytes =>
      have fits := inBytes_length (short bytes List.mem_cons_self)
      have natural : ¬ (bytes.length : Int) < 0 := by omega
      have enough : ¬ (bytes ++ contents.flatMap sent).length < bytes.length := by
        rw [List.length_append]
        omega
      rw [sent, List.append_assoc, takeSigned?_signedBytes fits]
      simp only [Option.bind_eq_bind, Option.bind_some, Int.toNat_natCast, natural, enough,
        decide_false, Bool.or_self, Bool.false_eq_true, if_false, List.take_left, List.drop_left,
        later]

/-- An array is read if its elements are counted from one and all of them are read. -/
theorem array?_bytes (named : InBytes 4 type) (a : ArrayValue e type) :
    array? (element? e) a.bytes =
      if a.entries ≠ [] ∧ a.lower ≠ 1 then none else a.entries.mapM fun v => v.bind (·.json?) := by
  have flag : InBytes 4 (if a.contents.contains none then 1 else 0) := by
    split <;> decide
  have count := inBytes_length a.few
  have place : InBytes 4 a.lower.toInt :=
    (inBytes_iff (by decide)).mpr ⟨a.lower.le_toInt, a.lower.toInt_lt⟩
  have read : elements? (element? e type) a.entries.length (a.contents.flatMap sent) =
      a.entries.mapM fun v => v.bind (·.json?) := by
    have length : a.contents.length = a.entries.length := List.length_map _
    have short (bytes : List UInt8) (inside : some bytes ∈ a.contents) : bytes.length < 2 ^ 31 := by
      obtain ⟨v, there, same⟩ := List.mem_map.mp inside
      obtain ⟨entry, rfl, rfl⟩ := Option.map_eq_some_iff.mp same
      exact a.short entry there
    rw [← length, elements?_sent short, ArrayValue.contents, List.mapM_map]
    congr 1
    funext v
    cases v with
    | none => rfl
    | some entry => exact element?_bytes entry
  rw [ArrayValue.bytes]
  by_cases empty : a.entries = []
  · have first : ¬ (a.entries ≠ [] ∧ a.lower ≠ 1) := fun more => more.1 empty
    rw [if_pos (List.isEmpty_iff.mpr empty), if_neg first, array?,
      takeSigned?_signedBytes (by decide), empty]
    rfl
  · have one : (1 : Int) ≠ 0 ∧ ¬ ((1 : Int) != 1) = true := by decide
    have natural : ¬ (a.entries.length : Int) < 0 := by omega
    have first : a.lower.toInt = 1 ↔ a.lower = 1 := Int32.toInt_inj (y := 1)
    rw [if_neg (List.isEmpty_iff.not.mpr empty), array?, takeSigned?_signedBytes (by decide)]
    simp only [Option.bind_eq_bind, Option.bind_some, takeSigned?_signedBytes flag,
      takeSigned?_signedBytes named, takeSigned?_signedBytes count, takeSigned?_signedBytes place]
    rw [if_neg one.1, if_neg one.2, decide_eq_false natural, Bool.false_or, Int.toNat_natCast,
      Int.toNat_natCast, read]
    simp only [bne_iff_ne, ne_eq, first, empty, not_false_eq_true, true_and]
    rfl

theorem array?_of_plain (named : InBytes 4 type) {a : ArrayValue e type} (plain : a.IsPlain) :
    array? (element? e) a.bytes = some a.items := by
  have first : ¬ (a.entries ≠ [] ∧ a.lower ≠ 1) := fun other => other.2 (plain.1 other.1)
  rw [array?_bytes named, if_neg first, mapM_eq_some_iff, ArrayValue.items,
    List.forall₂_map_right_iff, List.forall₂_same]
  intro v inside
  obtain ⟨entry, rfl, value⟩ := plain.2 v inside
  obtain ⟨x, value⟩ := Option.ne_none_iff_exists'.mp value
  rw [Option.bind_some, value, Option.getD_some]

theorem array?_of_not_plain (named : InBytes 4 type) {a : ArrayValue e type}
    (other : ¬ a.IsPlain) : array? (element? e) a.bytes = none := by
  rw [array?_bytes named]
  by_cases moved : a.entries ≠ [] ∧ a.lower ≠ 1
  · exact if_pos moved
  · rw [if_neg moved, mapM_eq_none_iff]
    by_contra all
    refine other ⟨fun some => not_not.mp fun lower => moved ⟨some, lower⟩, fun v inside => ?_⟩
    cases v with
    | none => exact absurd ⟨none, inside, rfl⟩ all
    | some entry => exact ⟨entry, rfl, fun none => all ⟨some entry, inside, none⟩⟩

/-- **When an array is shown.**  An array of one dimension in a column that is classified as an
array is shown as the JSON array of its elements if and only if they are counted from one, none of
them is NULL, all have JSON values, and they are no floating-point numbers of single precision.
Otherwise it is shown as `null`. -/
theorem array_shown_iff (array : type.category = .array e) (a : ArrayValue e type.element) :
    (column type (some a.bytes) = .array a.items ↔ type ≠ 1021 ∧ a.IsPlain) ∧
    (column type (some a.bytes) = .null ↔ type = 1021 ∨ ¬ a.IsPlain) := by
  have named : InBytes 4 (type.element : Int) := by
    unfold ColumnType.element
    split <;> decide
  have read : column type (some a.bytes) = ((if type = 1021 then none
      else (array? (element? e) a.bytes).map Json.array).getD .null) := by
    rw [column, array]
    rfl
  by_cases single : type = 1021
  · rw [if_pos single, Option.getD_none] at read
    rw [read]
    simp [single]
  by_cases plain : a.IsPlain
  · rw [if_neg single, array?_of_plain named plain, Option.map_some, Option.getD_some] at read
    simp [read, single, plain]
  · rw [if_neg single, array?_of_not_plain named plain, Option.map_none, Option.getD_none] at read
    simp [read, single, plain]

/-- Three numbers are shown as they are, and as `null` if one of them is missing or the first of
them has the place zero.  An array of numbers of single precision is shown as `null` even without
elements. -/
theorem array_shown_digits :
    let shown : ArrayValue .int4 23 :=
      { entries := [some (.int4 1), some (.int4 2), some (.int4 3)], lower := 1
        few := by decide, short := by simp [ArrayElement.Entry.bytes, length_signedBytes] }
    let gap : ArrayValue .int4 23 :=
      { entries := [some (.int4 1), none, some (.int4 3)], lower := 1
        few := by decide, short := by simp [ArrayElement.Entry.bytes, length_signedBytes] }
    let moved : ArrayValue .int4 23 := { shown with lower := 0 }
    let empty : ArrayValue .double 700 :=
      { entries := [], lower := 1, few := by decide, short := by simp }
    column 1007 (some shown.bytes) = .array [.int 1, .int 2, .int 3] ∧
      column 1007 (some gap.bytes) = .null ∧ column 1007 (some moved.bytes) = .null ∧
      column 1021 (some empty.bytes) = .null := by
  intro shown gap moved empty
  have integers : ColumnType.category 1007 = .array .int4 := by decide
  have singles : ColumnType.category 1021 = .array .double := by decide
  refine ⟨(array_shown_iff integers shown).1.mpr ⟨by decide, fun _ => rfl, ?_⟩,
    (array_shown_iff integers gap).2.mpr (.inr ?_),
    (array_shown_iff integers moved).2.mpr (.inr ?_),
    (array_shown_iff singles empty).2.mpr (.inl rfl)⟩
  · simp [shown, ArrayElement.Entry.json?]
  · rintro ⟨-, all⟩
    obtain ⟨entry, same, -⟩ := all none (by simp [gap])
    cases same
  · rintro ⟨first, -⟩
    exact absurd (first (by simp [moved, shown])) (by decide)

end Wire

end TableMapper
