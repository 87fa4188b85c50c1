import Mathlib.Data.List.TakeWhile
import TableMapper.Proofs.Binary64.Integer
import TableMapper.Proofs.Text.Letter

/-!
# Numbers read from text

* `Binary64.read?_int`: the text of an integer is read as the double of the integer.
* `Binary64.read?_lowerAscii`: texts that differ in the case of letters are read alike.
-/

namespace TableMapper

namespace Binary64

variable {negative : Bool} {c : Char} {cs : List Char}

/-- The number after the sign. -/
def readSigned? (negative : Bool) (cs : List Char) : Option Binary64 :=
  (special? negative cs).or (readUnsigned? negative cs)

/-- No sign stands before the rest. -/
def Unmarked (cs : List Char) : Prop := ∀ c ∈ cs.head?, c ≠ '-' ∧ c ≠ '+'

/-- A sign stands first, or none does. -/
theorem sign_cases (cs : List Char) :
    (∃ sign ds, (sign = '-' ∨ sign = '+') ∧ cs = sign :: ds) ∨ Unmarked cs := by
  cases cs with
  | nil => exact .inr nofun
  | cons c cs =>
    by_cases mark : c = '-' ∨ c = '+'
    · exact .inl ⟨c, cs, mark, rfl⟩
    · refine .inr fun d first => ?_
      obtain rfl := Option.some.inj first
      exact not_or.mp mark

theorem read?_minus : read? (String.ofList ('-' :: cs)) = readSigned? true cs := by
  rw [read?, String.toList_ofList]
  rfl

/-- Either sign is taken off. -/
theorem read?_signed {sign : Char} (mark : sign = '-' ∨ sign = '+') :
    ∃ negative, ∀ cs, read? (String.ofList (sign :: cs)) = readSigned? negative cs := by
  obtain rfl | rfl := mark
  · exact ⟨true, fun cs => read?_minus⟩
  · refine ⟨false, fun cs => ?_⟩
    rw [read?, String.toList_ofList]
    rfl

theorem read?_unmarked (unmarked : Unmarked cs) :
    read? (String.ofList cs) = readSigned? false cs := by
  rw [read?, String.toList_ofList]
  split
  next => exact absurd rfl (unmarked '-' rfl).1
  next => exact absurd rfl (unmarked '+' rfl).2
  next => rfl

/-- The names of infinity and of NaN start with one of two letters. -/
theorem special?_cons (i : c.toLower ≠ 'i') (n : c.toLower ≠ 'n') :
    special? negative (c :: cs) = none := by
  have first (name : String) (h : name.toList.head? ≠ some c.toLower) :
      Text.lowerAscii (String.ofList (c :: cs)) ≠ name := by
    rintro rfl
    simp [Text.lowerAscii] at h
  unfold special?
  split
  next eq => exact absurd eq (first "inf" fun h => i (Option.some.inj h).symm)
  next eq => exact absurd eq (first "infinity" fun h => i (Option.some.inj h).symm)
  next eq => exact absurd eq (first "nan" fun h => n (Option.some.inj h).symm)
  next => rfl

/-! ### Integers -/

theorem readUnsigned?_digits (digits : Document.Digits cs) :
    readUnsigned? negative cs = some (ofDecimal negative (Text.decimalValue cs) 0) := by
  have ended : Document.NoDigit [] := nofun
  have whole : cs.takeWhile Text.isDigit = cs := by
    simpa using Document.takeWhile_digits digits ended
  have rest : cs.dropWhile Text.isDigit = [] := by
    simpa using Document.dropWhile_digits digits ended
  unfold readUnsigned?
  simp [whole, rest, digits.1, exponent?]

theorem ofDecimal_natural (negative : Bool) (n : Nat) :
    ofDecimal negative n 0 = nearest negative n 1 := by
  unfold ofDecimal
  split
  next none => simp [nearest, none]
  next some =>
    rw [if_neg (by decide), if_neg (by omega)]
    simp

theorem readSigned?_natural (negative : Bool) (n : Nat) :
    readSigned? negative (toString n).toList = some (nearest negative n 1) := by
  have digits := Document.digits_nat n
  have read : readUnsigned? negative (toString n).toList = _ := readUnsigned?_digits digits
  have unnamed : special? negative (toString n).toList = none := by
    obtain ⟨c, ds, chars⟩ := List.exists_cons_of_ne_nil digits.1
    have digit : Text.isDigit c = true := digits.2 c (chars ▸ List.mem_cons_self)
    rw [chars]
    refine special?_cons ?_ ?_ <;>
      · rw [Text.toLower_of_isDigit digit]
        rintro rfl
        exact absurd digit (by decide)
  rw [readSigned?, unnamed, Option.none_or, read, Text.decimalValue_nat, ofDecimal_natural]

/-- The text of an integer is read as the double of the integer. -/
theorem read?_int (a : Int) : read? (toString a) = some (ofInt a) := by
  rw [← String.ofList_toList (s := toString a), Int.toString_eq_repr, Int.repr_eq_if]
  by_cases nonneg : 0 ≤ a
  · have unmarked : Unmarked (toString a.toNat).toList := fun c first => by
      have digit := (Document.digits_nat a.toNat).2 c (List.mem_of_mem_head? first)
      constructor <;>
        · rintro rfl
          exact absurd digit (by decide)
    have double : ofInt a = nearest false a.toNat 1 := by
      have size : a.natAbs = a.toNat := by omega
      rw [ofInt, size, decide_eq_false (by omega)]
    rw [if_pos nonneg, double, ← readSigned?_natural, ← read?_unmarked unmarked]
    rfl
  · have double : ofInt a = nearest true (-a).toNat 1 := by
      have size : a.natAbs = (-a).toNat := by omega
      rw [ofInt, size, decide_eq_true (by omega)]
    rw [if_neg nonneg, double, ← readSigned?_natural, ← read?_minus, String.toList_append]
    rfl

/-! ### The case of letters -/

/-- The list in lower case. -/
def lower (cs : List Char) : List Char := cs.map Char.toLower

theorem special?_lower : special? negative (lower cs) = special? negative cs := by
  have same : Text.lowerAscii (String.ofList (lower cs)) = Text.lowerAscii (String.ofList cs) := by
    have lowered : String.ofList (lower cs) = Text.lowerAscii (String.ofList cs) := by
      rw [Text.lowerAscii, String.toList_ofList, lower]
    rw [lowered, Text.lowerAscii_lowerAscii]
  unfold special?
  rw [same]

@[simp] theorem lower_cons : lower (c :: cs) = c.toLower :: lower cs := rfl

theorem lower_of_digits (digits : ∀ c ∈ cs, Text.isDigit c = true) : lower cs = cs := by
  induction cs with
  | nil => rfl
  | cons c cs ih =>
    rw [lower_cons, Text.toLower_of_isDigit (digits c List.mem_cons_self),
      ih fun d hd => digits d (List.mem_cons_of_mem c hd)]

theorem isDigit_comp_toLower : Text.isDigit ∘ Char.toLower = Text.isDigit :=
  funext fun _ => Text.isDigit_toLower

theorem takeWhile_lower : (lower cs).takeWhile Text.isDigit = cs.takeWhile Text.isDigit := by
  rw [lower, List.takeWhile_map, isDigit_comp_toLower]
  exact lower_of_digits fun _ => List.mem_takeWhile_imp

theorem dropWhile_lower :
    (lower cs).dropWhile Text.isDigit = lower (cs.dropWhile Text.isDigit) := by
  rw [lower, List.dropWhile_map, isDigit_comp_toLower, lower]

theorem digits?_lower : Text.digits? (lower cs) = Text.digits? cs := by
  have all : (lower cs).all Text.isDigit = cs.all Text.isDigit := by
    rw [lower, List.all_map, isDigit_comp_toLower]
  by_cases digits : cs.all Text.isDigit = true
  · rw [lower_of_digits (List.all_eq_true.mp digits)]
  · simp [Text.digits?, all, digits]

theorem Unmarked.lower (unmarked : Unmarked cs) : Unmarked (lower cs) := by
  have kept {c mark : Char} (other : mark.toNat < 65) : c ≠ mark → c.toLower ≠ mark :=
    mt (Text.toLower_eq_iff other).mp
  cases cs with
  | nil => exact unmarked
  | cons c cs =>
    obtain ⟨minus, plus⟩ := unmarked c rfl
    rintro _ ⟨⟩
    exact ⟨kept (by decide) minus, kept (by decide) plus⟩

theorem lower_sign {sign : Char} (mark : sign = '-' ∨ sign = '+') :
    lower (sign :: cs) = sign :: lower cs := by
  obtain rfl | rfl := mark <;> rfl

theorem integer?_signed {sign : Char} (mark : sign = '-' ∨ sign = '+') :
    ∃ value : Nat → Int, ∀ cs, Text.integer? (String.ofList (sign :: cs)) =
      (Text.digits? cs).map value := by
  obtain rfl | rfl := mark
  · refine ⟨(-·), fun cs => ?_⟩
    rw [Text.integer?, String.toList_ofList]
    cases digits : Text.digits? cs <;> simp [digits]
  · refine ⟨(·), fun cs => ?_⟩
    rw [Text.integer?, String.toList_ofList]
    rfl

theorem integer?_unmarked (unmarked : Unmarked cs) :
    Text.integer? (String.ofList cs) = (Text.digits? cs).map Int.ofNat := by
  rw [Text.integer?, String.toList_ofList]
  split
  next => exact absurd rfl (unmarked '+' rfl).2
  next => exact absurd rfl (unmarked '-' rfl).1
  next => rfl

theorem integer?_lower :
    Text.integer? (String.ofList (lower cs)) = Text.integer? (String.ofList cs) := by
  obtain ⟨sign, ds, mark, rfl⟩ | unmarked := sign_cases cs
  · obtain ⟨value, read⟩ := integer?_signed mark
    rw [lower_sign mark, read, read, digits?_lower]
  · rw [integer?_unmarked unmarked.lower, integer?_unmarked unmarked, digits?_lower]

/-- The letter before an exponent may be a capital. -/
theorem isMark_toLower :
    (c.toLower == 'e' || c.toLower == 'E') = (c == 'e' || c == 'E') := by
  have value (d : Char) : c.toLower = d ↔ c.toLower.toNat = d.toNat := Char.toNat_inj.symm
  have value' (d : Char) : c = d ↔ c.toNat = d.toNat := Char.toNat_inj.symm
  have small : 'e'.toNat = 101 := rfl
  have capital : 'E'.toNat = 69 := rfl
  rw [Bool.eq_iff_iff]
  simp only [Bool.or_eq_true, beq_iff_eq]
  obtain same | ⟨low, high, lowered⟩ := Text.toLower_cases c
  · rw [same]
  · rw [value, value, value', value', small, capital]
    omega

theorem exponent?_lower : exponent? (lower cs) = exponent? cs := by
  cases cs with
  | nil => rfl
  | cons c cs => rw [lower_cons, exponent?, exponent?, isMark_toLower, integer?_lower]

/-- The digits after a decimal point, and what follows them. -/
def fraction (rest : List Char) : List Char × List Char :=
  match rest with
  | '.' :: more => (more.takeWhile Text.isDigit, more.dropWhile Text.isDigit)
  | _ => ([], rest)

theorem fraction_of_ne (other : c ≠ '.') : fraction (c :: cs) = ([], c :: cs) := by
  unfold fraction
  split
  next eq => exact absurd (List.cons.inj eq).1 other
  next => rfl

theorem fraction_lower : fraction (lower cs) = ((fraction cs).1, lower (fraction cs).2) := by
  cases cs with
  | nil => rfl
  | cons c cs =>
    by_cases point : c = '.'
    · subst point
      exact Prod.ext takeWhile_lower dropWhile_lower
    · have other : c.toLower ≠ '.' := mt (Text.toLower_eq_iff (by decide)).mp point
      rw [lower_cons, fraction_of_ne other, fraction_of_ne point, lower_cons]

theorem readUnsigned?_eq (negative : Bool) (cs : List Char) : readUnsigned? negative cs =
    let whole := cs.takeWhile Text.isDigit
    let (digits, rest) := fraction (cs.dropWhile Text.isDigit)
    if whole.isEmpty && digits.isEmpty then none
    else (exponent? rest).bind fun x =>
      some (ofDecimal negative (Text.decimalValue (whole ++ digits)) (x - digits.length)) := rfl

theorem readSigned?_lower : readSigned? negative (lower cs) = readSigned? negative cs := by
  have unsigned : readUnsigned? negative (lower cs) = readUnsigned? negative cs := by
    simp only [readUnsigned?_eq, takeWhile_lower, dropWhile_lower, fraction_lower, exponent?_lower]
  rw [readSigned?, special?_lower, unsigned, readSigned?]

/-- Texts that differ in the case of letters are read alike. -/
theorem read?_lowerAscii (s : String) : read? (Text.lowerAscii s) = read? s := by
  have same : read? (String.ofList (lower s.toList)) = read? (String.ofList s.toList) := by
    obtain ⟨sign, ds, mark, chars⟩ | unmarked := sign_cases s.toList
    · obtain ⟨negative, read⟩ := read?_signed mark
      rw [chars, lower_sign mark, read, read, readSigned?_lower]
    · rw [read?_unmarked unmarked, read?_unmarked unmarked.lower, readSigned?_lower]
  rwa [String.ofList_toList] at same

end Binary64

end TableMapper
