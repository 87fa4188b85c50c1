import TableMapper.Proofs.Text.InBase
import TableMapper.Proofs.Text.Numeral
import TableMapper.Proofs.Text.Search
import TableMapper.Proofs.Text.Utf8
import TableMapper.Url.Percent

/-!
# Reading the parameters of a query back

An escaped byte is read as that byte, and no separator of parameters is left of a name or a value
that is written.

* `Percent.mem_encodeChars` says which characters are written, `Percent.decode_escapes` what is read
  of escaped bytes.
* `Form.decodePart_encodePart` reads a name or a value back.
* `Form.pairs_encode`: the parameters of a query are read back.
-/

namespace TableMapper

/-! ### Escapes -/

namespace Percent

variable {set : Char → Bool} {cs : List Char} {c : Char}

theorem exists_escape (b : UInt8) : ∃ high < 16, ∃ low < 16,
    16 * high + low = b.toNat ∧
      escape b = ['%', (Text.digitChar high).toUpper, (Text.digitChar low).toUpper] := by
  have byte : b.toNat < 256 := b.toNat_lt
  refine ⟨b.toNat / 16, by omega, b.toNat % 16, by omega, by omega, ?_⟩
  have high : b.toNat / 16 % 16 = b.toNat / 16 := by omega
  rw [escape, Text.hexByte, Text.lowDigits, Text.lowDigits, Text.lowDigits, high]
  rfl

/-- An escape has a percent sign and digits that stand for themselves. -/
theorem mem_escape {b : UInt8} (inside : c ∈ escape b) : c = '%' ∨ Form.isPlain c = true := by
  have digit : ∀ d < 16, Form.isPlain (Text.digitChar d).toUpper = true := by decide
  obtain ⟨high, small, low, small', -, chars⟩ := exists_escape b
  rw [chars] at inside
  simp only [List.mem_cons, List.not_mem_nil, or_false] at inside
  obtain rfl | rfl | rfl := inside
  · exact .inl rfl
  · exact .inr (digit high small)
  · exact .inr (digit low small')

theorem mem_encodeChar {d : Char} (inside : c ∈ encodeChar set d) :
    c = d ∧ set d = false ∨ c = '%' ∨ Form.isPlain c = true := by
  unfold encodeChar at inside
  split at inside
  next =>
    obtain ⟨b, -, inside⟩ := List.mem_flatMap.mp inside
    exact .inr (mem_escape inside)
  next kept => exact .inl ⟨List.mem_singleton.mp inside, Bool.eq_false_iff.mpr kept⟩

/-- What is written has characters that need no escape, and escapes. -/
theorem mem_encodeChars (inside : c ∈ encodeChars set cs) :
    c ∈ cs ∧ set c = false ∨ c = '%' ∨ Form.isPlain c = true := by
  obtain ⟨d, given, inside⟩ := List.mem_flatMap.mp inside
  exact (mem_encodeChar inside).imp_left fun ⟨same, kept⟩ => same ▸ ⟨given, kept⟩

theorem encodeChars_eq_self (kept : ∀ c ∈ cs, set c = false) : encodeChars set cs = cs := by
  induction cs with
  | nil => rfl
  | cons c cs ih =>
    have here : encodeChar set c = [c] := if_neg (by simp [kept c List.mem_cons_self])
    have rest := ih fun d later => kept d (List.mem_cons_of_mem c later)
    rw [encodeChars, List.flatMap_cons, here, List.singleton_append]
    exact congrArg (c :: ·) rest

theorem decode_escape (b : UInt8) (cs : List Char) : decode (escape b ++ cs) = b :: decode cs := by
  have value : ∀ d < 16, Text.hexValue? (Text.digitChar d).toUpper = some d := by decide
  obtain ⟨high, small, low, small', sum, chars⟩ := exists_escape b
  rw [chars, List.cons_append, List.cons_append, List.cons_append, List.nil_append, decode,
    value high small, value low small']
  change UInt8.ofNat (16 * high + low) :: decode cs = _
  rw [sum, UInt8.ofNat_toNat]

theorem decode_escapes (bs : List UInt8) (cs : List Char) :
    decode (bs.flatMap escape ++ cs) = bs ++ decode cs := by
  induction bs with
  | nil => rfl
  | cons b bs ih =>
    rw [List.flatMap_cons, List.append_assoc, decode_escape, ih, List.cons_append]

theorem decode_cons (plain : c ≠ '%') (cs : List Char) :
    decode (c :: cs) = String.utf8EncodeChar c ++ decode cs := by
  rw [decode]
  rintro a b rest rfl
  exact absurd rfl plain

end Percent

/-! ### Parameters -/

namespace Form

variable {c : Char}

/-- A plus sign stands for a space. -/
def spaced (c : Char) : Char := if c == '+' then ' ' else c

theorem spaced_eq_self (other : c ≠ '+') : spaced c = c := by
  rw [spaced, if_neg (by simpa using other)]

theorem ne_of_isPlain (plain : isPlain c = true) {d : Char} (other : isPlain d = false) :
    c ≠ d := by
  rintro rfl
  rw [plain] at other
  cases other

/-- The characters of a name or a value that is written. -/
def isWritten (c : Char) : Bool := isPlain c || c == '%' || c == '+'

theorem isWritten_of_mem {s : String} (inside : c ∈ encodePart s) : isWritten c = true := by
  obtain ⟨d, -, inside⟩ := List.mem_flatMap.mp inside
  unfold encodeChar at inside
  split at inside
  next =>
    obtain rfl := List.mem_singleton.mp inside
    rfl
  next =>
    obtain ⟨rfl, kept⟩ | rfl | plain := Percent.mem_encodeChar inside
    · rw [Bool.not_eq_false'] at kept
      simp [isWritten, kept]
    · rfl
    · simp [isWritten, plain]

theorem not_mem_encodePart {s : String} {mark : Char} (other : isWritten mark = false) :
    mark ∉ encodePart s := fun inside => by
  rw [isWritten_of_mem inside] at other
  cases other

/-- One character is read back. -/
theorem decode_encodeChar (c : Char) (cs : List Char) :
    Percent.decode ((encodeChar c ++ cs).map spaced) =
      String.utf8EncodeChar c ++ Percent.decode (cs.map spaced) := by
  rw [List.map_append]
  unfold encodeChar
  split
  next space =>
    obtain rfl := eq_of_beq space
    exact Percent.decode_cons (by decide) _
  next =>
    have kept {ds : List Char} (none : '+' ∉ ds) : ds.map spaced = ds :=
      (List.map_congr_left fun d inside =>
        spaced_eq_self fun same => none (same ▸ inside)).trans (List.map_id ds)
    unfold Percent.encodeChar
    split
    next =>
      have none : '+' ∉ (String.utf8EncodeChar c).flatMap Percent.escape := fun inside => by
        obtain ⟨b, -, inside⟩ := List.mem_flatMap.mp inside
        exact absurd (Percent.mem_escape inside) (by decide)
      rw [kept none, Percent.decode_escapes]
    next plain =>
      rw [Bool.not_eq_true, Bool.not_eq_false'] at plain
      rw [kept fun inside => ne_of_isPlain plain (by decide) (List.mem_singleton.mp inside).symm]
      exact Percent.decode_cons (ne_of_isPlain plain (by decide)) _

/-- **A name or a value** is read back. -/
theorem decodePart_encodePart (s : String) : decodePart (encodePart s) = s := by
  have bytes (cs : List Char) : Percent.decode ((cs.flatMap encodeChar).map spaced) =
      cs.flatMap String.utf8EncodeChar := by
    induction cs with
    | nil => rfl
    | cons c cs ih => rw [List.flatMap_cons, decode_encodeChar, ih, List.flatMap_cons]
  have read : decodePart (encodePart s) =
      Utf8.decodeLossy (Percent.decode ((s.toList.flatMap encodeChar).map spaced)) := rfl
  rw [read, bytes, Utf8.decodeLossy_encode, String.ofList_toList]

/-- A parameter as it is written. -/
def encodePair (param : String × String) : List Char :=
  encodePart param.1 ++ '=' :: encodePart param.2

theorem pair_encodePair (param : String × String) : pair (encodePair param) = param := by
  have before : ∀ c ∈ encodePart param.1, (c == '=') = false := by
    intro c inside
    refine beq_false_of_ne fun same => ?_
    exact not_mem_encodePart (by decide) (same ▸ inside)
  rw [pair, encodePair, Text.cutWhere?_append before (beq_self_eq_true '=')]
  simp only [decodePart_encodePart]

theorem not_mem_encodePair {param : String × String} {mark : Char} (other : isWritten mark = false)
    (unequal : mark ≠ '=') : mark ∉ encodePair param := by
  simp [encodePair, not_mem_encodePart other, unequal]

theorem toList_encode (params : List (String × String)) :
    (encode params).toList = ['&'].intercalate (params.map encodePair) :=
  String.toList_ofList

/-- **The parameters of a query** are read back, in order. -/
theorem pairs_encode (params : List (String × String)) : pairs (encode params) = params := by
  rw [pairs, toList_encode]
  cases params with
  | nil => rfl
  | cons param params =>
    have apart : ∀ part ∈ (param :: params).map encodePair, '&' ∉ part := fun part inside => by
      obtain ⟨p, -, rfl⟩ := List.mem_map.mp inside
      exact not_mem_encodePair (by decide) (by decide)
    have some : ∀ part ∈ (param :: params).map encodePair, (!part.isEmpty) = true := by
      rintro part inside
      obtain ⟨p, -, rfl⟩ := List.mem_map.mp inside
      simp [encodePair]
    rw [List.splitOn_intercalate '&' apart (by simp), List.filter_eq_self.mpr some, List.map_map]
    exact (List.map_congr_left fun p _ => pair_encodePair p).trans (List.map_id _)

/-- A query is written with the characters of names and values, and separators. -/
theorem mem_encode {params : List (String × String)} (inside : c ∈ (encode params).toList) :
    isWritten c = true ∨ c = '=' ∨ c = '&' := by
  rw [toList_encode] at inside
  obtain mark | ⟨part, given, found⟩ := Text.mem_intercalate inside
  · exact .inr (.inr (List.mem_singleton.mp mark))
  · obtain ⟨param, -, rfl⟩ := List.mem_map.mp given
    obtain name | rest := List.mem_append.mp found
    · exact .inl (isWritten_of_mem name)
    obtain mark | value := List.mem_cons.mp rest
    · exact .inr (.inl mark)
    · exact .inl (isWritten_of_mem value)

/-- A query that is written has no character that ends it. -/
theorem not_mem_encode {params : List (String × String)} {mark : Char}
    (other : isWritten mark = false) (unequal : mark ≠ '=') (single : mark ≠ '&') :
    mark ∉ (encode params).toList := fun inside => by
  obtain written | same | same := mem_encode inside
  · rw [written] at other
    cases other
  · exact unequal same
  · exact single same

theorem toNat_of_isPlain (plain : isPlain c = true) : 0x2A ≤ c.toNat ∧ c.toNat ≤ 0x7A := by
  simp only [isPlain, Text.isLetter, Bool.or_eq_true, Bool.and_eq_true, decide_eq_true_eq,
    Char.le_def, UInt32.le_iff_toNat_le, Text.isDigit_iff, List.contains_iff_mem] at plain
  obtain ((⟨low, high⟩ | ⟨low, high⟩) | ⟨low, high⟩) | mark := plain
  · have low : 97 ≤ c.toNat := low
    have high : c.toNat ≤ 122 := high
    omega
  · have low : 65 ≤ c.toNat := low
    have high : c.toNat ≤ 90 := high
    omega
  · omega
  · simp only [List.mem_cons, List.not_mem_nil, or_false] at mark
    obtain rfl | rfl | rfl | rfl := mark <;> decide

/-- All characters of a query that is written are printed, and none is a space. -/
theorem toNat_of_mem_encode {params : List (String × String)}
    (inside : c ∈ (encode params).toList) : 0x25 ≤ c.toNat ∧ c.toNat ≤ 0x7A := by
  obtain written | rfl | rfl := mem_encode inside
  · simp only [isWritten, Bool.or_eq_true, beq_iff_eq] at written
    obtain (plain | rfl) | rfl := written
    · have range := toNat_of_isPlain plain
      omega
    · decide
    · decide
  · decide
  · decide

/-- A query that is written needs no further escape. -/
theorem encodeChars_encode (params : List (String × String)) :
    Percent.encodeChars Percent.inQuery (encode params).toList = (encode params).toList := by
  have plain : ∀ c ∈ (encode params).toList, Percent.inQuery c = false := by
    intro c inside
    have range := toNat_of_mem_encode inside
    have printed : Percent.controls c = false := by
      simp only [Percent.controls, Bool.or_eq_false_iff, decide_eq_false_iff_not]
      omega
    have none : c ∉ [' ', '"', '#', '<', '>'] := by
      intro special
      simp only [List.mem_cons, List.not_mem_nil, or_false] at special
      obtain rfl | rfl | rfl | rfl | rfl := special <;>
        exact not_mem_encode (by decide) (by decide) (by decide) inside
    rw [Percent.inQuery, printed, Bool.false_or]
    simpa using none
  exact Percent.encodeChars_eq_self plain

end Form

end TableMapper
