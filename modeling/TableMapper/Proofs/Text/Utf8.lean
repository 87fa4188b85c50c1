import TableMapper.Text.Utf8

/-!
# Reading UTF-8 back

The first byte of a character says how many bytes follow and which bits they have.

* `Utf8.readMore_cons` reads one further byte, `Utf8.readChar_of_lead` the first of several.
* `Utf8.chars_encode`: the characters of a text are read from its bytes, and so is the text
  (`Utf8.decode?_encode`).
-/

namespace TableMapper

namespace Utf8

variable {bits least greatest n k : Nat} {bs : List UInt8}

theorem toNat_ofNat (small : n < 256) : (UInt8.ofNat n).toNat = n :=
  UInt8.toNat_ofNat_of_lt' small

/-- A further byte gives six bits. -/
theorem readMore_cons (low : least ≤ k % 64 + 128) (high : k % 64 + 128 ≤ greatest) :
    readMore bits least greatest (n + 1) (UInt8.ofNat (k % 64 + 128) :: bs) =
      readMore (64 * bits + k % 64) 0x80 0xBF n bs := by
  have byte : (UInt8.ofNat (k % 64 + 128)).toNat = k % 64 + 128 := toNat_ofNat (by omega)
  have six : (k % 64 + 128) % 64 = k % 64 := by omega
  rw [readMore, byte, six, if_pos (by simp [low, high])]

/-- After the second byte all further ones are read. -/
theorem readMore_tail : readMore bits 0x80 0xBF (n + 1) (UInt8.ofNat (k % 64 + 128) :: bs) =
    readMore (64 * bits + k % 64) 0x80 0xBF n bs :=
  readMore_cons (by omega) (by omega)

/-- A first byte of several is looked up. -/
theorem readChar_of_lead {more : Nat} (byte : n < 256) (several : 0x80 ≤ n)
    (lead : lead? n = some ⟨bits, more, least, greatest⟩) :
    readChar (UInt8.ofNat n) bs = readMore bits least greatest more bs := by
  rw [readChar, toNat_ofNat byte, if_neg (Nat.not_lt.mpr several), lead]

theorem lead?_two (low : 0x80 ≤ n) (high : n ≤ 0x7FF) :
    lead? (n / 64 + 0xC0) = some ⟨n / 64, 1, 0x80, 0xBF⟩ := by
  rw [lead?, if_neg (by omega), if_pos (by omega), Nat.add_sub_cancel]

/-- The first byte of three allows the second one, unless the number is that of a surrogate. -/
theorem lead?_three (low : 0x800 ≤ n) (high : n ≤ 0xFFFF) (plain : n < 0xD800 ∨ 0xDFFF < n) :
    ∃ least greatest, lead? (n / 4096 + 0xE0) = some ⟨n / 4096, 2, least, greatest⟩ ∧
      least ≤ n / 64 % 64 + 128 ∧ n / 64 % 64 + 128 ≤ greatest := by
  by_cases least : n / 4096 = 0
  · exact ⟨0xA0, 0xBF, by rw [least]; rfl, by omega, by omega⟩
  by_cases surrogate : n / 4096 = 0xD
  · exact ⟨0x80, 0x9F, by rw [surrogate]; rfl, by omega, by omega⟩
  · refine ⟨0x80, 0xBF, ?_, by omega, by omega⟩
    have other : ¬ (n / 4096 + 0xE0 == 0xE0) = true ∧ ¬ (n / 4096 + 0xE0 == 0xED) = true := by
      simp only [beq_iff_eq]
      omega
    rw [lead?, if_neg (by omega), if_neg (by omega), if_neg other.1, if_neg other.2,
      if_pos (by omega), Nat.add_sub_cancel]

theorem lead?_four (low : 0x10000 ≤ n) (high : n ≤ 0x10FFFF) :
    ∃ least greatest, lead? (n / 262144 + 0xF0) = some ⟨n / 262144, 3, least, greatest⟩ ∧
      least ≤ n / 4096 % 64 + 128 ∧ n / 4096 % 64 + 128 ≤ greatest := by
  by_cases least : n / 262144 = 0
  · exact ⟨0x90, 0xBF, by rw [least]; rfl, by omega, by omega⟩
  by_cases greatest : n / 262144 = 4
  · exact ⟨0x80, 0x8F, by rw [greatest]; rfl, by omega, by omega⟩
  · refine ⟨0x80, 0xBF, ?_, by omega, by omega⟩
    have between : n / 262144 = 1 ∨ n / 262144 = 2 ∨ n / 262144 = 3 := by omega
    obtain lead | lead | lead := between <;> rw [lead] <;> rfl

/-- A character is read from its bytes. -/
theorem chars_append (c : Char) (bs : List UInt8) :
    chars (String.utf8EncodeChar c ++ bs) = some c :: chars bs := by
  have first {b : UInt8} {more : List UInt8} (read : readChar b (more ++ bs) = (some c, bs)) :
      chars (b :: more ++ bs) = some c :: chars bs := by
    rw [List.cons_append, chars, read]
  have whole {n : Nat} (same : n = c.toNat) : some (Char.ofNat n) = some c := by
    rw [same, Char.ofNat_toNat]
  have valid : c.toNat < 0xD800 ∨ 0xDFFF < c.toNat ∧ c.toNat < 0x110000 := c.valid
  have code : c.val.toNat = c.toNat := rfl
  generalize c.toNat = n at valid code whole
  simp only [String.utf8EncodeChar, code]
  split
  next ascii =>
    refine first ?_
    have byte : (UInt8.ofNat n).toNat = n := toNat_ofNat (by omega)
    rw [readChar, byte, if_pos (by omega), whole rfl]
    rfl
  split
  next _ two =>
    have bits : n / 64 % 32 + 192 = n / 64 + 192 := by omega
    refine first ?_
    rw [bits, readChar_of_lead (by omega) (by omega) (lead?_two (by omega) two),
      List.singleton_append, readMore_tail, readMore, whole (by omega)]
  split
  next _ _ three =>
    have bits : n / 4096 % 16 + 224 = n / 4096 + 224 := by omega
    obtain ⟨least, greatest, lead, low, high⟩ := lead?_three (by omega) three (by omega)
    refine first ?_
    rw [bits, readChar_of_lead (by omega) (by omega) lead, List.cons_append, List.singleton_append,
      readMore_cons low high, readMore_tail, readMore, whole (by omega)]
  next =>
    have bits : n / 262144 % 8 + 240 = n / 262144 + 240 := by omega
    obtain ⟨least, greatest, lead, low, high⟩ := lead?_four (n := n) (by omega) (by omega)
    refine first ?_
    rw [bits, readChar_of_lead (by omega) (by omega) lead, List.cons_append, List.cons_append,
      List.singleton_append, readMore_cons low high, readMore_tail, readMore_tail, readMore,
      whole (by omega)]

/-- **The characters of a text** are read from its bytes. -/
theorem chars_encode (cs : List Char) : chars (cs.flatMap String.utf8EncodeChar) = cs.map some := by
  induction cs with
  | nil => rw [List.flatMap_nil, chars, List.map_nil]
  | cons c cs ih => rw [List.flatMap_cons, chars_append, ih, List.map_cons]

theorem decode?_encode (s : String) : decode? (encode s) = some s := by
  have all : (s.toList.map some).mapM id = some s.toList := by
    rw [List.mapM_map]
    exact List.mapM_pure.trans (congrArg some (List.map_id s.toList))
  rw [decode?, encode, chars_encode, all, Option.map_some, String.ofList_toList]

theorem decodeLossy_encode (cs : List Char) :
    decodeLossy (cs.flatMap String.utf8EncodeChar) = String.ofList cs := by
  rw [decodeLossy, chars_encode, List.map_map]
  exact congrArg String.ofList (List.map_id cs)

end Utf8

end TableMapper
