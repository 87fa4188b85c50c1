/-!
# UTF-8

* `Utf8.encode` writes a text as bytes.
* `Utf8.decode?` reads bytes that are UTF-8.
* `Utf8.decodeLossy` reads any bytes; each longest broken beginning of a character, and each byte
  that begins none, counts as one replacement character.
-/

namespace TableMapper

namespace Utf8

/-- The bytes of a text. -/
def encode (s : String) : List UInt8 := s.toList.flatMap String.utf8EncodeChar

/-- What the first byte of a character of several bytes fixes. -/
structure Lead where
  /-- The bits of the character that the byte holds. -/
  bits : Nat
  /-- The number of bytes that follow. -/
  more : Nat
  /-- The least second byte. -/
  least : Nat
  /-- The greatest second byte. -/
  greatest : Nat

/-- The lead that a byte is, if it is one.  The bounds on the second byte rule out forms that are
longer than necessary, surrogates, and what lies beyond the last character. -/
def lead? (b : Nat) : Option Lead :=
  if b < 0xC2 then none
  else if b < 0xE0 then some ⟨b - 0xC0, 1, 0x80, 0xBF⟩
  else if b == 0xE0 then some ⟨0, 2, 0xA0, 0xBF⟩
  else if b == 0xED then some ⟨0xD, 2, 0x80, 0x9F⟩
  else if b < 0xF0 then some ⟨b - 0xE0, 2, 0x80, 0xBF⟩
  else if b == 0xF0 then some ⟨0, 3, 0x90, 0xBF⟩
  else if b < 0xF4 then some ⟨b - 0xF0, 3, 0x80, 0xBF⟩
  else if b == 0xF4 then some ⟨4, 3, 0x80, 0x8F⟩
  else none

/-- Reads the remaining bytes of a character whose bits so far are `bits`.  `none` when a byte does
not continue it; that byte is left. -/
def readMore (bits least greatest : Nat) : Nat → List UInt8 → Option Char × List UInt8
  | 0, bs => (some (Char.ofNat bits), bs)
  | _ + 1, [] => (none, [])
  | n + 1, b :: bs =>
    if least ≤ b.toNat && b.toNat ≤ greatest then
      readMore (64 * bits + b.toNat % 64) 0x80 0xBF n bs
    else (none, b :: bs)

/-- Reads a character with first byte `b`; `none` when it is broken. -/
def readChar (b : UInt8) (bs : List UInt8) : Option Char × List UInt8 :=
  if b.toNat < 0x80 then (some (Char.ofNat b.toNat), bs)
  else match lead? b.toNat with
    | some l => readMore l.bits l.least l.greatest l.more bs
    | none => (none, bs)

theorem length_readMore_le (bits least greatest n : Nat) (bs : List UInt8) :
    (readMore bits least greatest n bs).2.length ≤ bs.length := by
  induction n generalizing bits least greatest bs with
  | zero => simp [readMore]
  | succ n ih =>
    cases bs with
    | nil => simp [readMore]
    | cons b bs =>
      rw [readMore]
      split
      · exact Nat.le_succ_of_le (ih _ _ _ bs)
      · simp

theorem length_readChar_le (b : UInt8) (bs : List UInt8) :
    (readChar b bs).2.length ≤ bs.length := by
  unfold readChar
  split
  · simp
  · split
    · exact length_readMore_le ..
    · simp

/-- The characters of a list of bytes, `none` for each broken one. -/
def chars : List UInt8 → List (Option Char)
  | [] => []
  | b :: bs => (readChar b bs).1 :: chars (readChar b bs).2
termination_by bs => bs.length
decreasing_by exact Nat.lt_succ_of_le (length_readChar_le b bs)

/-- The text of bytes that are UTF-8. -/
def decode? (bs : List UInt8) : Option String := ((chars bs).mapM id).map String.ofList

/-- The text of any bytes, with a replacement character for each broken character. -/
def decodeLossy (bs : List UInt8) : String :=
  String.ofList ((chars bs).map (·.getD '\uFFFD'))

end Utf8

end TableMapper
