import TableMapper.Id.Random
import TableMapper.Time.Calendar

/-!
# Forms of generated keys

* `Id.short` is random text of a given length.
* `Id.long` and `Id.serial` start with the time, so they sort by it; `Id.serial` has a counter as
  well.
* `Id.big` packs date, time and counter into one number.

Time is given in milliseconds since 1970.
-/

namespace TableMapper

namespace Id

/-- The start of 2020, from which keys count time. -/
def epoch : Int := 1577836800000

/-- The characters that fill up short keys. -/
def shortAlphabet : List Char := "abcdefghijklmnopqrstuvwxyz123456789".toList

/-- The digits of base 36. -/
def base36 : List Char := "0123456789abcdefghijklmnopqrstuvwxyz".toList

/-- The digits of base 16. -/
def base16 : List Char := "0123456789abcdef".toList

/-- Lengths that strategies take when none is declared: short, long, serial. -/
def defaultLengths : List Nat := [12, 16, 16]

/-- The milliseconds since the epoch; none before it. -/
def elapsed (now : Int) : Nat := (now - epoch).toNat

/-- A number in base `b`, with leading zeros up to `width` digits. -/
def timeDigits (b width n : Nat) : List Char :=
  let ds := Text.inBase b n
  List.replicate (width - ds.length) '0' ++ ds

/-- `cs` with random characters up to `len`. -/
def fill (alphabet cs : List Char) (len : Nat) (r : Randomness) : List Char × Randomness :=
  let (more, r) := r.pickChars alphabet (len - cs.length)
  (cs ++ more, r)

/-- The last `len` hexadecimal digits of a random word, filled up at the end when there are fewer,
after `lead`. -/
def short (len : Nat) (lead : String) (r : Randomness) : String × Randomness :=
  let (w, r) := r.draw
  let (cs, r) := fill shortAlphabet (Text.inBase 16 w) len r
  (lead ++ String.ofList (cs.drop (cs.length - len)), r)

/-- The time with twelve hexadecimal digits, filled up to `minLen`. -/
def long (now : Int) (minLen : Nat) (r : Randomness) : String × Randomness :=
  let (cs, r) := fill base16 (timeDigits 16 12 (elapsed now)) minLen r
  (String.ofList cs, r)

/-- How many serial keys have different counter digits. -/
def serialWrap : Nat := Nat.pow 36 4

/-- The time with nine and the counter with four digits of base 36, filled up to `len`. -/
def serial (now : Int) (counter len : Nat) (r : Randomness) : String × Randomness :=
  let cs := timeDigits 36 9 (elapsed now) ++ timeDigits 36 4 (counter % serialWrap)
  let (cs, r) := fill base36 cs len r
  (String.ofList cs, r)

/-- How many numeric keys have different counter digits. -/
def bigWrap : Nat := 1000

/-- Date and time to the millisecond in one number.  The year counts from 2020 and is kept within
seven bits, and a leap second ends with its first 999 milliseconds. -/
def packedTime (c : Calendar) : Nat :=
  let year := (max 0 (min 127 (c.year - 2020))).toNat
  ((((((year * 16 + c.month) * 32 + c.day) * 32 + c.hour) * 64 + c.minute) * 64 + c.second) * 1024
    + min 999 (c.micros / 1000))

/-- The packed time, three digits of the counter, and a random digit. -/
def big (c : Calendar) (counter : Nat) (r : Randomness) : Nat × Randomness :=
  let (digit, r) := r.pick 10
  (packedTime c * 10000 + counter % bigWrap * 10 + digit, r)

end Id

end TableMapper
