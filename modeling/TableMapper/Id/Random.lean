/-!
# Randomness

Random choices are functions of a stream of 64-bit words.

* `Randomness` is such a stream with the number of words already used.
* `Randomness.pick` chooses below a bound, each choice being equally likely.
-/

namespace TableMapper

/-- A source of random words. -/
structure Randomness where
  /-- The words, each below `2 ^ 64`. -/
  word : Nat → Nat
  /-- How many of them are used. -/
  used : Nat := 0

namespace Randomness

/-- The source that repeats a list of words. -/
def cycle (words : List Nat) : Randomness :=
  { word := fun i => words.getD (i % words.length) 0 }

/-- The next word. -/
def draw (r : Randomness) : Nat × Randomness := (r.word r.used, { r with used := r.used + 1 })

/-- The words whose product with `n` has its low half in the zone of acceptance: the largest
multiple of `n`, by a power of two, that fits a word. -/
def zone (n : Nat) : Nat := n * Nat.pow 2 (63 - n.log2) - 1

/-- Draws until a word is accepted, and chooses by the high half of its product with `n`.  The
zone holds at least half of all words; after `attempts` refusals the least choice is taken. -/
def pickWithin (n : Nat) : Nat → Randomness → Nat × Randomness
  | 0, r => (0, r)
  | attempts + 1, r =>
    let (v, r) := r.draw
    if v * n % Nat.pow 2 64 ≤ zone n then (v * n / Nat.pow 2 64, r) else pickWithin n attempts r

/-- A number below `n`. -/
def pick (n : Nat) (r : Randomness) : Nat × Randomness := pickWithin n 1000 r

/-- Random characters of an alphabet. -/
def pickChars (alphabet : List Char) : Nat → Randomness → List Char × Randomness
  | 0, r => ([], r)
  | n + 1, r =>
    let (i, r) := r.pick alphabet.length
    let (rest, r) := pickChars alphabet n r
    (alphabet.getD i '0' :: rest, r)

end Randomness

end TableMapper
