import Mathlib.Data.Nat.ModEq
import TableMapper.Id.Strategy
import TableMapper.Proofs.Id.NumericKeys
import TableMapper.Proofs.Id.TextKeys

/-!
# Neighbouring keys

Serial and numeric keys have digits of a counter, which counts both kinds together.  It is a word of
32 bits, and its digits are those of the remainder by a number that does not divide `2 ^ 32`, so the
digits go round evenly until the counter itself starts again.

* `KeyCall.keys` are the keys of calls one after the other, and `KeyCall.getElem?_keys` says what
  the counter is for each of them.
* `KeyCall.digits?` reads the counter digits of a key.
* `KeyCall.neighbours_apart_iff` says that calls near to each other have different digits, unless
  the counter starts again between them and they are one particular distance apart.
-/

namespace TableMapper

theorem Randomness.fits_cycle {words : List Nat} (small : words.all (· < 2 ^ 64) = true) :
    (Randomness.cycle words).Fits := by
  intro i
  change words.getD (i % words.length) 0 < 2 ^ 64
  rw [List.getD_eq_getElem?_getD]
  cases found : words[i % words.length]? with
  | none => decide
  | some w => simpa using List.all_eq_true.mp small w (List.mem_of_getElem? found)

/-- A call that asks for a key, with the time and the random choices that it finds. -/
structure KeyCall where
  strategy : IdStrategy
  now : Int
  random : Randomness
  fits : random.Fits

namespace KeyCall

/-! ### Runs of calls -/

/-- What there is for the call when the counter stands here. -/
def supply (call : KeyCall) (counter : Nat) : IdSupply := ⟨call.now, counter, call.random⟩

/-- The key that a call gets, and the counter after it. -/
def step (call : KeyCall) (counter : Nat) : Option Json × Nat :=
  let (key, left) := call.strategy.generate (call.supply counter)
  (key, left.counter)

/-- The keys of calls one after the other. -/
def keys (counter : Nat) : List KeyCall → List (Option Json)
  | [] => []
  | call :: calls => (call.step counter).1 :: keys (call.step counter).2 calls

/-- How many keys of this kind have different counter digits; none of a kind without a counter. -/
def wrap (call : KeyCall) : Nat :=
  match call.strategy with
  | .serial _ => Id.serialWrap
  | .big => Id.bigWrap
  | _ => 0

/-- The number of calls that use the counter. -/
def counted (calls : List KeyCall) : Nat := calls.countP (0 < ·.wrap)

/-- The counter for a call that comes after these. -/
def counterAfter (counter : Nat) (calls : List KeyCall) : Nat := (counter + counted calls) % 2 ^ 32

variable {call a b : KeyCall} {calls : List KeyCall} {counter i j : Nat}

theorem counterAfter_nil (word : counter < 2 ^ 32) : counterAfter counter [] = counter :=
  Nat.mod_eq_of_lt word

/-- A call leaves the counter alone or counts itself. -/
theorem step_counter (word : counter < 2 ^ 32) :
    (call.step counter).2 = counterAfter counter [call] := by
  obtain ⟨strategy, now, random, fits⟩ := call
  cases strategy with
  | none => exact (Nat.mod_eq_of_lt word).symm
  | short len lead => exact (Nat.mod_eq_of_lt word).symm
  | long minLen => exact (Nat.mod_eq_of_lt word).symm
  | serial len => rfl
  | big => rfl

theorem counterAfter_cons (counter : Nat) (call : KeyCall) (calls : List KeyCall) :
    counterAfter counter (call :: calls) =
      counterAfter (counterAfter counter [call]) calls := by
  unfold counterAfter counted
  rw [List.countP_cons, List.countP_singleton, Nat.mod_add_mod]
  congr 1
  omega

/-- Each call of a run finds the counter after the calls before it. -/
theorem getElem?_keys (word : counter < 2 ^ 32) : (keys counter calls)[i]? =
    calls[i]?.map fun call => (call.step (counterAfter counter (calls.take i))).1 := by
  induction calls generalizing counter i with
  | nil => rfl
  | cons call calls ih =>
    cases i with
    | zero => rw [List.take_zero, counterAfter_nil word]; rfl
    | succ i =>
      have next : counterAfter counter [call] < 2 ^ 32 := Nat.mod_lt _ (by decide)
      rw [keys, step_counter word, List.getElem?_cons_succ, ih next, List.getElem?_cons_succ,
        List.take_succ_cons, counterAfter_cons counter call (calls.take i)]

/-! ### The digits of the counter -/

/-- The number that the counter digits of a key stand for: the four digits after those of the time,
or the three before the last one. -/
def digits? (call : KeyCall) : Option Json → Option Nat
  | some (.string id) =>
    let time := Id.timeDigits 36 9 (Id.elapsed call.now)
    Text.valueIn? 36 ((id.toList.drop time.length).take 4)
  | some (.int id) => some (id.toNat / 10 % 1000)
  | _ => none

theorem step_fst (call : KeyCall) (n : Nat) :
    (call.step n).1 = (call.strategy.generate (call.supply n)).1 := by
  -- not by `rfl`, which would make both keys
  cases made : call.strategy.generate (call.supply n) with
  | mk key left => rw [step, made]

theorem generate_serial (len : Nat) (s : IdSupply) : ((IdStrategy.serial len).generate s).1 =
    some (.string (Id.serial s.now s.counter len s.random).1) := by
  cases made : Id.serial s.now s.counter len s.random with
  | mk key left => rw [IdStrategy.generate, made]

theorem generate_big (s : IdSupply) : (IdStrategy.big.generate s).1 =
    some (.int (Id.big (Calendar.ofMillis s.now) s.counter s.random).1) := by
  cases made : Id.big (Calendar.ofMillis s.now) s.counter s.random with
  | mk key left => rw [IdStrategy.generate, made]

theorem wrap_serial {len : Nat} (kind : call.strategy = .serial len) :
    call.wrap = Id.serialWrap := by
  rw [wrap, kind]

theorem wrap_big (kind : call.strategy = .big) : call.wrap = Id.bigWrap := by
  rw [wrap, kind]

theorem digits?_number (n : Nat) : call.digits? (some (.int n)) = some (n / 10 % 1000) := by
  rw [digits?, Int.toNat_natCast]

/-- The digits are those of the counter, whatever the time and the random choices are. -/
theorem digits?_step (used : 0 < call.wrap) (counter : Nat) :
    call.digits? (call.step counter).1 = some (counter % call.wrap) := by
  rw [step_fst]
  cases kind : call.strategy with
  | none => simp [wrap, kind] at used
  | short len lead => simp [wrap, kind] at used
  | long minLen => simp [wrap, kind] at used
  | serial len =>
    have four : (Text.lowDigits 36 4 (counter % 36 ^ 4)).length = 4 := Text.length_lowDigits ..
    obtain ⟨more, key, -, -⟩ := Id.exists_after_time call.now counter len call.random
    rw [generate_serial, wrap_serial kind, digits?, supply, key, List.append_assoc, List.drop_left,
      List.take_left' four, Text.valueIn?_lowDigits (by decide) (by decide), Nat.mod_mod]
    rfl
  | big =>
    have digit : (call.random.pick 10).1 < 10 := Randomness.pick_lt call.fits (by decide)
    rw [generate_big, wrap_big kind, digits?_number, supply, Id.big_eq, Id.bigWrap]
    dsimp only
    exact congrArg some (by omega)

/-- The counter shows in a key by its digits only. -/
theorem step_congr {c d : Nat} (same : c % call.wrap = d % call.wrap) :
    (call.step c).1 = (call.step d).1 := by
  rw [step_fst, step_fst]
  cases kind : call.strategy with
  | none => rfl
  | short len lead => rfl
  | long minLen => rfl
  | serial len =>
    rw [wrap_serial kind] at same
    rw [generate_serial, generate_serial, supply, supply, Id.serial, Id.serial, same]
  | big =>
    rw [wrap_big kind] at same
    rw [generate_big, generate_big, supply, supply, Id.big, Id.big, same]

theorem digits?_of_now (same : a.now = b.now) : a.digits? = b.digits? := by
  unfold digits?
  rw [same]

/-! ### Calls near to each other -/

/-- The calls that use the counter from one call up to another one. -/
def between (calls : List KeyCall) (i j : Nat) : Nat := counted ((calls.take j).drop i)

theorem counterAfter_take (earlier : i < j) : counterAfter counter (calls.take j) =
    (counterAfter counter (calls.take i) + between calls i j) % 2 ^ 32 := by
  have parts : calls.take j = calls.take i ++ (calls.take j).drop i := by
    have front : (calls.take j).take i = calls.take i := by
      rw [List.take_take, Nat.min_eq_left earlier.le]
    rw [← front, List.take_append_drop]
  unfold between counterAfter
  rw [Nat.mod_add_mod]
  nth_rewrite 1 [parts]
  rw [counted, List.countP_append, ← Nat.add_assoc]
  rfl

theorem between_pos (earlier : i < j) (first : calls[i]? = some a) (used : 0 < a.wrap) :
    0 < between calls i j := by
  refine List.countP_pos_iff.mpr ⟨a, ?_, by simpa using used⟩
  refine List.mem_of_getElem? (i := 0) ?_
  rw [List.getElem?_drop, Nat.add_zero, List.getElem?_take_of_lt earlier, first]

/-- Before the counter starts again, remainders of numbers less than `w` apart differ.  After it,
they are the same at the remainder of its whole round. -/
theorem mod_eq_mod_iff {c d w round : Nat} (below : c < round) (some : 0 < d) (near : d < w)
    (narrow : w ≤ round) :
    c % w = (c + d) % round % w ↔ round ≤ c + d ∧ d = round % w := by
  by_cases again : round ≤ c + d
  · have rest : (c + d) % round = c + d - round := by
      rw [Nat.mod_eq_sub_mod again, Nat.mod_eq_of_lt (by omega)]
    have back : c - (c + d - round) = round - d := by omega
    rw [rest, and_iff_right again, eq_comm]
    calc (c + d - round) % w = c % w
        ↔ w ∣ c - (c + d - round) := Nat.modEq_iff_dvd' (by omega)
      _ ↔ w ∣ round - d := by rw [back]
      _ ↔ d % w = round % w := (Nat.modEq_iff_dvd' (by omega)).symm
      _ ↔ d = round % w := by rw [Nat.mod_eq_of_lt near]
  · rw [Nat.mod_eq_of_lt (Nat.lt_of_not_le again)]
    refine iff_of_false (fun same => ?_) fun meets => again meets.1
    have divides : w ∣ c + d - c := (Nat.modEq_iff_dvd' (by omega)).mp same
    rw [Nat.add_sub_cancel_left] at divides
    exact absurd (Nat.le_of_dvd some divides) (by omega)

/-- The counter starts again between two calls, and they are so far apart that its digits are the
same. -/
def Meets (counter : Nat) (calls : List KeyCall) (i j wrap : Nat) : Prop :=
  2 ^ 32 ≤ counterAfter counter (calls.take i) + between calls i j ∧
    between calls i j = 2 ^ 32 % wrap

theorem wrap_le (call : KeyCall) : call.wrap ≤ 2 ^ 32 := by
  unfold wrap
  split <;> decide

/-- **Neighbouring keys are kept apart until the counter starts again.**  Of two serial calls of
which the second is less than `36 ^ 4` counted calls later, or two numeric ones less than `1000`
calls apart, the counter digits are the same exactly when the counter starts again between them and
they are `2 ^ 32 % 36 ^ 4` or `2 ^ 32 % 1000` calls apart.  Otherwise their keys are different if
they are made in the same millisecond, and in that case they are the same if the random choices are.
For the digits neither the clock nor the random choices matter. -/
theorem neighbours_apart_iff (word : counter < 2 ^ 32) (earlier : i < j)
    (first : calls[i]? = some a) (second : calls[j]? = some b) (alike : a.wrap = b.wrap)
    (near : between calls i j < a.wrap) :
    ∃ x y m n, (keys counter calls)[i]? = some x ∧ (keys counter calls)[j]? = some y ∧
      a.digits? x = some m ∧ b.digits? y = some n ∧ (m = n ↔ Meets counter calls i j a.wrap) ∧
      (a.now = b.now → ¬ Meets counter calls i j a.wrap → x ≠ y) ∧
      (a = b → Meets counter calls i j a.wrap → x = y) := by
  have used : 0 < a.wrap := Nat.zero_lt_of_lt near
  have later : 0 < b.wrap := alike ▸ used
  have start : counterAfter counter (calls.take i) < 2 ^ 32 := Nat.mod_lt _ (by decide)
  have digits := digits?_step used (counterAfter counter (calls.take i))
  have digits' := digits?_step later (counterAfter counter (calls.take j))
  have met := mod_eq_mod_iff start (between_pos earlier first used) near a.wrap_le
  rw [← counterAfter_take earlier] at met
  rw [← alike] at digits'
  refine ⟨_, _, _, _, ?_, ?_, digits, digits', met, fun now apart same => apart ?_, ?_⟩
  · rw [getElem?_keys word, first, Option.map_some]
  · rw [getElem?_keys word, second, Option.map_some]
  · rw [same, digits?_of_now now, digits'] at digits
    exact met.mp (Option.some.inj digits).symm
  · rintro rfl meets
    exact step_congr (met.mpr meets)

/-- Numeric calls of one millisecond, at the end of the counter: the key of the first one is made
again 296 calls later, but not one call earlier. -/
theorem neighbours_apart_round :
    let call : KeyCall := ⟨.big, 1583020799999, .cycle [2 ^ 63], Randomness.fits_cycle rfl⟩
    let calls := List.replicate 297 call
    4294967295 < 2 ^ 32 ∧ calls[0]? = some call ∧ calls[295]? = some call ∧
      calls[296]? = some call ∧ between calls 0 295 < call.wrap ∧
      between calls 0 296 < call.wrap ∧ Meets 4294967295 calls 0 296 call.wrap ∧
      (keys 4294967295 calls)[0]? = (keys 4294967295 calls)[296]? ∧
      (keys 4294967295 calls)[0]? ≠ (keys 4294967295 calls)[295]? := by
  intro call calls
  have word : 4294967295 < 2 ^ 32 := by decide
  have used : 0 < call.wrap := by decide
  have place {i : Nat} (inside : i < 297) : calls[i]? = some call :=
    List.getElem?_replicate_of_lt inside
  have apart {j : Nat} (inside : j < 297) : between calls 0 j = j := by
    rw [between, List.drop_zero, List.take_replicate, counted, List.countP_replicate,
      decide_eq_true used, if_pos rfl, Nat.min_eq_left inside.le]
  have near {j : Nat} (inside : j < 297) : between calls 0 j < call.wrap := by
    rw [apart inside]
    exact Nat.lt_trans inside (by decide)
  have meets {j : Nat} (inside : j < 297) :
      Meets 4294967295 calls 0 j call.wrap ↔ j = 296 := by
    have rest : 2 ^ 32 % call.wrap = 296 := by decide
    rw [Meets, apart inside, List.take_zero, counterAfter_nil word, rest]
    omega
  refine ⟨word, place (by decide), place (by decide), place (by decide), near (by decide),
    near (by decide), (meets (by decide)).mpr rfl, ?_, ?_⟩
  · obtain ⟨x, y, -, -, first, second, -, -, -, -, same⟩ := neighbours_apart_iff word
      (by decide : 0 < 296) (place (by decide)) (place (by decide)) rfl (near (by decide))
    rw [first, second, same rfl ((meets (by decide)).mpr rfl)]
  · obtain ⟨x, y, -, -, first, second, -, -, -, apart, -⟩ := neighbours_apart_iff word
      (by decide : 0 < 295) (place (by decide)) (place (by decide)) rfl (near (by decide))
    rw [first, second]
    exact fun equal => apart rfl (mt (meets (by decide)).mp (by decide)) (Option.some.inj equal)

end KeyCall

end TableMapper
