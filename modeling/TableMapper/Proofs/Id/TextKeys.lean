import TableMapper.Id.Forms
import TableMapper.Proofs.Text.InBase

/-!
# Text keys and time

A long key starts with twelve digits of the time, and a serial key with nine of the time and four of
the counter.  While the time has no more digits than that, the order of the texts is the order of
what the digits stand for.

* `Id.exists_fill` says that random characters only follow what stands in front.
* `Id.IsSerial` and `Id.IsLong` say how a key is laid out.
* `Id.text_keys_in_order` says that keys are laid out so, and that the digits in front of two of
  them compare as their times do, and as the counters of serial keys do where the times are equal.
-/

namespace TableMapper

namespace Randomness

theorem length_pickChars (alphabet : List Char) (n : Nat) (r : Randomness) :
    (r.pickChars alphabet n).1.length = n := by
  induction n generalizing r with
  | zero => rfl
  | succ n ih => exact congrArg Nat.succ (ih (r.pick alphabet.length).2)

/-- Whatever the words of the source are, nothing but characters of the alphabet is chosen, or the
zero that stands in for a choice out of range. -/
theorem mem_or_zero_of_mem_pickChars {alphabet : List Char} {n : Nat} {r : Randomness} {c : Char}
    (chosen : c ∈ (r.pickChars alphabet n).1) : c ∈ alphabet ∨ c = '0' := by
  have inside (i : Nat) : alphabet.getD i '0' ∈ alphabet ∨ alphabet.getD i '0' = '0' := by
    rw [List.getD_eq_getElem?_getD]
    cases found : alphabet[i]? with
    | none => exact .inr rfl
    | some c => exact .inl (List.mem_of_getElem? found)
  induction n generalizing r with
  | zero => cases chosen
  | succ n ih =>
    obtain rfl | later := List.mem_cons.mp chosen
    · exact inside (r.pick alphabet.length).1
    · exact ih later

theorem mem_of_mem_pickChars {alphabet : List Char} (zero : '0' ∈ alphabet) {n : Nat}
    {r : Randomness} {c : Char} (chosen : c ∈ (r.pickChars alphabet n).1) : c ∈ alphabet :=
  (mem_or_zero_of_mem_pickChars chosen).elim id fun absent => absent ▸ zero

end Randomness

namespace Id

/-! ### The digits in front -/

/-- The milliseconds since the epoch are some, and below the bound. -/
def Within (bound : Nat) (now : Int) : Prop := 0 ≤ now - epoch ∧ now - epoch < bound

instance (bound : Nat) (now : Int) : Decidable (Within bound now) :=
  inferInstanceAs (Decidable (_ ∧ _))

/-- The first characters of a key. -/
def front (width : Nat) (id : String) : String := String.ofList (id.toList.take width)

theorem mem_base36_of_mem_lowDigits {width n : Nat} {c : Char}
    (inside : c ∈ Text.lowDigits 36 width n) : c ∈ base36 := by
  obtain ⟨d, small, rfl⟩ := Text.exists_digitChar_of_mem_lowDigits (by decide) inside
  have all : ∀ d < 36, Text.digitChar d ∈ base36 := by decide
  exact all d small

theorem mem_base16_of_mem_lowDigits {width n : Nat} {c : Char}
    (inside : c ∈ Text.lowDigits 16 width n) : c ∈ base16 := by
  obtain ⟨d, small, rfl⟩ := Text.exists_digitChar_of_mem_lowDigits (by decide) inside
  have all : ∀ d < 16, Text.digitChar d ∈ base16 := by decide
  exact all d small

/-- Random characters follow what stands in front. -/
theorem exists_fill {alphabet : List Char} (zero : '0' ∈ alphabet) (cs : List Char) (len : Nat)
    (r : Randomness) : ∃ more, (fill alphabet cs len r).1 = cs ++ more ∧
      more.length = len - cs.length ∧ ∀ c ∈ more, c ∈ alphabet :=
  ⟨(r.pickChars alphabet (len - cs.length)).1, rfl, Randomness.length_pickChars ..,
    fun _ => Randomness.mem_of_mem_pickChars zero⟩

section Layout

variable {now : Int}

theorem Within.span {bound : Nat} (within : Within bound now) :
    (elapsed now : Int) = now - epoch ∧ elapsed now < bound := by
  obtain ⟨low, high⟩ := within
  unfold elapsed
  omega

/-- The time is read back from its digits. -/
theorem Within.read {b width : Nat} (within : Within (b ^ width) now) (some : 0 < b)
    (few : b ≤ 36) : (Text.valueIn? b (Text.lowDigits b width (elapsed now))).map Int.ofNat =
      .some (now - epoch) := by
  obtain ⟨same, fits⟩ := within.span
  rw [Text.valueIn?_lowDigits some few, Nat.mod_eq_of_lt fits, Option.map_some, ← same]
  rfl

/-- Four digits of the counter follow those of the time, however many these are. -/
theorem exists_after_time (now : Int) (counter len : Nat) (r : Randomness) :
    ∃ more, (serial now counter len r).1.toList = timeDigits 36 9 (elapsed now) ++
      Text.lowDigits 36 4 (counter % 36 ^ 4) ++ more ∧
      more.length = len - ((timeDigits 36 9 (elapsed now)).length + 4) ∧
      ∀ c ∈ more, c ∈ base36 := by
  have wrapped : counter % 36 ^ 4 < 36 ^ 4 := Nat.mod_lt counter (by decide)
  have count : timeDigits 36 4 (counter % serialWrap) = Text.lowDigits 36 4 (counter % 36 ^ 4) :=
    Text.zeros_inBase (by decide) (by decide) wrapped
  have zero : '0' ∈ base36 := by decide
  obtain ⟨more, filled, length, chosen⟩ := exists_fill zero
    (timeDigits 36 9 (elapsed now) ++ timeDigits 36 4 (counter % serialWrap)) len r
  refine ⟨more, ?_, ?_, chosen⟩
  · rw [serial, String.toList_ofList, filled, count]
  · rw [length, count, List.length_append, Text.length_lowDigits]

theorem exists_serial (within : Within (36 ^ 9) now) (counter len : Nat) (r : Randomness) :
    ∃ more, (serial now counter len r).1.toList = Text.lowDigits 36 9 (elapsed now) ++
      Text.lowDigits 36 4 (counter % 36 ^ 4) ++ more ∧ more.length = len - 13 ∧
      ∀ c ∈ more, c ∈ base36 := by
  have time : timeDigits 36 9 (elapsed now) = Text.lowDigits 36 9 (elapsed now) :=
    Text.zeros_inBase (by decide) (by decide) within.span.2
  obtain ⟨more, key, length, chosen⟩ := exists_after_time now counter len r
  rw [time] at key length
  rw [Text.length_lowDigits] at length
  exact ⟨more, key, length, chosen⟩

theorem exists_long (within : Within (16 ^ 12) now) (minLen : Nat) (r : Randomness) :
    ∃ more, (long now minLen r).1.toList = Text.lowDigits 16 12 (elapsed now) ++ more ∧
      more.length = minLen - 12 ∧ ∀ c ∈ more, c ∈ base16 := by
  have time : timeDigits 16 12 (elapsed now) = Text.lowDigits 16 12 (elapsed now) :=
    Text.zeros_inBase (by decide) (by decide) within.span.2
  have zero : '0' ∈ base16 := by decide
  obtain ⟨more, filled, length, chosen⟩ := exists_fill zero
    (timeDigits 16 12 (elapsed now)) minLen r
  refine ⟨more, ?_, ?_, chosen⟩
  · rw [long, String.toList_ofList, filled, time]
  · rw [length, time, Text.length_lowDigits]

/-! ### The layout of a key -/

/-- How a serial key is laid out. -/
structure IsSerial (now : Int) (counter len : Nat) (id : String) : Prop where
  length : id.length = max len 13
  alphabet : ∀ c ∈ id.toList, c ∈ base36
  time : (Text.valueIn? 36 (id.toList.take 9)).map Int.ofNat = some (now - epoch)
  counter : Text.valueIn? 36 ((id.toList.drop 9).take 4) = some (counter % 36 ^ 4)

/-- How a long key is laid out. -/
structure IsLong (now : Int) (minLen : Nat) (id : String) : Prop where
  length : id.length = max minLen 12
  alphabet : ∀ c ∈ id.toList, c ∈ base16
  time : (Text.valueIn? 16 (id.toList.take 12)).map Int.ofNat = some (now - epoch)

theorem isSerial_serial (within : Within (36 ^ 9) now) (counter len : Nat) (r : Randomness) :
    IsSerial now counter len (serial now counter len r).1 := by
  obtain ⟨more, key, length, chosen⟩ := exists_serial within counter len r
  have nine : (Text.lowDigits 36 9 (elapsed now)).length = 9 := Text.length_lowDigits ..
  have four : (Text.lowDigits 36 4 (counter % 36 ^ 4)).length = 4 := Text.length_lowDigits ..
  refine ⟨?_, ?_, ?_, ?_⟩
  · rw [← String.length_toList, key, List.length_append, List.length_append, nine, four, length]
    omega
  · intro c inside
    rw [key, List.mem_append, List.mem_append] at inside
    obtain (time | count) | random := inside
    · exact mem_base36_of_mem_lowDigits time
    · exact mem_base36_of_mem_lowDigits count
    · exact chosen c random
  · rw [key, List.append_assoc, List.take_left' nine, within.read (by decide) (by decide)]
  · rw [key, List.append_assoc, List.drop_left' nine, List.take_left' four,
      Text.valueIn?_lowDigits (by decide) (by decide), Nat.mod_mod]

theorem isLong_long (within : Within (16 ^ 12) now) (minLen : Nat) (r : Randomness) :
    IsLong now minLen (long now minLen r).1 := by
  obtain ⟨more, key, length, chosen⟩ := exists_long within minLen r
  have twelve : (Text.lowDigits 16 12 (elapsed now)).length = 12 := Text.length_lowDigits ..
  refine ⟨?_, ?_, ?_⟩
  · rw [← String.length_toList, key, List.length_append, twelve, length]
    omega
  · intro c inside
    rw [key, List.mem_append] at inside
    obtain time | random := inside
    · exact mem_base16_of_mem_lowDigits time
    · exact chosen c random
  · rw [key, List.take_left' twelve, within.read (by decide) (by decide)]

/-! ### The order of keys -/

/-- What stands in front of a serial key is one number of thirteen digits. -/
theorem front_serial (within : Within (36 ^ 9) now) (counter len : Nat) (r : Randomness) :
    front 13 (serial now counter len r).1 =
      String.ofList (Text.lowDigits 36 13 (elapsed now * 36 ^ 4 + counter % 36 ^ 4)) := by
  obtain ⟨more, key, -, -⟩ := exists_serial within counter len r
  have wrapped : counter % 36 ^ 4 < 36 ^ 4 := Nat.mod_lt counter (by decide)
  have thirteen := Text.length_lowDigits 36 13 (elapsed now * 36 ^ 4 + counter % 36 ^ 4)
  rw [front, key, Text.lowDigits_append wrapped, List.take_left' thirteen]

theorem front_long (within : Within (16 ^ 12) now) (minLen : Nat) (r : Randomness) :
    front 12 (long now minLen r).1 = String.ofList (Text.lowDigits 16 12 (elapsed now)) := by
  obtain ⟨more, key, -, -⟩ := exists_long within minLen r
  rw [front, key, List.take_left' (Text.length_lowDigits ..)]

end Layout

section Order

variable {now₁ now₂ : Int}

/-- The digits of two numbers of one width, as texts. -/
theorem ofList_lowDigits {b width m n : Nat} (some : 0 < b) (few : b ≤ 36) (hm : m < b ^ width)
    (hn : n < b ^ width) :
    (String.ofList (Text.lowDigits b width m) < String.ofList (Text.lowDigits b width n) ↔ m < n) ∧
    (String.ofList (Text.lowDigits b width m) = String.ofList (Text.lowDigits b width n) ↔
      m = n) := by
  rw [String.lt_iff, String.toList_ofList, String.toList_ofList, String.ofList_inj]
  exact ⟨Text.lowDigits_lt_iff some few hm hn, Text.lowDigits_inj some few hm hn⟩

theorem serial_in_order (first : Within (36 ^ 9) now₁) (second : Within (36 ^ 9) now₂)
    (counter₁ counter₂ len₁ len₂ : Nat) (r₁ r₂ : Randomness) :
    (front 13 (serial now₁ counter₁ len₁ r₁).1 < front 13 (serial now₂ counter₂ len₂ r₂).1 ↔
      now₁ < now₂ ∨ now₁ = now₂ ∧ counter₁ % 36 ^ 4 < counter₂ % 36 ^ 4) ∧
    (front 13 (serial now₁ counter₁ len₁ r₁).1 = front 13 (serial now₂ counter₂ len₂ r₂).1 ↔
      now₁ = now₂ ∧ counter₁ % 36 ^ 4 = counter₂ % 36 ^ 4) := by
  obtain ⟨span₁, some₁⟩ := first.span
  obtain ⟨span₂, some₂⟩ := second.span
  have wrapped₁ : counter₁ % 36 ^ 4 < 36 ^ 4 := Nat.mod_lt counter₁ (by decide)
  have wrapped₂ : counter₂ % 36 ^ 4 < 36 ^ 4 := Nat.mod_lt counter₂ (by decide)
  have fits₁ : elapsed now₁ * 36 ^ 4 + counter₁ % 36 ^ 4 < 36 ^ 13 :=
    Text.mul_pow_add_lt some₁ wrapped₁
  have fits₂ : elapsed now₂ * 36 ^ 4 + counter₂ % 36 ^ 4 < 36 ^ 13 :=
    Text.mul_pow_add_lt some₂ wrapped₂
  have times : elapsed now₁ < elapsed now₂ ↔ now₁ < now₂ := by omega
  have time : elapsed now₁ = elapsed now₂ ↔ now₁ = now₂ := by omega
  obtain ⟨order, same⟩ := ofList_lowDigits (by decide) (by decide) fits₁ fits₂
  -- each front is one number, with the time above the counter
  rw [front_serial first, front_serial second]
  refine ⟨order.trans ?_, same.trans ?_⟩
  · rw [Text.mul_add_lt_iff wrapped₁ wrapped₂, times, time]
  · rw [Text.mul_add_eq_iff wrapped₁ wrapped₂, time]

theorem long_in_order (first : Within (16 ^ 12) now₁) (second : Within (16 ^ 12) now₂)
    (len₁ len₂ : Nat) (r₁ r₂ : Randomness) :
    (front 12 (long now₁ len₁ r₁).1 < front 12 (long now₂ len₂ r₂).1 ↔ now₁ < now₂) ∧
    (front 12 (long now₁ len₁ r₁).1 = front 12 (long now₂ len₂ r₂).1 ↔ now₁ = now₂) := by
  obtain ⟨span₁, some₁⟩ := first.span
  obtain ⟨span₂, some₂⟩ := second.span
  obtain ⟨order, same⟩ := ofList_lowDigits (by decide) (by decide) some₁ some₂
  rw [front_long first, front_long second]
  exact ⟨order.trans (by omega), same.trans (by omega)⟩

/-- **Text keys sort by time.**  A serial key of a time with at most nine digits has the length
asked for, or thirteen characters if that is more, all of them digits of base 36: nine of the time,
four of the counter, and random ones.  The first thirteen characters of two keys compare as their
times do, and as their counters where the times are equal.  A long key of a time with at most twelve
digits has the length asked for, or twelve characters, all of them digits of base 16, of which the
first twelve compare as the times do. -/
theorem text_keys_in_order (now₁ now₂ : Int) (counter₁ counter₂ len₁ len₂ : Nat)
    (r₁ r₂ : Randomness) :
    (Within (36 ^ 9) now₁ → IsSerial now₁ counter₁ len₁ (serial now₁ counter₁ len₁ r₁).1) ∧
    (Within (36 ^ 9) now₁ → Within (36 ^ 9) now₂ →
      (front 13 (serial now₁ counter₁ len₁ r₁).1 < front 13 (serial now₂ counter₂ len₂ r₂).1 ↔
        now₁ < now₂ ∨ now₁ = now₂ ∧ counter₁ % 36 ^ 4 < counter₂ % 36 ^ 4) ∧
      (front 13 (serial now₁ counter₁ len₁ r₁).1 = front 13 (serial now₂ counter₂ len₂ r₂).1 ↔
        now₁ = now₂ ∧ counter₁ % 36 ^ 4 = counter₂ % 36 ^ 4)) ∧
    (Within (16 ^ 12) now₁ → IsLong now₁ len₁ (long now₁ len₁ r₁).1) ∧
    (Within (16 ^ 12) now₁ → Within (16 ^ 12) now₂ →
      (front 12 (long now₁ len₁ r₁).1 < front 12 (long now₂ len₂ r₂).1 ↔ now₁ < now₂) ∧
      (front 12 (long now₁ len₁ r₁).1 = front 12 (long now₂ len₂ r₂).1 ↔ now₁ = now₂)) := by
  refine ⟨?_, ?_, ?_, ?_⟩
  · intro first
    exact isSerial_serial first counter₁ len₁ r₁
  · intro first second
    exact serial_in_order first second counter₁ counter₂ len₁ len₂ r₁ r₂
  · intro first
    exact isLong_long first len₁ r₁
  · intro first second
    exact long_in_order first second len₁ len₂ r₁ r₂

/-- The counter starts again after its last digits, so of two keys of one millisecond the later one
is the first, while a key of the next millisecond comes after both. -/
theorem text_keys_in_order_wrapped :
    let r := Randomness.cycle [7]
    let last := (serial (epoch + 500) 1679615 16 r).1
    let again := (serial (epoch + 500) 1679616 0 r).1
    let next := (serial (epoch + 501) 1679617 13 r).1
    Within (36 ^ 9) (epoch + 500) ∧ Within (36 ^ 9) (epoch + 501) ∧ Within (16 ^ 12) (epoch + 500) ∧
      IsSerial (epoch + 500) 1679615 16 last ∧ front 13 again < front 13 last ∧
      front 13 last < front 13 next ∧ IsLong (epoch + 500) 16 (long (epoch + 500) 16 r).1 := by
  intro r last again next
  have now : Within (36 ^ 9) (epoch + 500) := by decide
  have later : Within (36 ^ 9) (epoch + 501) := by decide
  have wide : Within (16 ^ 12) (epoch + 500) := by decide
  refine ⟨now, later, wide, ?_, ?_, ?_, ?_⟩
  · exact (text_keys_in_order (epoch + 500) 0 1679615 0 16 0 r r).1 now
  · exact ((text_keys_in_order _ _ 1679616 1679615 0 16 r r).2.1 now now).1.mpr
      (.inr ⟨rfl, by decide⟩)
  · exact ((text_keys_in_order _ _ 1679615 1679617 16 13 r r).2.1 now later).1.mpr
      (.inl (by decide))
  · exact (text_keys_in_order (epoch + 500) 0 0 0 16 0 r r).2.2.1 wide

end Order

end Id

end TableMapper
