import Mathlib.Data.List.Pairwise
import TableMapper.Proofs.Json.Reading

/-!
# Values are read back from their text

A JSON value comes back from its text (`toJson?_reread`) just when it nests no deeper than the
reader goes, and each double in it is one that is read back from its digits
(`Binary64.ReadsBack`); integers, strings and the order of members always come back.
-/

namespace TableMapper

/-- The double is read back from its text.  Doubles are scaled by a rounded power of ten, so not
every one is. -/
def Binary64.ReadsBack (x : Binary64) : Prop :=
  Document.read? (Json.doubleText x) = some (.double x)

/-- The number of a double. -/
def Document.double? : Document → Option Binary64
  | .double x => some x
  | _ => none

theorem Document.double?_eq_some_iff {d : Document} {x : Binary64} :
    d.double? = some x ↔ d = .double x := by
  cases d <;> simp [double?]

theorem Binary64.readsBack_iff {x : Binary64} :
    x.ReadsBack ↔ (Document.read? (Json.doubleText x)).bind (·.double?) = some x := by
  simp [ReadsBack, Option.bind_eq_some_iff, Document.double?_eq_some_iff]

instance (x : Binary64) : Decidable x.ReadsBack := decidable_of_iff _ Binary64.readsBack_iff.symm

namespace Json

mutual

/-- The levels of arrays and objects in a value. -/
def depth : Json → Nat
  | .null | .bool _ | .int _ | .double _ | .string _ => 0
  | .array xs => itemsDepth xs + 1
  | .object ms => membersDepth ms + 1

/-- The levels in the items. -/
def itemsDepth : List Json → Nat
  | [] => 0
  | x :: xs => max (depth x) (itemsDepth xs)

/-- The levels in the members. -/
def membersDepth : List (String × Json) → Nat
  | [] => 0
  | (_, x) :: ms => max (depth x) (membersDepth ms)

end

mutual

/-- The doubles in a value. -/
def doubles : Json → List Binary64
  | .null | .bool _ | .int _ | .string _ => []
  | .double x => [x]
  | .array xs => itemsDoubles xs
  | .object ms => membersDoubles ms

/-- The doubles in the items. -/
def itemsDoubles : List Json → List Binary64
  | [] => []
  | x :: xs => doubles x ++ itemsDoubles xs

/-- The doubles in the members. -/
def membersDoubles : List (String × Json) → List Binary64
  | [] => []
  | (_, x) :: ms => doubles x ++ membersDoubles ms

end

mutual

/-- What every value is: its integers have 64 bits, and its members are sorted by name. -/
def Proper : Json → Prop
  | .null | .bool _ | .double _ | .string _ => True
  | .int n => -(Nat.pow 2 63 : Int) ≤ n ∧ n < (Nat.pow 2 64 : Int)
  | .array xs => ItemsProper xs
  | .object ms => (ms.map Prod.fst).Pairwise (· < ·) ∧ MembersProper ms

/-- The items are such values. -/
def ItemsProper : List Json → Prop
  | [] => True
  | x :: xs => Proper x ∧ ItemsProper xs

/-- The members are such values. -/
def MembersProper : List (String × Json) → Prop
  | [] => True
  | (_, x) :: ms => Proper x ∧ MembersProper ms

end

mutual

/-- Whether the value is such a value. -/
def decidableProper : (v : Json) → Decidable v.Proper
  | .null | .bool _ | .double _ | .string _ => isTrue trivial
  | .int n => inferInstanceAs (Decidable (_ ≤ n ∧ n < _))
  | .array xs => decidableItemsProper xs
  | .object ms => @instDecidableAnd _ _ inferInstance (decidableMembersProper ms)

/-- Whether the items are such values. -/
def decidableItemsProper : (xs : List Json) → Decidable (ItemsProper xs)
  | [] => isTrue trivial
  | x :: xs => @instDecidableAnd _ _ (decidableProper x) (decidableItemsProper xs)

/-- Whether the members are such values. -/
def decidableMembersProper : (ms : List (String × Json)) → Decidable (MembersProper ms)
  | [] => isTrue trivial
  | (_, x) :: ms => @instDecidableAnd _ _ (decidableProper x) (decidableMembersProper ms)

end

instance (v : Json) : Decidable v.Proper := decidableProper v

/-- A value that comes back from its text where `room` levels of nesting are left. -/
def Fits (room : Nat) (v : Json) : Prop := v.depth ≤ room ∧ ∀ x ∈ v.doubles, x.ReadsBack

instance (room : Nat) (v : Json) : Decidable (v.Fits room) :=
  inferInstanceAs (Decidable (v.depth ≤ room ∧ ∀ x ∈ v.doubles, x.ReadsBack))

theorem itemsProper_iff {xs : List Json} : ItemsProper xs ↔ ∀ v ∈ xs, v.Proper := by
  induction xs with
  | nil => simp [ItemsProper]
  | cons v xs ih => rw [ItemsProper, ih, List.forall_mem_cons]

end Json

namespace Row

theorem insert_append {row : Row} {name : String} (after : ∀ m ∈ row, m.1 < name) (value : Json) :
    insert name value row = row ++ [(name, value)] := by
  induction row with
  | nil => rfl
  | cons m row ih =>
    have first : m.1 < name := after m List.mem_cons_self
    have other : ¬name = m.1 := fun same => String.lt_irrefl _ (same ▸ first)
    rw [insert, if_neg (String.lt_asymm first), if_neg other,
      ih fun n hn => after n (List.mem_cons_of_mem m hn)]
    rfl

/-- Sorted members are a row as they are. -/
theorem ofList_of_sorted {row : Row} (h : (row.map Prod.fst).Pairwise (· < ·)) :
    ofList row = row := by
  have grow (done rest : Row) (h : ((done ++ rest).map Prod.fst).Pairwise (· < ·)) :
      rest.foldl (fun row m => insert m.1 m.2 row) done = done ++ rest := by
    induction rest generalizing done with
    | nil => simp
    | cons m rest ih =>
      have before : ∀ n ∈ done, n.1 < m.1 := by
        intro n hn
        rw [List.map_append, List.pairwise_append] at h
        exact h.2.2 n.1 (List.mem_map_of_mem hn) m.1 (by simp)
      rw [List.foldl_cons, insert_append before, ih _ (by simpa using h)]
      simp
  exact grow [] row h

end Row

namespace Document

/-! ### Integers -/

theorem readNumber_nat (n : Nat) (negative : Bool) :
    readNumber negative (toString n).toList =
      some (if !negative && n < Nat.pow 2 64 then .int n
        else if negative && 0 < n && n ≤ Nat.pow 2 63 then .int (-(n : Int))
        else doubleOf negative (toString n).toList [] 0, []) := by
  have last : NoDigit [] := by simp [NoDigit]
  have digits := takeWhile_digits (digits_nat n) last
  have after := dropWhile_digits (digits_nat n) last
  rw [List.append_nil] at digits after
  rw [readNumber, digits, after]
  simp only
  split
  next empty => exact absurd empty (digits_nat n).1
  next leading => exact absurd ((whole_nat n).2 _ leading) (List.cons_ne_nil _ _)
  next =>
    simp only [readFraction, readExponent, Text.decimalValue_nat]
    rfl

/-- An integer of 64 bits comes back from its text. -/
theorem read?_int {n : Int} (low : -(Nat.pow 2 63 : Int) ≤ n) (high : n < (Nat.pow 2 64 : Int)) :
    read? (toString n) = some (.int n) := by
  by_cases nonneg : 0 ≤ n
  · have text : (toString n).toList = (toString n.toNat).toList := by
      rw [Int.toString_eq_repr, Int.repr_eq_if, if_pos nonneg]
      rfl
    have small : n.toNat < Nat.pow 2 64 := by omega
    have read := readValue_unsigned (unsigned_nat n.toNat) (toString n.toNat).toList.length []
    rw [List.append_nil, readNumber_nat, if_pos (by simp [small]), Int.toNat_of_nonneg nonneg]
      at read
    rw [read?, text, read]
    rfl
  · have text : (toString n).toList = '-' :: (toString (-n).toNat).toList := by
      rw [Int.toString_eq_repr, Int.repr_eq_if, if_neg nonneg, String.toList_append]
      rfl
    have small : 0 < (-n).toNat ∧ (-n).toNat ≤ Nat.pow 2 63 := by omega
    have read := readValue_minus ('-' :: (toString (-n).toNat).toList).length
      (toString (-n).toNat).toList
    rw [readNumber_nat, if_neg (by simp), if_pos (by simp [small])] at read
    rw [read?, text, read]
    have same : -((-n).toNat : Int) = n := by omega
    rw [same]
    rfl

/-! ### Values -/

theorem toJson?_eq_double {room : Nat} {d : Document} {x : Binary64} :
    toJson? room d = some (.double x) ↔ d = .double x := by
  cases d with
  | array xs => cases room <;> simp [toJson?]
  | object ms => cases room <;> simp [toJson?, Json.ofMembers]
  | _ => simp [toJson?]

theorem reread_double {x : Binary64} : reread (.double x) = .double x ↔ x.ReadsBack := by
  rw [reread, Binary64.ReadsBack]
  cases read? (Json.doubleText x) <;> simp

theorem reread_int {n : Int} (h : (Json.int n).Proper) : reread (.int n) = .int n := by
  rw [reread, read?_int h.1 h.2]
  rfl

/-- The names of members do not change when they are read. -/
theorem map_fst_of_membersToJson? {room : Nat} {ms ms' : List (String × Json)}
    (h : membersToJson? room (rereadMembers (ofMembers ms)) = some ms') :
    ms'.map Prod.fst = ms.map Prod.fst := by
  induction ms generalizing ms' with
  | nil =>
    obtain rfl := Option.some.inj h
    rfl
  | cons m ms ih =>
    rw [ofMembers, rereadMembers, membersToJson?] at h
    obtain ⟨v, -, h⟩ := Option.bind_eq_some_iff.mp h
    obtain ⟨rest, others, h⟩ := Option.bind_eq_some_iff.mp h
    obtain rfl := Option.some.inj h
    rw [List.map_cons, ih others, List.map_cons]

/-- Two steps give a pair of parts when each gives its part. -/
theorem bind_bind_eq_some_iff {α β γ : Type} {x : Option α} {y : Option β} {f : α → β → γ} {a : α}
    {b : β} (inj : ∀ {a' b'}, f a' b' = f a b ↔ a' = a ∧ b' = b) :
    (do return f (← x) (← y)) = some (f a b) ↔ x = some a ∧ y = some b := by
  cases x <;> cases y <;> simp [inj]

mutual

/-- A value comes back just when it fits and its doubles come back. -/
theorem toJson?_reread : ∀ (room : Nat) (v : Json), v.Proper →
    (toJson? room (reread (ofJson v)) = some v ↔ v.Fits room)
  | room, .null, _ => by simp [ofJson, reread, toJson?, Json.Fits, Json.depth, Json.doubles]
  | room, .bool b, _ => by simp [ofJson, reread, toJson?, Json.Fits, Json.depth, Json.doubles]
  | room, .string s, _ => by simp [ofJson, reread, toJson?, Json.Fits, Json.depth, Json.doubles]
  | room, .int n, proper => by
    rw [ofJson, reread_int proper]
    simp [toJson?, Json.Fits, Json.depth, Json.doubles]
  | room, .double x, _ => by
    rw [ofJson, toJson?_eq_double, reread_double]
    simp [Json.Fits, Json.depth, Json.doubles]
  | 0, .array xs, _ => by simp [ofJson, reread, toJson?, Json.Fits, Json.depth]
  | room + 1, .array xs, proper => by
    rw [ofJson, reread, toJson?, Json.Fits, Json.depth, Json.doubles, Nat.add_le_add_iff_right,
      ← itemsToJson?_reread room xs proper]
    simp
  | 0, .object ms, _ => by simp [ofJson, reread, toJson?, Json.Fits, Json.depth]
  | room + 1, .object ms, proper => by
    rw [ofJson, reread, toJson?, Json.Fits, Json.depth, Json.doubles, Nat.add_le_add_iff_right,
      ← membersToJson?_reread room ms proper.2, Option.map_eq_some_iff]
    constructor
    · rintro ⟨ms', read, same⟩
      have sorted := proper.1
      rw [← map_fst_of_membersToJson? read] at sorted
      rw [Json.ofMembers, Row.ofList_of_sorted sorted] at same
      rw [read, Json.object.inj same]
    · intro read
      exact ⟨ms, read, by rw [Json.ofMembers, Row.ofList_of_sorted proper.1]⟩

theorem itemsToJson?_reread : ∀ (room : Nat) (xs : List Json), Json.ItemsProper xs →
    (itemsToJson? room (rereadItems (ofItems xs)) = some xs ↔
      Json.itemsDepth xs ≤ room ∧ ∀ x ∈ Json.itemsDoubles xs, x.ReadsBack)
  | room, [], _ => by simp [ofItems, rereadItems, itemsToJson?, Json.itemsDepth, Json.itemsDoubles]
  | room, v :: xs, proper => by
    rw [ofItems, rereadItems, itemsToJson?, bind_bind_eq_some_iff (by simp),
      toJson?_reread room v proper.1, itemsToJson?_reread room xs proper.2, Json.Fits,
      Json.itemsDepth, Json.itemsDoubles, max_le_iff, List.forall_mem_append, and_and_and_comm]

theorem membersToJson?_reread : ∀ (room : Nat) (ms : List (String × Json)),
    Json.MembersProper ms →
    (membersToJson? room (rereadMembers (ofMembers ms)) = some ms ↔
      Json.membersDepth ms ≤ room ∧ ∀ x ∈ Json.membersDoubles ms, x.ReadsBack)
  | room, [], _ => by
    simp [ofMembers, rereadMembers, membersToJson?, Json.membersDepth, Json.membersDoubles]
  | room, (name, v) :: ms, proper => by
    rw [ofMembers, rereadMembers, membersToJson?, bind_bind_eq_some_iff (by simp),
      toJson?_reread room v proper.1, membersToJson?_reread room ms proper.2, Json.Fits,
      Json.membersDepth, Json.membersDoubles, max_le_iff, List.forall_mem_append,
      and_and_and_comm]

end

/-- A list of values comes back just when each of them does. -/
theorem itemsToJson?_eq_iff {room : Nat} {xs : List Json} (proper : ∀ v ∈ xs, v.Proper) :
    itemsToJson? room (rereadItems (ofItems xs)) = some xs ↔ ∀ v ∈ xs, v.Fits room := by
  rw [itemsToJson?_reread room xs (Json.itemsProper_iff.mpr proper)]
  clear proper
  induction xs with
  | nil => simp [Json.itemsDepth, Json.itemsDoubles]
  | cons v xs ih =>
    rw [Json.itemsDepth, Json.itemsDoubles, max_le_iff, List.forall_mem_append,
      List.forall_mem_cons, ← ih, Json.Fits, and_and_and_comm]

end Document

end TableMapper
