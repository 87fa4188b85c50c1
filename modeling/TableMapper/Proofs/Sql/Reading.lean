import Mathlib.Data.List.Nodup
import TableMapper.Proofs.Sql.Lexing

/-!
# Connectives of SQL

AND binds tighter than OR, so a Boolean expression is read as alternatives, each of which is a
conjunction of operands.

* `Reading` are the operands of an expression in this shape, and `Reading.truth` is its value in the
  logic of three values.
* `Fragment.reading?` reads a fragment.  Only connectives outside of brackets and of CASE count, and
  not the AND of BETWEEN.
* `Fragment.reading?_of_parts`: without connectives a fragment is one operand.
* `Reading.beside` is what becomes of two expressions with AND between them, and
  `Fragment.reading?_join` reads several.
* `Reading.truth_chain_iff` and `Reading.single_of_truth_chain` say when AND between expressions is
  their conjunction.
-/

namespace TableMapper

/-! ### Roles of lexemes -/

/-- The brackets between which connectives do not count. -/
inductive Bracket where
  | round
  | square
  | case
  deriving DecidableEq

/-- What a lexeme means for the reading of connectives. -/
inductive Role where
  | plain
  | opening (b : Bracket)
  | closing (b : Bracket)
  | between
  | and
  | or
  | comma
  | semicolon
  | dot
  deriving DecidableEq

/-- The role of a word, which is written in small letters. -/
def Role.ofWord (text : List Char) : Role :=
  if text = "case".toList then opening .case
  else if text = "end".toList then closing .case
  else if text = "between".toList then between
  else if text = "and".toList then and
  else if text = "or".toList then or
  else plain

/-- The role of a symbol. -/
def Role.ofSymbol : Char → Role
  | '(' => opening .round
  | ')' => closing .round
  | '[' => opening .square
  | ']' => closing .square
  | ',' => comma
  | ';' => semicolon
  | '.' => dot
  | _ => plain

/-- The role of a lexeme, which may stand after a dot.  A word after a dot is a name. -/
def Lexeme.role (dotted : Bool) : Lexeme → Role
  | word text => if dotted then .plain else .ofWord (text.map Char.toLower)
  | symbol c => .ofSymbol c
  | _ => .plain

/-- What surrounds a lexeme. -/
structure Scope where
  /-- The brackets that are open, the innermost first. -/
  opened : List Bracket := []
  /-- How many BETWEEN wait for their AND, outside of brackets. -/
  pending : Nat := 0
  /-- The lexeme before is a dot. -/
  dotted : Bool := false
  deriving DecidableEq

/-- A part of an operand, or a connective. -/
inductive Mark where
  | part (l : Lexeme)
  | and
  | or

namespace Scope

/-- Reads a lexeme. -/
def step (s : Scope) (l : Lexeme) : Option (Scope × List Mark) :=
  let inside := !s.opened.isEmpty
  let plain := some ({ s with dotted := false }, [Mark.part l])
  match l.role s.dotted with
  | .plain => plain
  | .dot => some ({ s with dotted := true }, [.part l])
  | .opening b => some ({ s with opened := b :: s.opened, dotted := false }, [.part l])
  | .closing b =>
    match s.opened with
    | [] => none
    | b' :: opened =>
      if b = b' then some ({ s with opened, dotted := false }, [.part l]) else none
  | .semicolon => none
  | .comma => if inside then plain else none
  | .between =>
    if inside then plain else some ({ s with pending := s.pending + 1, dotted := false }, [.part l])
  | .and =>
    if inside then plain
    else
      -- a BETWEEN takes the first AND after it
      match s.pending with
      | 0 => some ({ s with dotted := false }, [.and])
      | n + 1 => some ({ s with pending := n, dotted := false }, [.part l])
  | .or =>
    if inside then plain
    else if s.pending = 0 then some ({ s with dotted := false }, [.or]) else none

theorem step_plain {s : Scope} (h : s.dotted = false) {l : Lexeme} (plain : l.role false = .plain) :
    s.step l = some (s, [.part l]) := by
  simp only [step, h, plain]
  rw [← h]

/-- Lexemes that are no connectives leave everything as it is. -/
theorem scan_plain {ls : List Lexeme} {s : Scope} (h : s.dotted = false)
    (plain : ∀ l ∈ ls, l.role false = .plain) :
    scan step s ls = some (s, ls.map .part) := by
  induction ls with
  | nil => rfl
  | cons l ls ih =>
    have rest := ih fun k hk => plain k (List.mem_cons_of_mem l hk)
    exact scan_cons (step_plain h (plain l List.mem_cons_self)) rest

/-- Neither do commas within brackets. -/
theorem scan_inside {ls : List Lexeme} {s : Scope} (h : s.dotted = false) (inside : s.opened ≠ [])
    (plain : ∀ l ∈ ls, l.role false = .plain ∨ l.role false = .comma) :
    scan step s ls = some (s, ls.map .part) := by
  induction ls with
  | nil => rfl
  | cons l ls ih =>
    have rest := ih fun k hk => plain k (List.mem_cons_of_mem l hk)
    have first : s.step l = some (s, [.part l]) := by
      rcases plain l List.mem_cons_self with word | comma
      · exact step_plain h word
      · simp only [step, h, comma, List.isEmpty_eq_false_iff.mpr inside, Bool.not_false, if_true]
        rw [← h]
    exact scan_cons first rest

end Scope

/-! ### Readings -/

/-- An expression as alternatives, each of them the operands that must hold together. -/
abbrev Reading := List (List (List Lexeme))

namespace Reading

/-- A lexeme more at the front of the first operand. -/
def part (l : Lexeme) : Reading → Reading
  | (operand :: operands) :: rest => ((l :: operand) :: operands) :: rest
  | r => r

/-- An operand more at the front of the first alternative. -/
def operand : Reading → Reading
  | operands :: rest => ([] :: operands) :: rest
  | [] => []

/-- The reading of marks. -/
def ofMarks : List Mark → Reading
  | [] => [[[]]]
  | .part l :: ms => part l (ofMarks ms)
  | .and :: ms => operand (ofMarks ms)
  | .or :: ms => [[]] :: ofMarks ms

/-- There are alternatives, each has operands, and these are not empty. -/
def IsFull (r : Reading) : Prop :=
  r ≠ [] ∧ ∀ operands ∈ r, operands ≠ [] ∧ ∀ o ∈ operands, o ≠ []

instance (r : Reading) : Decidable r.IsFull :=
  inferInstanceAs (Decidable (_ ∧ _))

/-- Two expressions with AND between them: the last alternative of the first one takes the first
alternative of the second one in. -/
def beside : Reading → Reading → Reading
  | [], s => s
  | [operands], [] => [operands]
  | [operands], first :: rest => (operands ++ first) :: rest
  | operands :: second :: r, s => operands :: beside (second :: r) s

/-- Expressions with AND between neighbours. -/
def chain : List Reading → Reading
  | [] => []
  | [r] => r
  | r :: s :: rest => beside r (chain (s :: rest))

/-! ### AND between expressions -/

theorem ofMarks_shape (ms : List Mark) :
    ∃ o operands rest, ofMarks ms = (o :: operands) :: rest := by
  induction ms with
  | nil => exact ⟨_, _, _, rfl⟩
  | cons m ms ih =>
    obtain ⟨o, operands, rest, shape⟩ := ih
    cases m <;> simp [ofMarks, part, operand, shape]

theorem ofMarks_parts (ls : List Lexeme) : ofMarks (ls.map .part) = [[ls]] := by
  induction ls with
  | nil => rfl
  | cons l ls ih =>
    rw [List.map_cons, ofMarks, ih]
    rfl

theorem beside_cons (operands : List (List Lexeme)) {r : Reading} (h : r ≠ []) (s : Reading) :
    beside (operands :: r) s = operands :: beside r s := by
  obtain ⟨second, r, rfl⟩ := List.exists_cons_of_ne_nil h
  rfl

theorem part_beside (l : Lexeme) (o : List Lexeme) (operands : List (List Lexeme))
    (r s : Reading) :
    part l (beside ((o :: operands) :: r) s) = beside (part l ((o :: operands) :: r)) s := by
  cases r with
  | nil => cases s <;> rfl
  | cons second r => rfl

theorem operand_beside (operands : List (List Lexeme)) (r s : Reading) :
    operand (beside (operands :: r) s) = beside (operand (operands :: r)) s := by
  cases r with
  | nil => cases s <;> rfl
  | cons second r => rfl

theorem ofMarks_and (ms ns : List Mark) :
    ofMarks (ms ++ .and :: ns) = beside (ofMarks ms) (ofMarks ns) := by
  induction ms with
  | nil =>
    obtain ⟨o, operands, rest, shape⟩ := ofMarks_shape ns
    rw [List.nil_append, ofMarks, ofMarks, shape]
    rfl
  | cons m ms ih =>
    obtain ⟨o, operands, rest, shape⟩ := ofMarks_shape ms
    rw [shape] at ih
    cases m with
    | part l => rw [List.cons_append, ofMarks, ih, part_beside, ofMarks, shape]
    | and => rw [List.cons_append, ofMarks, ih, operand_beside, ofMarks, shape]
    | or =>
      rw [List.cons_append, ofMarks, ih, ofMarks, shape, beside_cons _ (List.cons_ne_nil _ _)]

theorem beside_eq (r : Reading) (last first : List (List Lexeme)) (s : Reading) :
    beside (r ++ [last]) (first :: s) = r ++ (last ++ first) :: s := by
  induction r with
  | nil => rfl
  | cons operands r ih =>
    rw [List.cons_append, beside_cons operands (by simp), ih, List.cons_append]

/-- The ends that meet at an AND. -/
theorem exists_ends {r s : Reading} (hr : r ≠ []) (hs : s ≠ []) :
    ∃ r' last first s', r = r' ++ [last] ∧ s = first :: s' ∧
      beside r s = r' ++ (last ++ first) :: s' := by
  obtain ⟨first, s', rfl⟩ := List.exists_cons_of_ne_nil hs
  have split := List.dropLast_append_getLast hr
  refine ⟨r.dropLast, r.getLast hr, first, s', split.symm, rfl, ?_⟩
  rw [← beside_eq, split]

theorem isFull_beside {r s : Reading} (hr : r.IsFull) (hs : s.IsFull) : (beside r s).IsFull := by
  obtain ⟨r', last, first, s', rfl, rfl, joined⟩ := exists_ends hr.1 hs.1
  have ends := hr.2 last (by simp)
  have starts := hs.2 first (by simp)
  rw [joined]
  refine ⟨by simp, fun operands there => ?_⟩
  rcases List.mem_append.mp there with before | there
  · exact hr.2 operands (by simp [before])
  rcases List.mem_cons.mp there with rfl | after
  · refine ⟨by simp [ends.1], fun o ho => ?_⟩
    exact (List.mem_append.mp ho).elim (ends.2 o) (starts.2 o)
  · exact hs.2 operands (by simp [after])

theorem chain_cons (r : Reading) {rs : List Reading} (some : rs ≠ []) :
    chain (r :: rs) = beside r (chain rs) := by
  obtain ⟨s, rs, rfl⟩ := List.exists_cons_of_ne_nil some
  rfl

theorem isFull_chain {rs : List Reading} (some : rs ≠ []) (full : ∀ r ∈ rs, r.IsFull) :
    (chain rs).IsFull := by
  induction rs with
  | nil => exact absurd rfl some
  | cons r rs ih =>
    cases rs with
    | nil => exact full r List.mem_cons_self
    | cons s rs =>
      exact isFull_beside (full r List.mem_cons_self)
        (ih (List.cons_ne_nil _ _) fun t ht => full t (List.mem_cons_of_mem r ht))

/-! ### Truth -/

/-- The AND of SQL, where `none` is NULL. -/
def both : Option Bool → Option Bool → Option Bool
  | some true, b => b
  | some false, _ => some false
  | none, some false => some false
  | none, _ => none

/-- The OR of SQL. -/
def either : Option Bool → Option Bool → Option Bool
  | some false, b => b
  | some true, _ => some true
  | none, some true => some true
  | none, _ => none

/-- The value of an expression on a row, from those of its operands. -/
def truth (ν : List Lexeme → Option Bool) (r : Reading) : Option Bool :=
  (r.map fun operands => (operands.map ν).foldr both (some true)).foldr either (some false)

theorem both_eq_true_iff (a b : Option Bool) :
    both a b = some true ↔ a = some true ∧ b = some true := by
  rcases a with - | - | - <;> rcases b with - | - | - <;> decide

theorem either_eq_true_iff (a b : Option Bool) :
    either a b = some true ↔ a = some true ∨ b = some true := by
  rcases a with - | - | - <;> rcases b with - | - | - <;> decide

/-- An expression is true if all operands of one of its alternatives are, be others false or
unknown. -/
theorem truth_eq_true_iff {ν : List Lexeme → Option Bool} {r : Reading} :
    r.truth ν = some true ↔ ∃ operands ∈ r, ∀ o ∈ operands, ν o = some true := by
  have conjunction : ∀ operands : List (List Lexeme),
      (operands.map ν).foldr both (some true) = some true ↔ ∀ o ∈ operands, ν o = some true := by
    intro operands
    induction operands with
    | nil => simp
    | cons o operands ih => simp [both_eq_true_iff, ih]
  unfold truth
  induction r with
  | nil => simp
  | cons operands r ih => simp [either_eq_true_iff, conjunction, ih]

/-! ### AND between expressions, and their conjunction -/

/-- If all expressions are true, so is the one with AND between them. -/
theorem truth_chain_of_all {ν : List Lexeme → Option Bool} {rs : List Reading} (some : rs ≠ [])
    (full : ∀ r ∈ rs, r.IsFull) (all : ∀ r ∈ rs, r.truth ν = Option.some true) :
    (chain rs).truth ν = Option.some true := by
  induction rs with
  | nil => exact absurd rfl some
  | cons r rs ih =>
    cases rs with
    | nil => exact all r List.mem_cons_self
    | cons s rs =>
      have others : ∀ t ∈ s :: rs, t.IsFull := fun t ht => full t (List.mem_cons_of_mem r ht)
      have rest := ih (List.cons_ne_nil _ _) others fun t ht => all t (List.mem_cons_of_mem r ht)
      have whole := isFull_chain (List.cons_ne_nil _ _) others
      obtain ⟨r', last, first, s', hr, hs, joined⟩ :=
        exists_ends (full r List.mem_cons_self).1 whole.1
      obtain ⟨a, ha, own⟩ := truth_eq_true_iff.mp (all r List.mem_cons_self)
      obtain ⟨c, hc, next⟩ := truth_eq_true_iff.mp rest
      rw [chain, joined]
      rw [hr] at ha
      rw [hs] at hc
      refine truth_eq_true_iff.mpr ?_
      -- a true alternative away from the AND stays; otherwise the two at the AND are both true
      rcases List.mem_append.mp ha with before | at_end
      · exact ⟨a, by simp [before], own⟩
      rcases List.mem_cons.mp hc with at_start | after
      · obtain rfl := List.mem_singleton.mp at_end
        subst at_start
        exact ⟨a ++ c, by simp, fun o ho => (List.mem_append.mp ho).elim (own o) (next o)⟩
      · exact ⟨c, by simp [after], next⟩

/-- Without OR there is one alternative, which has all operands. -/
theorem chain_single {rs : List Reading} (some : rs ≠ []) (single : ∀ r ∈ rs, r.length = 1) :
    chain rs = [rs.flatten.flatten] := by
  induction rs with
  | nil => exact absurd rfl some
  | cons r rs ih =>
    obtain ⟨operands, rfl⟩ := List.length_eq_one_iff.mp (single r List.mem_cons_self)
    cases rs with
    | nil => simp [chain]
    | cons s rs =>
      have rest := ih (List.cons_ne_nil _ _) fun t ht => single t (List.mem_cons_of_mem _ ht)
      rw [chain, rest]
      simp [beside]

theorem truth_chain_single {ν : List Lexeme → Option Bool} {rs : List Reading} (some : rs ≠ [])
    (single : ∀ r ∈ rs, r.length = 1) :
    (chain rs).truth ν = Option.some true ↔ ∀ r ∈ rs, r.truth ν = Option.some true := by
  have own : ∀ r ∈ rs,
      (r.truth ν = Option.some true ↔ ∀ o ∈ r.flatten, ν o = Option.some true) := by
    intro r hr
    obtain ⟨operands, rfl⟩ := List.length_eq_one_iff.mp (single r hr)
    simp [truth_eq_true_iff]
  rw [chain_single some single, truth_eq_true_iff]
  simp only [List.mem_singleton, exists_eq_left]
  constructor
  · intro all r hr
    refine (own r hr).mpr fun o ho => all o ?_
    rw [List.flatten_flatten]
    exact List.mem_flatten.mpr ⟨r.flatten, List.mem_map_of_mem hr, ho⟩
  · intro all o ho
    rw [List.flatten_flatten] at ho
    obtain ⟨operands, ho', there⟩ := List.mem_flatten.mp ho
    obtain ⟨r, hr, rfl⟩ := List.mem_map.mp ho'
    exact (own r hr).mp (all r hr) o there

/-- The first alternative of an expression with OR is not touched by what comes after it. -/
theorem exists_early {before : List Reading} {r : Reading} {after : List Reading}
    (full : ∀ t ∈ before ++ r :: after, t.IsFull) (alternatives : 2 ≤ r.length) :
    ∃ c ∈ chain (before ++ r :: after), ∀ o ∈ c, ∃ t ∈ before ++ [r], o ∈ t.flatten := by
  induction before with
  | nil =>
    obtain ⟨first, second, rest, rfl⟩ : ∃ first second rest, r = first :: second :: rest := by
      match r, alternatives with
      | first :: second :: rest, _ => exact ⟨first, second, rest, rfl⟩
    refine ⟨first, ?_, fun o ho => ⟨_, List.mem_cons_self, by simp [ho]⟩⟩
    cases after with
    | nil => exact List.mem_cons_self
    | cons t after =>
      rw [List.nil_append, chain, beside_cons _ (List.cons_ne_nil _ _)]
      exact List.mem_cons_self
  | cons t before ih =>
    have others : ∀ u ∈ before ++ r :: after, u.IsFull :=
      fun u hu => full u (List.mem_cons_of_mem t hu)
    obtain ⟨c, hc, own⟩ := ih others
    have whole := isFull_chain (by simp) others
    obtain ⟨t', last, first, s', ht, hs, joined⟩ :=
      exists_ends (full t List.mem_cons_self).1 whole.1
    have within : ∀ o ∈ c, ∃ u ∈ t :: before ++ [r], o ∈ u.flatten := by
      intro o ho
      obtain ⟨u, hu, there⟩ := own o ho
      exact ⟨u, List.mem_cons_of_mem t hu, there⟩
    rw [List.cons_append, chain_cons t (by simp), joined]
    rw [hs] at hc
    -- at the AND the alternative takes in operands of `t`, which stands before `r` as well
    rcases List.mem_cons.mp hc with rfl | behind
    · refine ⟨last ++ c, by simp, fun o ho => ?_⟩
      rcases List.mem_append.mp ho with at_last | at_c
      · exact ⟨t, List.mem_cons_self, List.mem_flatten.mpr ⟨last, by simp [ht], at_last⟩⟩
      · exact within o at_c
    · exact ⟨c, by simp [behind], within⟩

/-- The last alternative of an expression with OR at the end is not touched by what comes before
it. -/
theorem exists_late {before : List Reading} {r : Reading}
    (full : ∀ t ∈ before ++ [r], t.IsFull) (alternatives : 2 ≤ r.length) :
    ∃ c ∈ (chain (before ++ [r])).tail, c ∈ r := by
  induction before with
  | nil =>
    match r, alternatives with
    | first :: second :: rest, _ => exact ⟨second, by simp [chain], by simp⟩
  | cons t before ih =>
    have others : ∀ u ∈ before ++ [r], u.IsFull := fun u hu => full u (List.mem_cons_of_mem t hu)
    obtain ⟨c, hc, own⟩ := ih others
    have whole := isFull_chain (by simp) others
    obtain ⟨t', last, first, s', ht, hs, joined⟩ :=
      exists_ends (full t List.mem_cons_self).1 whole.1
    refine ⟨c, ?_, own⟩
    rw [List.cons_append, chain_cons t (by simp), joined]
    rw [hs, List.tail_cons] at hc
    cases t' <;> simp [hc]

/-- An expression is not true without any of its operands. -/
theorem truth_ne_true {ν : List Lexeme → Option Bool} {r : Reading} (full : r.IsFull)
    (h : ∀ o ∈ r.flatten, ν o ≠ some true) : r.truth ν ≠ some true := by
  intro holds
  obtain ⟨operands, there, own⟩ := truth_eq_true_iff.mp holds
  obtain ⟨o, rest, rfl⟩ := List.exists_cons_of_ne_nil (full.2 operands there).1
  exact h o (List.mem_flatten.mpr ⟨_, there, List.mem_cons_self⟩) (own o List.mem_cons_self)

/-- If no operand is repeated, expressions have no operands in common. -/
theorem pairwise_disjoint {rs : List Reading} (distinct : rs.flatten.flatten.Nodup) :
    rs.Pairwise fun r t => r.flatten.Disjoint t.flatten := by
  rw [List.flatten_flatten, List.nodup_flatten] at distinct
  exact List.pairwise_map.mp distinct.2

/-- AND between expressions is their conjunction if none of them has an OR. -/
theorem truth_chain_iff {rs : List Reading} (some : rs ≠ [])
    (single : rs.length = 1 ∨ ∀ r ∈ rs, r.length = 1) (ν : List Lexeme → Option Bool) :
    (chain rs).truth ν = Option.some true ↔ ∀ r ∈ rs, r.truth ν = Option.some true := by
  rcases single with one | single
  · obtain ⟨r, rfl⟩ := List.length_eq_one_iff.mp one
    simp [chain]
  · exact truth_chain_single some single

open Classical in
/-- **AND between expressions is their conjunction only without OR**, if no operand is repeated. -/
theorem single_of_truth_chain {rs : List Reading} (full : ∀ r ∈ rs, r.IsFull)
    (distinct : rs.flatten.flatten.Nodup)
    (same : ∀ ν, (chain rs).truth ν = some true ↔ ∀ r ∈ rs, r.truth ν = some true) :
    rs.length = 1 ∨ ∀ r ∈ rs, r.length = 1 := by
  by_contra neither
  push Not at neither
  obtain ⟨several, r, hr, alternatives⟩ := neither
  have two : 2 ≤ r.length := by
    have positive := List.length_pos_iff.mpr (full r hr).1
    omega
  obtain ⟨before, after, split⟩ := List.append_of_mem hr
  -- another expression is untrue, and an alternative of this one does not notice
  have wrong : ∀ t ∈ rs, (∃ c ∈ chain rs, ∀ o ∈ c, o ∉ t.flatten) → False := by
    rintro t ht ⟨c, hc, outside⟩
    let ν : List Lexeme → Option Bool := fun o => some (decide (o ∉ t.flatten))
    have holds : (chain rs).truth ν = some true :=
      truth_eq_true_iff.mpr ⟨c, hc, fun o ho => congrArg _ (decide_eq_true (outside o ho))⟩
    refine truth_ne_true (full t ht) (fun o ho => ?_) ((same ν).mp holds t ht)
    simp only [ν, decide_not, decide_eq_true ho]
    decide
  subst split
  have disjoint := pairwise_disjoint distinct
  cases after with
  | cons t after =>
    obtain ⟨c, hc, own⟩ := exists_early full two
    rw [List.append_cons before r (t :: after)] at disjoint
    have apart := (List.pairwise_append.mp disjoint).2.2
    refine wrong t (by simp) ⟨c, hc, fun o ho there => ?_⟩
    obtain ⟨u, hu, here⟩ := own o ho
    exact apart u hu t List.mem_cons_self here there
  | nil =>
    obtain ⟨c, hc, own⟩ := exists_late full two
    have apart := (List.pairwise_append.mp disjoint).2.2
    have more : before ≠ [] := by
      rintro rfl
      exact several rfl
    obtain ⟨t, ht⟩ := List.exists_mem_of_ne_nil before more
    refine wrong t (by simp [ht]) ⟨c, List.mem_of_mem_tail hc, fun o ho there => ?_⟩
    exact apart t ht r List.mem_cons_self there (List.mem_flatten.mpr ⟨c, own, ho⟩)

/-- AND between expressions some of which have an OR can be true where one of them is not. -/
theorem exists_truth_chain {rs : List Reading} (full : ∀ r ∈ rs, r.IsFull)
    (distinct : rs.flatten.flatten.Nodup)
    (several : ¬ (rs.length = 1 ∨ ∀ r ∈ rs, r.length = 1)) :
    ∃ ν, (chain rs).truth ν = some true ∧ ∃ r ∈ rs, r.truth ν ≠ some true := by
  have given : rs ≠ [] := by
    rintro rfl
    exact several (.inr (by simp))
  by_contra same
  push Not at same
  refine several (single_of_truth_chain full distinct fun ν => ⟨same ν, ?_⟩)
  exact truth_chain_of_all given full

end Reading

namespace Fragment

/-- The reading of a fragment that is an expression of its own: quotations, comments and brackets
are closed, and each connective has its operands. -/
def reading? (f : Fragment) : Option Reading := do
  let ls ← f.lexemes?
  let (s, ms) ← scan Scope.step {} ls
  if s = {} ∧ (Reading.ofMarks ms).IsFull then some (Reading.ofMarks ms) else none

theorem reading?_eq_some_iff {f : Fragment} {r : Reading} :
    f.reading? = some r ↔
      ∃ ls ms, f.lexemes? = some ls ∧ scan Scope.step {} ls = some ({}, ms) ∧
        r = Reading.ofMarks ms ∧ r.IsFull := by
  unfold reading?
  constructor
  · intro read
    obtain ⟨ls, lexed, read⟩ := Option.bind_eq_some_iff.mp read
    obtain ⟨⟨s, ms⟩, scanned, read⟩ := Option.bind_eq_some_iff.mp read
    dsimp only at read
    split_ifs at read with complete
    obtain ⟨rfl, full⟩ := complete
    cases read
    exact ⟨ls, ms, lexed, scanned, rfl, full⟩
  · rintro ⟨ls, ms, lexed, scanned, rfl, full⟩
    simp [lexed, scanned, full]

theorem isFull_of_reading? {f : Fragment} {r : Reading} (h : f.reading? = some r) : r.IsFull := by
  obtain ⟨ls, ms, -, -, -, full⟩ := reading?_eq_some_iff.mp h
  exact full

/-- Expressions around an AND. -/
theorem reading?_and {f g : Fragment} {r s : Reading} (hf : f.reading? = some r)
    (hg : g.reading? = some s) :
    (f ++ .sql " AND " :: g).reading? = some (Reading.beside r s) := by
  obtain ⟨ls, ms, lexed, scanned, rfl, full⟩ := reading?_eq_some_iff.mp hf
  obtain ⟨ks, ns, lexed', scanned', rfl, full'⟩ := reading?_eq_some_iff.mp hg
  have connective : Scope.step {} (.word ['A', 'N', 'D']) = some ({}, [.and]) := rfl
  have all := scan_append scanned (scan_cons connective scanned')
  rw [List.singleton_append] at all
  refine reading?_eq_some_iff.mpr ⟨_, _, lexemes?_and lexed lexed', all, ?_, ?_⟩
  · rw [Reading.ofMarks_and]
  · exact Reading.isFull_beside full full'

/-- Expressions with AND between neighbours. -/
theorem reading?_join {fs : List Fragment} {rs : List Reading} (some : fs ≠ [])
    (h : List.Forall₂ (fun f r => reading? f = Option.some r) fs rs) :
    (join " AND " fs).reading? = Option.some (Reading.chain rs) := by
  induction h with
  | nil => exact absurd rfl some
  | @cons f r fs rs first others ih =>
    cases others with
    | nil => exact first
    | cons second others => exact reading?_and first (ih (List.cons_ne_nil _ _))

/-- A fragment without connectives is one operand. -/
theorem reading?_of_parts {f : Fragment} {ls : List Lexeme} (lexed : f.lexemes? = some ls)
    (given : ls ≠ []) (scanned : scan Scope.step {} ls = some ({}, ls.map .part)) :
    f.reading? = some [[ls]] := by
  refine reading?_eq_some_iff.mpr ⟨ls, _, lexed, scanned, (Reading.ofMarks_parts ls).symm, ?_⟩
  simp [Reading.IsFull, given]

end Fragment

end TableMapper
