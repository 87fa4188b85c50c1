import Mathlib.Data.List.DropRight
import Mathlib.Data.List.Infix
import Mathlib.Logic.Relation
import TableMapper.Text.Letter
import TableMapper.Text.Search

/-!
# Finding and cutting text, as relations between lists

The functions of `TableMapper.Text.Search` are described by the prefix and infix relations of
lists.

* `Text.dropStart?_eq_some_iff`, `Text.occurs_iff_infix`, `Text.cutAtChars?_append` and
  `Text.cutWhere?_append` say what is found;
* `Text.Deletes p s s'` removes one occurrence of `p`, and `Text.deletes_replaceFrom` makes a round
  of replacements by nothing out of such steps;
* `Text.length_replaceFrom_lt` bounds the number of rounds that find something;
* `Text.trimChars_padded` takes blanks off both ends of a text, and `Text.wordsFrom_append` and
  `Text.wordsFrom_blanks` read the words of a text one after the other;
* `Text.deletes_confluent` and `Text.eq_of_deletes` say that the order of deletions does not matter
  for a word that cannot overlap itself.
-/

namespace TableMapper

namespace Text

/-- A stretch of characters with a property ends at the first one without it. -/
theorem dropWhile_append {p : Char → Bool} {cs rest : List Char} (all : ∀ c ∈ cs, p c = true)
    (stop : ∀ c ∈ rest.head?, p c = false) : (cs ++ rest).dropWhile p = rest := by
  rw [List.dropWhile_append_of_pos all]
  cases rest with
  | nil => rfl
  | cons c rest => rw [List.dropWhile_cons_of_neg (by simp [stop c rfl])]

/-! ### Prefixes and occurrences -/

@[simp] theorem dropStart?_append (p s : List Char) : dropStart? p (p ++ s) = some s := by
  induction p with
  | nil => cases s <;> rfl
  | cons c p ih => simp [dropStart?, ih]

@[simp] theorem dropEnd?_append (s p : List Char) : dropEnd? p (s ++ p) = some s := by
  rw [dropEnd?, List.reverse_append, dropStart?_append, Option.map_some, List.reverse_reverse]

theorem dropStart?_eq_some_iff {p s r : List Char} : dropStart? p s = some r ↔ s = p ++ r := by
  constructor
  · intro h
    induction p generalizing s with
    | nil => cases s <;> simpa [dropStart?] using h
    | cons c p ih =>
      cases s with
      | nil => simp [dropStart?] at h
      | cons d s =>
        simp only [dropStart?] at h
        split_ifs at h with hc
        rw [hc, ih h, List.cons_append]
  · rintro rfl
    exact dropStart?_append p r

/-- What a text is after its start. -/
theorem after?_eq_some_iff {p s r : String} : after? p s = some r ↔ s = p ++ r := by
  rw [after?, Option.map_eq_some_iff]
  constructor
  · rintro ⟨rest, cut, rfl⟩
    rw [← String.toList_inj, dropStart?_eq_some_iff.mp cut]
    simp
  · rintro rfl
    exact ⟨r.toList, by simp, String.ofList_toList⟩

theorem dropStart?_eq_none_iff {p s : List Char} : dropStart? p s = none ↔ ¬ p <+: s := by
  rw [Option.eq_none_iff_forall_ne_some]
  constructor
  · rintro h ⟨r, rfl⟩
    exact h r (dropStart?_append p r)
  · rintro h r hr
    exact h ⟨r, (dropStart?_eq_some_iff.1 hr).symm⟩

theorem occurs_iff_infix {p s : List Char} : occurs p s = true ↔ p <:+: s := by
  induction s with
  | nil => simp [occurs, List.isEmpty_iff]
  | cons c s ih => rw [occurs, Bool.or_eq_true, ih, List.isPrefixOf_iff_prefix, List.infix_cons_iff]

/-- A cut is made at the occurrence after `a` unless `p` starts at a character of `a`. -/
theorem cutAtChars?_append {p a b : List Char}
    (h : ∀ u v, a = u ++ v → v ≠ [] → ¬ p <+: v ++ (p ++ b)) :
    cutAtChars? p (a ++ (p ++ b)) = some (a, b) := by
  induction a with
  | nil =>
    rw [List.nil_append]
    cases hs : p ++ b with
    | nil =>
      obtain ⟨rfl, rfl⟩ := List.append_eq_nil_iff.1 hs
      rfl
    | cons c s => rw [cutAtChars?, ← hs, dropStart?_append]
  | cons c a ih =>
    have hc : dropStart? p (c :: (a ++ (p ++ b))) = none :=
      dropStart?_eq_none_iff.2 (h [] (c :: a) rfl (List.cons_ne_nil c a))
    have ha := ih fun u v hv hne => h (c :: u) v (by rw [hv, List.cons_append]) hne
    rw [List.cons_append, cutAtChars?, hc, ha, Option.map_some]

theorem eq_append_of_cutAtChars? {p s a b : List Char} (h : cutAtChars? p s = some (a, b)) :
    s = a ++ (p ++ b) := by
  induction s generalizing a with
  | nil =>
    simp only [cutAtChars?] at h
    split_ifs at h with hp
    obtain ⟨rfl, rfl⟩ : [] = a ∧ [] = b := by simpa using h
    rw [List.isEmpty_iff.1 hp]
    rfl
  | cons c s ih =>
    simp only [cutAtChars?] at h
    split at h
    case h_1 r hr =>
      obtain ⟨rfl, rfl⟩ : [] = a ∧ r = b := by simpa using h
      rw [List.nil_append]
      exact dropStart?_eq_some_iff.1 hr
    case h_2 =>
      obtain ⟨⟨a', b'⟩, ha, heq⟩ := Option.map_eq_some_iff.1 h
      obtain ⟨rfl, rfl⟩ : c :: a' = a ∧ b' = b := by simpa using heq
      rw [ih ha, List.cons_append]

/-- A cut at a single character is made where it stands first. -/
theorem cutAtChars?_singleton {c : Char} {a : List Char} (h : c ∉ a) (b : List Char) :
    cutAtChars? [c] (a ++ c :: b) = some (a, b) := by
  refine cutAtChars?_append fun u v split some start => ?_
  obtain ⟨d, v, rfl⟩ := List.exists_cons_of_ne_nil some
  obtain rfl : c = d := by simpa using start
  exact h (split ▸ List.mem_append_right u List.mem_cons_self)

theorem cutAtChars?_eq_none {c : Char} {s : List Char} (h : c ∉ s) : cutAtChars? [c] s = none := by
  by_contra some
  obtain ⟨⟨a, b⟩, cut⟩ := Option.ne_none_iff_exists'.mp some
  exact h (eq_append_of_cutAtChars? cut ▸ List.mem_append_right a List.mem_cons_self)

/-- A cut at a character with a property is made where the first one stands. -/
theorem cutWhere?_append {p : Char → Bool} {a : List Char} {c : Char}
    (before : ∀ d ∈ a, p d = false) (here : p c = true) (b : List Char) :
    cutWhere? p (a ++ c :: b) = some (a, b) := by
  induction a with
  | nil => rw [List.nil_append, cutWhere?, if_pos here]
  | cons d a ih =>
    have other : p d = false := before d List.mem_cons_self
    rw [List.cons_append, cutWhere?, other, if_neg Bool.false_ne_true,
      ih fun e later => before e (List.mem_cons_of_mem d later), Option.map_some]

theorem exists_of_cutWhere? {p : Char → Bool} {s a b : List Char}
    (h : cutWhere? p s = some (a, b)) :
    ∃ c, s = a ++ c :: b ∧ p c = true ∧ ∀ d ∈ a, p d = false := by
  induction s generalizing a with
  | nil => cases h
  | cons c s ih =>
    rw [cutWhere?] at h
    split at h
    next here =>
      obtain ⟨rfl, rfl⟩ := Prod.mk.inj (Option.some.inj h)
      exact ⟨c, rfl, here, nofun⟩
    next other =>
      obtain ⟨⟨a', b'⟩, later, same⟩ := Option.map_eq_some_iff.mp h
      obtain ⟨rfl, rfl⟩ := Prod.mk.inj same
      obtain ⟨d, rfl, here, before⟩ := ih later
      exact ⟨d, rfl, here, List.forall_mem_cons.mpr ⟨Bool.eq_false_iff.mpr other, before⟩⟩

theorem cutWhere?_eq_none {p : Char → Bool} {s : List Char} (h : cutWhere? p s = none) :
    ∀ c ∈ s, p c = false := by
  intro c inside
  obtain ⟨a, b, rfl⟩ := List.append_of_mem inside
  by_contra here
  rw [Bool.not_eq_false] at here
  induction a with
  | nil => rw [List.nil_append, cutWhere?, if_pos here] at h; cases h
  | cons d a ih =>
    rw [List.cons_append, cutWhere?] at h
    split at h
    · cases h
    · exact ih (Option.map_eq_none_iff.mp h) (List.mem_append_right a List.mem_cons_self)

/-! ### Texts between separators -/

theorem subset_intercalate {sep part : List Char} {parts : List (List Char)} (h : part ∈ parts) :
    part ⊆ sep.intercalate parts := by
  induction parts with
  | nil => cases h
  | cons first parts ih =>
    cases parts with
    | nil =>
      obtain rfl := List.mem_singleton.mp h
      rw [List.intercalate_singleton]
      exact List.Subset.refl part
    | cons next parts =>
      rw [List.intercalate_cons_cons]
      obtain rfl | later := List.mem_cons.mp h
      · exact List.subset_append_of_subset_left _ (List.subset_append_left part sep)
      · exact List.subset_append_of_subset_right _ (ih later)

theorem mem_intercalate {c : Char} {sep : List Char} {parts : List (List Char)}
    (h : c ∈ sep.intercalate parts) : c ∈ sep ∨ ∃ part ∈ parts, c ∈ part := by
  induction parts with
  | nil => cases h
  | cons first parts ih =>
    cases parts with
    | nil =>
      rw [List.intercalate_singleton] at h
      exact .inr ⟨first, List.mem_singleton_self first, h⟩
    | cons next parts =>
      rw [List.intercalate_cons_cons, List.mem_append, List.mem_append] at h
      obtain (here | mark) | later := h
      · exact .inr ⟨first, List.mem_cons_self, here⟩
      · exact .inl mark
      · refine (ih later).imp_right fun ⟨part, inside, found⟩ => ?_
        exact ⟨part, List.mem_cons_of_mem first inside, found⟩

theorem subset_of_mem_splitOn {c : Char} {s part : List Char} (h : part ∈ s.splitOn c) :
    part ⊆ s := by
  have parts : part ⊆ [c].intercalate (s.splitOn c) := subset_intercalate h
  rwa [List.intercalate_splitOn] at parts

/-! ### Replacing -/

/-- Passing over characters of an occurrence is dropping them. -/
theorem replaceFrom_eq_drop (p new : List Char) (skip : Nat) (s : List Char) :
    replaceFrom p new skip s = replaceFrom p new 0 (s.drop skip) := by
  induction skip generalizing s with
  | zero => rw [List.drop_zero]
  | succ skip ih =>
    cases s with
    | nil => simp [replaceFrom]
    | cons c s => rw [replaceFrom, ih, List.drop_succ_cons]

theorem replaceFrom_append {p : List Char} (hp : p ≠ []) (new s : List Char) :
    replaceFrom p new 0 (p ++ s) = new ++ replaceFrom p new 0 s := by
  obtain ⟨c, q, rfl⟩ := List.exists_cons_of_ne_nil hp
  have hpre : (c :: q).isPrefixOf (c :: (q ++ s)) = true :=
    List.isPrefixOf_iff_prefix.2 ⟨s, rfl⟩
  rw [List.cons_append, replaceFrom, if_pos hpre, replaceFrom_eq_drop, List.length_cons,
    Nat.add_sub_cancel, List.drop_left]

theorem replaceFrom_cons {p s : List Char} {c : Char} (h : ¬ p <+: c :: s) (new : List Char) :
    replaceFrom p new 0 (c :: s) = c :: replaceFrom p new 0 s := by
  rw [replaceFrom, if_neg (by rwa [List.isPrefixOf_iff_prefix])]

/-- A list is empty, starts with `p`, or starts with a character at which `p` does not stand: the
cases of a replacement. -/
theorem replaceCases {p : List Char} (hp : p ≠ []) {motive : List Char → Prop} (nil : motive [])
    (found : ∀ s, motive s → motive (p ++ s))
    (passed : ∀ c s, ¬ p <+: c :: s → motive s → motive (c :: s)) (s : List Char) : motive s := by
  induction hn : s.length using Nat.strong_induction_on generalizing s with
  | h n ih =>
    subst hn
    by_cases h : p <+: s
    · -- `p` is not empty, so what follows it is shorter
      obtain ⟨r, rfl⟩ := h
      have := List.length_pos_iff.2 hp
      exact found r (ih r.length (by rw [List.length_append]; omega) r rfl)
    · cases s with
      | nil => exact nil
      | cons c s => exact passed c s h (ih s.length (by simp) s rfl)

/-! ### Deleting occurrences one at a time -/

/-- `s'` is `s` without one occurrence of `p`. -/
def Deletes (p s s' : List Char) : Prop := ∃ a b, s = a ++ (p ++ b) ∧ s' = a ++ b

theorem Deletes.cons {p s s' : List Char} (c : Char) (h : Deletes p s s') :
    Deletes p (c :: s) (c :: s') := by
  obtain ⟨a, b, rfl, rfl⟩ := h
  exact ⟨c :: a, b, rfl, rfl⟩

/-- A round of replacements by nothing deletes occurrences one at a time. -/
theorem deletes_replaceFrom {p : List Char} (hp : p ≠ []) (s : List Char) :
    Relation.ReflTransGen (Deletes p) s (replaceFrom p [] 0 s) := by
  induction s using replaceCases hp with
  | nil => exact .refl
  | found s ih =>
    rw [replaceFrom_append hp, List.nil_append]
    exact .head ⟨[], s, rfl, rfl⟩ ih
  | passed c s h ih =>
    rw [replaceFrom_cons h]
    exact ih.lift (c :: ·) fun _ _ h => h.cons c

theorem length_replaceFrom_le {p : List Char} (hp : p ≠ []) (s : List Char) :
    (replaceFrom p [] 0 s).length ≤ s.length := by
  induction s using replaceCases hp with
  | nil => simp [replaceFrom]
  | found s ih =>
    rw [replaceFrom_append hp, List.nil_append, List.length_append]
    omega
  | passed c s h ih =>
    rw [replaceFrom_cons h, List.length_cons, List.length_cons]
    omega

/-- A round that finds an occurrence shortens the list. -/
theorem length_replaceFrom_lt {p : List Char} (hp : p ≠ []) {s : List Char} (h : p <:+: s) :
    (replaceFrom p [] 0 s).length < s.length := by
  induction s using replaceCases hp with
  | nil => exact absurd (List.infix_nil.1 h) hp
  | found s ih =>
    have hle := length_replaceFrom_le hp s
    have hpos := List.length_pos_iff.2 hp
    rw [replaceFrom_append hp, List.nil_append, List.length_append]
    omega
  | passed c s hc ih =>
    have hs : p <:+: s := (List.infix_cons_iff.1 h).resolve_left hc
    rw [replaceFrom_cons hc, List.length_cons, List.length_cons]
    exact Nat.succ_lt_succ (ih hs)

end Text

/-! ### Words between blanks -/

namespace Text

variable {word cs gap rest before after : List Char} {b : Char}

theorem trimChars_sublist (cs : List Char) : (trimChars cs).Sublist cs :=
  (List.rdropWhile_prefix isBlank _).sublist.trans (List.dropWhile_sublist isBlank)

/-- Blanks around a text are trimmed if it starts and ends with none. -/
theorem trimChars_padded (some : cs ≠ []) (early : ∀ c ∈ before, isBlank c = true)
    (late : ∀ c ∈ after, isBlank c = true) (first : ∀ c ∈ cs.head?, isBlank c = false)
    (last : ∀ c ∈ cs.getLast?, isBlank c = false) : trimChars (before ++ cs ++ after) = cs := by
  have start : ∀ c ∈ (cs ++ after).head?, isBlank c = false := by
    rw [List.head?_append_of_ne_nil _ some]
    exact first
  have stop : ∀ c ∈ cs.reverse.head?, isBlank c = false := by
    rw [List.head?_reverse]
    exact last
  have late' : ∀ c ∈ after.reverse, isBlank c = true := fun c hc => late c (List.mem_reverse.mp hc)
  rw [trimChars, dropStartWhile, List.append_assoc, dropWhile_append early start, dropEndWhile,
    List.reverse_append, dropWhile_append late' stop, List.reverse_reverse]

/-- A word ends at a blank. -/
theorem wordsFrom_append (some : word ++ cs ≠ []) (solid : ∀ c ∈ cs, isBlank c = false)
    (blank : isBlank b = true) :
    wordsFrom word (cs ++ b :: rest) = (word.reverse ++ cs) :: wordsFrom [] rest := by
  induction cs generalizing word with
  | nil =>
    have kept : word.isEmpty = false := by simpa using some
    rw [List.nil_append, wordsFrom, if_pos blank, kept, List.append_nil]
    rfl
  | cons c cs ih =>
    have here := solid c List.mem_cons_self
    rw [List.cons_append, wordsFrom, here, if_neg Bool.false_ne_true,
      ih (by simp) fun d hd => solid d (List.mem_cons_of_mem c hd), List.reverse_cons,
      List.append_assoc, List.singleton_append]

/-- The last word ends with the text. -/
theorem wordsFrom_solid (some : word ++ cs ≠ []) (solid : ∀ c ∈ cs, isBlank c = false) :
    wordsFrom word cs = [word.reverse ++ cs] := by
  induction cs generalizing word with
  | nil =>
    have kept : word.isEmpty = false := by simpa using some
    rw [wordsFrom, kept, List.append_nil]
    rfl
  | cons c cs ih =>
    have here := solid c List.mem_cons_self
    rw [wordsFrom, here, if_neg Bool.false_ne_true,
      ih (by simp) fun d hd => solid d (List.mem_cons_of_mem c hd), List.reverse_cons,
      List.append_assoc, List.singleton_append]

/-- There is no word in blanks. -/
theorem wordsFrom_blanks (blank : ∀ c ∈ gap, isBlank c = true) :
    wordsFrom [] (gap ++ rest) = wordsFrom [] rest := by
  induction gap with
  | nil => rfl
  | cons c gap ih =>
    rw [List.cons_append, wordsFrom, if_pos (blank c List.mem_cons_self)]
    exact ih fun d hd => blank d (List.mem_cons_of_mem c hd)

end Text

/-! ### Deleting a word until it is gone

A word whose first character occurs in it only once has no two occurrences that overlap, so it does
not matter in which order its occurrences are deleted.

* `Text.wellFounded_deletes`: the occurrences of a word cannot be deleted forever.
* `Text.append_eq_append_word`: two occurrences of such a word are the same one, or one of them is
  over when the other one starts.
* `Text.Deletes.diamond` closes two deletions again, and `Text.deletes_confluent` two sequences of
  them.
* `Text.eq_of_deletes`: what is left at the end is the same for all sequences. -/

namespace Text

open Relation (ReflTransGen)

variable {c : Char} {p q s s' u v : List Char}

/-! ### Deletions beside other text -/

theorem Deletes.length_eq (h : Deletes p s s') : s.length = s'.length + p.length := by
  obtain ⟨a, b, rfl, rfl⟩ := h
  simp only [List.length_append]
  omega

/-- Deletions come to an end in any order, as each of them shortens the text. -/
theorem wellFounded_deletes (hp : p ≠ []) : WellFounded fun s' s => Deletes p s s' := by
  refine Subrelation.wf (fun {s' s} h => ?_) (measure List.length).wf
  have shorter := h.length_eq
  have some := List.length_pos_iff.mpr hp
  show s'.length < s.length
  omega

theorem Deletes.append_left (t : List Char) (h : Deletes p s s') :
    Deletes p (t ++ s) (t ++ s') := by
  obtain ⟨a, b, rfl, rfl⟩ := h
  exact ⟨t ++ a, b, by simp, by simp⟩

theorem Deletes.append_right (t : List Char) (h : Deletes p s s') :
    Deletes p (s ++ t) (s' ++ t) := by
  obtain ⟨a, b, rfl, rfl⟩ := h
  exact ⟨a, b ++ t, by simp, by simp⟩

/-- What is deleted in two texts is deleted in both of them together. -/
theorem deletes_append (h : ReflTransGen (Deletes p) s s') (h' : ReflTransGen (Deletes p) u v) :
    ReflTransGen (Deletes p) (s ++ u) (s' ++ v) :=
  (h.lift (· ++ u) fun _ _ => Deletes.append_right u).trans
    (h'.lift (s' ++ ·) fun _ _ => Deletes.append_left s')

/-- Where the word does not occur, nothing can be deleted. -/
theorem eq_of_deletes_of_absent (h : ReflTransGen (Deletes p) s s') (none : ¬ p <:+: s) :
    s' = s := by
  obtain rfl | ⟨_, ⟨a, b, rfl, -⟩, -⟩ := h.cases_head
  · rfl
  · exact absurd ⟨a, b, by simp⟩ none

/-! ### Confluence -/

/-- A word with its first character only once does not overlap with itself: an occurrence after `x`
is the one at the start, or stands behind it. -/
theorem append_eq_append_word (hq : c ∉ q) {b x b' : List Char}
    (h : c :: q ++ b = x ++ (c :: q ++ b')) :
    (x = [] ∧ b = b') ∨ ∃ y, x = c :: q ++ y ∧ b = y ++ (c :: q ++ b') := by
  obtain ⟨y, rfl, rest⟩ | ⟨y, word, rest⟩ := List.append_eq_append_iff.mp h
  · exact .inr ⟨y, rfl, rest⟩
  · cases x with
    | nil => exact .inl ⟨rfl, List.append_cancel_left h⟩
    | cons d x =>
      obtain ⟨rfl, rfl⟩ := List.cons.inj word
      cases y with
      | nil => exact .inr ⟨[], by simp, by simpa using rest.symm⟩
      | cons e y =>
        -- the second occurrence would start inside of the first one
        obtain rfl : c = e := (List.cons.inj rest).1
        exact absurd (List.mem_append_right x List.mem_cons_self) hq

/-- Of two deletions that differ, each can be done after the other. -/
theorem Deletes.diamond (hq : c ∉ q) (hu : Deletes (c :: q) s u) (hv : Deletes (c :: q) s v) :
    u = v ∨ ∃ w, Deletes (c :: q) u w ∧ Deletes (c :: q) v w := by
  have later {a b x b' : List Char} (h : c :: q ++ b = x ++ (c :: q ++ b')) :
      a ++ b = a ++ x ++ b' ∨
        ∃ w, Deletes (c :: q) (a ++ b) w ∧ Deletes (c :: q) (a ++ x ++ b') w := by
    obtain ⟨rfl, rfl⟩ | ⟨y, rfl, rfl⟩ := append_eq_append_word hq h
    · exact .inl (by simp)
    · exact .inr ⟨a ++ y ++ b', ⟨a ++ y, b', by simp, rfl⟩, ⟨a, y ++ b', by simp, by simp⟩⟩
  obtain ⟨a, b, rfl, rfl⟩ := hu
  obtain ⟨a', b', same, rfl⟩ := hv
  obtain ⟨x, rfl, rest⟩ | ⟨x, rfl, rest⟩ := List.append_eq_append_iff.mp same
  · exact later rest
  · obtain equal | ⟨w, hw', hw⟩ := later rest
    · exact .inl equal.symm
    · exact .inr ⟨w, hw, hw'⟩

/-- Two sequences of deletions can be continued to the same text. -/
theorem deletes_confluent (hq : c ∉ q) (hu : ReflTransGen (Deletes (c :: q)) s u)
    (hv : ReflTransGen (Deletes (c :: q)) s v) :
    Relation.Join (ReflTransGen (Deletes (c :: q))) u v := by
  refine Relation.church_rosser (fun a b d hb hd => ?_) hu hv
  obtain rfl | ⟨w, hw, hw'⟩ := hb.diamond hq hd
  · exact ⟨b, .refl, .refl⟩
  · exact ⟨w, .single hw, .single hw'⟩

/-- Whatever was deleted before, a text without the word is still arrived at. -/
theorem deletes_of_deletes (hq : c ∉ q) (hu : ReflTransGen (Deletes (c :: q)) s u)
    (hv : ReflTransGen (Deletes (c :: q)) s v) (none : ¬ c :: q <:+: v) :
    ReflTransGen (Deletes (c :: q)) u v := by
  obtain ⟨w, hw, hw'⟩ := deletes_confluent hq hu hv
  rwa [eq_of_deletes_of_absent hw' none] at hw

/-- All sequences of deletions that come to an end arrive at the same text. -/
theorem eq_of_deletes (hq : c ∉ q) (hu : ReflTransGen (Deletes (c :: q)) s u)
    (hv : ReflTransGen (Deletes (c :: q)) s v) (none : ¬ c :: q <:+: u)
    (none' : ¬ c :: q <:+: v) : u = v :=
  (eq_of_deletes_of_absent (deletes_of_deletes hq hu hv none') none).symm

end Text

end TableMapper
