import Mathlib.Data.List.Basic

/-!
# Lists with keys

What is found under a key of a list: it stands there (`mem_of_lookup_eq_some`), it changes with the
values of the list (`lookup_map_value`), and it stays when another key is taken out
(`lookup_filter_ne`).  With the keys of a list all different, taking one out takes out one entry
(`countP_filter_ne`).
-/

namespace TableMapper

variable {κ α β : Type} [BEq κ] [LawfulBEq κ]

/-- What is found under a key stands there. -/
theorem mem_of_lookup_eq_some {l : List (κ × α)} {k : κ} {a : α} (h : l.lookup k = some a) :
    (k, a) ∈ l := by
  obtain ⟨before, after, split, -⟩ := List.lookup_eq_some_iff.mp h
  rw [split]
  simp

theorem lookup_map_value (f : κ → α → β) (k : κ) (l : List (κ × α)) :
    (l.map fun a => (a.1, f a.1 a.2)).lookup k = (l.lookup k).map (f k) := by
  induction l with
  | nil => rfl
  | cons a l ih =>
    obtain ⟨j, a⟩ := a
    simp only [List.map_cons, List.lookup_cons]
    cases found : k == j with
    | true =>
      rw [eq_of_beq found]
      rfl
    | false => exact ih

theorem lookup_filter_ne {k k' : κ} (h : k' ≠ k) (l : List (κ × α)) :
    (l.filter (·.1 != k)).lookup k' = l.lookup k' := by
  induction l with
  | nil => rfl
  | cons a l ih =>
    obtain ⟨j, a⟩ := a
    by_cases same : j = k
    · subst same
      simp [List.lookup_cons, beq_false_of_ne h, ih]
    · simp [same, List.lookup_cons, ih]

theorem lookup_filter_self (k : κ) (l : List (κ × α)) :
    (l.filter (·.1 != k)).lookup k = none := by
  refine List.lookup_eq_none_iff.mpr fun a ha => ?_
  have other : (a.1 != k) = true := (List.mem_filter.mp ha).2
  have different : a.1 ≠ k := by simpa using other
  simpa using Ne.symm different

/-- What is found under a key after another value was put under one. -/
theorem lookup_put [DecidableEq κ] (k k' : κ) (a : α) (l : List (κ × α)) :
    ((k, a) :: l.filter (·.1 != k)).lookup k' = if k' = k then some a else l.lookup k' := by
  rw [List.lookup_cons]
  by_cases same : k' = k
  · simp [same]
  · simp [same, beq_false_of_ne same, lookup_filter_ne same]

omit [LawfulBEq κ] in
theorem nodup_filter_ne {l : List (κ × α)} (h : (l.map (·.1)).Nodup) (k : κ) :
    ((l.filter (·.1 != k)).map (·.1)).Nodup :=
  (List.filter_sublist.map _).nodup h

theorem nodup_put {l : List (κ × α)} (h : (l.map (·.1)).Nodup) (k : κ) (a : α) :
    (((k, a) :: l.filter (·.1 != k)).map (·.1)).Nodup := by
  refine List.nodup_cons.mpr ⟨fun there => ?_, nodup_filter_ne h k⟩
  obtain ⟨b, hb, same⟩ := List.mem_map.mp there
  simpa [same] using (List.mem_filter.mp hb).2

/-- Taking a key out takes out what is found under it, and nothing else. -/
theorem countP_filter_ne {l : List (κ × α)} (h : (l.map (·.1)).Nodup) (p : α → Bool) (k : κ) :
    l.countP (fun a => p a.2) =
      (l.filter (·.1 != k)).countP (fun a => p a.2) + ((l.lookup k).any p).toNat := by
  induction l with
  | nil => rfl
  | cons a l ih =>
    obtain ⟨j, a⟩ := a
    obtain ⟨new, h⟩ := List.nodup_cons.mp h
    by_cases same : j = k
    · subst same
      have others : l.filter (·.1 != j) = l := by
        refine List.filter_eq_self.mpr fun b hb => ?_
        have other : b.1 ≠ j := fun same => new (List.mem_map.mpr ⟨b, hb, same⟩)
        simpa using other
      cases hp : p a <;> simp [others, hp]
    · have other : (k == j) = false := beq_false_of_ne (Ne.symm same)
      have rest := ih h
      cases hp : p a <;> simp [same, hp, List.lookup_cons, other, rest]
      omega

end TableMapper
