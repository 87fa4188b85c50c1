import Mathlib.Data.List.Forall2

/-!
# Steps that may fail, along a list

`mapM` succeeds when every step does (`mapM_eq_some_iff`, `mapM_eq_none_iff`, `mapM_eq_ok_iff`), and
otherwise the first step that fails is the one that counts (`exists_first_none`, `mapM_eq_error`).
-/

namespace TableMapper

variable {α β γ ε : Type} {f : α → Option β} {g : α → Except ε γ} {as : List α}

theorem mapM_eq_some_iff {bs : List β} :
    as.mapM f = some bs ↔ List.Forall₂ (fun a b => f a = some b) as bs := by
  induction as generalizing bs with
  | nil => simp [eq_comm]
  | cons a as ih =>
    rw [List.mapM_cons, List.forall₂_cons_left_iff]
    constructor
    · intro all
      obtain ⟨b, first, all⟩ := Option.bind_eq_some_iff.mp all
      obtain ⟨rest, others, all⟩ := Option.bind_eq_some_iff.mp all
      obtain rfl : b :: rest = bs := by simpa using all
      exact ⟨b, rest, first, ih.mp others, rfl⟩
    · rintro ⟨b, rest, first, others, rfl⟩
      rw [first, ih.mpr others]
      rfl

theorem mapM_eq_ok_iff {cs : List γ} :
    as.mapM g = .ok cs ↔ List.Forall₂ (fun a c => g a = .ok c) as cs := by
  induction as generalizing cs with
  | nil =>
    rw [List.mapM_nil, List.forall₂_nil_left_iff]
    exact ⟨fun h => (Except.ok.inj h).symm, fun h => congrArg Except.ok h.symm⟩
  | cons a as ih =>
    rw [List.mapM_cons, List.forall₂_cons_left_iff]
    constructor
    · intro all
      cases first : g a with
      | error e => rw [first] at all; cases all
      | ok c =>
        cases others : as.mapM g with
        | error e => rw [first, others] at all; cases all
        | ok rest =>
          rw [first, others] at all
          cases all
          exact ⟨c, rest, rfl, ih.mp others, rfl⟩
    · rintro ⟨c, rest, first, others, rfl⟩
      rw [first, ih.mpr others]
      rfl

theorem mapM_eq_none_iff : as.mapM f = none ↔ ∃ a ∈ as, f a = none := by
  induction as with
  | nil => simp
  | cons first as ih =>
    rw [List.mapM_cons, List.exists_mem_cons_iff, ← ih]
    cases f first with
    | none => simp
    | some _ => cases as.mapM f <;> simp

/-- If all steps succeed, none of them is left out. -/
theorem filterMap_of_mapM {bs : List β} (h : as.mapM f = some bs) : as.filterMap f = bs := by
  have each := mapM_eq_some_iff.mp h
  clear h
  induction each with
  | nil => rfl
  | cons first _ ih => rw [List.filterMap_cons_some first, ih]

/-- The first step that fails. -/
theorem exists_first_none (failed : as.mapM f = none) :
    ∃ before a after, as = before ++ a :: after ∧ (∀ x ∈ before, (f x).isSome) ∧ f a = none := by
  induction as with
  | nil => cases failed
  | cons a as ih =>
    cases first : f a with
    | none => exact ⟨[], a, as, rfl, by simp, first⟩
    | some b =>
      have others : as.mapM f = none := by
        rw [List.mapM_cons, first] at failed
        cases rest : as.mapM f with
        | none => rfl
        | some bs => rw [rest] at failed; cases failed
      obtain ⟨before, a', after, split, passed, refused⟩ := ih others
      refine ⟨a :: before, a', after, by rw [split, List.cons_append], ?_, refused⟩
      intro x hx
      rcases List.mem_cons.mp hx with rfl | hx
      · rw [first]
        rfl
      · exact passed x hx

/-- The error of the first step that fails is the one that is reported. -/
theorem mapM_eq_error {before after : List α} {a : α} {e : ε}
    (passed : ∀ x ∈ before, ∃ c, g x = .ok c) (failed : g a = .error e) :
    (before ++ a :: after).mapM g = .error e := by
  induction before with
  | nil =>
    rw [List.nil_append, List.mapM_cons, failed]
    rfl
  | cons x before ih =>
    obtain ⟨c, first⟩ := passed x List.mem_cons_self
    rw [List.cons_append, List.mapM_cons, first,
      ih fun y hy => passed y (List.mem_cons_of_mem x hy)]
    rfl

/-- Two lists that are related entry by entry have related entries. -/
theorem exists_of_forall₂ {R : α → β → Prop} {bs : List β} (h : List.Forall₂ R as bs) :
    ∀ b ∈ bs, ∃ a ∈ as, R a b := by
  intro b hb
  induction h with
  | nil => cases hb
  | cons related _ ih =>
    rcases List.mem_cons.mp hb with rfl | hb
    · exact ⟨_, List.mem_cons_self, related⟩
    · obtain ⟨a, ha, r⟩ := ih hb
      exact ⟨a, List.mem_cons_of_mem _ ha, r⟩

/-- A list of which each entry is related to something. -/
theorem exists_forall₂ {R : α → β → Prop} (h : ∀ a ∈ as, ∃ b, R a b) :
    ∃ bs, List.Forall₂ R as bs := by
  induction as with
  | nil => exact ⟨[], .nil⟩
  | cons a as ih =>
    obtain ⟨b, related⟩ := h a List.mem_cons_self
    obtain ⟨bs, others⟩ := ih fun x hx => h x (List.mem_cons_of_mem a hx)
    exact ⟨b :: bs, .cons related others⟩

/-- All steps succeed if each of them does. -/
theorem exists_mapM_iff : (∃ cs, as.mapM g = .ok cs) ↔ ∀ a ∈ as, ∃ c, g a = .ok c := by
  constructor
  · rintro ⟨cs, all⟩ a ha
    obtain ⟨c, -, passed⟩ := exists_of_forall₂ (mapM_eq_ok_iff.mp all).flip a ha
    exact ⟨c, passed⟩
  · intro each
    obtain ⟨cs, all⟩ := exists_forall₂ each
    exact ⟨cs, mapM_eq_ok_iff.mpr all⟩

end TableMapper
