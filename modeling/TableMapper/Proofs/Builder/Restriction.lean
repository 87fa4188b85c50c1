import TableMapper.Proofs.Builder.Filter
import TableMapper.Proofs.Builder.Filtered

/-!
# Conditions that restrict

* `Condition.IsHollow` are the conditions whose entries require nothing.
* `Filter.fragment?_eq_none_iff`: only these and the empty ones come to nothing.
* `Builder.condition_restricts`: any other condition stays in the statement, or the statement fails.
-/

namespace TableMapper

namespace Condition

/-- Each entry names a column and requires nothing of it. -/
def IsHollow : Condition → Prop
  | .template _ _ => False
  | .entries es => ∀ e ∈ es, e.2 = .ops []

theorem entryOf_eq_hollow_iff (member : String × Json) :
    (entryOf member).2 = .ops [] ↔ bracketed? member.1 = none ∧ member.2 = .object [] := by
  unfold entryOf
  cases bracketed? member.1 with
  | some expression => simp
  | none =>
    obtain ⟨key, value⟩ := member
    cases value <;> simp [comparisonOf]

/-- A condition that is read from JSON is hollow if it has members, all of which are empty objects
under names of columns. -/
theorem isHollow_ofJson {value : Json} (nonempty : (ofJson value).isEmpty = false) :
    (ofJson value).IsHollow ↔
      ∃ ms, value = .object ms ∧ ∀ m ∈ ms, bracketed? m.1 = none ∧ m.2 = .object [] := by
  cases value with
  | object ms =>
    simp only [ofJson, ofRow, IsHollow, List.forall_mem_map, entryOf_eq_hollow_iff,
      Json.object.injEq, exists_eq_left']
  | string sql => simp [ofJson, IsHollow]
  | _ => cases nonempty

end Condition

namespace Filter

variable {decl : Option TableDecl}

variable (decl) in
theorem entry?_eq_none_iff (key : String) (c : Comparison) :
    entry? decl key c = .ok none ↔ c = .ops [] := by
  cases c with
  | eq v => cases v <;> simp [ entry?]
  | among values => cases values <;> simp [ entry?]
  | raw args =>
    simp only [ entry?, reduceCtorEq, iff_false]
    cases Template.expand key args <;> simp [Except.map]
  | ops relations =>
    cases relations with
    | nil => simp [ entry?]
    | cons r relations =>
      rw [entry?_ops key (List.cons_ne_nil _ _)]
      cases (r :: relations).mapM fun r => relation decl key r.1 r.2 <;> simp [Except.map]

/-- The entries come to nothing if each of them does. -/
theorem Compiles.filterMap_eq_nil_iff {entries : List (String × Comparison)}
    {parts : List (Option Fragment)} (h : Compiles decl entries parts) :
    parts.filterMap id = [] ↔ (Condition.entries entries).IsHollow := by
  unfold Condition.IsHollow
  induction h with
  | nil => simp
  | @cons e part entries parts first _ ih =>
    have own := entry?_eq_none_iff decl e.1 e.2
    rw [first] at own
    cases part with
    | none => simpa [own.mp rfl] using ih
    | some f =>
      have asks : e.2 ≠ .ops [] := fun hollow => by cases own.mpr hollow
      simp [asks]

variable (decl) in
theorem compiles_of_isHollow {entries : List (String × Comparison)}
    (hollow : (Condition.entries entries).IsHollow) :
    Compiles decl entries (entries.map fun _ => none) := by
  refine List.forall₂_map_right_iff.mpr (List.forall₂_same.mpr fun e he => ?_)
  exact (entry?_eq_none_iff decl e.1 e.2).mpr (hollow e he)

/-- Only a condition that is empty or hollow comes to nothing. -/
theorem fragment?_eq_none_iff (c : Condition) :
    fragment? decl c = .ok none ↔ c.isEmpty = true ∨ c.IsHollow := by
  by_cases empty : c.isEmpty = true
  · simp [fragment?, empty]
  cases c with
  | template sql args =>
    simp only [fragment?, empty, Condition.IsHollow, Bool.false_eq_true, if_false, or_self,
      iff_false]
    cases Template.expand sql args <;> simp [Except.map]
  | entries es =>
    have filled : es ≠ [] := by simpa [Condition.isEmpty] using empty
    rw [or_iff_right empty]
    constructor
    · intro vanished
      rw [fragment?_entries filled] at vanished
      cases all : es.mapM fun e => entry? decl e.1 e.2 with
      | error message =>
        rw [all] at vanished
        cases vanished
      | ok parts =>
        refine (Compiles.filterMap_eq_nil_iff (mapM_eq_ok_iff.mp all)).mp ?_
        by_contra given
        rw [all, Except.map, if_neg (by rwa [List.isEmpty_iff])] at vanished
        cases vanished
    · intro hollow
      have compiled := compiles_of_isHollow decl hollow
      rw [fragment?_of_compiles filled compiled, compiled.filterMap_eq_nil_iff.mpr hollow]
      rfl

end Filter

namespace Builder

/-- **A condition restricts.**  A condition that is neither empty nor hollow adds one filter to a
builder without a mistake, or it is a mistake.  Whatever is added later, a query, an update or a
deletion then fails, or it has a WHERE clause with the filters of before and that filter. -/
theorem condition_restricts {b : Builder} (clean : b.draft.mistake = none) {c : Condition}
    (nonempty : c.isEmpty = false) (asks : ¬ c.IsHollow) :
    ((∃ f, Filter.fragment? b.decl c = .ok (some f) ∧
        (b.add (.filter c)).draft = { b.draft with filters := b.draft.filters ++ [f] }) ∨
      ∃ m, Filter.fragment? b.decl c = .error m ∧
        (b.add (.filter c)).draft = { b.draft with mistake := some m }) ∧
    ∀ later t command supply, Terminal.filtered? t = some command →
      (∃ e, ((b.add (.filter c)).addAll later).outcome t supply = .error e) ∨
        ∃ f others, Filter.fragment? b.decl c = .ok (some f) ∧
          ∃ (head : Fragment) (foot : String) (st : Statement),
            ((b.add (.filter c)).addAll later).outcome t supply = .ok st ∧
            st.sql = Fragment.sqlAfter b.binding b.tag 0 head ++ " WHERE " ++
              " AND ".intercalate
                ((Fragment.sqlsAfter b.binding b.tag (head.count b.binding)
                  (b.draft.filters ++ f :: others)).map fun s => "(" ++ s ++ ")") ++ foot := by
  have added := b.filters_add (.filter c)
  have noted := b.mistake_add (.filter c)
  simp only [Clause.filter?, Clause.mistake?, clean, Option.none_or] at added noted
  cases compiled : Filter.fragment? b.decl c with
  | error m =>
    have mistaken : (b.add (.filter c)).draft.mistake = some m := by simpa [compiled] using noted
    refine ⟨.inr ⟨m, rfl, by simp [add, compiled, modifyDraft, Draft.fail, clean]⟩, ?_⟩
    intro later t command supply kind
    rcases outcome_filtered ((b.add (.filter c)).addAll later) kind supply with
      failed | ⟨unmistaken, -⟩
    · exact .inl failed
    · rw [mistake_addAll, mistaken] at unmistaken
      cases unmistaken
  | ok part =>
    obtain ⟨f, rfl⟩ : ∃ f, part = some f := by
      refine Option.ne_none_iff_exists'.mp fun vanished => ?_
      subst vanished
      rcases (Filter.fragment?_eq_none_iff c).mp compiled with empty | hollow
      · simp [nonempty] at empty
      · exact asks hollow
    have filters : (b.add (.filter c)).draft.filters = b.draft.filters ++ [f] := by
      simpa [compiled] using added
    refine ⟨.inl ⟨f, rfl, by simp [add, compiled, modifyDraft]⟩, ?_⟩
    intro later t command supply kind
    rcases outcome_filtered ((b.add (.filter c)).addAll later) kind supply with
      failed | ⟨-, head, foot, st, written, text⟩
    · exact .inl failed
    refine .inr ⟨f, later.filterMap (Clause.filter? b.decl), rfl, head, foot, st, written, ?_⟩
    have one : b.add (.filter c) = b.addAll [.filter c] := rfl
    rw [filters_addAll, filters, one, binding_addAll, tag_addAll, binding_addAll, tag_addAll,
      decl_addAll, List.append_assoc, List.singleton_append] at text
    rw [text, Draft.whereSql, if_neg, ← String.append_assoc]
    -- there is at least the text of the new filter
    rw [Fragment.sqlsAfter_append]
    simp [Fragment.sqlsAfter]

/-- Users below 18 are the ones that are deleted. -/
theorem condition_restricts_age :
    let c := Condition.ofJson (.object [("age", .object [("<", .int 18)])])
    users.draft.mistake = none ∧ c.isEmpty = false ∧ ¬ c.IsHollow ∧
      ∃ f others, Filter.fragment? users.decl c = .ok (some f) ∧
        ∃ (head : Fragment) (foot : String) (st : Statement),
          (users.add (.filter c)).outcome .delete still = .ok st ∧
          st.sql = Fragment.sqlAfter users.binding users.tag 0 head ++ " WHERE " ++
            " AND ".intercalate
              ((Fragment.sqlsAfter users.binding users.tag (head.count users.binding)
                (users.draft.filters ++ f :: others)).map fun s => "(" ++ s ++ ")") ++ foot := by
  intro c
  have nonempty : c.isEmpty = false := rfl
  have asks : ¬ c.IsHollow := fun hollow => by cases hollow _ List.mem_cons_self
  refine ⟨rfl, nonempty, asks, ?_⟩
  obtain ⟨-, kept⟩ := condition_restricts (b := users) rfl nonempty asks
  rcases kept [] .delete .delete still rfl with ⟨e, failed⟩ | written
  · cases failed
  · exact written

/-- A deletion of users by a hollow condition: it has no WHERE clause. -/
theorem hollow_condition_vanishes :
    let c := Condition.ofJson (.object [("age", .object [])])
    c.isEmpty = false ∧ users.draft.mistake = none ∧ users.add (.filter c) = users ∧
      (users.add (.filter c)).outcome .delete still =
        .ok { sql := "DELETE FROM public.users", args := [] } :=
  ⟨by decide, rfl, rfl, rfl⟩

end Builder

end TableMapper
