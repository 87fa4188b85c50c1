import TableMapper.Proofs.Builder.Conjunction

/-!
# Two ways to say equal

A condition can ask for the equality of a column and a value outright, or by the operator for it.

* `Filter.entry?_sign`: by the operator, the column is compared with the value, be it NULL or not.
* `Builder.equality_spelled`: both ways are the same but for NULL, which is only recognized
  outright.
-/

namespace TableMapper

/-! ### Entries -/

namespace Filter

variable {decl : Option TableDecl} {column : String}

/-- Entries that give the same fragments, one by one, are the same condition. -/
theorem fragment?_congr {es es' : List (String × Comparison)}
    (same : (es.map fun e => entry? decl e.1 e.2) = es'.map fun e => entry? decl e.1 e.2) :
    fragment? decl (.entries es) = fragment? decl (.entries es') := by
  by_cases filled : es = []
  · subst filled
    rw [List.map_eq_nil_iff.mp same.symm]
  have filled' : es' ≠ [] := by
    rintro rfl
    exact filled (List.map_eq_nil_iff.mp same)
  have gathered (es : List (String × Comparison)) :
      (es.mapM fun e => entry? decl e.1 e.2) = (es.map fun e => entry? decl e.1 e.2).mapM id := by
    rw [List.mapM_map]
    rfl
  rw [fragment?_entries filled, fragment?_entries filled', gathered, gathered, same]

/-- A value but NULL that the column must equal. -/
theorem entry?_eq {v : Value} (known : v ≠ .null) :
    entry? decl column (.eq v) =
      .ok (some (.sql (Sql.ident column ++ " = ") :: columnValue decl column v true)) := by
  rw [ entry?]
  exact known

/-- The column in the relation of equality to a value, which may be NULL. -/
theorem entry?_sign {sign : String} (spelled : Operator.canonical? sign = some "=") (v : Value) :
    entry? decl column (.ops [(sign, v)]) =
      .ok (some (.sql (Sql.ident column ++ " = ") :: columnValue decl column v true)) := by
  have spaced : Sql.ident column ++ " " ++ "=" ++ " " = Sql.ident column ++ " = " := by
    rw [String.append_assoc, String.append_assoc]
    rfl
  rw [entry?_ops column (List.cons_ne_nil _ _), List.mapM_cons, relation, spelled]
  simp only [spaced]
  rfl

/-- The condition of one entry. -/
theorem fragment?_single {e : String × Comparison} {f : Fragment}
    (compiled : entry? decl e.1 e.2 = .ok (some f)) :
    fragment? decl (.entries [e]) = .ok (some f) :=
  fragment?_of_compiles (List.cons_ne_nil _ _) (.cons compiled .nil)

/-! ### NULL -/

variable (decl column) in
/-- NULL is written as it is, whatever the type of the column. -/
theorem operand_null (binding : Binding) (tag : DollarTag) (castable : Bool) :
    (operand decl column castable .null).argument? binding = none ∧
      (operand decl column castable .null).text tag = "NULL" := by
  unfold operand
  cases decl.bind (·.column? (bareName column)) <;> exact ⟨rfl, rfl⟩

theorem arguments_columnValue_null (binding : Binding) (castable : Bool) :
    (columnValue decl column .null castable).arguments binding = [] := by
  obtain ⟨bare, -⟩ := operand_null decl column binding default castable
  rw [columnValue_eq, Fragment.arguments, List.filterMap_cons, bare]
  rfl

theorem sqlAfter_columnValue_null (binding : Binding) (tag : DollarTag) (castable : Bool)
    (n : Nat) : (columnValue decl column .null castable).sqlAfter binding tag n = "NULL" := by
  obtain ⟨bare, text⟩ := operand_null decl column binding tag castable
  rw [columnValue_eq, Fragment.sqlAfter, Fragment.texts, bare, text]
  rfl

end Filter

namespace Condition

variable {column : String} {value : Json}

/-- The two ways as maps: the value itself, or the operator with the value. -/
theorem ofJson_equality (plain : bracketed? column = none) (single : ∀ items, value ≠ .array items)
    (simple : ∀ ms, value ≠ .object ms) (sign : String) :
    ofJson (.object [(column, value)]) = empty.eq column (Value.ofJson value) ∧
      ofJson (.object [(column, .object [(sign, value)])]) =
        empty.op column sign (Value.ofJson value) := by
  constructor
  · have outright : comparisonOf value = .eq (Value.ofJson value) := by
      cases value with
      | array items => exact absurd rfl (single items)
      | object ms => exact absurd rfl (simple ms)
      | _ => rfl
    simp only [ofJson, ofRow, List.map_cons, List.map_nil, entryOf, plain, outright]
    rfl
  · simp only [ofJson, ofRow, List.map_cons, List.map_nil, entryOf, plain]
    rfl

end Condition

/-- The last filter stands in parentheses at the end of the clause. -/
theorem Draft.whereSql_concat (texts : List String) :
    ∃ lead, ∀ s, whereSql (texts ++ [s]) = lead ++ "(" ++ s ++ ")" := by
  cases texts with
  | nil =>
    refine ⟨" WHERE ", fun s => ?_⟩
    rw [List.nil_append, whereSql, if_neg (by simp), List.map_singleton,
      String.intercalate_singleton]
    simp only [String.append_assoc]
  | cons t ts =>
    refine ⟨" WHERE " ++ " AND ".intercalate ((t :: ts).map fun s => "(" ++ s ++ ")") ++ " AND ",
      fun s => ?_⟩
    rw [whereSql, if_neg (by simp), List.map_append,
      String.intercalate_append_of_ne_nil (by simp) (by simp), List.map_singleton,
      String.intercalate_singleton]
    simp only [String.append_assoc]

namespace Builder

/-- A condition that gives a filter adds it. -/
theorem add_filter {b : Builder} {c : Condition} {f : Fragment}
    (compiled : Filter.fragment? b.decl c = .ok (some f)) :
    b.add (.filter c) = b.withFilters (b.draft.filters ++ [f]) := by
  simp only [add, compiled]
  rfl

/-- The statements with one filter more that takes no arguments differ in the text of the filter. -/
theorem outcome_bare {b : Builder} {t : Terminal} {command : Command} {table : String}
    (bound : b.table = some table) (clean : b.draft.mistake = none)
    (kind : t.filtered? = some command) (complete : t.IsComplete) (supply : IdSupply) :
    ∃ lead foot args, ∀ c f text, Filter.fragment? b.decl c = .ok (some f) →
      f.arguments b.binding = [] → (∀ n, f.sqlAfter b.binding b.tag n = text) →
        (b.add (.filter c)).outcome t supply =
          .ok { sql := lead ++ text ++ foot, args } := by
  obtain ⟨head, foot, written⟩ := outcome_withFilters bound clean kind complete supply
  obtain ⟨lead, last⟩ := Draft.whereSql_concat
    (Fragment.sqlsAfter b.binding b.tag (head.count b.binding) b.draft.filters)
  refine ⟨Fragment.sqlAfter b.binding b.tag 0 head ++ lead ++ "(", ")" ++ foot,
    head.arguments b.binding ++ Fragment.arguments b.binding b.draft.filters.flatten, ?_⟩
  intro c f text compiled bare own
  have single (n : Nat) : Fragment.sqlsAfter b.binding b.tag n [f] = [text] := by
    rw [Fragment.sqlsAfter, own]
    rfl
  rw [add_filter compiled, written, Fragment.sqlsAfter_append, single, last, List.flatten_append,
    List.flatten_singleton, Fragment.arguments_append, bare, List.append_nil]
  simp only [String.append_assoc]

/-- **Two ways to say equal.**  For a value but NULL it is the same, among any other entries,
whether a condition asks for equality outright or by the operator, in any spelling of it.  For NULL
it is not: outright the column has to be NULL, but by the operator it is compared with NULL.  Every
query, update and deletion can be written either way, and the texts differ in that comparison only,
the arguments not at all.  Maps say either way what the calls say. -/
theorem equality_spelled (b : Builder) (column sign : String)
    (spelled : Operator.canonical? sign = some "=") :
    (∀ v, v ≠ .null → ∀ before after,
      b.add (.filter (.entries (before ++ (column, .eq v) :: after))) =
        b.add (.filter (.entries (before ++ (column, .ops [(sign, v)]) :: after)))) ∧
      (∀ t command supply, Terminal.filtered? t = some command → t.IsComplete →
        b.table.isSome = true → b.draft.mistake = none →
          let outright := (b.add (.filter (Condition.empty.eq column .null))).outcome t supply
          let signed := (b.add (.filter (Condition.empty.op column sign .null))).outcome t supply
          outright ≠ signed ∧ ∃ lead foot args,
            outright = .ok { sql := lead ++ (Sql.ident column ++ " IS NULL") ++ foot, args } ∧
              signed = .ok { sql := lead ++ (Sql.ident column ++ " = NULL") ++ foot, args }) ∧
      ∀ value : Json, Condition.bracketed? column = none → (∀ items, value ≠ .array items) →
        (∀ ms, value ≠ .object ms) →
          Condition.ofJson (.object [(column, value)]) =
              Condition.empty.eq column (Value.ofJson value) ∧
            Condition.ofJson (.object [(column, .object [(sign, value)])]) =
              Condition.empty.op column sign (Value.ofJson value) := by
  refine ⟨?_, ?_, fun value plain single simple =>
    Condition.ofJson_equality plain single simple sign⟩
  · intro v known before after
    have same : Filter.fragment? b.decl (.entries (before ++ (column, .eq v) :: after)) =
        Filter.fragment? b.decl (.entries (before ++ (column, .ops [(sign, v)]) :: after)) := by
      refine Filter.fragment?_congr ?_
      rw [List.map_append, List.map_append, List.map_cons, List.map_cons, Filter.entry?_eq known,
        Filter.entry?_sign spelled]
    simp only [add, same]
  · intro t command supply kind complete bound clean
    obtain ⟨table, bound⟩ := Option.isSome_iff_exists.mp bound
    obtain ⟨lead, foot, args, written⟩ := outcome_bare bound clean kind complete supply
    have outright := written (Condition.empty.eq column .null) _ (Sql.ident column ++ " IS NULL")
      rfl rfl fun n => Fragment.sqlAfter_ofText n _
    have signed := written (Condition.empty.op column sign .null) _ (Sql.ident column ++ " = NULL")
      (Filter.fragment?_single (Filter.entry?_sign spelled .null))
      (Filter.arguments_columnValue_null _ _)
      fun n => by
        rw [Fragment.sqlAfter_sql_cons, Filter.sqlAfter_columnValue_null, String.append_assoc]
        rfl
    refine ⟨fun same => ?_, lead, foot, args, outright, signed⟩
    -- the text with the operator is the shorter one
    rw [outright, signed] at same
    have lengths := congrArg String.length (congrArg Statement.sql (Except.ok.inj same))
    simp only [String.length_append, show " IS NULL".length = 8 from rfl,
      show " = NULL".length = 7 from rfl] at lengths
    omega

/-- Users without a name are deleted outright, but not by the operator. -/
theorem equality_spelled_nameless :
    let outright := users.add (.filter (Condition.empty.eq "name" .null))
    let signed := users.add (.filter (Condition.empty.op "name" "=" .null))
    Operator.canonical? "=" = some "=" ∧
      outright.outcome .delete still ≠ signed.outcome .delete still ∧
      outright.outcome .delete still =
        .ok { sql := "DELETE FROM public.users WHERE (name IS NULL)", args := [] } ∧
      signed.outcome .delete still =
        .ok { sql := "DELETE FROM public.users WHERE (name = NULL)", args := [] } := by
  obtain ⟨-, null, -⟩ := equality_spelled users "name" "=" (by decide)
  exact ⟨by decide, (null .delete .delete still rfl trivial rfl rfl).1, rfl, rfl⟩

end Builder

end TableMapper
