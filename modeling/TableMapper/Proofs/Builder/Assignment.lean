import TableMapper.Proofs.Builder.Filter
import TableMapper.Proofs.Builder.Fresh

/-!
# Assignments

* `Builder.Assigns` says that a text assigns the values of a row to its columns.
* `Builder.assigns_assignments`: the SET list of an update does.
-/

namespace TableMapper

namespace Builder

/-- The value that an assignment has in its place.  An SQL expression has none. -/
def assigned (b : Builder) (member : String × Json) : List Piece :=
  match Text.after? "@" member.1 with
  | some _ => []
  | none => [Filter.operand b.decl member.1 true (Value.ofJson member.2)]

/-- The text of an assignment, from what is written for its value. -/
def assignmentSql (member : String × Json) (written : List String) : String :=
  match Text.after? "@" member.1 with
  | some column =>
    Sql.ident column ++ " = " ++ match member.2 with
      | .string s => s
      | other => other.render
  | none => Sql.ident member.1 ++ " = " ++ String.join written

/-- The text assigns the values of the row to its columns, in a statement with these arguments: each
value stands in its place, as a literal or as the placeholder of an argument. -/
def Assigns (b : Builder) (args : List Value) (data : Row) (text : String) : Prop :=
  ∃ written : List (List String),
    List.Forall₂ (fun m ws => List.Forall₂ (Piece.Stands b.binding b.tag args) (b.assigned m) ws)
      data written ∧
    text = ",".intercalate (List.zipWith assignmentSql data written)

variable {b : Builder}

theorem arguments_assignment (m : String × Json) :
    Fragment.arguments b.binding (b.assignment m) =
      Fragment.arguments b.binding (b.assigned m) := by
  unfold assignment assigned
  cases Text.after? "@" m.1 with
  | some column => rfl
  | none =>
    dsimp only
    rw [Fragment.arguments_sql_cons, Filter.columnValue_eq]

theorem sqlAfter_assignment (n : Nat) (m : String × Json) :
    Fragment.sqlAfter b.binding b.tag n (b.assignment m) =
      assignmentSql m (Fragment.texts b.binding b.tag n (b.assigned m)) := by
  unfold assignment assigned assignmentSql
  cases Text.after? "@" m.1 with
  | some column => exact Fragment.sqlAfter_ofText n _
  | none =>
    dsimp only
    rw [Fragment.sqlAfter_sql_cons, Filter.columnValue_eq]
    rfl

theorem arguments_assignments (data : Row) :
    Fragment.arguments b.binding (data.map b.assignment).flatten =
      Fragment.arguments b.binding (data.map b.assigned).flatten := by
  induction data with
  | nil => rfl
  | cons m data ih =>
    rw [List.map_cons, List.flatten_cons, Fragment.arguments_append, ih, arguments_assignment,
      ← Fragment.arguments_append]
    rfl

theorem sqlsAfter_assignments (n : Nat) (data : Row) :
    Fragment.sqlsAfter b.binding b.tag n (data.map b.assignment) =
      List.zipWith assignmentSql data
        (Fragment.writtenAfter b.binding b.tag n (data.map b.assigned)) := by
  induction data generalizing n with
  | nil => rfl
  | cons m data ih =>
    have count : Fragment.count b.binding (b.assignment m) =
        Fragment.count b.binding (b.assigned m) := congrArg List.length (arguments_assignment m)
    rw [List.map_cons, Fragment.sqlsAfter, sqlAfter_assignment, count, ih]
    rfl

/-- The SET list of an update assigns the values of its row, whatever follows in the statement. -/
theorem assigns_assignments (b : Builder) (data : Row) (after : List Value) :
    b.Assigns (Fragment.arguments b.binding (b.assignments (.columns data)) ++ after) data
      (Fragment.sqlAfter b.binding b.tag 0 (b.assignments (.columns data))) := by
  refine ⟨Fragment.writtenAfter b.binding b.tag 0 (data.map b.assigned), ?_, ?_⟩
  · have stand := Fragment.stands_writtenAfter b.binding b.tag [] after (data.map b.assigned)
    rw [List.nil_append, ← arguments_assignments] at stand
    rw [assignments, Fragment.arguments_join]
    exact List.forall₂_map_left_iff.mp stand
  · rw [assignments, Fragment.sqlAfter_join, sqlsAfter_assignments]

end Builder

end TableMapper
