import TableMapper.Proofs.Table.Spelling
import TableMapper.Proofs.Table.TableText

/-!
# Declarations and their texts

The text of a declaration is read as that declaration, under any of the names of its fields, and its
columns as if they were declared one after the other (`TableDecl.text_reads_back`).  The JSON values
in columns are an exception: a double is read with two roundings and the reader goes only so deep,
so not every default comes back (`TableDecl.text_alters_default`).
-/

namespace TableMapper

namespace TableDecl

/-! ### Values that do not come back -/

/-- A column with a small double for a default. -/
def tiny : TableDecl where
  name := "samples"
  columns := [("mass", { type := "float8", default? := some (.double (.ofDecimal false 1 (-30))) })]

/-- Arrays around a value. -/
def nested : Nat → Json
  | 0 => .null
  | n + 1 => .array [nested n]

/-- A column with a default of 125 arrays. -/
def deep : TableDecl where
  name := "samples"
  columns := [("shape", { type := "jsonb", default? := some (nested 125) })]

/-- A declaration with a value that does not come back is not read from its text. -/
theorem exists_text_of_not_fits {t : TableDecl} (proper : t.Proper) (plain : t.Plain)
    (distinct : t.columnNames.Nodup)
    (lost : ¬ ∀ column ∈ t.columns, column.2.Fits (Document.maxDepth - 3)) :
    ∃ text, t.text? = some text ∧ read? text ≠ some t := by
  obtain ⟨text, written⟩ := exists_text plain
  exact ⟨text, written, mt (read?_text written proper distinct).mp lost⟩

/-- Two declarations do not come back from their texts: one has a double of which the digits are
misread, the other has arrays that are too deep. -/
theorem text_alters_default :
    (tiny.Proper ∧ tiny.Plain ∧ tiny.columnNames.Nodup ∧
      ∃ text, tiny.text? = some text ∧ read? text ≠ some tiny) ∧
    (deep.Proper ∧ deep.Plain ∧ deep.columnNames.Nodup ∧
      ∃ text, deep.text? = some text ∧ read? text ≠ some deep) := by
  constructor
  · obtain ⟨proper, plain, distinct⟩ : tiny.Proper ∧ tiny.Plain ∧ tiny.columnNames.Nodup := by
      decide +kernel
    have lost : ¬ ∀ column ∈ tiny.columns, column.2.Fits (Document.maxDepth - 3) := by
      decide +kernel
    exact ⟨proper, plain, distinct, exists_text_of_not_fits proper plain distinct lost⟩
  · obtain ⟨proper, plain, distinct⟩ : deep.Proper ∧ deep.Plain ∧ deep.columnNames.Nodup := by
      decide +kernel
    have lost : ¬ ∀ column ∈ deep.columns, column.2.Fits (Document.maxDepth - 3) := by
      decide +kernel
    exact ⟨proper, plain, distinct, exists_text_of_not_fits proper plain distinct lost⟩

/-! ### What comes back -/

/-- A column that is declared again takes the place of the one of its name. -/
theorem setColumn_of_found {t : TableDecl} {name : String} {c d : ColumnDecl}
    {before after : List (String × ColumnDecl)} (columns : t.columns = before ++ (name, d) :: after)
    (first : name ∉ before.map Prod.fst) :
    t.setColumn name c = { t with columns := before ++ (name, c) :: after } := by
  rw [setColumn, columns, putColumn_of_found first]

/-- A column of a new name takes the last place. -/
theorem setColumn_of_absent {t : TableDecl} {name : String} {c : ColumnDecl}
    (new : name ∉ t.columnNames) :
    t.setColumn name c = { t with columns := t.columns ++ [(name, c)] } := by
  rw [setColumn, putColumn_of_absent new]

/-- **Declarations and their texts.**  A declaration without a check of the caller's, of which the
columns have different names, has a text, and it is read from that text just when the doubles in its
defaults and allowed values are read from their digits and these values do not nest too deep.  Other
names of the fields change nothing.  The columns that are written, also those of one name, are
declared in their order: a column takes the place of the one of its name, or the last place. -/
theorem text_reads_back :
    (∀ t : TableDecl, t.Proper → t.Plain → t.columnNames.Nodup → ∃ text, t.text? = some text ∧
      (read? text = some t ↔ ∀ column ∈ t.columns, column.2.Fits (Document.maxDepth - 3))) ∧
    (∀ text text' d d', Document.read? text = some d → Document.read? text' = some d' →
      Respelled d d' → read? text = read? text') ∧
    (∀ text name before ms after, name ∈ ["column", "columns"] →
      Document.read? text = some (.object (before ++ (name, .object ms) :: after)) →
      read? text = (ms.mapM (readColumn? (Document.maxDepth - 2))).bind fun columns =>
        (ofDocument? (.object (before ++ (name, .object []) :: after))).map fun t =>
          columns.foldl (fun t column => t.setColumn column.1 column.2) t) ∧
    (∀ (t : TableDecl) name c d before after, t.columns = before ++ (name, d) :: after →
      name ∉ before.map Prod.fst →
      t.setColumn name c = { t with columns := before ++ (name, c) :: after }) ∧
    (∀ (t : TableDecl) name c, name ∉ t.columnNames →
      t.setColumn name c = { t with columns := t.columns ++ [(name, c)] }) := by
  refine ⟨fun t proper plain distinct => ?written, fun text text' d d' read read' spelled => ?names,
    fun text name before ms after column read => ?columns,
    fun t name c d before after columns first => setColumn_of_found columns first,
    fun t name c new => setColumn_of_absent new⟩
  case written =>
    obtain ⟨text, written⟩ := exists_text plain
    exact ⟨text, written, read?_text written proper distinct⟩
  case names =>
    rw [read?, read?, read, read']
    exact ofDocument?_of_respelled spelled
  case columns =>
    rw [read?, read]
    exact ofDocument?_columns column before ms after

/-- A declaration with a part of every kind. -/
def visits : TableDecl where
  name := "visits"
  columns :=
    [("id", { type := "varchar(16)", typeLock := true }),
      ("place", { type := "text", references := some "places:id", onDelete := some .setNull,
                  onUpdate := some .noAction, oldName := some "site", indexType := some "hash" }),
      ("note", { type := "text", notNull := false, default? := some .null, force := true,
                 validator := some (.length (some 1) none) }),
      ("kind", { type := "text", default? := some (.string "short \"trip\"\n"), ignore := true,
                 validator := some (.oneOf [.string "short", .null, .object [("a", .int (-3))]]) }),
      ("cost", { type := "numeric(10,2)", default? := some (.double (.ofDecimal false 25 (-1))),
                 format := some "fixed", precision := some 1, drop := true,
                 validator := some (.pattern "^[0-9]+$") })]
  primaryKey := some (.columns ["id"])
  indexes := ["place", "place,kind"]
  uniques := ["note"]
  removedIndexes := ["visits_old"]
  autoId := true
  id := some (.short 12 "v")
  timestamps := some { create := some "begun" }
  pageSize := some 20
  selectFields := some []

/-- The fields of a table under their first names, and under others. -/
def plainNames : Document :=
  .object [("table", .string "visits"), ("auto_id", .bool true),
    ("column", .object [("id", .object [("type", .string "text"), ("not_null", .bool false)])]),
    ("timestamps", .object [("create", .string "begun")])]

@[inherit_doc plainNames]
def otherNames : Document :=
  .object [("tableName", .string "visits"), ("autoId", .bool true),
    ("columns", .object [("id", .object [("type", .string "text"), ("notNull", .bool false)])]),
    ("timestamps", .object [("insert", .string "begun")])]

theorem plainNames_respelled : Respelled plainNames otherNames := by
  have id : ColumnDecl.Respelled
      (.object [("type", .string "text"), ("not_null", .bool false)])
      (.object [("type", .string "text"), ("notNull", .bool false)]) :=
    .object (.cons ⟨by decide, rfl⟩ (.cons ⟨by decide, rfl⟩ .nil))
  have columns : RespelledColumns
      (.object [("id", .object [("type", .string "text"), ("not_null", .bool false)])])
      (.object [("id", .object [("type", .string "text"), ("notNull", .bool false)])]) :=
    .object (.cons ⟨rfl, id⟩ .nil)
  have timestamps : Timestamps.Respelled
      (.object [("create", .string "begun")]) (.object [("insert", .string "begun")]) :=
    .object (.cons ⟨by decide, rfl⟩ .nil)
  exact .object (.cons ⟨by decide, rfl⟩ (.cons ⟨by decide, rfl⟩ (.cons ⟨by decide, columns⟩
    (.cons ⟨by decide, timestamps⟩ .nil))))

/-- A table of which a column is declared again. -/
def again : Document :=
  .object [("table", .string "visits"),
    ("column", .object [("id", .object [("type", .string "int")]),
      ("note", .object [("type", .string "text")]),
      ("id", .object [("type", .string "varchar(16)")])]),
    ("auto_id", .bool true)]

theorem text_reads_back_visits :
    (∃ text, visits.text? = some text ∧ read? text = some visits) ∧
    read? plainNames.render = read? otherNames.render ∧
    read? again.render = some
      { name := "visits", autoId := true,
        columns := [("id", { type := "varchar(16)" }), ("note", { type := "text" })] } ∧
    (visits.setColumn "id" { type := "int" }).columnNames = visits.columnNames ∧
    (visits.setColumn "end" { type := "int" }).columnNames = visits.columnNames ++ ["end"] := by
  obtain ⟨whole, names, columns, found, absent⟩ := text_reads_back
  have proper : visits.Proper := by decide +kernel
  have fits : ∀ column ∈ visits.columns, column.2.Fits (Document.maxDepth - 3) := by
    decide +kernel
  obtain ⟨text, written, back⟩ := whole visits proper (by decide +kernel) (by decide +kernel)
  refine ⟨⟨text, written, back.mpr fits⟩, ?_, ?_, ?_, ?_⟩
  · exact names _ _ _ _ (Document.read?_render _) (Document.read?_render _) plainNames_respelled
  · exact columns _ "column" [("table", .string "visits")] _ [("auto_id", .bool true)] (by decide)
      (Document.read?_render again)
  · rw [found visits "id" { type := "int" } _ [] _ rfl (by decide)]
    rfl
  · rw [absent visits "end" { type := "int" } (by decide)]
    rfl

end TableDecl

end TableMapper
