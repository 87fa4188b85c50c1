import TableMapper.Proofs.Table.Columns
import TableMapper.Proofs.Table.ColumnText

/-!
# Declarations are read back from their text

Every field of a declaration comes back as it was written, but for the JSON values in its columns
(`TableDecl.read?_text`): the columns come back in their order when they have different names
(`TableDecl.columnsOfDocument?_reread`).
-/

namespace TableMapper

open Document

/-! ### Keys, strategies and timestamps -/

theorem Document.reread_texts (ts : List String) : reread (.texts ts) = .texts ts := by
  rw [texts, reread]
  congr 1
  induction ts with
  | nil => rfl
  | cons t ts ih => rw [List.map_cons, rereadItems, reread, ih]

theorem Document.list?_texts (ts : List String) : list? text? (reread (.texts ts)) = some ts := by
  rw [reread_texts, texts, list?, List.mapM_map]
  exact mapM_eq_some_iff.mpr (List.forall₂_same.mpr fun _ _ => rfl)

theorem PrimaryKey.ofDocument?_reread (k : PrimaryKey) :
    ofDocument? k.toDocument.reread = some k := by
  cases k with
  | single c => rfl
  | columns cs =>
    have back := list?_texts cs
    change (list? text? (reread (.texts cs))).map PrimaryKey.columns = _
    rw [back]
    rfl

/-- The lengths of a strategy have 64 bits. -/
def IdStrategy.Proper : IdStrategy → Prop
  | .none | .big => True
  | .short len _ | .long len | .serial len => len < Nat.pow 2 64

instance (s : IdStrategy) : Decidable s.Proper :=
  match s with
  | .none | .big => isTrue trivial
  | .short len _ | .long len | .serial len => inferInstanceAs (Decidable (len < Nat.pow 2 64))

/-- A reader of natural numbers below `2 ^ 64`, without its bound: nothing below computes with that
number. -/
theorem Document.exists_size {len : Nat} (h : len < Nat.pow 2 64) :
    ∃ size, natBelow? (Nat.pow 2 64) = size ∧ size (.nat len) = some len :=
  ⟨_, rfl, natBelow?_nat h⟩

theorem IdStrategy.ofDocument?_reread {s : IdStrategy} (proper : s.Proper) (room : Nat) :
    ofDocument? (room + 1) s.toDocument.reread = some s := by
  cases s with
  | none => rfl
  | big => rfl
  | short len lead | long len | serial len =>
    obtain ⟨size, same, read⟩ := exists_size proper
    simp only [toDocument, reread, rereadMembers, reread_nat proper]
    rw [ofDocument?, same]
    change (size (.nat len)).bind _ = _
    rw [read]
    rfl

theorem Timestamps.ofDocument?_reread (t : Timestamps) :
    ofDocument? t.toDocument.reread = some t := by
  have slots : fields? [["create", "insert"], ["update"]] t.toDocument.reread =
      some [(t.create.map .string).map reread, (t.update.map .string).map reread] :=
    fields?_reread_record (by rfl)
  rw [ofDocument?, slots]
  change (optional text? _).bind _ = _
  simp only [optional_text, Option.bind_some]
  rfl

namespace TableDecl

/-! ### Columns -/

/-- Steps that keep names keep the names along a list. -/
theorem map_fst_of_mapM {α β : Type} {f : String × α → Option (String × β)}
    (keeps : ∀ {a b}, f a = some b → b.1 = a.1) {as : List (String × α)} {bs : List (String × β)}
    (h : as.mapM f = some bs) : bs.map Prod.fst = as.map Prod.fst := by
  have each := mapM_eq_some_iff.mp h
  clear h
  induction each with
  | nil => rfl
  | cons first _ ih => rw [List.map_cons, List.map_cons, keeps first, ih]

theorem fst_of_member? {column : String × ColumnDecl} {m : String × Document}
    (h : ColumnDecl.member? column = some m) : m.1 = column.1 := by
  obtain ⟨d, -, rfl⟩ := Option.map_eq_some_iff.mp h
  rfl

theorem fst_of_readColumn? {room : Nat} {m : String × Document} {column : String × ColumnDecl}
    (h : readColumn? room m = some column) : column.1 = m.1 := by
  obtain ⟨c, -, rfl⟩ := Option.map_eq_some_iff.mp h
  rfl

/-- A written column comes back under its name just when it comes back. -/
theorem readColumn?_reread {column : String × ColumnDecl} {m : String × Document}
    (written : ColumnDecl.member? column = some m) (proper : column.2.Proper) (room : Nat) :
    readColumn? room (m.1, m.2.reread) = some column ↔ column.2.Fits (room - 1) := by
  obtain ⟨name, c⟩ := column
  obtain ⟨d, text, rfl⟩ := Option.map_eq_some_iff.mp written
  rw [readColumn?, ← c.ofDocument?_reread text proper room]
  simp

variable {columns : List (String × ColumnDecl)} {members : List (String × Document)}

/-- Written columns of different names come back just when each of them does. -/
theorem columnsOfDocument?_reread (written : columns.mapM ColumnDecl.member? = some members)
    (distinct : Distinct columns) (proper : ∀ column ∈ columns, column.2.Proper) (room : Nat) :
    columnsOfDocument? room (reread (.object members)) = some columns ↔
      ∀ column ∈ columns, column.2.Fits (room - 2) := by
  rw [reread, rereadMembers_eq, columnsOfDocument?_object]
  have each : (members.map fun m => (m.1, m.2.reread)).mapM (readColumn? (room - 1)) =
      some columns ↔ ∀ column ∈ columns, column.2.Fits (room - 2) := by
    rw [List.mapM_map, mapM_eq_some_iff]
    have each := mapM_eq_some_iff.mp written
    clear written distinct
    induction each with
    | nil => simp
    | @cons column m columns members first _ ih =>
      have head := readColumn?_reread first (proper column List.mem_cons_self) (room - 1)
      have tail := ih fun other there => proper other (List.mem_cons_of_mem column there)
      rw [List.forall₂_cons, List.forall_mem_cons]
      exact and_congr head tail
  rw [← each, Option.map_eq_some_iff]
  constructor
  · rintro ⟨read, reading, same⟩
    have names := map_fst_of_mapM fst_of_readColumn? reading
    rw [List.map_map] at names
    have distinct' : Distinct ([] ++ read) := by
      rw [List.nil_append, Distinct, names]
      exact (map_fst_of_mapM fst_of_member? written).symm ▸ distinct
    rw [foldl_putColumn distinct', List.nil_append] at same
    rw [reading, same]
  · intro reading
    have declared := @foldl_putColumn [] columns distinct
    exact ⟨columns, reading, declared⟩

/-! ### Tables -/

/-- What every declaration is: its numbers have their sizes, and its values are JSON values. -/
structure Proper (t : TableDecl) : Prop where
  columns : ∀ column ∈ t.columns, column.2.Proper
  id : ∀ s ∈ t.id, s.Proper
  pageSize : ∀ n ∈ t.pageSize, n < Nat.pow 2 32

/-- No column has a check of the caller's, so the declaration has a text. -/
def Plain (t : TableDecl) : Prop :=
  ∀ column ∈ t.columns, ∀ v ∈ column.2.validator, v.isCustom = false

instance (t : TableDecl) : Decidable t.Plain :=
  inferInstanceAs (Decidable (∀ column ∈ t.columns, ∀ v ∈ column.2.validator, v.isCustom = false))

instance (t : TableDecl) : Decidable t.Proper :=
  decidable_of_iff ((∀ column ∈ t.columns, column.2.Proper) ∧ (∀ s ∈ t.id, s.Proper) ∧
      ∀ n ∈ t.pageSize, n < Nat.pow 2 32)
    ⟨fun h => ⟨h.1, h.2.1, h.2.2⟩, fun h => ⟨h.columns, h.id, h.pageSize⟩⟩

theorem fields?_reread (t : TableDecl) (members : List (String × Document)) :
    fields? fieldNames (reread (record (t.fields members))) =
      some [some (.string t.name), some (reread (.object members)),
        (t.primaryKey.map (·.toDocument)).map reread, some (reread (.texts t.indexes)),
        some (reread (.texts t.uniques)), some (reread (.texts t.removedIndexes)),
        some (.bool t.autoId), (t.id.map (·.toDocument)).map reread,
        (t.timestamps.map (·.toDocument)).map reread, (t.pageSize.map .nat).map reread,
        (t.selectFields.map .texts).map reread] :=
  fields?_reread_record (by rfl)

theorem orElse_texts (ts : List String) :
    orElse [] (list? Document.text?) (some (reread (.texts ts))) = some ts := list?_texts ts

/-- Every field but the columns comes back as it was written. -/
theorem ofDocument?_record {t : TableDecl} (proper : t.Proper)
    (members : List (String × Document)) :
    ofDocument? (reread (record (t.fields members))) =
      (columnsOfDocument? (maxDepth - 1) (reread (.object members))).map fun columns =>
        { t with columns := columns } := by
  have key : optional PrimaryKey.ofDocument? ((t.primaryKey.map (·.toDocument)).map reread) =
      some t.primaryKey := by
    refine optional_reread (fun k _ => k.ofDocument?_reread) fun k _ => ?_
    cases k <;> exact nofun
  have id : optional (IdStrategy.ofDocument? (maxDepth - 1))
      ((t.id.map (·.toDocument)).map reread) = some t.id := by
    have back (s : IdStrategy) (hs : s ∈ t.id) := IdStrategy.ofDocument?_reread (proper.id s hs) 125
    refine optional_reread back fun s _ => ?_
    cases s <;> exact nofun
  have timestamps : optional Timestamps.ofDocument?
      ((t.timestamps.map (·.toDocument)).map reread) = some t.timestamps :=
    optional_reread (fun s _ => s.ofDocument?_reread) nofun
  have pageSize := optional_nat (by decide : Nat.pow 2 32 ≤ Nat.pow 2 64) proper.pageSize
  have selectFields : optional (list? Document.text?) ((t.selectFields.map .texts).map reread) =
      some t.selectFields :=
    optional_reread (fun ts _ => list?_texts ts) nofun
  rw [ofDocument?, fields?_reread, Option.bind_eq_bind, Option.bind_some]
  change Option.bind (some t.name) _ = _
  simp only [Option.bind_eq_bind, Option.bind_some, orElse_bool, orElse_texts, key, id, timestamps,
    pageSize, selectFields]
  simp only [Option.pure_def, Option.map_eq_bind]
  rfl

/-- A written declaration comes back just when the values in its columns do. -/
theorem ofDocument?_reread {t : TableDecl} {d : Document} (written : t.toDocument? = some d)
    (proper : t.Proper) (distinct : t.columnNames.Nodup) :
    ofDocument? d.reread = some t ↔ ∀ column ∈ t.columns, column.2.Fits (maxDepth - 3) := by
  obtain ⟨members, columns, rfl⟩ := Option.map_eq_some_iff.mp written
  have back : _ ↔ ∀ column ∈ t.columns, column.2.Fits (maxDepth - 3) :=
    columnsOfDocument?_reread columns distinct proper.columns (maxDepth - 1)
  rw [ofDocument?_record proper, ← back, Option.map_eq_some_iff]
  constructor
  · rintro ⟨read, reading, same⟩
    rw [reading, ← same]
  · intro reading
    exact ⟨t.columns, reading, rfl⟩

/-- A declaration without a check of the caller's has a text. -/
theorem exists_text {t : TableDecl} (plain : t.Plain) : ∃ text, t.text? = some text := by
  have each : ∀ column ∈ t.columns, ∃ m, ColumnDecl.member? column = some m := by
    intro column there
    obtain ⟨validate, written⟩ : ∃ validate, column.2.validator.mapM Validator.toDocument? =
        some validate := by
      cases check : column.2.validator with
      | none => exact ⟨none, rfl⟩
      | some v =>
        cases v with
        | custom accepts => exact nomatch plain column there _ check
        | _ => exact ⟨_, rfl⟩
    exact ⟨_, by rw [ColumnDecl.member?, ColumnDecl.toDocument?, written]; rfl⟩
  obtain ⟨members, written⟩ := exists_forall₂ each
  exact ⟨_, by rw [text?, toDocument?, mapM_eq_some_iff.mpr written]; rfl⟩

/-- A declaration comes back from its text just when the values in its columns do. -/
theorem read?_text {t : TableDecl} {text : String} (written : t.text? = some text)
    (proper : t.Proper) (distinct : t.columnNames.Nodup) :
    read? text = some t ↔ ∀ column ∈ t.columns, column.2.Fits (maxDepth - 3) := by
  obtain ⟨d, document, rfl⟩ := Option.map_eq_some_iff.mp written
  rw [read?, read?_render, Option.bind_some, ofDocument?_reread document proper distinct]

end TableDecl

end TableMapper
