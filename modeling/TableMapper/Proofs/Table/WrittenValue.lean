import Mathlib.Data.List.Nodup
import Mathlib.Data.List.Perm.Basic
import Mathlib.Data.String.Basic
import TableMapper.Proofs.Table.ColumnText

/-!
# Written declarations as JSON values

A declaration is written with its fields in their order, and its JSON value has them sorted by name.
These are the same: the written column has the value of the column
(`ColumnDecl.toJson?_of_toDocument?`), and the fields of a table other than its columns have theirs
(`TableDecl.toJson?_head`).
-/

namespace TableMapper

namespace Row

theorem insert_comm {a b : String} (h : a ≠ b) (x y : Json) (row : Row) :
    insert a x (insert b y row) = insert b y (insert a x row) := by
  wlog first : a < b generalizing a b x y
  · exact (this h.symm y x (lt_of_le_of_ne (not_lt.mp first) h.symm)).symm
  induction row with
  | nil => simp [insert, first, lt_asymm first, h.symm]
  | cons m row ih =>
    obtain ⟨n, v⟩ := m
    rcases lt_trichotomy b n with before | rfl | after
    · simp [insert, before, first.trans before, first, lt_asymm first, h.symm]
    · simp [insert, first, lt_asymm first, h.symm]
    · rcases lt_trichotomy a n with before | rfl | behind
      · simp [insert, before, lt_asymm after, lt_asymm first, h.symm, after.ne']
      · simp [insert, lt_asymm after, after.ne']
      · simp [insert, lt_asymm after, lt_asymm behind, after.ne', behind.ne', ih]

/-- Members of different names make the same row in any order. -/
theorem ofList_perm {ms ns : List (String × Json)} (perm : ms.Perm ns)
    (distinct : (ms.map Prod.fst).Nodup) : ofList ms = ofList ns := by
  refine perm.foldl_eq' (fun m hm n hn row => ?_) []
  by_cases name : n.1 = m.1
  · rw [List.inj_on_of_nodup_map distinct hn hm name]
  · exact insert_comm name _ _ row

end Row

namespace Document

/-! ### Values -/

mutual

/-- The text of a value is that of its document. -/
theorem render_ofJson : ∀ v : Json, (ofJson v).render = v.render
  | .null | .int _ | .double _ | .string _ => rfl
  | .bool b => by cases b <;> rfl
  | .array xs => by rw [ofJson, render, Json.render, renderItems_ofItems xs]
  | .object ms => by rw [ofJson, render, Json.render, renderMembers_ofMembers ms]

theorem renderItems_ofItems : ∀ xs : List Json, renderItems (ofItems xs) = Json.renderItems xs
  | [] => rfl
  | v :: xs => by
    rw [ofItems, renderItems, Json.renderItems, render_ofJson v, renderItems_ofItems xs]

theorem renderMembers_ofMembers : ∀ ms : List (String × Json),
    renderMembers (ofMembers ms) = Json.renderMembers ms
  | [] => rfl
  | (name, v) :: ms => by
    rw [ofMembers, renderMembers, Json.renderMembers, render_ofJson v, renderMembers_ofMembers ms]

end

mutual

/-- A value is the value of its document where there is room for it. -/
theorem toJson?_ofJson : ∀ (room : Nat) (v : Json), v.Proper → v.depth ≤ room →
    toJson? room (ofJson v) = some v
  | _, .null, _, _ | _, .bool _, _, _ | _, .int _, _, _ | _, .double _, _, _
  | _, .string _, _, _ => by rw [ofJson, toJson?]
  | room + 1, .array xs, proper, shallow => by
    have items := itemsToJson?_ofItems room xs proper (Nat.le_of_succ_le_succ shallow)
    rw [ofJson, toJson?, items]
    rfl
  | room + 1, .object ms, proper, shallow => by
    have members := membersToJson?_ofMembers room ms proper.2 (Nat.le_of_succ_le_succ shallow)
    rw [ofJson, toJson?, members, Option.map_some, Json.ofMembers, Row.ofList_of_sorted proper.1]

theorem itemsToJson?_ofItems : ∀ (room : Nat) (xs : List Json), Json.ItemsProper xs →
    Json.itemsDepth xs ≤ room → itemsToJson? room (ofItems xs) = some xs
  | _, [], _, _ => rfl
  | room, v :: xs, proper, shallow => by
    obtain ⟨first, others⟩ := max_le_iff.mp shallow
    rw [ofItems, itemsToJson?, toJson?_ofJson room v proper.1 first,
      itemsToJson?_ofItems room xs proper.2 others]
    rfl

theorem membersToJson?_ofMembers : ∀ (room : Nat) (ms : List (String × Json)),
    Json.MembersProper ms → Json.membersDepth ms ≤ room →
    membersToJson? room (ofMembers ms) = some ms
  | _, [], _, _ => rfl
  | room, (name, v) :: ms, proper, shallow => by
    obtain ⟨first, others⟩ := max_le_iff.mp shallow
    rw [ofMembers, membersToJson?, toJson?_ofJson room v proper.1 first,
      membersToJson?_ofMembers room ms proper.2 others]
    rfl

end

theorem toJson?_texts (room : Nat) (ts : List String) :
    toJson? (room + 1) (texts ts) = some (Json.strings ts) := by
  have items : itemsToJson? room (ts.map .string) = some (ts.map .string) := by
    induction ts with
    | nil => rfl
    | cons t ts ih => rw [List.map_cons, itemsToJson?, ih]; rfl
  rw [texts, toJson?, items]
  rfl

/-! ### Records -/

/-- The fields that have a value. -/
def valued (fields : List (String × Option Json)) : List (String × Json) :=
  fields.filterMap fun field => field.2.map fun v => (field.1, v)

theorem valued_append (fields others : List (String × Option Json)) :
    valued (fields ++ others) = valued fields ++ valued others := List.filterMap_append

theorem valued_present (ms : List (String × Json)) :
    valued (ms.map fun m => (m.1, some m.2)) = ms := by
  rw [valued, List.filterMap_map]
  exact List.filterMap_some

theorem member?_eq_valued {α : Type} (name : String) (f : α → Json) (o : Option α) :
    Row.member? name f o = valued [(name, o.map f)] := by cases o <;> rfl

/-- Fields of different names make the same object in any order. -/
theorem ofMembers_valued_perm {fields others : List (String × Option Json)}
    (perm : fields.Perm others) (distinct : (fields.map Prod.fst).Nodup) :
    Json.ofMembers (valued fields) = Json.ofMembers (valued others) := by
  have names : ((valued fields).map Prod.fst).Sublist (fields.map Prod.fst) := by
    clear perm distinct
    induction fields with
    | nil => exact .refl []
    | cons field fields ih =>
      obtain ⟨name, o⟩ := field
      cases o with
      | none => exact ih.cons name
      | some v => exact ih.cons_cons name
  have perm' : (valued fields).Perm (valued others) := perm.filterMap _
  rw [Json.ofMembers, Json.ofMembers, Row.ofList_perm perm' (distinct.sublist names)]

/-- A field has this value, or both are missing. -/
def HasValue (room : Nat) (field : String × Option Document) (value : String × Option Json) :
    Prop :=
  field.1 = value.1 ∧ field.2.mapM (toJson? room) = some value.2

/-- The value of a record has the values of its fields. -/
theorem toJson?_record {room : Nat} {fields : List (String × Option Document)}
    {values : List (String × Option Json)} (h : List.Forall₂ (HasValue room) fields values) :
    toJson? (room + 1) (record fields) = some (Json.ofMembers (valued values)) := by
  have members : membersToJson? room (fields.filterMap fun f => f.2.map fun d => (f.1, d)) =
      some (valued values) := by
    induction h with
    | nil => rfl
    | @cons field value fields values first _ ih =>
      obtain ⟨name, o⟩ := field
      obtain ⟨name', v⟩ := value
      obtain ⟨rfl, read⟩ : name = name' ∧ o.mapM (toJson? room) = some v := first
      cases o with
      | none =>
        obtain rfl := Option.some.inj read
        exact ih
      | some d =>
        obtain ⟨v, first, rfl⟩ := Option.map_eq_some_iff.mp read
        rw [List.filterMap_cons]
        simp only [Option.map_some, membersToJson?, first, ih]
        rfl
  rw [record, toJson?, members]
  rfl

theorem hasValue_some {room : Nat} {d : Document} {v : Json} (h : toJson? room d = some v)
    (name : String) : HasValue room (name, some d) (name, some v) := by
  refine ⟨rfl, ?_⟩
  change (toJson? room d).map some = _
  rw [h]
  rfl

theorem hasValue_map {α : Type} {room : Nat} {write : α → Document} {value : α → Json}
    {o : Option α} (h : ∀ a ∈ o, toJson? room (write a) = some (value a)) (name : String) :
    HasValue room (name, o.map write) (name, o.map value) := by
  cases o with
  | none => exact ⟨rfl, rfl⟩
  | some a => exact hasValue_some (h a rfl) name

end Document

open Document

/-! ### Columns -/

/-- The levels of the values that are allowed. -/
def Validator.depth : Validator → Nat
  | .oneOf allowed => Json.itemsDepth allowed
  | .pattern _ | .length _ _ | .custom _ => 0

/-- A validator is written as its value. -/
theorem Validator.exists_toJson?_of_toDocument? {v : Validator} {d : Document}
    (written : v.toDocument? = some d) (proper : v.Proper) {room : Nat} (shallow : v.depth ≤ room) :
    ∃ value, v.toJson? = some value ∧ Document.toJson? (room + 2) d = some value := by
  cases v with
  | pattern e =>
    obtain rfl := Option.some.inj written
    exact ⟨_, rfl, rfl⟩
  | length min max =>
    obtain rfl := Option.some.inj written
    refine ⟨_, rfl, ?_⟩
    cases min <;> cases max <;> rfl
  | oneOf allowed =>
    obtain rfl := Option.some.inj written
    have items := itemsToJson?_ofItems room allowed (Json.itemsProper_iff.mpr proper) shallow
    refine ⟨_, rfl, ?_⟩
    rw [Document.toJson?, membersToJson?, Document.toJson?, items]
    rfl
  | custom accepts => exact nomatch written

/-- The values of the fields of a column. -/
def ColumnDecl.values (c : ColumnDecl) : List (String × Option Json) :=
  [("type", some (.string c.type)), ("not_null", some (.bool c.notNull)), ("default", c.default?),
    ("old_name", c.oldName.map .string), ("type_lock", some (.bool c.typeLock)),
    ("ref", c.references.map .string),
    ("ref_action_delete", c.onDelete.map fun a => .string a.name),
    ("ref_action_update", c.onUpdate.map fun a => .string a.name),
    ("drop", some (.bool c.drop)), ("ignore", some (.bool c.ignore)),
    ("force", some (.bool c.force)), ("index_type", c.indexType.map .string),
    ("validate", c.validator.bind (·.toJson?)), ("to", c.format.map .string),
    ("precision", c.precision.map .nat)]

theorem ColumnDecl.toJson_eq (c : ColumnDecl) : c.toJson = Json.ofMembers (valued c.values) := by
  -- the value lists the fields that every column has before the others
  have order : [0, 1, 4, 8, 9, 10, 2, 3, 5, 6, 7, 11, 12, 13, 14].Perm (List.range 15) := by
    decide
  have perm := (order.map fun i => c.values.getD i ("", none)).symm
  have distinct : (fieldNames.filterMap List.head?).Nodup := by decide
  rw [toJson, ← valued_present (("type", _) :: _)]
  simp only [member?_eq_valued, ← valued_append, Option.map_id']
  exact (ofMembers_valued_perm perm distinct).symm

/-- A column is written as its value. -/
theorem ColumnDecl.toJson?_of_toDocument? {c : ColumnDecl} {d : Document}
    (written : c.toDocument? = some d) (proper : c.Proper) {room : Nat}
    (default : ∀ v ∈ c.default?, v.depth ≤ room + 2)
    (allowed : ∀ v ∈ c.validator, v.depth ≤ room) :
    Document.toJson? (room + 3) d = some c.toJson := by
  obtain ⟨validate, check, rfl⟩ := Option.map_eq_some_iff.mp written
  have default : HasValue (room + 2) ("default", c.default?.map ofJson)
      ("default", c.default?) := by
    have each (v : Json) (hv : v ∈ c.default?) :=
      toJson?_ofJson (room + 2) v (proper.default v hv) (default v hv)
    simpa using hasValue_map each "default"
  have validate : HasValue (room + 2) ("validate", validate)
      ("validate", c.validator.bind (·.toJson?)) := by
    cases custom : c.validator with
    | none =>
      rw [custom] at check
      obtain rfl := Option.some.inj check
      exact ⟨rfl, rfl⟩
    | some v =>
      rw [custom] at check
      obtain ⟨d, text, rfl⟩ := Option.map_eq_some_iff.mp check
      obtain ⟨value, json, read⟩ := v.exists_toJson?_of_toDocument? text
        (proper.validator v custom) (allowed v custom)
      rw [Option.bind_some, json]
      exact hasValue_some read "validate"
  rw [toJson_eq]
  exact toJson?_record (.cons (hasValue_some rfl _) (.cons (hasValue_some rfl _) (.cons default
    (.cons (hasValue_map (fun _ _ => rfl) _) (.cons (hasValue_some rfl _)
    (.cons (hasValue_map (fun _ _ => rfl) _) (.cons (hasValue_map (fun _ _ => rfl) _)
    (.cons (hasValue_map (fun _ _ => rfl) _) (.cons (hasValue_some rfl _)
    (.cons (hasValue_some rfl _) (.cons (hasValue_some rfl _)
    (.cons (hasValue_map (fun _ _ => rfl) _) (.cons validate
    (.cons (hasValue_map (fun _ _ => rfl) _) (.cons (hasValue_map (fun _ _ => rfl) _)
    .nil)))))))))))))))

/-! ### Tables -/

theorem PrimaryKey.toJson?_toDocument (room : Nat) (k : PrimaryKey) :
    Document.toJson? (room + 1) k.toDocument = some k.toJson := by
  cases k with
  | single c => rfl
  | columns cs => exact toJson?_texts room cs

theorem IdStrategy.toJson?_toDocument (room : Nat) (s : IdStrategy) :
    Document.toJson? (room + 1) s.toDocument = some s.toJson := by
  cases s <;> rfl

theorem Timestamps.toJson?_toDocument (room : Nat) (t : Timestamps) :
    Document.toJson? (room + 1) t.toDocument = some t.toJson := by
  rw [toJson, member?_eq_valued, member?_eq_valued, ← valued_append]
  exact toJson?_record (.cons (hasValue_map (fun _ _ => rfl) _)
    (.cons (hasValue_map (fun _ _ => rfl) _) .nil))

/-- The values of the fields of a table other than its columns. -/
def TableDecl.headValues (t : TableDecl) : List (String × Option Json) :=
  [("table", some (.string t.name)), ("primary_key", t.primaryKey.map (·.toJson)),
    ("index", some (Json.strings t.indexes)), ("unique", some (Json.strings t.uniques)),
    ("remove_index", some (Json.strings t.removedIndexes)), ("auto_id", some (.bool t.autoId)),
    ("id", t.id.map (·.toJson)), ("timestamps", t.timestamps.map (·.toJson)),
    ("page_size", t.pageSize.map .nat), ("select_fields", t.selectFields.map Json.strings)]

theorem TableDecl.headToJson_eq (t : TableDecl) :
    t.headToJson = Json.ofMembers (valued t.headValues) := by
  have order : [0, 2, 3, 4, 5, 1, 6, 7, 8, 9].Perm (List.range 10) := by decide
  have perm := (order.map fun i => t.headValues.getD i ("", none)).symm
  have distinct : ((fieldNames.filterMap List.head?).erase "column").Nodup := by decide
  rw [headToJson, ← valued_present (("table", _) :: _)]
  simp only [member?_eq_valued, ← valued_append]
  exact (ofMembers_valued_perm perm distinct).symm

/-- The fields of a table other than its columns are written as their value. -/
theorem TableDecl.toJson?_head (room : Nat) (t : TableDecl) (columns : List (String × Document)) :
    Document.toJson? (room + 2) (record ((t.fields columns).eraseIdx 1)) = some t.headToJson := by
  rw [headToJson_eq]
  exact toJson?_record (.cons (hasValue_some rfl _)
    (.cons (hasValue_map (fun k _ => k.toJson?_toDocument room) _)
    (.cons (hasValue_some (toJson?_texts room _) _) (.cons (hasValue_some (toJson?_texts room _) _)
    (.cons (hasValue_some (toJson?_texts room _) _) (.cons (hasValue_some rfl _)
    (.cons (hasValue_map (fun s _ => s.toJson?_toDocument room) _)
    (.cons (hasValue_map (fun s _ => s.toJson?_toDocument room) _)
    (.cons (hasValue_map (fun _ _ => rfl) _)
    (.cons (hasValue_map (fun ts _ => toJson?_texts room ts) _) .nil))))))))))

end TableMapper
