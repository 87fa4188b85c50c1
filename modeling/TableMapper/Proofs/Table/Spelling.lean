import TableMapper.Proofs.Table.Columns
import TableMapper.Proofs.Table.Fields

/-!
# Other names of fields

A field of a declaration may be written under any of its names: two objects that differ in nothing
else are read as the same (`TableDecl.ofDocument?_of_respelled`).  The order in which fields are
written does not matter either (`Document.fields?_insert`).
-/

namespace TableMapper

namespace Document

variable {names : List (List String)}

/-- One name, or two names of one field. -/
def SameField (names : List (List String)) (a b : String) : Prop :=
  a = b ∨ ∃ field ∈ names, a ∈ field ∧ b ∈ field

instance (a b : String) : Decidable (SameField names a b) :=
  inferInstanceAs (Decidable (a = b ∨ ∃ field ∈ names, a ∈ field ∧ b ∈ field))

/-- Two objects with the same fields under other names of theirs; `inner` relates the values of a
field. -/
inductive Respelled (names : List (List String)) (inner : String → Document → Document → Prop) :
    Document → Document → Prop
  | same (d : Document) : Respelled names inner d d
  | object {ms ns : List (String × Document)}
      (h : List.Forall₂ (fun m n => SameField names m.1 n.1 ∧ inner m.1 m.2 n.2) ms ns) :
      Respelled names inner (.object ms) (.object ns)

/-- The names of a field are names of no other. -/
def Apart (names : List (List String)) : Prop :=
  ∀ field ∈ names, ∀ a ∈ field, ∀ b ∈ field, place? names a = place? names b

instance : Decidable (Apart names) :=
  inferInstanceAs (Decidable
    (∀ field ∈ names, ∀ a ∈ field, ∀ b ∈ field, place? names a = place? names b))

theorem place?_of_sameField (apart : Apart names) {a b : String} (h : SameField names a b) :
    place? names a = place? names b := by
  rcases h with rfl | ⟨field, there, ha, hb⟩
  · rfl
  · exact apart field there a ha b hb

/-! ### Related values -/

variable {R : Nat → Document → Document → Prop}

/-- The same fields have values, related place by place. -/
def Alike (R : Nat → Document → Document → Prop) (ss ts : List (Option Document)) : Prop :=
  ∀ i : Nat, Option.Rel (Option.Rel (R i)) ss[i]? ts[i]?

theorem none_or_some_of_rel {α β : Type} {r : α → β → Prop} {x : Option α} {y : Option β}
    (h : Option.Rel r x y) :
    (x = none ∧ y = none) ∨ ∃ a b, x = some a ∧ y = some b ∧ r a b := by
  cases h with
  | none => exact .inl ⟨rfl, rfl⟩
  | some h => exact .inr ⟨_, _, rfl, rfl, h⟩

theorem alike_fill {ss ts : List (Option Document)} (h : Alike R ss ts) {m n : String × Document}
    (place : place? names m.1 = place? names n.1)
    (value : ∀ i, place? names m.1 = some i → R i m.2 n.2) :
    Option.Rel (Alike R) (fill names ss m) (fill names ts n) := by
  rw [fill, fill, ← place]
  cases found : place? names m.1 with
  | none => exact .some h
  | some i =>
    rcases none_or_some_of_rel (h i) with ⟨hs, ht⟩ | ⟨s, t, hs, ht, related⟩
    · simp only [hs, ht]
      exact .none
    · simp only [hs, ht]
      cases related with
      | some _ =>
        simp only
        exact .none
      | none =>
        -- the field is written for the first time
        simp only
        refine .some fun j => ?_
        rw [List.getElem?_set, List.getElem?_set]
        split
        next here =>
          subst here
          rw [if_pos (List.getElem?_eq_some_iff.mp hs).1,
            if_pos (List.getElem?_eq_some_iff.mp ht).1]
          exact .some (.some (value i found))
        next => exact h j

/-- Fields of related values at the same places are found together. -/
theorem alike_fields? {ms ns : List (String × Document)}
    (h : List.Forall₂ (fun m n => place? names m.1 = place? names n.1 ∧
      ∀ i, place? names m.1 = some i → R i m.2 n.2) ms ns) :
    Option.Rel (Alike R) (fields? names (.object ms)) (fields? names (.object ns)) := by
  have run {ss ts : List (Option Document)} (start : Alike R ss ts) :
      Option.Rel (Alike R) (ms.foldlM (fill names) ss) (ns.foldlM (fill names) ts) := by
    induction h generalizing ss ts with
    | nil => exact .some start
    | @cons m n ms ns first _ ih =>
      rw [List.foldlM_cons, List.foldlM_cons]
      rcases none_or_some_of_rel (alike_fill start first.1 first.2) with
        ⟨hs, ht⟩ | ⟨s, t, hs, ht, next⟩
      · rw [hs, ht]
        exact .none
      · rw [hs, ht]
        exact ih next
  refine run fun i => ?_
  rw [List.getElem?_map]
  cases names[i]? with
  | none => exact .none
  | some field => exact .some .none

theorem eq_of_rel_eq {α : Type} {x y : Option α} (h : Option.Rel Eq x y) : x = y := by
  cases h with
  | none => rfl
  | some same => rw [same]

theorem Alike.slot {ss ts : List (Option Document)} (h : Alike R ss ts) {i : Nat}
    {s t : Option Document} (hs : ss[i]? = some s) (ht : ts[i]? = some t) :
    Option.Rel (R i) s t := by
  have related := h i
  rw [hs, ht] at related
  cases related with
  | some related => exact related

theorem eq_of_alike_eq {ss ts : List (Option Document)} (h : Alike (fun _ => Eq) ss ts) :
    ss = ts := by
  refine List.ext_getElem? fun i => ?_
  rcases none_or_some_of_rel (h i) with ⟨hs, ht⟩ | ⟨s, t, hs, ht, related⟩
  · rw [hs, ht]
  · rw [hs, ht, eq_of_rel_eq related]

/-- Under other names the fields are found as before. -/
theorem fields?_of_respelled (apart : Apart names) {d d' : Document}
    (h : Respelled names (fun _ => Eq) d d') : fields? names d = fields? names d' := by
  cases h with
  | same => rfl
  | object h =>
    have found : Option.Rel (Alike fun _ => Eq) (fields? names (.object _))
        (fields? names (.object _)) :=
      alike_fields? <| h.imp fun m n related =>
        ⟨place?_of_sameField apart related.1, fun _ _ => related.2⟩
    rcases none_or_some_of_rel found with ⟨hs, ht⟩ | ⟨s, t, hs, ht, related⟩
    · rw [hs, ht]
    · rw [hs, ht, eq_of_alike_eq related]

/-! ### The order of fields -/

theorem fill_eq_some_iff {ss ts : List (Option Document)} {m : String × Document} {i : Nat}
    (place : place? names m.1 = some i) :
    fill names ss m = some ts ↔ ss[i]? = some none ∧ ts = ss.set i (some m.2) := by
  rw [fill, place]
  simp only
  split
  next free => simp [free, eq_comm]
  next taken => simpa using fun free => absurd free taken

theorem fill_comm (ss : List (Option Document)) (m n : String × Document) :
    (fill names ss m).bind (fill names · n) = (fill names ss n).bind (fill names · m) := by
  cases hm : place? names m.1 with
  | none =>
    have pass (ss : List (Option Document)) : fill names ss m = some ss := by rw [fill, hm]
    simp [pass]
  | some i =>
    cases hn : place? names n.1 with
    | none =>
      have pass (ss : List (Option Document)) : fill names ss n = some ss := by rw [fill, hn]
      simp [pass]
    | some j =>
      refine Option.ext fun ts => ?_
      simp only [Option.bind_eq_some_iff, fill_eq_some_iff hm, fill_eq_some_iff hn]
      by_cases same : i = j
      · subst same
        -- neither order writes the field twice
        simp [List.getElem?_set]
      · simp only [and_assoc, exists_and_left, exists_eq_left,
          List.getElem?_set_ne same, List.getElem?_set_ne (Ne.symm same),
          List.set_comm _ _ same]
        exact and_left_comm

theorem foldlM_fill_comm (ms : List (String × Document)) (ss : List (Option Document))
    (m : String × Document) :
    (fill names ss m).bind (ms.foldlM (fill names)) =
      (ms.foldlM (fill names) ss).bind (fill names · m) := by
  induction ms generalizing ss with
  | nil => simp
  | cons n ms ih =>
    calc (fill names ss m).bind ((n :: ms).foldlM (fill names))
        = ((fill names ss m).bind (fill names · n)).bind (ms.foldlM (fill names)) := by
          simp only [List.foldlM_cons, Option.bind_assoc, Option.bind_eq_bind]
      _ = ((fill names ss n).bind (fill names · m)).bind (ms.foldlM (fill names)) := by
          rw [fill_comm]
      _ = ((n :: ms).foldlM (fill names) ss).bind (fill names · m) := by
          simp only [List.foldlM_cons, Option.bind_assoc, Option.bind_eq_bind, ih]

/-- A field may as well be written last. -/
theorem fields?_insert (before after : List (String × Document)) (m : String × Document) :
    fields? names (.object (before ++ m :: after)) =
      (fields? names (.object (before ++ after))).bind (fill names · m) := by
  simp only [fields?_object, List.foldlM_append, List.foldlM_cons, Option.bind_eq_bind,
    foldlM_fill_comm, Option.bind_assoc]

theorem length_fill {ss ts : List (Option Document)} {m : String × Document}
    (h : fill names ss m = some ts) : ts.length = ss.length := by
  cases place : place? names m.1 with
  | none =>
    rw [fill, place] at h
    rw [Option.some.inj h]
  | some i => rw [((fill_eq_some_iff place).mp h).2, List.length_set]

theorem length_foldlM_fill {ms : List (String × Document)} {ss ts : List (Option Document)}
    (h : ms.foldlM (fill names) ss = some ts) : ts.length = ss.length := by
  induction ms generalizing ss with
  | nil => rw [Option.some.inj h]
  | cons m ms ih =>
    rw [List.foldlM_cons] at h
    obtain ⟨us, first, h⟩ := Option.bind_eq_some_iff.mp h
    rw [ih h, length_fill first]

/-- There is one value, or none, for each field. -/
theorem length_fields? {ms : List (String × Document)} {ss : List (Option Document)}
    (h : fields? names (.object ms) = some ss) : ss.length = names.length := by
  rw [length_foldlM_fill h, List.length_map]

end Document

open Document

/-! ### Columns and timestamps -/

/-- A column with other names of its fields. -/
def ColumnDecl.Respelled : Document → Document → Prop :=
  Document.Respelled fieldNames fun _ => Eq

/-- Timestamps with other names of their fields. -/
def Timestamps.Respelled : Document → Document → Prop :=
  Document.Respelled [["create", "insert"], ["update"]] fun _ => Eq

theorem ColumnDecl.ofDocument?_of_respelled {d d' : Document} (h : Respelled d d') (room : Nat) :
    ofDocument? room d = ofDocument? room d' := by
  rw [ofDocument?, ofDocument?, fields?_of_respelled (by decide) h]

theorem Timestamps.optional_of_respelled {d d' : Document} (h : Respelled d d') :
    optional ofDocument? (some d) = optional ofDocument? (some d') := by
  have same : ofDocument? d = ofDocument? d' := by
    rw [ofDocument?, ofDocument?, fields?_of_respelled (by decide) h]
  cases h with
  | same => rfl
  | object => exact congrArg (Option.map some) same

namespace TableDecl

/-- Columns, some of them with other names of their fields. -/
inductive RespelledColumns : Document → Document → Prop
  | same (d : Document) : RespelledColumns d d
  | object {ms ns : List (String × Document)}
      (h : List.Forall₂ (fun m n => m.1 = n.1 ∧ ColumnDecl.Respelled m.2 n.2) ms ns) :
      RespelledColumns (.object ms) (.object ns)

theorem columnsOfDocument?_of_respelled {d d' : Document} (h : RespelledColumns d d') (room : Nat) :
    columnsOfDocument? room d = columnsOfDocument? room d' := by
  cases h with
  | same => rfl
  | @object ms ns h =>
    have each : ms.mapM (readColumn? (room - 1)) = ns.mapM (readColumn? (room - 1)) := by
      induction h with
      | nil => rfl
      | @cons m n ms ns first _ ih =>
        have head : readColumn? (room - 1) m = readColumn? (room - 1) n := by
          rw [readColumn?, readColumn?, first.1, ColumnDecl.ofDocument?_of_respelled first.2]
        rw [List.mapM_cons, List.mapM_cons, head, ih]
    rw [columnsOfDocument?_object, columnsOfDocument?_object, each]

/-! ### Tables -/

/-- The values of a field of a table: columns and timestamps may have other names of their own
fields. -/
def RespelledValue (name : String) (v w : Document) : Prop :=
  if name ∈ ["column", "columns"] then RespelledColumns v w
  else if name = "timestamps" then Timestamps.Respelled v w
  else v = w

/-- A declaration with other names of its fields and of the fields of its parts. -/
def Respelled : Document → Document → Prop := Document.Respelled fieldNames RespelledValue

/-- Values that are read as the same, at the place of a field. -/
def ReadAlike (i : Nat) (v w : Document) : Prop :=
  match i with
  | 1 => ∀ room, columnsOfDocument? room v = columnsOfDocument? room w
  | 8 => optional Timestamps.ofDocument? (some v) = optional Timestamps.ofDocument? (some w)
  | _ => v = w

theorem readAlike_refl (i : Nat) (v : Document) : ReadAlike i v v := by
  unfold ReadAlike
  split
  · exact fun _ => rfl
  · rfl
  · rfl

theorem readAlike_of_respelledValue {name : String} {v w : Document} (h : RespelledValue name v w)
    {i : Nat} (place : place? fieldNames name = some i) : ReadAlike i v w := by
  rw [RespelledValue] at h
  split_ifs at h with column timestamps
  · obtain rfl : 1 = i := by
      rcases List.mem_pair.mp column with rfl | rfl <;> exact Option.some.inj place
    exact columnsOfDocument?_of_respelled h
  · subst timestamps
    obtain rfl : 8 = i := Option.some.inj place
    exact Timestamps.optional_of_respelled h
  · rw [h]
    exact readAlike_refl i w

/-- One value, or none, for each field of a table. -/
theorem exists_slots {ss : List (Option Document)} (h : ss.length = 11) :
    ∃ s0 s1 s2 s3 s4 s5 s6 s7 s8 s9 s10, ss = [s0, s1, s2, s3, s4, s5, s6, s7, s8, s9, s10] := by
  have slots : ss = (List.range 11).map (ss.getD · none) :=
    List.ext_getElem (by simp [h]) fun i within _ => by simp [within]
  exact ⟨_, _, _, _, _, _, _, _, _, _, _, slots⟩

/-- Fields that are read as the same make the same declaration. -/
theorem ofDocument?_of_alike {d d' : Document} {ss ts : List (Option Document)}
    (hs : fields? fieldNames d = some ss) (ht : fields? fieldNames d' = some ts)
    (ls : ss.length = 11) (lt : ts.length = 11) (alike : Alike ReadAlike ss ts) :
    ofDocument? d = ofDocument? d' := by
  rw [ofDocument?, ofDocument?, hs, ht]
  obtain ⟨s0, s1, s2, s3, s4, s5, s6, s7, s8, s9, s10, rfl⟩ := exists_slots ls
  obtain ⟨t0, t1, t2, t3, t4, t5, t6, t7, t8, t9, t10, rfl⟩ := exists_slots lt
  -- all but the columns and the timestamps are the same
  obtain rfl : s0 = t0 := eq_of_rel_eq (alike.slot (i := 0) rfl rfl)
  obtain rfl : s2 = t2 := eq_of_rel_eq (alike.slot (i := 2) rfl rfl)
  obtain rfl : s3 = t3 := eq_of_rel_eq (alike.slot (i := 3) rfl rfl)
  obtain rfl : s4 = t4 := eq_of_rel_eq (alike.slot (i := 4) rfl rfl)
  obtain rfl : s5 = t5 := eq_of_rel_eq (alike.slot (i := 5) rfl rfl)
  obtain rfl : s6 = t6 := eq_of_rel_eq (alike.slot (i := 6) rfl rfl)
  obtain rfl : s7 = t7 := eq_of_rel_eq (alike.slot (i := 7) rfl rfl)
  obtain rfl : s9 = t9 := eq_of_rel_eq (alike.slot (i := 9) rfl rfl)
  obtain rfl : s10 = t10 := eq_of_rel_eq (alike.slot (i := 10) rfl rfl)
  have columns : Option.Rel (ReadAlike 1) s1 t1 := alike.slot rfl rfl
  have timestamps : optional Timestamps.ofDocument? s8 = optional Timestamps.ofDocument? t8 := by
    have related : Option.Rel (ReadAlike 8) s8 t8 := alike.slot rfl rfl
    cases related with
    | none => rfl
    | some same => exact same
  cases s0 with
  | none => rfl
  | some name =>
    cases columns with
    | none => rfl
    | some same =>
      rw [Option.bind_eq_bind, Option.bind_some, Option.bind_some]
      change (Document.text? name).bind _ = (Document.text? name).bind _
      simp only [same (maxDepth - 1), timestamps]

/-- A declaration is read the same under other names of its fields. -/
theorem ofDocument?_of_respelled {d d' : Document} (h : Respelled d d') :
    ofDocument? d = ofDocument? d' := by
  cases h with
  | same => rfl
  | @object ms ns h =>
    have found : Option.Rel (Alike ReadAlike) (fields? fieldNames (.object ms))
        (fields? fieldNames (.object ns)) :=
      alike_fields? (h.imp fun m n related => ⟨place?_of_sameField (by decide) related.1,
        fun i place => readAlike_of_respelledValue related.2 place⟩)
    rcases none_or_some_of_rel found with ⟨hs, ht⟩ | ⟨ss, ts, hs, ht, alike⟩
    · rw [ofDocument?, ofDocument?, hs, ht]
    · exact ofDocument?_of_alike hs ht (length_fields? hs) (length_fields? ht) alike

/-! ### Columns that are written -/

/-- The columns of a declaration are declared in their order on the table without columns. -/
theorem ofDocument?_columns {name : String} (column : name ∈ ["column", "columns"])
    (before ms after : List (String × Document)) :
    ofDocument? (.object (before ++ (name, .object ms) :: after)) =
      (ms.mapM (readColumn? (maxDepth - 2))).bind fun columns =>
        (ofDocument? (.object (before ++ (name, .object []) :: after))).map fun t =>
          columns.foldl (fun t column => t.setColumn column.1 column.2) t := by
  have place : place? fieldNames name = some 1 := by
    rcases List.mem_pair.mp column with rfl | rfl <;> rfl
  rw [ofDocument?, ofDocument?, fields?_insert, fields?_insert]
  cases found : fields? fieldNames (.object (before ++ after)) with
  | none => cases ms.mapM (readColumn? (maxDepth - 2)) <;> rfl
  | some ss =>
    have length : ss.length = 11 := length_fields? found
    obtain ⟨s0, s1, s2, s3, s4, s5, s6, s7, s8, s9, s10, rfl⟩ := exists_slots length
    rw [Option.bind_some, Option.bind_some, fill, fill, place]
    -- other columns, or a name that is no text, are refused on both sides
    cases s1 with
    | some d => cases ms.mapM (readColumn? (maxDepth - 2)) <;> rfl
    | none =>
      cases s0 with
      | none => cases ms.mapM (readColumn? (maxDepth - 2)) <;> rfl
      | some title =>
        change (Document.text? title).bind _ =
          (ms.mapM (readColumn? (maxDepth - 2))).bind fun columns =>
            ((Document.text? title).bind _).map _
        cases Document.text? title with
        | none => cases ms.mapM (readColumn? (maxDepth - 2)) <;> rfl
        | some title =>
          have fresh : columnsOfDocument? (maxDepth - 1) (.object []) = some [] := rfl
          rw [Option.bind_some, Option.bind_some, columnsOfDocument?_object, fresh]
          change ((ms.mapM (readColumn? (maxDepth - 2))).map _).bind _ = _
          cases ms.mapM (readColumn? (maxDepth - 2)) with
          | none => rfl
          | some columns =>
            change (Document.optional _ s2).bind _ = Option.map _ ((Document.optional _ s2).bind _)
            simp only [Option.bind_eq_bind, Option.map_bind, Function.comp_def, foldl_setColumn]
            rfl

end TableDecl

end TableMapper
