import TableMapper.Proofs.Table.Fields
import TableMapper.Table.Reader
import TableMapper.Table.Writer

/-!
# Columns are read back from their text

The parts of a column come back as they were written.  Only its default and the values that its
validator allows may fail to (`ColumnDecl.ofDocument?_reread`): these are JSON values of any form.
-/

namespace TableMapper

open Document

/-! ### What values there are -/

/-- The bounds of a length have 64 bits, and the allowed values are JSON values. -/
def Validator.Proper : Validator → Prop
  | .pattern _ | .custom _ => True
  | .oneOf allowed => ∀ v ∈ allowed, v.Proper
  | .length min max => (∀ n ∈ min, n < Nat.pow 2 64) ∧ ∀ n ∈ max, n < Nat.pow 2 64

/-- The values that are allowed come back where `room` levels of nesting are left. -/
def Validator.Fits (room : Nat) : Validator → Prop
  | .oneOf allowed => ∀ v ∈ allowed, v.Fits (room - 2)
  | .pattern _ | .length _ _ | .custom _ => True

/-- The check is one of the caller's. -/
def Validator.isCustom : Validator → Bool
  | .custom _ => true
  | .pattern _ | .oneOf _ | .length _ _ => false

/-- The number of places has 32 bits, and the values are JSON values. -/
structure ColumnDecl.Proper (c : ColumnDecl) : Prop where
  precision : ∀ n ∈ c.precision, n < Nat.pow 2 32
  default : ∀ v ∈ c.default?, v.Proper
  validator : ∀ v ∈ c.validator, v.Proper

/-- The values in a column come back where `room` levels of nesting are left. -/
def ColumnDecl.Fits (room : Nat) (c : ColumnDecl) : Prop :=
  (∀ v ∈ c.default?, v.Fits room) ∧ ∀ v ∈ c.validator, v.Fits room

instance (v : Validator) : Decidable v.Proper :=
  match v with
  | .pattern _ | .custom _ => isTrue trivial
  | .oneOf allowed => inferInstanceAs (Decidable (∀ v ∈ allowed, v.Proper))
  | .length min max =>
    inferInstanceAs (Decidable ((∀ n ∈ min, n < Nat.pow 2 64) ∧ ∀ n ∈ max, n < Nat.pow 2 64))

instance (room : Nat) (v : Validator) : Decidable (v.Fits room) :=
  match v with
  | .oneOf allowed => inferInstanceAs (Decidable (∀ v ∈ allowed, v.Fits (room - 2)))
  | .pattern _ | .length _ _ | .custom _ => isTrue trivial

instance (c : ColumnDecl) : Decidable c.Proper :=
  decidable_of_iff ((∀ n ∈ c.precision, n < Nat.pow 2 32) ∧ (∀ v ∈ c.default?, v.Proper) ∧
      ∀ v ∈ c.validator, v.Proper)
    ⟨fun h => ⟨h.1, h.2.1, h.2.2⟩, fun h => ⟨h.precision, h.default, h.validator⟩⟩

instance (room : Nat) (c : ColumnDecl) : Decidable (c.Fits room) :=
  inferInstanceAs (Decidable ((∀ v ∈ c.default?, v.Fits room) ∧ ∀ v ∈ c.validator, v.Fits room))

namespace Document

/-! ### Parts that come back -/

theorem reread_nat {n : Nat} (h : n < Nat.pow 2 64) : reread (.nat n) = .nat n := by
  refine reread_int ⟨?_, ?_⟩ <;> omega

theorem natBelow?_nat {bound n : Nat} (h : n < bound) : natBelow? bound (.nat n) = some n := by
  rw [nat, natBelow?, if_pos ⟨by omega, by omega⟩, Int.toNat_natCast]

/-- A field that may be missing comes back when its value does. -/
theorem optional_reread {α : Type} {read : Document → Option α} {write : α → Document}
    {o : Option α} (back : ∀ a ∈ o, read (write a).reread = some a)
    (solid : ∀ a ∈ o, (write a).reread ≠ .null) :
    optional read ((o.map write).map reread) = some o := by
  cases o with
  | none => rfl
  | some a =>
    rw [Option.map_some, Option.map_some, optional, back a rfl]
    · rfl
    · exact solid a rfl

theorem orElse_bool (fallback b : Bool) : orElse fallback bool? (some (.bool b)) = some b := rfl

theorem optional_text (o : Option String) :
    optional text? ((o.map .string).map reread) = some o :=
  optional_reread (fun _ _ => rfl) nofun

theorem optional_action (o : Option RefAction) :
    optional RefAction.ofDocument? ((o.map fun a => .string a.name).map reread) = some o :=
  optional_reread (fun a _ => by cases a <;> rfl) nofun

theorem optional_nat {bound : Nat} (le : bound ≤ Nat.pow 2 64) {o : Option Nat}
    (h : ∀ n ∈ o, n < bound) : optional (natBelow? bound) ((o.map .nat).map reread) = some o := by
  have whole (n : Nat) (hn : n ∈ o) : reread (.nat n) = .nat n :=
    reread_nat (Nat.lt_of_lt_of_le (h n hn) le)
  refine optional_reread (fun n hn => ?_) fun n hn => ?_
  · rw [whole n hn, natBelow?_nat (h n hn)]
  · rw [whole n hn]
    exact nofun

end Document

/-! ### Validators -/

theorem Document.reread_ofOption_nat {o : Option Nat} (h : ∀ n ∈ o, n < Nat.pow 2 64) :
    optional (natBelow? (Nat.pow 2 64)) (some (ofOption .nat o).reread) = some o := by
  cases o with
  | none => rfl
  | some n =>
    rw [ofOption, reread_nat (h n rfl)]
    change (natBelow? (Nat.pow 2 64) (.nat n)).map some = _
    rw [natBelow?_nat (h n rfl)]
    rfl

theorem Validator.exists_object_of_toDocument? {v : Validator} {d : Document}
    (written : v.toDocument? = some d) : ∃ ms, d = .object ms := by
  cases v with
  | custom accepts => exact nomatch written
  | _ => exact ⟨_, (Option.some.inj written).symm⟩

/-- A validator comes back just when the values it allows do. -/
theorem Validator.ofDocument?_reread {v : Validator} {d : Document}
    (written : v.toDocument? = some d) (proper : v.Proper) (room : Nat) :
    ofDocument? room d.reread = some v ↔ v.Fits room := by
  cases v with
  | pattern e =>
    obtain rfl := Option.some.inj written
    exact ⟨fun _ => trivial, fun _ => rfl⟩
  | oneOf allowed =>
    obtain rfl := Option.some.inj written
    have values : _ ↔ ∀ v ∈ allowed, v.Fits (room - 2) := itemsToJson?_eq_iff proper
    rw [Fits, ← values]
    change (itemsToJson? (room - 2) (rereadItems (ofItems allowed))).map Validator.oneOf = _ ↔ _
    simp
  | length min max =>
    obtain rfl := Option.some.inj written
    refine ⟨fun _ => trivial, fun _ => ?_⟩
    have placed : Placed [["min"], ["max"]]
        [("min", some (ofOption .nat min)), ("max", some (ofOption .nat max))] := rfl
    have bounds : fields? [["min"], ["max"]]
        (reread (.object [("min", ofOption .nat min), ("max", ofOption .nat max)])) =
          some [some (ofOption .nat min).reread, some (ofOption .nat max).reread] :=
      fields?_reread_record placed
    rw [reread, rereadMembers, rereadMembers, ofDocument?, bounds]
    simp only [Option.bind_eq_bind, Option.bind_some, reread_ofOption_nat proper.1,
      reread_ofOption_nat proper.2]
    rfl
  | custom accepts => exact nomatch written

/-! ### Columns -/

namespace ColumnDecl

theorem fields?_reread (c : ColumnDecl) (validate : Option Document) :
    fields? fieldNames (reread (record (c.fields validate))) =
      some [some (.string c.type), some (.bool c.notNull), (c.default?.map ofJson).map reread,
        (c.oldName.map .string).map reread, some (.bool c.typeLock),
        (c.references.map .string).map reread,
        (c.onDelete.map fun a => .string a.name).map reread,
        (c.onUpdate.map fun a => .string a.name).map reread, some (.bool c.drop),
        some (.bool c.ignore), some (.bool c.force), (c.indexType.map .string).map reread,
        validate.map reread, (c.format.map .string).map reread,
        (c.precision.map .nat).map reread] :=
  fields?_reread_record (by rfl)

theorem ofDocument?_record {c : ColumnDecl} (proper : c.Proper) (validate : Option Document)
    (room : Nat) :
    ofDocument? room (reread (record (c.fields validate))) =
      (orElse none (fun d => (toJson? (room - 1) d).map some)
        ((c.default?.map ofJson).map reread)).bind fun default_ =>
      (optional (Validator.ofDocument? (room - 1)) (validate.map reread)).map fun validator =>
        { c with default? := default_, validator := validator } := by
  rw [ofDocument?, fields?_reread, Option.bind_eq_bind, Option.bind_some]
  have precision := optional_nat (by decide : Nat.pow 2 32 ≤ Nat.pow 2 64) proper.precision
  change Option.bind (some c.type) _ = _
  simp only [Option.bind_eq_bind, Option.bind_some, orElse_bool, optional_text, optional_action,
    precision]
  simp only [Option.pure_def, Option.map_eq_bind]
  rfl

theorem orElse_value (room : Nat) {o : Option Json} (proper : ∀ v ∈ o, v.Proper) :
    orElse none (fun d => (toJson? room d).map some) ((o.map ofJson).map reread) = some o ↔
      ∀ v ∈ o, v.Fits room := by
  cases o with
  | none => simp [orElse]
  | some v => simp [orElse, toJson?_reread room v (proper v rfl)]

theorem optional_validator (room : Nat) {o : Option Validator} {validate : Option Document}
    (written : o.mapM Validator.toDocument? = some validate) (proper : ∀ v ∈ o, v.Proper) :
    optional (Validator.ofDocument? room) (validate.map reread) = some o ↔
      ∀ v ∈ o, v.Fits room := by
  cases o with
  | none =>
    obtain rfl := Option.some.inj written
    simp [Document.optional]
  | some v =>
    obtain ⟨d, text, rfl⟩ := Option.map_eq_some_iff.mp written
    have back := v.ofDocument?_reread text (proper v rfl) room
    obtain ⟨ms, rfl⟩ := v.exists_object_of_toDocument? text
    change (Validator.ofDocument? room (reread (.object ms))).map some = _ ↔ _
    simp [back]

/-- A column comes back just when its default and the values that its validator allows do. -/
theorem ofDocument?_reread {c : ColumnDecl} {d : Document} (written : c.toDocument? = some d)
    (proper : c.Proper) (room : Nat) : ofDocument? room d.reread = some c ↔ c.Fits (room - 1) := by
  obtain ⟨validate, check, rfl⟩ := Option.map_eq_some_iff.mp written
  rw [ofDocument?_record proper, Fits, ← orElse_value (room - 1) proper.default,
    ← optional_validator (room - 1) check proper.validator, Option.bind_eq_some_iff]
  constructor
  · rintro ⟨default_, readDefault, same⟩
    obtain ⟨validator, readValidator, same⟩ := Option.map_eq_some_iff.mp same
    rw [readDefault, readValidator, ← same]
    exact ⟨rfl, rfl⟩
  · rintro ⟨readDefault, readValidator⟩
    exact ⟨_, readDefault, by rw [readValidator]; rfl⟩

end ColumnDecl

end TableMapper
