import TableMapper.Proofs.Json.Value

/-!
# Fields of records

The fields of a record are found at their places (`fields?_record`), also after the record was
written and read (`fields?_reread_record`).
-/

namespace TableMapper

namespace Document

/-- The place of the field that has this name among its names. -/
def place? (names : List (List String)) (name : String) : Option Nat :=
  names.findIdx? (·.contains name)

/-- The values of the fields after one more member: no field is written twice. -/
def fill (names : List (List String)) (slots : List (Option Document)) (m : String × Document) :
    Option (List (Option Document)) :=
  match place? names m.1 with
  | none => some slots
  | some i =>
    match slots[i]? with
    | some none => some (slots.set i (some m.2))
    | _ => none

theorem fields?_object (names : List (List String)) (ms : List (String × Document)) :
    fields? names (.object ms) = ms.foldlM (fill names) (names.map fun _ => none) := rfl

/-! ### Records -/

variable {names : List (List String)} {fields : List (String × Option Document)}

/-- The fields stand at the places of their names. -/
def Placed (names : List (List String)) (fields : List (String × Option Document)) : Prop :=
  fields.map (fun f => place? names f.1) = (List.range names.length).map some

theorem fill_next {f : String × Option Document} {d : Document} {done : List (Option Document)}
    (place : place? names f.1 = some done.length) (rest : List (Option Document)) :
    fill names (done ++ none :: rest) (f.1, d) = some (done ++ some d :: rest) := by
  rw [fill, place]
  simp

theorem foldlM_fill (done : List (Option Document))
    (places : ∀ i (h : i < fields.length), place? names fields[i].1 = some (done.length + i)) :
    (fields.filterMap fun f => f.2.map fun d => (f.1, d)).foldlM (fill names)
        (done ++ fields.map fun _ => none) =
      some (done ++ fields.map Prod.snd) := by
  induction fields generalizing done with
  | nil => rfl
  | cons f fields ih =>
    obtain ⟨name, value⟩ := f
    have first : place? names name = some done.length := places 0 (by simp)
    have others (v : Option Document) := ih (done ++ [v]) fun i h => by
      have place := places (i + 1) (by simpa using h)
      rw [List.getElem_cons_succ] at place
      rw [place]
      simp; omega
    simp only [List.append_assoc, List.singleton_append] at others
    cases value with
    | none => exact others none
    | some d =>
      have next := fill_next (f := (name, some d)) (d := d) first (fields.map fun _ => none)
      rw [List.filterMap_cons]
      simp only [Option.map_some, List.foldlM_cons, List.map_cons, next]
      exact others (some d)

/-- The fields of a record are found at their places. -/
theorem fields?_record (placed : Placed names fields) :
    fields? names (record fields) = some (fields.map Prod.snd) := by
  have length : fields.length = names.length := by
    simpa using congrArg List.length placed
  have start : (names.map fun _ => (none : Option Document)) = fields.map fun _ => none := by
    rw [List.map_const', List.map_const', length]
  rw [record, fields?_object, start]
  refine foldlM_fill [] fun i h => ?_
  have place := congrArg (·[i]?) placed
  simpa [h, length ▸ h] using place

/-! ### Written and read records -/

theorem rereadMembers_eq (ms : List (String × Document)) :
    rereadMembers ms = ms.map fun m => (m.1, m.2.reread) := by
  induction ms with
  | nil => rfl
  | cons m ms ih => rw [rereadMembers, ih]; rfl

theorem reread_record (fields : List (String × Option Document)) :
    reread (record fields) = record (fields.map fun f => (f.1, f.2.map reread)) := by
  rw [record, record, reread, rereadMembers_eq, List.map_filterMap, List.filterMap_map]
  congr 2
  funext f
  simp [Function.comp_def]

/-- The fields of a record are found at their places after it was written and read. -/
theorem fields?_reread_record (placed : Placed names fields) :
    fields? names (reread (record fields)) = some (fields.map fun f => f.2.map reread) := by
  have placed' : Placed names (fields.map fun f => (f.1, f.2.map reread)) := by
    rw [Placed, List.map_map]
    exact placed
  rw [reread_record, fields?_record placed', List.map_map]
  rfl

end Document

end TableMapper
