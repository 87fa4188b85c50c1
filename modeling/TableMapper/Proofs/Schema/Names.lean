import Mathlib.Data.String.Basic
import TableMapper.Proofs.Schema.IndexLoss

/-!
# The names of indexes and foreign keys

An index is named after its table and its columns, joined by underscores, and a foreign key after
its table and its column.  Of these names as many characters are kept as a server keeps, and
underscores may stand in the names that are joined, so that two names can turn out the same.

* `Naming.Cut` says what is kept of a name, and `Naming.cut_iff` that it is the name given.
* `Naming.SameCut` holds of names of which the same is kept.  Names that are kept whole have to be
  equal then, which `Naming.fullKeyName_inj` and `Naming.fullIndexName_inj` decide.
* `Plan.names_shared_iff` says which indexes and foreign keys of a table share a name, and what
  follows for the plan.
-/

namespace TableMapper

namespace Naming

variable {a b kept : String} {table : String} {columns columns' : List String}

/-! ### What is kept of a name -/

/-- `kept` is what a server keeps of a name: whole characters from its start, as many as fit. -/
def Cut (name kept : String) : Prop :=
  ∃ rest : String, name = kept ++ rest ∧ kept.utf8ByteSize ≤ maxBytes ∧
    ∀ c ∈ rest.toList.head?, maxBytes < kept.utf8ByteSize + c.utf8Size

open String (utf8Len)

/-- Characters that fit are taken up to the first one that does not. -/
theorem takeBytes_append {room : Nat} {kept rest : List Char} (fits : utf8Len kept ≤ room)
    (full : ∀ c ∈ rest.head?, room < utf8Len kept + c.utf8Size) :
    takeBytes room (kept ++ rest) = kept := by
  induction kept generalizing room with
  | nil =>
    cases rest with
    | nil => rfl
    | cons c rest =>
      have wide := full c rfl
      rw [String.utf8Len_nil, Nat.zero_add] at wide
      rw [List.nil_append, takeBytes, if_neg (Nat.not_le_of_lt wide)]
  | cons c kept ih =>
    rw [String.utf8Len_cons] at fits full
    rw [List.cons_append, takeBytes, if_pos (by omega), ih (by omega) fun d first => ?_]
    have := full d first
    omega

theorem exists_takeBytes (room : Nat) (cs : List Char) : ∃ rest, cs = takeBytes room cs ++ rest ∧
    utf8Len (takeBytes room cs) ≤ room ∧
      ∀ c ∈ rest.head?, room < utf8Len (takeBytes room cs) + c.utf8Size := by
  induction cs generalizing room with
  | nil => exact ⟨[], rfl, Nat.zero_le _, nofun⟩
  | cons c cs ih =>
    rw [takeBytes]
    split
    next fits =>
      obtain ⟨rest, split, bound, full⟩ := ih (room - c.utf8Size)
      refine ⟨rest, congrArg (c :: ·) split, ?_, fun d first => ?_⟩
      · rw [String.utf8Len_cons]
        omega
      · have := full d first
        rw [String.utf8Len_cons]
        omega
    next wide =>
      refine ⟨c :: cs, rfl, Nat.zero_le _, fun d first => ?_⟩
      obtain rfl : c = d := Option.some.inj first
      rw [String.utf8Len_nil]
      omega

theorem cut_truncate (name : String) : Cut name (truncate name) := by
  obtain ⟨rest, split, bound, full⟩ := exists_takeBytes maxBytes name.toList
  have size : (truncate name).utf8ByteSize = utf8Len (takeBytes maxBytes name.toList) :=
    String.utf8ByteSize_ofList _
  refine ⟨String.ofList rest, ?_, size ▸ bound, ?_⟩
  · rw [truncate, ← String.ofList_append, ← split, String.ofList_toList]
  · rw [size, String.toList_ofList]
    exact full

/-- A name is cut in one way only. -/
theorem cut_iff : Cut a kept ↔ truncate a = kept := by
  constructor
  · rintro ⟨rest, rfl, bound, full⟩
    rw [← String.utf8Len_toList] at bound full
    rw [truncate, String.toList_append, takeBytes_append bound full, String.ofList_toList]
  · rintro rfl
    exact cut_truncate a

/-- A name is not longer than what is kept. -/
def Fits (name : String) : Prop := name.utf8ByteSize ≤ maxBytes

instance (name : String) : Decidable (Fits name) :=
  inferInstanceAs (Decidable (name.utf8ByteSize ≤ maxBytes))

theorem truncate_of_fits (fits : Fits a) : truncate a = a :=
  cut_iff.mp ⟨"", by rw [String.append_empty], fits, nofun⟩

/-- Of both names the same is kept. -/
def SameCut (a b : String) : Prop := ∃ kept, Cut a kept ∧ Cut b kept

theorem sameCut_iff : SameCut a b ↔ truncate a = truncate b := by
  simp only [SameCut, cut_iff, exists_eq_left']
  exact eq_comm

/-- Names that fit have to be equal. -/
theorem sameCut_iff_of_fits (ha : Fits a) (hb : Fits b) : SameCut a b ↔ a = b := by
  rw [sameCut_iff, truncate_of_fits ha, truncate_of_fits hb]

/-! ### Names that are joined -/

/-- The name of a foreign key before it is cut. -/
def fullKeyName (table column : String) : String := table ++ "_" ++ column ++ "_fkey"

/-- The name of an index before it is cut. -/
def fullIndexName (table : String) (columns : List String) : String :=
  table ++ "_" ++ "_".intercalate columns ++ "_idx"

theorem fullKeyName_inj : fullKeyName table a = fullKeyName table b ↔ a = b := by
  simp only [fullKeyName, String.append_left_inj, String.append_right_inj]

/-- The parts of column names between underscores. -/
def words (columns : List String) : List String := columns.flatMap (Text.splitOn '_')

theorem splitOn_intercalate (some : columns ≠ []) :
    Text.splitOn '_' ("_".intercalate columns) = words columns := by
  induction columns with
  | nil => exact absurd rfl some
  | cons column columns ih =>
    cases columns with
    | nil => simp [words]
    | cons next columns =>
      have parts : ("_".intercalate (column :: next :: columns)).toList =
          column.toList ++ '_' :: ("_".intercalate (next :: columns)).toList := by
        rw [String.intercalate_cons_cons, String.toList_append, String.toList_append,
          List.append_assoc]
        rfl
      rw [Text.splitOn, parts, List.splitOn_append_cons_self, List.map_append, words,
        List.flatMap_cons]
      exact congrArg (_ ++ ·) (ih (List.cons_ne_nil _ _))

theorem splitOn_inj : Text.splitOn '_' a = Text.splitOn '_' b ↔ a = b := by
  refine ⟨fun same => ?_, congrArg _⟩
  have parts : a.toList.splitOn '_' = b.toList.splitOn '_' :=
    (List.map_inj_right fun _ _ => String.ofList_inj.mp).mp same
  have joined : ['_'].intercalate (a.toList.splitOn '_') = b.toList := by
    rw [parts, List.intercalate_splitOn]
  rwa [List.intercalate_splitOn, String.toList_inj] at joined

/-- Joined names are the same exactly when the parts between underscores are. -/
theorem fullIndexName_inj (some : columns ≠ []) (some' : columns' ≠ []) :
    fullIndexName table columns = fullIndexName table columns' ↔
      words columns = words columns' := by
  rw [fullIndexName, fullIndexName, String.append_left_inj, String.append_right_inj,
    ← splitOn_intercalate some, ← splitOn_intercalate some', splitOn_inj]

end Naming

/-- The key of a column is named after it. -/
theorem TableDecl.name_of_mem_foreignKeys {t : TableDecl} {k : ForeignKey}
    (listed : k ∈ t.foreignKeys) : k.name = Naming.foreignKeyName t.name k.column := by
  obtain ⟨⟨column, c⟩, -, key⟩ := List.mem_filterMap.mp listed
  replace key : c.foreignKey? t.name column = some k := key
  unfold ColumnDecl.foreignKey? at key
  split at key
  next =>
    obtain ⟨text, -, rfl⟩ := Option.map_eq_some_iff.mp key
    rfl
  next => exact nomatch key

/-- The catalog with one index more. -/
def Catalog.withIndex (live : Catalog) (name : String) : Catalog :=
  { live with indexes := name :: live.indexes }

theorem Catalog.hasIndex_withIndex {live : Catalog} {name other : String} :
    (live.withIndex other).hasIndex name = false ↔ live.hasIndex name = false ∧ name ≠ other := by
  simp only [hasIndex, withIndex, List.contains_cons, Bool.or_eq_false_iff, beq_eq_false_iff_ne]
  exact and_comm

namespace Plan

open Naming

variable {t : TableDecl} {live : Catalog} {cs ds : List String}

/-- An index has columns. -/
theorem Wanted.ne_nil (wanted : Wanted t cs) : cs ≠ [] := by
  have some : cs.isEmpty = false := by
    obtain listed | listed := wanted.listed <;> simpa using (List.mem_filter.mp listed).2
  simpa using some

/-- Two indexes are created with one name when the same is kept of both their names. -/
theorem created_alike_iff :
    (∃ name, (name, cs) ∈ newIndexes t live ∧ (name, ds) ∈ newIndexes t live) ↔
      Wanted t cs ∧ Wanted t ds ∧ live.hasIndex (indexName t.name cs) = false ∧
        SameCut (fullIndexName t.name cs) (fullIndexName t.name ds) := by
  simp only [mem_newIndexes_iff, sameCut_iff]
  constructor
  · rintro ⟨name, ⟨wanted, absent, rfl⟩, ⟨wanted', -, same⟩⟩
    exact ⟨wanted, wanted', absent, same⟩
  · rintro ⟨wanted, wanted', absent, same⟩
    have absent' : live.hasIndex (indexName t.name ds) = false :=
      Eq.trans (congrArg _ same.symm) absent
    exact ⟨_, ⟨wanted, absent, rfl⟩, wanted', absent', same⟩

/-- An index is passed over for that of other columns when the same is kept of both their names. -/
theorem passed_over_iff :
    (∃ name, (name, cs) ∈ newIndexes t live ∧
        (name, cs) ∉ newIndexes t (live.withIndex (indexName t.name ds))) ↔
      Wanted t cs ∧ live.hasIndex (indexName t.name cs) = false ∧
        SameCut (fullIndexName t.name cs) (fullIndexName t.name ds) := by
  simp only [mem_newIndexes_iff, sameCut_iff, Catalog.hasIndex_withIndex]
  constructor
  · rintro ⟨name, ⟨wanted, absent, named⟩, skipped⟩
    refine ⟨wanted, absent, ?_⟩
    by_contra other
    exact skipped ⟨wanted, ⟨absent, other⟩, named⟩
  · rintro ⟨wanted, absent, same⟩
    exact ⟨_, ⟨wanted, absent, rfl⟩, fun created => created.2.1.2 same⟩

/-- **Names that are shared.**  The names of indexes and of foreign keys are cut at a character to
the length that is kept.  Two indexes are created with one name, or one of them is passed over for
the other, exactly when the same is kept of their names; if they fit, exactly when the parts of
their columns between underscores are the same.  Two foreign keys have one name when the same is
kept of their names; if they fit, these are of one column. -/
theorem names_shared_iff (t : TableDecl) (live : Catalog) :
    (∀ cs, Cut (fullIndexName t.name cs) (indexName t.name cs)) ∧
      (∀ k ∈ t.foreignKeys, Cut (fullKeyName t.name k.column) k.name) ∧
      (∀ cs ds, (∃ name, (name, cs) ∈ newIndexes t live ∧ (name, ds) ∈ newIndexes t live) ↔
        Wanted t cs ∧ Wanted t ds ∧ live.hasIndex (indexName t.name cs) = false ∧
          SameCut (fullIndexName t.name cs) (fullIndexName t.name ds)) ∧
      (∀ cs ds, (∃ name, (name, cs) ∈ newIndexes t live ∧
          (name, cs) ∉ newIndexes t (live.withIndex (indexName t.name ds))) ↔
        Wanted t cs ∧ live.hasIndex (indexName t.name cs) = false ∧
          SameCut (fullIndexName t.name cs) (fullIndexName t.name ds)) ∧
      (∀ cs ds, Wanted t cs → Wanted t ds → Fits (fullIndexName t.name cs) →
        Fits (fullIndexName t.name ds) →
          (SameCut (fullIndexName t.name cs) (fullIndexName t.name ds) ↔ words cs = words ds)) ∧
      ∀ k ∈ t.foreignKeys, ∀ l ∈ t.foreignKeys,
        (k.name = l.name ↔ SameCut (fullKeyName t.name k.column) (fullKeyName t.name l.column)) ∧
          (Fits (fullKeyName t.name k.column) → Fits (fullKeyName t.name l.column) →
            (k.name = l.name ↔ k.column = l.column)) := by
  refine ⟨fun cs => cut_truncate _, fun k listed => ?_, fun cs ds => created_alike_iff,
    fun cs ds => passed_over_iff, fun cs ds wanted wanted' fits fits' => ?_,
    fun k hk l hl => ?_⟩
  · rw [TableDecl.name_of_mem_foreignKeys listed]
    exact cut_truncate _
  · rw [sameCut_iff_of_fits fits fits', fullIndexName_inj wanted.ne_nil wanted'.ne_nil]
  · have shared : k.name = l.name ↔
        SameCut (fullKeyName t.name k.column) (fullKeyName t.name l.column) := by
      rw [TableDecl.name_of_mem_foreignKeys hk, TableDecl.name_of_mem_foreignKeys hl, sameCut_iff]
      rfl
    refine ⟨shared, fun fits fits' => ?_⟩
    rw [shared, sameCut_iff_of_fits fits fits', fullKeyName_inj]

/-! ### Loans -/

/-- The branch of a first loan, in as many bytes as a name may have. -/
def firstBranch : String := "library_branch_at_which_the_reader_has_borrowed_the_book_first"

/-- The branch of the last loan. -/
def lastBranch : String := "library_branch_at_which_the_reader_has_borrowed_the_book_last"

/-- A table of loans with two indexes of two columns. -/
def loans : TableDecl :=
  { name := "loans"
    columns := [("book", { type := "int", references := some "books:id" }),
      ("book_copy", { type := "int" }),
      ("reader", { type := "int", references := some "readers:id" }),
      ("copy_reader", { type := "int" }),
      (firstBranch, { type := "int", references := some "branches:id" }),
      (lastBranch, { type := "int", references := some "branches:id" })]
    indexes := ["book_copy,reader", "book,copy_reader"] }

/-- A foreign key of loans. -/
def loanKey (column table : String) : ForeignKey :=
  { column, target := ⟨table, "id"⟩, onDelete := .cascade, onUpdate := .cascade
    name := foreignKeyName "loans" column }

theorem wanted_loans {columns : List String}
    (listed : columns ∈ [["book_copy", "reader"], ["book", "copy_reader"]]) :
    Wanted loans columns where
  listed := .inl (by revert listed; revert columns; decide +kernel)
  once both := absurd both.2 List.not_mem_nil
  kept := List.not_mem_nil
  active := by
    revert columns
    decide +kernel

/-- Both indexes of loans are created with one name, and both keys of branches have one. -/
theorem names_shared_loans :
    Wanted loans ["book_copy", "reader"] ∧ Wanted loans ["book", "copy_reader"] ∧
      (∃ name, (name, ["book_copy", "reader"]) ∈ newIndexes loans {} ∧
        (name, ["book", "copy_reader"]) ∈ newIndexes loans {}) ∧
      (∃ k ∈ loans.foreignKeys, ∃ l ∈ loans.foreignKeys, k.column ≠ l.column ∧ k.name = l.name ∧
        SameCut (fullKeyName loans.name k.column) (fullKeyName loans.name l.column)) ∧
      ∃ k ∈ loans.foreignKeys, ∃ l ∈ loans.foreignKeys, Fits (fullKeyName loans.name k.column) ∧
        Fits (fullKeyName loans.name l.column) ∧ k.name ≠ l.name := by
  have first : Wanted loans ["book_copy", "reader"] := wanted_loans (.head _)
  have second : Wanted loans ["book", "copy_reader"] := wanted_loans (.tail _ (.head _))
  obtain ⟨-, -, alike, -, fitting, keys⟩ := names_shared_iff loans {}
  refine ⟨first, second, (alike _ _).mpr ⟨first, second, rfl, ?_⟩, ?_, ?_⟩
  · have words_eq : words ["book_copy", "reader"] = words ["book", "copy_reader"] := by
      decide +kernel
    exact (fitting _ _ first second (by decide +kernel) (by decide +kernel)).mpr words_eq
  · have here : loanKey firstBranch "branches" ∈ loans.foreignKeys := by decide +kernel
    have there : loanKey lastBranch "branches" ∈ loans.foreignKeys := by decide +kernel
    have shared : (loanKey firstBranch "branches").name = (loanKey lastBranch "branches").name := by
      decide +kernel
    exact ⟨_, here, _, there, by decide +kernel, shared, (keys _ here _ there).1.mp shared⟩
  · have here : loanKey "book" "books" ∈ loans.foreignKeys := by decide +kernel
    have there : loanKey "reader" "readers" ∈ loans.foreignKeys := by decide +kernel
    have short : Fits (fullKeyName loans.name (loanKey "book" "books").column) := by
      decide +kernel
    have short' : Fits (fullKeyName loans.name (loanKey "reader" "readers").column) := by
      decide +kernel
    refine ⟨_, here, _, there, short, short', fun shared => ?_⟩
    have same : "book" = "reader" := ((keys _ here _ there).2 short short').mp shared
    exact absurd same (by decide)

end Plan

end TableMapper
