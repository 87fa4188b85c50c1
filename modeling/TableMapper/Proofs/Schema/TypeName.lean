import TableMapper.Proofs.Text.Numeral
import TableMapper.Proofs.Text.Search
import TableMapper.Schema.TypeName

/-!
# Types as the catalog has them

* `TypeName.catalogNames` are the names that the catalog has for types.
* `TypeName.Canonical` holds of types whose arguments are written as the catalog reports them,
  among them those that the library writes itself (`TypeName.canonical_varchar`,
  `TypeName.canonical_char`, `TypeName.canonical_decimal`).
-/

namespace TableMapper

namespace TypeName

/-- The names that the catalog has for types. -/
def catalogNames : List String :=
  ["character varying", "character", "text", "numeric", "integer", "smallint", "bigint", "boolean",
    "bytea", "jsonb", "json", "date", "time without time zone", "timestamp without time zone",
    "timestamp with time zone", "real", "double precision", "uuid"]

theorem mem_catalogNames {base name : String} (h : catalogName? base = some name) :
    name ∈ catalogNames := by
  unfold catalogName? at h
  split at h
  all_goals first
    | (obtain rfl := Option.some.inj h; decide)
    | exact absurd h (by simp)

/-! ### Arguments -/

/-- The arguments of a type of decimal numbers: a precision, and a scale or none. -/
def numericArguments (precision : Int) : Option Int → String
  | none => toString precision
  | some scale => toString precision ++ "," ++ toString scale

theorem comma_not_mem_int {n : Int} : ',' ∉ (toString n).toList := fun mem =>
  absurd (Text.isNumeral_of_mem_int mem) (by decide)

/-- The arguments with a scale, which is zero when it is left out. -/
theorem numericArguments_full (precision : Int) (scale? : Option Int) :
    (if Text.contains "," (numericArguments precision scale?) then
      numericArguments precision scale?
    else numericArguments precision scale? ++ ",0") =
      toString precision ++ "," ++ toString (scale?.getD 0) := by
  have found {s : String} : Text.contains "," s = true ↔ ',' ∈ s.toList := by
    rw [Text.contains, Text.occurs_iff_infix]
    exact List.singleton_infix_iff _ _
  cases scale? with
  | none =>
    rw [if_neg (by rw [found]; exact comma_not_mem_int), numericArguments, String.append_assoc]
    rfl
  | some scale =>
    rw [if_pos (by simp [found, numericArguments])]
    rfl

/-- Of the types that are compared with their arguments, those that are not text are decimal
numbers. -/
theorem eq_numeric_of_withArguments {base name : String} (known : catalogName? base = some name)
    (compared : withArguments.contains name = true)
    (number : Text.startsWith "character" name = false) : name = "numeric" := by
  have all : ∀ name ∈ catalogNames, withArguments.contains name = true →
      Text.startsWith "character" name = false → name = "numeric" := by decide
  exact all name (mem_catalogNames known) compared number

/-- Types of text have one decimal number as their argument, if any, types of decimal numbers have
one or two.  Types without a name in the catalog are not looked at. -/
structure Canonical (type : String) : Prop where
  length : ∀ name args, catalogName? (base type) = some name →
    Text.startsWith "character" name = true → arguments? type = some args →
    ∃ n : Int, args = toString n
  numeric : ∀ args, catalogName? (base type) = some "numeric" → arguments? type = some args →
    ∃ precision scale?, args = numericArguments precision scale?

theorem cutAt?_numericArguments (precision : Int) (scale? : Option Int) :
    Text.cutAt? "," (numericArguments precision scale?) =
      scale?.map fun scale => (toString precision, toString scale) := by
  cases scale? with
  | none => exact congrArg (Option.map _) (Text.cutAtChars?_eq_none comma_not_mem_int)
  | some scale =>
    have cut := Text.cutAtChars?_singleton (comma_not_mem_int (n := precision))
      (toString scale).toList
    rw [Text.cutAt?, numericArguments, String.toList_append, String.toList_append,
      List.append_assoc]
    refine (congrArg (Option.map _) cut).trans ?_
    simp only [Option.map_some, String.ofList_toList]

/-! ### Types that are written as the catalog has them -/

theorem canonical_of_none {type : String} (none : arguments? type = none) : Canonical type where
  length _ _ _ _ given := by rw [none] at given; exact nomatch given
  numeric _ _ given := by rw [none] at given; exact nomatch given

theorem canonical_of_one {type : String} (n : Int) (one : arguments? type = some (toString n)) :
    Canonical type where
  length _ _ _ _ given := ⟨n, Option.some.inj (given.symm.trans one)⟩
  numeric _ _ given := ⟨n, none, Option.some.inj (given.symm.trans one)⟩

theorem canonical_of_numeric {type : String} (precision : Int) (scale? : Option Int)
    (known : catalogName? (base type) = some "numeric")
    (given : arguments? type = some (numericArguments precision scale?)) : Canonical type where
  length name _ named text _ := by
    obtain rfl := Option.some.inj (known.symm.trans named)
    exact absurd text (by decide)
  numeric _ _ found := ⟨precision, scale?, Option.some.inj (found.symm.trans given)⟩

/-- The arguments are what stands in the first parentheses, without blanks. -/
theorem arguments?_parentheses {name inner : String} (outside : '(' ∉ name.toList)
    (inside : ')' ∉ inner.toList) (rest : String) :
    arguments? (name ++ "(" ++ inner ++ ")" ++ rest) =
      if inner.toList.filter (!Text.isBlank ·) = [] then none
      else some (String.ofList (inner.toList.filter (!Text.isBlank ·))) := by
  have opened : Text.cutAt? "(" (name ++ "(" ++ inner ++ ")" ++ rest) =
      some (name, inner ++ ")" ++ rest) := by
    have cut := Text.cutAtChars?_singleton outside (inner ++ ")" ++ rest).toList
    have chars : (name ++ "(" ++ inner ++ ")" ++ rest).toList =
        name.toList ++ '(' :: (inner ++ ")" ++ rest).toList := by
      simp [String.toList_append]
    rw [Text.cutAt?, chars]
    refine (congrArg (Option.map _) cut).trans ?_
    simp only [Option.map_some, String.ofList_toList]
  have closed : Text.cutAt? ")" (inner ++ ")" ++ rest) = some (inner, rest) := by
    have cut := Text.cutAtChars?_singleton inside rest.toList
    have chars : (inner ++ ")" ++ rest).toList = inner.toList ++ ')' :: rest.toList := by
      simp [String.toList_append]
    rw [Text.cutAt?, chars]
    refine (congrArg (Option.map _) cut).trans ?_
    simp only [Option.map_some, String.ofList_toList]
  simp only [arguments?, opened, closed, Option.bind_eq_bind, Option.bind_some,
    List.isEmpty_iff]

/-- Arguments in parentheses at the end of a type are read back. -/
theorem arguments?_append {name inner : String} (outside : '(' ∉ name.toList)
    (inside : ')' ∉ inner.toList) (blank : ∀ c ∈ inner.toList, Text.isBlank c = false)
    (given : inner.toList ≠ []) :
    arguments? (name ++ "(" ++ inner ++ ")") = some inner := by
  have kept : inner.toList.filter (!Text.isBlank ·) = inner.toList :=
    List.filter_eq_self.mpr fun c hc => by simp [blank c hc]
  have found := arguments?_parentheses outside inside ""
  rwa [String.append_empty, kept, if_neg given, String.ofList_toList] at found

theorem arguments?_integer {name : String} (outside : '(' ∉ name.toList) (n : Int) :
    arguments? (name ++ "(" ++ toString n ++ ")") = some (toString n) := by
  refine arguments?_append outside (fun mem => ?_)
    (fun c mem => Text.isBlank_of_isNumeral (Text.isNumeral_of_mem_int mem)) fun none => ?_
  · exact absurd (Text.isNumeral_of_mem_int mem) (by decide)
  · have read := Text.integer?_toString n
    rw [Text.integer?, none] at read
    cases read

theorem canonical_varchar (n : Nat) : Canonical (varchar n) := by
  have given (k : Nat) : arguments? ("varchar(" ++ toString k ++ ")") = some (toString (k : Int)) :=
    arguments?_integer (n := k) (by decide : '(' ∉ "varchar".toList)
  exact canonical_of_one _ (given _)

theorem canonical_char (n : Nat) : Canonical (char n) := by
  have given (k : Nat) : arguments? ("char(" ++ toString k ++ ")") = some (toString (k : Int)) :=
    arguments?_integer (n := k) (by decide : '(' ∉ "char".toList)
  exact canonical_of_one _ (given _)

theorem canonical_decimal (precision scale : Nat) : Canonical (decimal precision scale) := by
  have parts : decimal precision scale =
      "numeric" ++ "(" ++ numericArguments precision (some scale) ++ ")" := by
    have opened : "numeric(" = "numeric" ++ "(" := by decide
    simp only [decimal, numericArguments, opened, String.append_assoc]
    rfl
  have named : base (decimal precision scale) = "numeric" := by
    have stop (rest : List Char) : ("numeric".toList ++ ("(".toList ++ rest)).takeWhile
        (fun c => c != '(' && c != '[') = "numeric".toList := rfl
    rw [parts, base]
    simp only [String.toList_append, List.append_assoc, stop]
    decide
  have characters {c : Char}
      (mem : c ∈ (numericArguments precision (some scale)).toList) :
      Text.isNumeral c = true ∨ c = ',' := by
    simp only [numericArguments, String.toList_append, List.mem_append] at mem
    obtain (digit | comma) | digit := mem
    · exact .inl (Text.isNumeral_of_mem_int digit)
    · exact .inr (List.mem_singleton.mp comma)
    · exact .inl (Text.isNumeral_of_mem_int digit)
  refine canonical_of_numeric precision (some scale) (by rw [named]; rfl) ?_
  rw [parts]
  refine arguments?_append (by decide) (fun mem => ?_) (fun c mem => ?_) fun none => ?_
  · exact (characters mem).elim (fun digit => absurd digit (by decide)) (absurd · (by decide))
  · obtain digit | rfl := characters mem
    · exact Text.isBlank_of_isNumeral digit
    · rfl
  · simp [numericArguments] at none

end TypeName

end TableMapper
