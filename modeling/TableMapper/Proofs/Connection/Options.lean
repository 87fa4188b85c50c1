import TableMapper.Connection.Options
import TableMapper.Proofs.Text.Numeral
import TableMapper.Proofs.Url.Query

/-!
# Options of the pool in an address

The parameters of the query that are options of the pool are taken out of the address, the others
stay.

* `ConnectOptions.LastValue` is the value that counts among parameters of one name, and
  `ConnectOptions.ReadFrom` relates the options of the pool to the parameters.
* `PoolOptions.effective_of_check` bounds the numbers of connections, with the defaults.
* `ConnectOptions.options_taken` says what `ConnectOptions.parse` takes from an address, and what it
  leaves.
-/

namespace TableMapper

/-! ### Options that a pool can have -/

/-- The settings of options that are not refused. -/
theorem PoolOptions.effective_of_check {o : PoolOptions} (accepted : o.check = .ok ()) :
    1 ≤ o.effective.maxConnections ∧
      o.effective.minConnections ≤ o.effective.maxConnections := by
  unfold check at accepted
  split at accepted
  next => cases accepted
  next some =>
    have most : 1 ≤ o.effective.maxConnections := by
      change 1 ≤ o.maxConnections.getD 10
      cases given : o.maxConnections with
      | none => decide
      | some n =>
        rw [given] at some
        exact Nat.pos_of_ne_zero fun zero => some (congrArg Option.some zero)
    refine ⟨most, ?_⟩
    split at accepted
    next least given =>
      dsimp only at accepted
      split at accepted
      next => cases accepted
      next fits =>
        rw [effective, given]
        exact Nat.not_lt.mp fits
    next given =>
      have least : o.effective.minConnections = 1 := by rw [effective, given]; rfl
      rw [least]
      exact most

namespace ConnectOptions

variable {params : List (String × String)} {name v : String}

/-! ### Parameters that are options -/

/-- The value of the last parameter with a name, in any case of its letters. -/
def LastValue (params : List (String × String)) (name v : String) : Prop :=
  ∃ before key after, params = before ++ (key, v) :: after ∧ Text.sameLetters key name = true ∧
    ∀ p ∈ after, Text.sameLetters p.1 name = false

/-- The options of the pool are those in the parameters; a last value that is no value of the option
leaves it out. -/
structure ReadFrom (pool : PoolOptions) (params : List (String × String)) : Prop where
  maxConnections : ∀ n, pool.maxConnections = some n ↔
    ∃ v, LastValue params "max_connections" v ∧ Text.IsNatural v n ∧ n < 2 ^ 32
  minConnections : ∀ n, pool.minConnections = some n ↔
    ∃ v, LastValue params "min_connections" v ∧ Text.IsNatural v n ∧ n < 2 ^ 32
  idleTimeout : ∀ n, pool.idleTimeout = some n ↔
    ∃ v, LastValue params "idle_timeout" v ∧ Text.IsNatural v n ∧ n < 2 ^ 64
  acquireTimeout : ∀ n, pool.acquireTimeout = some n ↔
    ∃ v, LastValue params "acquire_timeout" v ∧ Text.IsNatural v n ∧ n < 2 ^ 64
  testBeforeAcquire : ∀ b, pool.testBeforeAcquire = some b ↔
    ∃ v, LastValue params "test_before_acquire" v ∧ Text.sameLetters v (toString b) = true

theorem lastValue?_eq_some_iff (small : Text.lowerAscii name = name) :
    lastValue? name params = some v ↔ LastValue params name v := by
  have same (p : String × String) : (Text.lowerAscii p.1 == name) = Text.sameLetters p.1 name := by
    rw [Text.sameLetters, small]
  simp only [lastValue?, same, Option.map_eq_some_iff, List.find?_eq_some_iff_append]
  constructor
  · rintro ⟨⟨key, v⟩, ⟨here, later, earlier, whole, others⟩, rfl⟩
    refine ⟨earlier.reverse, key, later.reverse, ?_, here, fun p inside => ?_⟩
    · rw [← List.reverse_reverse params, whole]
      simp
    · simpa using others p (List.mem_reverse.mp inside)
  · rintro ⟨before, key, after, rfl, here, others⟩
    refine ⟨(key, v), ⟨here, after.reverse, before.reverse, by simp, fun p inside => ?_⟩, rfl⟩
    simpa using others p (List.mem_reverse.mp inside)

theorem truth?_eq_some_iff {b : Bool} :
    truth? v = some b ↔ Text.sameLetters v (toString b) = true := by
  have small : Text.lowerAscii (toString b) = toString b := by cases b <;> decide
  rw [Text.sameLetters, small, beq_iff_eq, truth?]
  split
  next yes =>
    rw [yes]
    cases b <;> decide
  next no =>
    rw [no]
    cases b <;> decide
  next yes no =>
    refine iff_of_false nofun fun same => ?_
    cases b with
    | false => exact no same
    | true => exact yes same

theorem lowerAscii_of_mem {known : String} (listed : known ∈ poolParameters) :
    Text.lowerAscii known = known := by
  have all : ∀ known ∈ poolParameters, Text.lowerAscii known = known := by decide
  exact all known listed

theorem isPoolParameter_eq (p : String × String) :
    isPoolParameter p = poolParameters.any (Text.sameLetters p.1) := by
  rw [Bool.eq_iff_iff, isPoolParameter, List.contains_iff_mem, List.any_eq_true]
  constructor
  · intro listed
    refine ⟨_, listed, ?_⟩
    rw [Text.sameLetters, Text.lowerAscii_lowerAscii]
    exact beq_self_eq_true _
  · rintro ⟨known, listed, same⟩
    rw [eq_of_beq same, lowerAscii_of_mem listed]
    exact listed

theorem readFrom_poolOfParameters (params : List (String × String)) :
    ReadFrom (poolOfParameters params) params := by
  have number {name : String} {bound n : Nat} (listed : name ∈ poolParameters) :
      (lastValue? name params).bind (Text.naturalBelow? bound) = some n ↔
        ∃ v, LastValue params name v ∧ Text.IsNatural v n ∧ n < bound := by
    simp only [Option.bind_eq_some_iff, lastValue?_eq_some_iff (lowerAscii_of_mem listed),
      Text.naturalBelow?_eq_some_iff]
  have truth {name : String} {b : Bool} (listed : name ∈ poolParameters) :
      (lastValue? name params).bind truth? = some b ↔
        ∃ v, LastValue params name v ∧ Text.sameLetters v (toString b) = true := by
    simp only [Option.bind_eq_some_iff, lastValue?_eq_some_iff (lowerAscii_of_mem listed),
      truth?_eq_some_iff]
  exact ⟨fun n => number (by decide), fun n => number (by decide), fun n => number (by decide),
    fun n => number (by decide), fun b => truth (by decide)⟩

/-! ### Addresses -/

/-- The second address is the first one up to its query, and up to spaces at the end of a path
without root that ends the second one. -/
structure SameBesides (u u' : Url) : Prop where
  scheme : u'.scheme = u.scheme
  authority : u'.authority = u.authority
  path : u'.path = u.path ∨ ∃ text spaces, u.path = .bare (text ++ spaces) ∧
    u'.path = .bare text ∧ (∀ c ∈ spaces.toList, c = ' ') ∧ u'.query = none ∧ u'.fragment = none
  fragment : u'.fragment = u.fragment

theorem sameBesides_setQuery (u : Url) (query : Option String) :
    SameBesides u (u.setQuery query) := by
  obtain ⟨scheme, authority, path, old, fragment⟩ := u
  refine ⟨rfl, rfl, ?_, rfl⟩
  cases path with
  | rooted segments => exact .inl rfl
  | bare text =>
    by_cases ended : (query.isNone && fragment.isNone) = true
    · refine .inr ⟨String.ofList (text.toList.rdropWhile (· == ' ')),
        String.ofList (text.toList.rtakeWhile (· == ' ')), ?_, ?_, fun c space => ?_, ?_, ?_⟩
      · rw [← String.ofList_append, List.rdropWhile_append_rtakeWhile, String.ofList_toList]
      · exact if_pos ended
      · rw [String.toList_ofList] at space
        have blank := List.mem_rtakeWhile_imp space
        exact eq_of_beq blank
      · exact Option.isNone_iff_eq_none.mp (Bool.and_eq_true_iff.mp ended).1
      · exact Option.isNone_iff_eq_none.mp (Bool.and_eq_true_iff.mp ended).2
    · exact .inl (if_neg ended)

theorem separate_setQuery {u : Url} (separate : u.Separate) {query : Option String}
    (plain : ∀ q ∈ query, '#' ∉ q.toList) : (u.setQuery query).Separate := by
  refine ⟨separate.scheme, separate.authority, ?_, plain⟩
  obtain same | ⟨text, spaces, whole, kept, -⟩ := (sameBesides_setQuery u query).path
  · rw [same]
    exact separate.path
  · have clean := separate.path
    rw [whole, Url.Path.text, String.toList_append] at clean
    rw [kept]
    exact clean.subset (List.subset_append_left _ _)

/-- What is read from an address with the scheme of the database. -/
theorem parse_of_url {s : String} {url : Url} (read : Url.parse s = .ok url)
    (known : url.scheme = "postgres" ∨ url.scheme = "postgresql")
    (given : params = (url.query.map Form.pairs).getD []) :
    parse s = ((poolOfParameters params).check.mapError OptionsFault.pool).map fun _ =>
      let others := params.filter (!isPoolParameter ·)
      let url' := url.setQuery (if others.isEmpty then none else some (Form.encode others))
      ⟨url', databaseOf url', poolOfParameters params, defaultQueryTimeout⟩ := by
  have accepted : (url.scheme != "postgres" && url.scheme != "postgresql") = false := by
    obtain same | same := known <;> rw [same] <;> decide
  subst given
  rw [parse, read]
  simp only [Except.mapError, bind, Except.bind, accepted, Bool.false_eq_true, if_false]
  cases (poolOfParameters ((url.query.map Form.pairs).getD [])).check with
  | error fault => rfl
  | ok => rfl

/-- **Options of the pool are taken out of an address, and nothing else is.**  Of an address with
the scheme of the database that is accepted, the address for the driver has in its query the
parameters that are no options in any case of letters, in order and with their values, and no query
if there are none.  Each option has the value of its last occurrence, and is absent if that is no
value.  With the defaults there is at least one connection, and no more are kept than there may be.
Everything else stays as it was. -/
theorem options_taken (s : String) (o : ConnectOptions) (parsed : parse s = .ok o) :
    ∃ url params others, Url.parse s = .ok url ∧
      (url.scheme = "postgres" ∨ url.scheme = "postgresql") ∧
      params = (url.query.map Form.pairs).getD [] ∧
      others = params.filter (fun p => !poolParameters.any (Text.sameLetters p.1)) ∧
      (Url.queryIn? o.url.text).map Form.pairs = (if others = [] then none else some others) ∧
      ReadFrom o.pool params ∧ 1 ≤ o.pool.effective.maxConnections ∧
      o.pool.effective.minConnections ≤ o.pool.effective.maxConnections ∧
      SameBesides url o.url := by
  unfold parse at parsed
  obtain ⟨url, read, parsed⟩ := Url.exists_of_bind parsed
  obtain ⟨known, parsed⟩ := Url.ok_of_unless parsed
  obtain ⟨⟨⟩, accepted, parsed⟩ := Url.exists_of_bind parsed
  obtain rfl := Except.ok.inj parsed
  have inner {ε ε' α : Type} {f : ε → ε'} {m : Except ε α} {a : α} (ok : m.mapError f = .ok a) :
      m = .ok a := by
    cases m with
    | error e => cases ok
    | ok b => exact congrArg Except.ok (Except.ok.inj ok)
  have same : (!isPoolParameter ·) = fun p => !poolParameters.any (Text.sameLetters p.1) :=
    funext fun p => congrArg (!·) (isPoolParameter_eq p)
  obtain ⟨most, least⟩ := PoolOptions.effective_of_check (inner accepted)
  refine ⟨url, _, _, inner read, ?_, rfl, rfl, ?_, readFrom_poolOfParameters _, most, least,
    sameBesides_setQuery _ _⟩
  · rw [Bool.and_eq_true, bne_iff_ne, bne_iff_ne, not_and_or, not_not, not_not] at known
    exact known
  · rw [same]
    generalize ((url.query.map Form.pairs).getD []).filter _ = others
    have plain : ∀ q ∈ (if others.isEmpty then none else some (Form.encode others)),
        '#' ∉ q.toList := by
      intro q written
      split at written
      · cases written
      · obtain rfl := Option.some.inj written
        exact Form.not_mem_encode (by decide) (by decide) (by decide)
    rw [Url.queryIn?_text (separate_setQuery (Url.separate_of_parse (inner read)) plain)]
    cases others with
    | nil => rfl
    | cons param others => exact congrArg some (Form.pairs_encode (param :: others))

/-- Of an address with an option between parameters for the driver, once in mixed case, the last
occurrence counts. -/
theorem options_taken_sales :
    ∃ o, parse "postgres://localhost/sales?MAX_connections=5&sslmode=require&max_connections=20" =
        .ok o ∧ o.pool.maxConnections = some 20 ∧
      (Url.queryIn? o.url.text).map Form.pairs = some [("sslmode", "require")] := by
  have accepted : (parse
      "postgres://localhost/sales?MAX_connections=5&sslmode=require&max_connections=20").isOk =
        true := by
    decide +kernel
  have whole : Url.parse
      "postgres://localhost/sales?MAX_connections=5&sslmode=require&max_connections=20" =
        .ok ⟨"postgres", some ⟨"", "", .name "localhost", none⟩, .rooted ["sales"],
          some "MAX_connections=5&sslmode=require&max_connections=20", none⟩ := rfl
  have pairs : Form.pairs "MAX_connections=5&sslmode=require&max_connections=20" =
      [("MAX_connections", "5"), ("sslmode", "require"), ("max_connections", "20")] := by
    decide +kernel
  cases parsed : parse
      "postgres://localhost/sales?MAX_connections=5&sslmode=require&max_connections=20" with
  | error e =>
    rw [parsed] at accepted
    cases accepted
  | ok o =>
    obtain ⟨url, params, others, read, -, rfl, rfl, query, options, -⟩ :=
      options_taken _ o parsed
    obtain rfl := Except.ok.inj (read.symm.trans whole)
    simp only [Option.map_some, Option.getD_some, pairs] at query options
    have twenty : Text.IsNatural "20" 20 := Text.natural?_eq_some_iff.mp rfl
    refine ⟨o, rfl, (options.maxConnections 20).mpr ⟨"20", ?_, twenty, by decide⟩, query⟩
    exact ⟨[("MAX_connections", "5"), ("sslmode", "require")], "max_connections", [], rfl,
      by decide, nofun⟩

end ConnectOptions

end TableMapper
