import TableMapper.Proofs.Connection.Options

/-!
# The number of connections from an address and from a variable

An address gives a number of connections as a number of 32 bits.  The variable is read as a number
of 64 bits, of which the lower 32 count.

* `ConnectOptions.address` is an address with any text for the number of connections, and
  `ConnectOptions.parse_address` reads it.
* `ConnectOptions.sources_agree_iff` says for which texts address and variable agree.
-/

namespace TableMapper

/-! ### Addresses without anything to escape -/

namespace Url

variable {cs : List Char}

/-- A text in which all characters count. -/
theorem clean_eq_self {s : String} (solid : ∀ c ∈ s.toList, isOuter c = false) :
    clean s = s.toList := by
  have ends {ds : List Char} (solid : ∀ c ∈ ds, isOuter c = false) :
      ds.dropWhile isOuter = ds := by
    cases ds with
    | nil => rfl
    | cons c ds => exact List.dropWhile_cons_of_neg (by simp [solid c List.mem_cons_self])
  have kept : ∀ c ∈ s.toList, (!isDropped c) = true := by
    intro c inside
    rw [Bool.not_eq_true', Bool.eq_false_iff]
    intro dropped
    simp only [isDropped, Bool.or_eq_true, beq_iff_eq] at dropped
    obtain (rfl | rfl) | rfl := dropped <;> exact absurd (solid _ inside) (by decide)
  rw [clean, ends solid, ends fun c inside => solid c (List.mem_reverse.mp inside),
    List.reverse_reverse, List.filter_eq_self.mpr kept]

/-- A scheme ends at its colon. -/
theorem readScheme_append {name : List Char} (all : name.all isSchemeChar = true)
    (first : (name.head?.map Text.isLetter).getD false = true) (rest : List Char) :
    readScheme (name ++ ':' :: rest) = .ok (Text.lowerAscii (String.ofList name), rest) := by
  have letters : ∀ c ∈ name, isSchemeChar c = true := List.all_eq_true.mp all
  have stop : isSchemeChar ':' = false := by decide
  have after : (name ++ ':' :: rest).dropWhile isSchemeChar = ':' :: rest :=
    Text.dropWhile_append letters fun c same => Option.some.inj same ▸ stop
  have before : (name ++ ':' :: rest).takeWhile isSchemeChar = name := by
    rw [List.takeWhile_append_of_pos letters, List.takeWhile_cons_of_neg (by simp [stop]),
      List.append_nil]
  have start : ((name ++ ':' :: rest).head?.map Text.isLetter).getD false = true := by
    cases name with
    | nil => cases first
    | cons c name => exact first
  rw [readScheme, after]
  simp only [start, before, if_true]

theorem cutOff_eq_self {p : Char} (outside : p ∉ cs) : cutOff p cs = (cs, none) := by
  unfold cutOff
  split
  next before after cut =>
    obtain ⟨c, rfl, here, -⟩ := Text.exists_of_cutWhere? cut
    exact absurd (eq_of_beq here ▸ List.mem_append_right _ List.mem_cons_self) outside
  next => rfl

theorem cutOff_append {p : Char} (outside : p ∉ cs) (rest : List Char) :
    cutOff p (cs ++ p :: rest) = (cs, some rest) := by
  have before : ∀ c ∈ cs, (c == p) = false := by
    intro c inside
    refine beq_false_of_ne ?_
    rintro rfl
    exact outside inside
  rw [cutOff, Text.cutWhere?_append before (beq_self_eq_true p)]

end Url

namespace ConnectOptions

variable {v : String}

/-- An address with these parameters. -/
def address (params : List (String × String)) : String :=
  "postgres://localhost?" ++ Form.encode params

/-- The parameters are read as the query of the address. -/
theorem parse_address (params : List (String × String)) : Url.parse (address params) =
    .ok ⟨"postgres", some ⟨"", "", .name "localhost", none⟩, .rooted [],
      some (Form.encode params), none⟩ := by
  have chars : (address params).toList =
      "postgres://localhost?".toList ++ (Form.encode params).toList := String.toList_append
  have solid : ∀ c ∈ (address params).toList, Url.isOuter c = false := by
    intro c inside
    rw [chars] at inside
    obtain early | late := List.mem_append.mp inside
    · have all : ("postgres://localhost?".toList.all (!Url.isOuter ·)) = true := by decide +kernel
      simpa using List.all_eq_true.mp all c early
    · have range := Form.toNat_of_mem_encode late
      rw [Url.isOuter, decide_eq_false_iff_not]
      omega
  have scheme : Url.readScheme (Url.clean (address params)) =
      .ok ("postgres", "//localhost".toList ++ '?' :: (Form.encode params).toList) := by
    have parts : "postgres://localhost?".toList ++ (Form.encode params).toList =
        "postgres".toList ++ ':' :: ("//localhost".toList ++ '?' :: (Form.encode params).toList) :=
      rfl
    rw [Url.clean_eq_self solid, chars, parts, Url.readScheme_append (by decide) (by decide)]
    exact congrArg (fun name => Except.ok (name, _)) (by decide)
  have fragment : Url.cutOff '#' ("//localhost".toList ++ '?' :: (Form.encode params).toList) =
      ("//localhost".toList ++ '?' :: (Form.encode params).toList, none) := by
    refine Url.cutOff_eq_self fun inside => ?_
    obtain early | late := List.mem_append.mp inside
    · exact absurd early (by decide)
    obtain mark | late := List.mem_cons.mp late
    · cases mark
    · exact Form.not_mem_encode (by decide) (by decide) (by decide) late
  have query := Url.cutOff_append (by decide : '?' ∉ "//localhost".toList)
    (Form.encode params).toList
  have kept : String.ofList (Percent.encodeChars Percent.inQuery (Form.encode params).toList) =
      Form.encode params := by
    rw [Form.encodeChars_encode, String.ofList_toList]
  rw [Url.parse, scheme]
  simp only [bind, Except.bind, fragment, query, kept, Option.map_some]
  rfl

/-- An address has a text for the number of connections, and none for the least number. -/
def Gives (s v : String) : Prop :=
  ∃ url params, Url.parse s = .ok url ∧ (url.scheme = "postgres" ∨ url.scheme = "postgresql") ∧
    params = (url.query.map Form.pairs).getD [] ∧ LastValue params "max_connections" v ∧
    ∀ p ∈ params, Text.sameLetters p.1 "min_connections" = false

theorem gives_address (v : String) : Gives (address [("max_connections", v)]) v := by
  have read := parse_address [("max_connections", v)]
  have pairs := Form.pairs_encode [("max_connections", v)]
  generalize Form.encode [("max_connections", v)] = query at read pairs
  refine ⟨_, [("max_connections", v)], read, .inl rfl, pairs.symm, ?_, ?_⟩
  · exact ⟨[], "max_connections", [], rfl, by decide, nofun⟩
  · intro p inside
    obtain rfl := List.mem_singleton.mp inside
    exact (by decide : Text.sameLetters "max_connections" "min_connections" = false)

/-- The variable for the number of connections, and no other one. -/
def only (v key : String) : Option String :=
  if key = "PSQLORM_MAX_CONNECTIONS" then some v else none

/-- The number of connections that is asked for, if the options are accepted. -/
def connections (read : Except OptionsFault ConnectOptions) : Except OptionsFault (Option Nat) :=
  read.map (·.pool.maxConnections)

/-- What becomes of a number of connections: a pool without any is refused. -/
def settled (most : Option Nat) : Except OptionsFault (Option Nat) :=
  if most = some 0 then .error (.pool .noConnections) else .ok most

/-- Options are refused for their number of connections only, if no least number is given. -/
theorem check_eq_settled {pool : PoolOptions} (single : pool.minConnections = none) :
    (pool.check.mapError OptionsFault.pool).map (fun _ => pool.maxConnections) =
      settled pool.maxConnections := by
  unfold PoolOptions.check settled
  split
  next => rfl
  next => rw [single]; rfl

/-- Without other variables the options are those of the pool on this host. -/
theorem ofVariables_only (v : String) : ofVariables (only v) =
    ((poolOfVariables (only v)).check.mapError OptionsFault.pool).map fun _ =>
      ⟨⟨"postgres", some ⟨"", "", .name "localhost", some 5432⟩, .rooted [], none, none⟩, none,
        poolOfVariables (only v), defaultQueryTimeout⟩ := by
  have host : Url.parse ("postgres://" ++ "localhost" ++ ":" ++ toString 5432) =
      .ok ⟨"postgres", some ⟨"", "", .name "localhost", some 5432⟩, .rooted [], none, none⟩ := rfl
  have other {key : String} (unequal : key ≠ "PSQLORM_MAX_CONNECTIONS") : only v key = none :=
    if_neg unequal
  unfold ofVariables
  rw [other (by decide), other (by decide), other (by decide), other (by decide),
    other (by decide)]
  simp only [Option.getD_none, bind, Except.bind, host]
  cases (poolOfVariables (only v)).check with
  | error fault => rfl
  | ok => rfl

theorem connections_ofVariables (v : String) : connections (ofVariables (only v)) =
    settled ((Text.naturalBelow? (Nat.pow 2 64) v).map (· % Nat.pow 2 32)) := by
  have pool : (poolOfVariables (only v)).maxConnections =
      (Text.naturalBelow? (Nat.pow 2 64) v).map (· % Nat.pow 2 32) := rfl
  have least : (poolOfVariables (only v)).minConnections = none := rfl
  rw [connections, ofVariables_only, ← pool, ← check_eq_settled least]
  cases (poolOfVariables (only v)).check with
  | error fault => rfl
  | ok => rfl

theorem connections_parse {s : String} (gives : Gives s v) :
    connections (parse s) = settled (Text.naturalBelow? (Nat.pow 2 32) v) := by
  obtain ⟨url, params, read, known, given, last, single⟩ := gives
  have pool : (poolOfParameters params).maxConnections = Text.naturalBelow? (Nat.pow 2 32) v := by
    have text := (lastValue?_eq_some_iff (by decide)).mpr last
    rw [poolOfParameters, text, Option.bind_some]
  have least : (poolOfParameters params).minConnections = none := by
    have absent : lastValue? "min_connections" params = none := by
      refine Option.eq_none_iff_forall_ne_some.mpr fun text found => ?_
      obtain ⟨before, key, after, rfl, same, -⟩ := (lastValue?_eq_some_iff (by decide)).mp found
      rw [single (key, text) (by simp)] at same
      cases same
    rw [poolOfParameters, absent, Option.bind_none]
  rw [connections, parse_of_url read known given, ← pool, ← check_eq_settled least]
  cases (poolOfParameters params).check with
  | error fault => rfl
  | ok => rfl

/-- The text is a number that a word of 64 bits holds, and none of 32. -/
def Wraps (v : String) : Prop := ∃ n, Text.IsNatural v n ∧ 2 ^ 32 ≤ n ∧ n < 2 ^ 64

/-- A number of 64 bits is read from the variable in any case, and from an address if it has 32. -/
theorem settled_wraps {n : Nat} (natural : Text.IsNatural v n) (low : 2 ^ 32 ≤ n)
    (high : n < 2 ^ 64) :
    settled (Text.naturalBelow? (Nat.pow 2 32) v) = .ok none ∧
      settled ((Text.naturalBelow? (Nat.pow 2 64) v).map (· % Nat.pow 2 32)) =
        settled (some (n % 2 ^ 32)) := by
  have read := Text.natural?_eq_some_iff.mpr natural
  have long : Text.naturalBelow? (Nat.pow 2 32) v = none := by
    rw [Text.naturalBelow?, read, Option.filter_some, if_neg]
    exact fun short => absurd (of_decide_eq_true short) (Nat.not_lt.mpr low)
  have word : Text.naturalBelow? (Nat.pow 2 64) v = some n :=
    Text.naturalBelow?_eq_some_iff.mpr ⟨natural, high⟩
  rw [long, word]
  exact ⟨rfl, rfl⟩

/-- Another text gives the same number of connections, or none, in both ways. -/
theorem naturalBelow?_of_not_wraps (fits : ¬ Wraps v) :
    (Text.naturalBelow? (Nat.pow 2 64) v).map (· % Nat.pow 2 32) =
      Text.naturalBelow? (Nat.pow 2 32) v := by
  cases word : Text.naturalBelow? (Nat.pow 2 32) v with
  | some n =>
    obtain ⟨natural, short⟩ := Text.naturalBelow?_eq_some_iff.mp word
    have long : n < Nat.pow 2 64 := Nat.lt_trans short (by decide)
    rw [Text.naturalBelow?_eq_some_iff.mpr ⟨natural, long⟩, Option.map_some,
      Nat.mod_eq_of_lt short]
  | none =>
    rw [Option.map_eq_none_iff, Option.eq_none_iff_forall_ne_some]
    intro n found
    obtain ⟨natural, high⟩ := Text.naturalBelow?_eq_some_iff.mp found
    refine fits ⟨n, natural, Nat.le_of_not_lt fun short => ?_, high⟩
    have short : n < Nat.pow 2 32 := short
    rw [Text.naturalBelow?_eq_some_iff.mpr ⟨natural, short⟩] at word
    cases word

/-- **An address and a variable** with the same text for the number of connections are read alike,
accepted or refused, unless the text is a number of more than 32 and at most 64 bits.  That is no
number of connections in an address, while of the variable the lower 32 bits count. -/
theorem sources_agree_iff (v : String) :
    (∃ s, Gives s v) ∧ ∀ s, Gives s v →
      (connections (ofVariables (only v)) = connections (parse s) ↔ ¬ Wraps v) ∧
      ∀ n, Text.IsNatural v n → 2 ^ 32 ≤ n → n < 2 ^ 64 → connections (parse s) = .ok none ∧
        connections (ofVariables (only v)) = settled (some (n % 2 ^ 32)) := by
  refine ⟨⟨_, gives_address v⟩, fun s gives => ?_⟩
  rw [connections_parse gives, connections_ofVariables]
  refine ⟨⟨?_, fun fits => by rw [naturalBelow?_of_not_wraps fits]⟩,
    fun n natural low high => settled_wraps natural low high⟩
  rintro agree ⟨n, natural, low, high⟩
  obtain ⟨absent, lower⟩ := settled_wraps natural low high
  rw [absent, lower, settled] at agree
  split at agree
  next => cases agree
  next => cases agree

/-- One connection more than 32 bits count is one connection from the variable and no number from an
address; twenty, with a sign, are twenty. -/
theorem sources_agree_twenty :
    Gives (address [("max_connections", "4294967297")]) "4294967297" ∧
      connections (ofVariables (only "4294967297")) = .ok (some 1) ∧
      connections (parse (address [("max_connections", "4294967297")])) = .ok none ∧
      connections (ofVariables (only "+20")) =
        connections (parse (address [("max_connections", "+20")])) := by
  have natural : Text.IsNatural "4294967297" 4294967297 := Text.natural?_eq_some_iff.mp rfl
  have gives := gives_address "4294967297"
  obtain ⟨absent, one⟩ := ((sources_agree_iff "4294967297").2 _ gives).2 4294967297 natural
    (by decide) (by decide)
  refine ⟨gives, one, absent, ((sources_agree_iff "+20").2 _ (gives_address "+20")).1.mpr ?_⟩
  rintro ⟨n, natural, low, -⟩
  have read := Text.natural?_eq_some_iff.mpr natural
  have twenty : Text.natural? "+20" = some 20 := rfl
  obtain rfl := Option.some.inj (twenty.symm.trans read)
  exact absurd low (by decide)

end ConnectOptions

end TableMapper
