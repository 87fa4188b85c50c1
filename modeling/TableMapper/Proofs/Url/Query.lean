import TableMapper.Proofs.Text.Letter
import TableMapper.Proofs.Url.Form
import TableMapper.Url.Basic

/-!
# The query of an address

The query stands in the text of an address between the first question mark and the number sign after
it.  No part before it has either of them, and the query has no number sign.

* `Url.Separate` says so of an address, and `Url.separate_of_parse` of every address that is read.
* `Url.queryIn?_text` finds the query in the text.
-/

namespace TableMapper

namespace Url

/-! ### Readings that succeed -/

section

variable {ε α β : Type} {b : β}

theorem exists_of_bind {m : Except ε α} {f : α → Except ε β} (h : m >>= f = .ok b) :
    ∃ a, m = .ok a ∧ f a = .ok b := by
  cases m with
  | error e => cases h
  | ok a => exact ⟨a, rfl, h⟩

/-- What is refused under a condition is read without it. -/
theorem ok_of_unless {p : Prop} [Decidable p] {e : ε} {f : PUnit → Except ε β}
    (h : (if p then throw e >>= f else f ⟨⟩) = .ok b) : ¬ p ∧ f ⟨⟩ = .ok b := by
  split at h
  next => cases h
  next accepted => exact ⟨accepted, h⟩

end

/-! ### Texts without stops -/

/-- A query or a fragment begins here. -/
def isStop (c : Char) : Bool := c == '?' || c == '#'

/-- No query or fragment begins in the text. -/
def Clean (cs : List Char) : Prop := ∀ c ∈ cs, isStop c = false

variable {cs ds : List Char} {set : Char → Bool} {c : Char}

theorem Clean.subset (clean : Clean cs) (part : ds ⊆ cs) : Clean ds :=
  fun c inside => clean c (part inside)

theorem Clean.append (clean : Clean cs) (clean' : Clean ds) : Clean (cs ++ ds) :=
  fun c inside => (List.mem_append.mp inside).elim (clean c) (clean' c)

theorem isStop_of_isPlain (plain : Form.isPlain c = true) : isStop c = false := by
  have other := Form.ne_of_isPlain plain (by decide : Form.isPlain '?' = false)
  have other' := Form.ne_of_isPlain plain (by decide : Form.isPlain '#' = false)
  simp [isStop, other, other']

theorem Clean.encode (clean : Clean cs) : Clean (Percent.encodeChars set cs) := by
  intro c inside
  obtain ⟨given, -⟩ | rfl | plain := Percent.mem_encodeChars inside
  · exact clean c given
  · rfl
  · exact isStop_of_isPlain plain

theorem Clean.intercalate {sep : List Char} {parts : List (List Char)} (marks : Clean sep)
    (clean : ∀ part ∈ parts, Clean part) : Clean (sep.intercalate parts) := by
  intro c inside
  obtain mark | ⟨part, given, found⟩ := Text.mem_intercalate inside
  · exact marks c mark
  · exact clean part given c found

theorem clean_mark {s : String} (clean : s.toList.all (!isStop ·) = true) : Clean s.toList :=
  fun c inside => by simpa using List.all_eq_true.mp clean c inside

theorem clean_append {s t : String} (clean : Clean s.toList) (clean' : Clean t.toList) :
    Clean (s ++ t).toList := by
  rw [String.toList_append]
  exact clean.append clean'

/-! ### Hosts -/

theorem clean_ipv6 (groups : List Nat) : Clean (Ipv6.text groups).toList := by
  have digit : ∀ d < 16, isStop (Text.digitChar d) = false := by decide
  have colons (gs : List Nat) : Clean (Ipv6.colons gs) := by
    refine Clean.intercalate (by simp [Clean, isStop]) fun part inside => ?_
    obtain ⟨g, -, rfl⟩ := List.mem_map.mp inside
    intro c inside
    obtain ⟨d, small, rfl⟩ := Text.exists_digitChar_of_mem_lowDigits (by decide) inside
    exact digit d small
  rw [Ipv6.text, String.toList_ofList]
  split
  next i n _ =>
    have mark : Clean [':', ':'] := by simp [Clean, isStop]
    exact (colons _).append (mark.append (colons _))
  next => exact colons groups

theorem clean_host {host : Host} (clean : Clean cs) (read : Host.read cs = .ok host) :
    Clean host.text.toList := by
  unfold Host.read at read
  split at read
  next inner =>
    split at read
    next =>
      split at read
      next groups _ =>
        obtain rfl := Except.ok.inj read
        have chars : (Host.ipv6 groups).text.toList =
            ['['] ++ (Ipv6.text groups).toList ++ [']'] := by
          simp [Host.text, String.toList_append]
        have mark : Clean ['['] ∧ Clean [']'] := by simp [Clean, isStop]
        rw [chars]
        exact (mark.1.append (clean_ipv6 groups)).append mark.2
      next => cases read
    next => cases read
  next =>
    split at read
    next => cases read
    next =>
      obtain rfl := Except.ok.inj read
      rw [Host.text, String.toList_ofList]
      exact clean.encode

/-! ### Paths -/

theorem up_subset (path : List String) : up path ⊆ path := by
  unfold up
  split
  · split
    · exact List.Subset.refl path
    · exact List.dropLast_subset path
  · exact List.nil_subset path

/-- Resolving dots leaves segments out, and it may end the path in an empty one. -/
theorem mem_resolve {path rest : List String} {segment : String}
    (inside : segment ∈ resolve path rest) : segment ∈ path ∨ segment ∈ rest ∨ segment = "" := by
  induction rest generalizing path with
  | nil => exact .inl inside
  | cons s rest ih =>
    have later {path' : List String} (front : path' ⊆ path ++ [s])
        (inside : segment ∈ resolve path' rest) :
        segment ∈ path ∨ segment ∈ s :: rest ∨ segment = "" := by
      obtain before | after | last := ih inside
      · obtain before | here := List.mem_append.mp (front before)
        · exact .inl before
        · exact .inr (.inl (List.mem_singleton.mp here ▸ List.mem_cons_self))
      · exact .inr (.inl (List.mem_cons_of_mem s after))
      · exact .inr (.inr last)
    have ended {path' : List String} (front : path' ⊆ path) (inside : segment ∈ path' ++ [""]) :
        segment ∈ path ∨ segment ∈ s :: rest ∨ segment = "" := by
      obtain before | last := List.mem_append.mp inside
      · exact .inl (front before)
      · exact .inr (.inr (List.mem_singleton.mp last))
    have whole : path ⊆ path ++ [s] := List.subset_append_left path [s]
    unfold resolve at inside
    split at inside
    · split at inside
      · exact ended (up_subset path) inside
      · exact later (List.Subset.trans (up_subset path) whole) inside
    · split at inside
      · split at inside
        · exact ended (List.Subset.refl path) inside
        · exact later whole inside
      · exact later (List.Subset.refl _) inside

theorem clean_rootedPath (clean : Clean cs) : Clean (rootedPath cs).text.toList := by
  intro c inside
  rw [rootedPath, Path.text, String.toList_join] at inside
  obtain ⟨part, given, found⟩ := List.mem_flatMap.mp inside
  obtain ⟨segment, inside, rfl⟩ := List.mem_map.mp given
  rw [String.toList_append] at found
  obtain slash | found := List.mem_append.mp found
  · obtain rfl := List.mem_singleton.mp slash
    rfl
  · obtain none | inside | rfl := mem_resolve inside
    · cases none
    · obtain ⟨part, between, rfl⟩ := List.mem_map.mp inside
      rw [String.toList_ofList] at found
      exact (clean.subset (Text.subset_of_mem_splitOn between)).encode c found
    · cases found

theorem clean_startedPath (clean : Clean cs) : Clean (startedPath cs).text.toList := by
  unfold startedPath
  split
  · exact nofun
  · exact clean_rootedPath (clean.subset (List.subset_cons_self _ _))
  · exact clean_rootedPath clean

/-! ### Authorities -/

theorem cutUser_subset (cs : List Char) :
    (cutUser cs).1.getD [] ⊆ cs ∧ (cutUser cs).2 ⊆ cs := by
  unfold cutUser
  cases cut : Text.cutWhere? (· == '@') cs.reverse with
  | none => exact ⟨List.nil_subset cs, List.Subset.refl cs⟩
  | some parts =>
    obtain ⟨back, front⟩ := parts
    obtain ⟨c, whole, -, -⟩ := Text.exists_of_cutWhere? cut
    have whole : cs = front.reverse ++ c :: back.reverse := by
      rw [← List.reverse_reverse cs, whole]
      simp
    subst whole
    exact ⟨List.subset_append_left _ _,
      List.subset_append_of_subset_right _ (List.subset_cons_self _ _)⟩

theorem cutHost_append (inside : Bool) (cs : List Char) :
    (cutHost inside cs).1 ++ (cutHost inside cs).2 = cs := by
  induction cs generalizing inside with
  | nil => rfl
  | cons c cs ih =>
    rw [cutHost]
    split
    · rfl
    · exact congrArg (c :: ·) (ih _)

theorem cutHost_subset (inside : Bool) (cs : List Char) :
    (cutHost inside cs).1 ⊆ cs ∧ (cutHost inside cs).2 ⊆ cs := by
  have front := List.subset_append_left (cutHost inside cs).1 (cutHost inside cs).2
  have back := List.subset_append_right (cutHost inside cs).1 (cutHost inside cs).2
  rw [cutHost_append] at front back
  exact ⟨front, back⟩

theorem clean_encodeUser (clean : Clean cs) : Clean (encodeUser (String.ofList cs)).toList := by
  rw [encodeUser, Percent.encode, String.toList_ofList, String.toList_ofList]
  exact clean.encode

theorem clean_readUser (clean : Clean cs) :
    Clean (readUser cs).1.toList ∧ Clean (readUser cs).2.toList := by
  have parts : ((Text.cutWhere? (· == ':') cs).getD (cs, [])).1 ⊆ cs ∧
      ((Text.cutWhere? (· == ':') cs).getD (cs, [])).2 ⊆ cs := by
    cases cut : Text.cutWhere? (· == ':') cs with
    | none => exact ⟨List.Subset.refl cs, List.nil_subset cs⟩
    | some parts =>
      obtain ⟨c, whole, -, -⟩ := Text.exists_of_cutWhere? cut
      rw [whole]
      exact ⟨List.subset_append_left _ _,
        List.subset_append_of_subset_right _ (List.subset_cons_self _ _)⟩
  exact ⟨clean_encodeUser (clean.subset parts.1), clean_encodeUser (clean.subset parts.2)⟩

theorem readPort_subset {port : Option Nat} {rest : List Char}
    (read : readPort cs = .ok (port, rest)) : rest ⊆ cs := by
  unfold readPort at read
  dsimp only at read
  split at read
  next => cases read
  next =>
    split at read
    next =>
      obtain ⟨-, rfl⟩ := Prod.mk.inj (Except.ok.inj read)
      exact List.dropWhile_subset Text.isDigit
    next => cases read

theorem clean_authority {a : Authority} (user : Clean a.user.toList)
    (password : Clean a.password.toList) (host : Clean a.host.text.toList) :
    Clean a.text.toList := by
  have login : Clean (a.user ++ (if a.password.isEmpty then "" else ":" ++ a.password)).toList := by
    refine clean_append user ?_
    split
    · exact clean_mark rfl
    · exact clean_append (clean_mark rfl) password
  unfold Authority.text
  dsimp only
  generalize a.user ++ (if a.password.isEmpty then "" else ":" ++ a.password) = text at login ⊢
  refine clean_append (clean_append (clean_append (clean_mark rfl) ?_) host) ?_
  · split
    · exact clean_mark rfl
    · exact clean_append login (clean_mark rfl)
  · split
    next n =>
      refine clean_append (clean_mark rfl) fun c inside => ?_
      have digit := Text.isDigit_of_mem_nat inside
      exact isStop_of_isPlain (by simp [Form.isPlain, digit])
    next => exact clean_mark rfl

theorem clean_readAuthority {more : Bool} {a : Authority} {path : Path} (clean : Clean cs)
    (read : readAuthority more cs = .ok (a, path)) :
    Clean a.text.toList ∧ Clean path.text.toList := by
  unfold readAuthority at read
  obtain ⟨-, read⟩ := ok_of_unless read
  obtain ⟨host, named, read⟩ := exists_of_bind read
  obtain ⟨-, read⟩ := ok_of_unless read
  obtain ⟨⟨port, rest⟩, numbered, read⟩ := exists_of_bind read
  obtain ⟨-, read⟩ := ok_of_unless read
  obtain ⟨rfl, rfl⟩ := Prod.mk.inj (Except.ok.inj read)
  have head : Clean (cs.takeWhile (· != '/')) := clean.subset (List.takeWhile_subset _)
  have tail : Clean (cs.dropWhile (· != '/')) := clean.subset (List.dropWhile_subset _)
  obtain ⟨login, place⟩ := cutUser_subset (cs.takeWhile (· != '/'))
  obtain ⟨front, back⟩ := cutHost_subset false (cutUser (cs.takeWhile (· != '/'))).2
  obtain ⟨user, password⟩ := clean_readUser (head.subset login)
  refine ⟨clean_authority user password (clean_host ((head.subset place).subset front) named),
    clean_startedPath ?_⟩
  have after := ((head.subset place).subset back).subset (List.drop_subset 1 _)
  exact (after.subset (readPort_subset numbered)).append tail

/-! ### Addresses -/

/-- The parts of an address before its query, and the query, are told apart. -/
structure Separate (u : Url) : Prop where
  scheme : Clean u.scheme.toList
  authority : ∀ a ∈ u.authority, Clean a.text.toList
  path : Clean u.path.text.toList
  query : ∀ q ∈ u.query, '#' ∉ q.toList

/-- What the text of an address has for its query. -/
def queryIn? (s : String) : Option String :=
  (Text.cutAt? "?" (Text.beforeFirst '#' s)).map (·.2)

/-- The text of an address before its query. -/
def front (u : Url) : String :=
  u.scheme ++ ":" ++ match u.authority with
    | some a => a.text ++ u.path.text
    | none => (if Text.startsWith "//" u.path.text then "/." else "") ++ u.path.text

theorem clean_front {u : Url} (separate : u.Separate) : Clean u.front.toList := by
  refine clean_append (clean_append separate.scheme (clean_mark rfl)) ?_
  split
  next a known => exact clean_append (separate.authority a known) separate.path
  next =>
    refine clean_append ?_ separate.path
    split
    · exact clean_mark rfl
    · exact clean_mark rfl

theorem text_eq (u : Url) :
    u.text = u.front ++ u.query.elim "" ("?" ++ ·) ++ u.fragment.elim "" ("#" ++ ·) := by
  obtain ⟨scheme, authority, path, query, fragment⟩ := u
  cases query <;> cases fragment <;> rfl

/-- **The query of an address** is found in its text. -/
theorem queryIn?_text {u : Url} (separate : u.Separate) : queryIn? u.text = u.query := by
  have clean := clean_front separate
  have solid : '#' ∉ (u.front ++ u.query.elim "" ("?" ++ ·)).toList := by
    intro inside
    rw [String.toList_append] at inside
    obtain early | late := List.mem_append.mp inside
    · exact absurd (clean '#' early) (by decide)
    cases query : u.query with
    | none => rw [query] at late; cases late
    | some q =>
      rw [query, Option.elim_some, String.toList_append] at late
      obtain mark | late := List.mem_append.mp late
      · exact absurd (List.mem_singleton.mp mark) (by decide)
      · exact separate.query q query late
  have before : Text.beforeFirst '#' u.text = u.front ++ u.query.elim "" ("?" ++ ·) := by
    have tail : (u.fragment.elim "" ("#" ++ ·)).toList.takeWhile (· != '#') = [] := by
      cases u.fragment with
      | none => rfl
      | some f => rw [Option.elim_some, String.toList_append]; rfl
    rw [text_eq, Text.beforeFirst, String.toList_append, List.takeWhile_append_of_pos, tail,
      List.append_nil, String.ofList_toList]
    exact fun c inside => by simpa using fun same : c = '#' => solid (same ▸ inside)
  have outside : '?' ∉ u.front.toList := fun inside => absurd (clean '?' inside) (by decide)
  rw [queryIn?, before]
  cases u.query with
  | none =>
    have uncut : Text.cutAt? "?" u.front = none :=
      congrArg (Option.map _) (Text.cutAtChars?_eq_none outside)
    rw [Option.elim_none, String.append_empty, uncut, Option.map_none]
  | some q =>
    have cut := Text.cutAtChars?_singleton outside q.toList
    have chars : (u.front ++ ("?" ++ q)).toList = u.front.toList ++ '?' :: q.toList := by
      rw [String.toList_append, String.toList_append]
      rfl
    rw [← chars] at cut
    have found : Text.cutAt? "?" (u.front ++ ("?" ++ q)) =
        some (String.ofList u.front.toList, String.ofList q.toList) := congrArg (Option.map _) cut
    rw [Option.elim_some, found, Option.map_some, String.ofList_toList, String.ofList_toList]

theorem not_mem_cutOff (p : Char) (cs : List Char) : p ∉ (cutOff p cs).1 := by
  unfold cutOff
  split
  next a b cut =>
    obtain ⟨-, -, -, before⟩ := Text.exists_of_cutWhere? cut
    exact fun inside => by simpa using before p inside
  next none => exact fun inside => by simpa using Text.cutWhere?_eq_none none p inside

theorem cutOff_subset (p : Char) (cs : List Char) :
    (cutOff p cs).1 ⊆ cs ∧ ∀ after ∈ (cutOff p cs).2, after ⊆ cs := by
  unfold cutOff
  split
  next a b cut =>
    obtain ⟨c, rfl, -, -⟩ := Text.exists_of_cutWhere? cut
    refine ⟨List.subset_append_left _ _, fun after last => ?_⟩
    obtain rfl := Option.some.inj last
    exact List.subset_append_of_subset_right _ (List.subset_cons_self _ _)
  next => exact ⟨List.Subset.refl cs, nofun⟩

theorem clean_scheme {scheme : String} {rest : List Char}
    (read : readScheme cs = .ok (scheme, rest)) : Clean scheme.toList := by
  unfold readScheme at read
  split at read
  next =>
    split at read
    next =>
      obtain ⟨rfl, -⟩ := Prod.mk.inj (Except.ok.inj read)
      rw [Text.lowerAscii, String.toList_ofList, String.toList_ofList]
      intro c inside
      obtain ⟨d, taken, rfl⟩ := List.mem_map.mp inside
      have letter := List.mem_takeWhile_imp taken
      have other (mark : Char) (low : mark.toNat < 65) (odd : isSchemeChar mark = false) :
          (d.toLower == mark) = false := by
        refine beq_false_of_ne fun same => ?_
        rw [(Text.toLower_eq_iff low).mp same, odd] at letter
        cases letter
      rw [isStop, other '?' (by decide) (by decide), other '#' (by decide) (by decide)]
      rfl
    next => cases read
  next => cases read

/-- The parts of an address that is read are told apart. -/
theorem separate_of_parse {s : String} {u : Url} (read : parse s = .ok u) : u.Separate := by
  unfold parse at read
  obtain ⟨⟨scheme, rest⟩, named, read⟩ := exists_of_bind read
  have clean := clean_scheme named
  obtain ⟨earlier, after⟩ := cutOff_subset '?' (cutOff '#' rest).1
  have fragmentless := not_mem_cutOff '#' rest
  have body : Clean (cutOff '?' (cutOff '#' rest).1).1 := by
    intro c inside
    have question : c ≠ '?' := fun same => not_mem_cutOff '?' _ (same ▸ inside)
    have number : c ≠ '#' := fun same => fragmentless (same ▸ earlier inside)
    simp [isStop, question, number]
  have query : ∀ q ∈ (cutOff '?' (cutOff '#' rest).1).2.map fun cs =>
      String.ofList (Percent.encodeChars Percent.inQuery cs), '#' ∉ q.toList := by
    intro q given inside
    obtain ⟨cs, last, rfl⟩ := Option.map_eq_some_iff.mp given
    rw [String.toList_ofList] at inside
    obtain ⟨there, -⟩ | mark | plain := Percent.mem_encodeChars inside
    · exact fragmentless (after cs last there)
    · exact absurd mark (by decide)
    · exact absurd plain (by decide)
  dsimp only at read
  generalize (cutOff '?' (cutOff '#' rest).1).1 = cs at read body
  generalize Option.map _ (cutOff '?' (cutOff '#' rest).1).2 = q at read query
  split at read
  next =>
    obtain ⟨⟨a, path⟩, placed, read⟩ := exists_of_bind read
    obtain ⟨-, read⟩ := ok_of_unless read
    obtain rfl := Except.ok.inj read
    have slashed : Clean (cs.map fun c => if c == '\\' then '/' else c) := by
      intro c inside
      obtain ⟨d, given, rfl⟩ := List.mem_map.mp inside
      split
      · rfl
      · exact body d given
    obtain ⟨clean', path⟩ := clean_readAuthority (slashed.subset (List.dropWhile_subset _)) placed
    exact ⟨clean, fun b same => Option.some.inj same ▸ clean', path, query⟩
  next =>
    split at read
    next =>
      obtain ⟨⟨a, path⟩, placed, read⟩ := exists_of_bind read
      obtain rfl := Except.ok.inj read
      have after := (body.subset (List.subset_cons_self _ _)).subset (List.subset_cons_self _ _)
      obtain ⟨clean', path⟩ := clean_readAuthority after placed
      exact ⟨clean, fun b same => Option.some.inj same ▸ clean', path, query⟩
    next =>
      obtain rfl := Except.ok.inj read
      exact ⟨clean, nofun, clean_rootedPath (body.subset (List.subset_cons_self _ _)), query⟩
    next =>
      obtain rfl := Except.ok.inj read
      refine ⟨clean, nofun, ?_, query⟩
      rw [Path.text, String.toList_ofList]
      exact body.encode

end Url

end TableMapper
