import Mathlib.Data.List.Forall2
import Mathlib.Tactic.IntervalCases
import TableMapper.Proofs.Json.Number

/-!
# Documents are read from their text

`Reads` says that a text is the text of a document whatever separator follows.  Written strings
read as themselves (`readString_append`), and lists and objects of texts as the arrays and objects
of what these read as (`Reads.array`, `Reads.object`).  So the text of a document is read
(`reads_render`), and what is read is the document itself but for the numbers of which the digits
are misread (`Document.reread`).
-/

namespace TableMapper

namespace Document

/-- A document is read from this text, whatever separator follows. -/
def Reads (cs : List Char) (d : Document) : Prop :=
  ∀ {fuel rest}, cs.length ≤ fuel → Follows rest → readValue fuel (cs ++ rest) = some (d, rest)

variable {cs rest : List Char}

theorem skipBlank_cons {c : Char} (h : (c == ' ' || c == '\n' || c == '\t' || c == '\r') = false) :
    skipBlank (c :: cs) = c :: cs := by
  rw [skipBlank, List.dropWhile_cons, h]
  rfl

theorem skipBlank_skipBlank (cs : List Char) : skipBlank (skipBlank cs) = skipBlank cs := by
  induction cs with
  | nil => rfl
  | cons c cs ih =>
    cases blank : c == ' ' || c == '\n' || c == '\t' || c == '\r' with
    | true =>
      have skipped : skipBlank (c :: cs) = skipBlank cs := by
        rw [skipBlank, List.dropWhile_cons, blank]
        rfl
      rw [skipped, ih]
    | false => rw [skipBlank_cons blank, skipBlank_cons blank]

theorem readValue_skipBlank (fuel : Nat) (cs : List Char) :
    readValue fuel (skipBlank cs) = readValue fuel cs := by
  cases fuel with
  | zero => simp [readValue]
  | succ fuel => simp only [readValue, skipBlank_skipBlank]

theorem read?_of_reads {s : String} {d : Document} (h : Reads s.toList d) : read? s = some d := by
  have all : readValue (s.toList.length + 1) (s.toList ++ []) = some (d, []) :=
    h (Nat.le_succ _) (by simp [Follows])
  rw [List.append_nil] at all
  rw [read?, all]
  rfl

/-! ### Strings -/

/-- A control character reads as itself from its number. -/
theorem readHex4_control {n : Nat} (h : n < 32) (rest : List Char) :
    readHex4 ('0' :: '0' :: (Text.hexByte n ++ rest)) = some (n, rest) := by
  interval_cases n <;> rfl

theorem eq_ofNat_of_toNat_eq {c : Char} {n : Nat} (h : c.toNat = n) : c = Char.ofNat n := by
  rw [← h, Char.ofNat_toNat]

/-- A character reads as itself from the way it is written in a string. -/
theorem readString_escapeChar (c : Char) (fuel : Nat) (read : List Char) (rest : List Char) :
    readString (fuel + 1) (some read) (Json.escapeChar c ++ rest) =
      readString fuel (some (c :: read)) rest := by
  rw [Json.escapeChar]
  simp only [beq_iff_eq]
  split_ifs with quote backslash newline return_ tab backspace formFeed control
  · rw [quote]; rfl
  · rw [backslash]; rfl
  · rw [newline]; rfl
  · rw [return_]; rfl
  · rw [tab]; rfl
  · rw [eq_ofNat_of_toNat_eq backspace]; rfl
  · rw [eq_ofNat_of_toNat_eq formFeed]; rfl
  · have digits : readUnicode ('0' :: '0' :: (Text.hexByte c.toNat ++ rest)) =
        some (some c, rest) := by
      rw [readUnicode, readHex4_control control]
      simp only [Option.bind_eq_bind, Option.bind_some, Char.ofNat_toNat]
      rw [if_pos]
      · rfl
      · simp; omega
    change readString (fuel + 1) (some read)
      ('\\' :: 'u' :: '0' :: '0' :: (Text.hexByte c.toNat ++ rest)) = _
    rw [readString, digits]
    rfl
  · rw [List.singleton_append, readString]
    · rw [if_neg control]
      rfl
    · rintro rfl
      exact quote rfl
    · rintro _ rfl
      exact absurd rfl backslash
    · rintro _ _ rfl
      exact absurd rfl backslash

/-- A string reads as itself. -/
theorem readString_append (cs : List Char) {fuel : Nat} (h : cs.length < fuel) (read : List Char)
    (rest : List Char) :
    readString fuel (some read) (cs.flatMap Json.escapeChar ++ '"' :: rest) =
      some (some (String.ofList (read.reverse ++ cs)), rest) := by
  induction cs generalizing fuel read with
  | nil =>
    obtain ⟨fuel, rfl⟩ : ∃ n, fuel = n + 1 := ⟨fuel - 1, by omega⟩
    rw [List.append_nil]
    rfl
  | cons c cs ih =>
    obtain ⟨fuel, rfl⟩ : ∃ n, fuel = n + 1 := ⟨fuel - 1, by omega⟩
    rw [List.flatMap_cons, List.append_assoc, readString_escapeChar,
      ih (by simpa using h)]
    simp

theorem toList_quoted (s : String) :
    (Json.quoted s).toList = '"' :: (s.toList.flatMap Json.escapeChar ++ ['"']) := by
  simp [Json.quoted]

theorem length_le_length_flatMap_escapeChar (cs : List Char) :
    cs.length ≤ (cs.flatMap Json.escapeChar).length := by
  induction cs with
  | nil => exact Nat.le_refl 0
  | cons c cs ih =>
    have some : 1 ≤ (Json.escapeChar c).length := by
      rw [Json.escapeChar]
      split_ifs <;> simp
    rw [List.flatMap_cons, List.length_append, List.length_cons]
    omega

/-! ### Values without parts -/

theorem exists_succ_of_reads {c : Char} {fuel : Nat} (h : (c :: cs).length ≤ fuel) :
    ∃ n, fuel = n + 1 ∧ cs.length ≤ n :=
  ⟨fuel - 1, by rw [List.length_cons] at h; omega, by rw [List.length_cons] at h; omega⟩

theorem reads_null : Reads "null".toList .null := by
  intro fuel rest enough _
  obtain ⟨fuel, rfl, -⟩ := exists_succ_of_reads enough
  rfl

theorem reads_bool (b : Bool) : Reads (render (.bool b)).toList (.bool b) := by
  intro fuel rest enough _
  cases b <;> (obtain ⟨fuel, rfl, -⟩ := exists_succ_of_reads enough; rfl)

theorem reads_malformed : Reads (render .malformed).toList .malformed := by
  have text : (render .malformed).toList = ['"', '\\', 'u', 'd', '8', '0', '0', '"'] := by
    simp [render]
  rw [text]
  intro fuel rest enough _
  obtain ⟨n, rfl⟩ : ∃ n, fuel = n + 3 := ⟨fuel - 3, by simp at enough; omega⟩
  rfl

theorem reads_quoted (s : String) : Reads (Json.quoted s).toList (.string s) := by
  intro fuel rest enough _
  rw [toList_quoted] at enough ⊢
  obtain ⟨fuel, rfl, room⟩ := exists_succ_of_reads enough
  rw [List.length_append, List.length_singleton] at room
  have short := length_le_length_flatMap_escapeChar s.toList
  have body := readString_append s.toList (by omega : s.toList.length < fuel) [] rest
  rw [List.cons_append, List.append_assoc, List.singleton_append, readValue,
    skipBlank_cons (by decide)]
  simp only [body]
  simp

theorem skipBlank_digit {c : Char} (h : Text.isDigit c = true) (cs : List Char) :
    skipBlank (c :: cs) = c :: cs := by
  refine skipBlank_cons ?_
  simp only [Bool.or_eq_false_iff, beq_eq_false_iff_ne]
  refine ⟨⟨⟨?_, ?_⟩, ?_⟩, ?_⟩ <;> rintro rfl <;> exact absurd h (by decide)

theorem Unsigned.exists_cons (h : Unsigned cs) :
    ∃ c cs', cs = c :: cs' ∧ Text.isDigit c = true := by
  obtain ⟨whole, fraction, exponent, hw, -, -, rfl⟩ := h
  obtain ⟨c, ds, rfl⟩ := List.exists_cons_of_ne_nil hw.1.1
  exact ⟨c, _, rfl, hw.1.2 c List.mem_cons_self⟩

theorem readValue_minus (fuel : Nat) (cs : List Char) :
    readValue (fuel + 1) ('-' :: cs) = readNumber true cs := by
  rw [readValue, skipBlank_cons (by decide)]
  rfl

theorem readValue_unsigned (h : Unsigned cs) (fuel : Nat) (rest : List Char) :
    readValue (fuel + 1) (cs ++ rest) = readNumber false (cs ++ rest) := by
  obtain ⟨c, cs, rfl, digit⟩ := h.exists_cons
  rw [List.cons_append, readValue, skipBlank_digit digit]
  split
  -- no digit starts one of the other values
  iterate 7 next eq => exact absurd digit (by rw [(List.cons.inj eq).1]; decide)
  next c' rest' _ _ _ _ _ _ _ eq =>
    obtain ⟨rfl, rfl⟩ := List.cons.inj eq
    rw [if_pos digit]
  next eq => exact nomatch eq

theorem exists_reads_minus (h : Unsigned cs) : ∃ d, Reads ('-' :: cs) d := by
  obtain ⟨d, read⟩ := readNumber_append h true
  refine ⟨d, fun {fuel rest} enough follows => ?_⟩
  obtain ⟨fuel, rfl, -⟩ := exists_succ_of_reads enough
  rw [List.cons_append, readValue_minus]
  exact read follows

theorem exists_reads_unsigned (h : Unsigned cs) : ∃ d, Reads cs d := by
  obtain ⟨d, read⟩ := readNumber_append h false
  refine ⟨d, fun {fuel rest} enough follows => ?_⟩
  obtain ⟨fuel, rfl⟩ : ∃ n, fuel = n + 1 := by
    obtain ⟨c, cs, rfl, -⟩ := h.exists_cons
    obtain ⟨n, rfl, -⟩ := exists_succ_of_reads enough
    exact ⟨n, rfl⟩
  rw [readValue_unsigned h]
  exact read follows

theorem exists_reads_int (n : Int) : ∃ d, Reads (toString n).toList d := by
  rw [Int.toString_eq_repr, Int.repr_eq_if]
  split
  next => exact exists_reads_unsigned (unsigned_nat n.toNat)
  next =>
    rw [String.toList_append]
    exact exists_reads_minus (unsigned_nat (-n).toNat)

theorem exists_reads_double (x : Binary64) : ∃ d, Reads (Json.doubleText x).toList d := by
  cases x with
  | nan => exact ⟨.null, reads_null⟩
  | infinite negative => exact ⟨.null, reads_null⟩
  | finite negative m e =>
    obtain ⟨cs, unsigned, text⟩ := unsigned_scientific negative m e
    have finite : Binary64.isFinite (.finite negative m e) = true := rfl
    rw [Json.doubleText, if_pos finite, text]
    cases negative with
    | false => exact exists_reads_unsigned unsigned
    | true => exact exists_reads_minus unsigned

/-! ### Arrays -/

/-- The text after the first item of an array, or the first member of an object. -/
def tailText (texts : List String) : List Char := texts.flatMap fun t => ',' :: t.toList

theorem toList_intercalate_cons (t : String) (ts : List String) :
    (",".intercalate (t :: ts)).toList = t.toList ++ tailText ts := by
  induction ts generalizing t with
  | nil => simp [tailText]
  | cons u ts ih =>
    rw [String.intercalate_cons_cons, String.toList_append, String.toList_append, ih u, tailText,
      tailText, List.flatMap_cons]
    simp

theorem follows_tailText {close : Char} (h : close = ']' ∨ close = '\x7d') (ts : List String)
    (rest : List Char) : Follows (tailText ts ++ close :: rest) := by
  cases ts with
  | nil => rintro _ ⟨⟩; exact .inr h
  | cons t ts => rintro _ ⟨⟩; exact .inl rfl

variable {t : String} {ts : List String} {d : Document} {ds : List Document}

/-- The items of an array are read up to its end. -/
theorem readItems_append (head : Reads t.toList d)
    (tail : List.Forall₂ (fun t d => Reads (String.toList t) d) ts ds) {fuel : Nat}
    (enough : (t.toList ++ tailText ts).length < fuel) (read : List Document) (rest : List Char) :
    readItems fuel read (t.toList ++ (tailText ts ++ ']' :: rest)) =
      some (.array (read.reverse ++ d :: ds), rest) := by
  induction tail generalizing t d fuel read with
  | nil =>
    obtain ⟨fuel, rfl⟩ : ∃ n, fuel = n + 1 := ⟨fuel - 1, by omega⟩
    rw [List.length_append] at enough
    rw [readItems, head (by omega) (follows_tailText (.inl rfl) [] rest)]
    simp [tailText, skipBlank_cons]
  | @cons u d' ts ds next others ih =>
    obtain ⟨fuel, rfl⟩ : ∃ n, fuel = n + 1 := ⟨fuel - 1, by omega⟩
    have length : (tailText (u :: ts)).length = (u.toList ++ tailText ts).length + 1 := by
      simp [tailText]
    rw [List.length_append, length] at enough
    rw [readItems, head (by omega) (follows_tailText (.inl rfl) (u :: ts) rest)]
    have comma : skipBlank (tailText (u :: ts) ++ ']' :: rest) =
        ',' :: (u.toList ++ (tailText ts ++ ']' :: rest)) := by
      simp [tailText, skipBlank_cons]
    simp only [comma]
    rw [ih next (by omega) (d :: read)]
    simp

theorem readItems_skipBlank (fuel : Nat) (read : List Document) (cs : List Char) :
    readItems fuel read (skipBlank cs) = readItems fuel read cs := by
  cases fuel with
  | zero => simp [readItems]
  | succ fuel => simp only [readItems, readValue_skipBlank]

theorem readItems_close (fuel : Nat) (read : List Document) (cs : List Char) :
    readItems fuel read (']' :: cs) = none := by
  cases fuel with
  | zero => simp [readItems]
  | succ fuel =>
    have none : readValue fuel (']' :: cs) = none := by
      cases fuel with
      | zero => simp [readValue]
      | succ fuel => rfl
    simp only [readItems, none]

/-- The texts of documents, as a list, are the text of the array of these. -/
theorem Reads.array (h : List.Forall₂ (fun t d => Reads (String.toList t) d) ts ds) :
    Reads ("[" ++ ",".intercalate ts ++ "]").toList (.array ds) := by
  intro fuel rest enough _
  cases h with
  | nil =>
    obtain ⟨fuel, rfl, -⟩ := exists_succ_of_reads enough
    rfl
  | @cons t d ts ds head tail =>
    have text : ("[" ++ ",".intercalate (t :: ts) ++ "]").toList =
        '[' :: (t.toList ++ (tailText ts ++ [']'])) := by
      rw [String.toList_append, String.toList_append, toList_intercalate_cons]
      simp
    rw [text] at enough ⊢
    obtain ⟨fuel, rfl, room⟩ := exists_succ_of_reads enough
    have enough : (t.toList ++ tailText ts).length < fuel := by
      simp only [List.length_append, List.length_singleton] at room ⊢
      omega
    have items := readItems_append head tail enough [] rest
    rw [List.cons_append, List.append_assoc, List.append_assoc, List.singleton_append, readValue,
      skipBlank_cons (by decide)]
    simp only
    rw [← readItems_skipBlank] at items
    split
    next closed => rw [closed, readItems_close] at items; exact nomatch items
    next => rw [items]; rfl

/-! ### Objects -/

/-- The text of a member. -/
def memberText (m : String × String) : String := Json.quoted m.1 ++ ":" ++ m.2

/-- A member is read from its name and its text. -/
def ReadsMember (m : String × String) (n : String × Document) : Prop :=
  m.1 = n.1 ∧ Reads m.2.toList n.2

variable {m : String × String} {ms : List (String × String)} {n : String × Document}
  {ns : List (String × Document)}

theorem toList_memberText (m : String × String) :
    (memberText m).toList =
      '"' :: (m.1.toList.flatMap Json.escapeChar ++ '"' :: ':' :: m.2.toList) := by
  rw [memberText, String.toList_append, String.toList_append, toList_quoted]
  simp

/-- One member of an object is read. -/
theorem readMembers_member (h : ReadsMember m n) {fuel : Nat}
    (enough : (memberText m).toList.length ≤ fuel) (follows : Follows rest)
    (read : List (String × Document)) :
    readMembers (fuel + 1) (some read) ((memberText m).toList ++ rest) =
      match skipBlank rest with
      | ',' :: rest => readMembers fuel (some (n :: read)) rest
      | '\x7d' :: rest => some (.object (n :: read).reverse, rest)
      | _ => none := by
  obtain ⟨key, text⟩ := m
  obtain ⟨rfl, value⟩ : key = n.1 ∧ Reads text.toList n.2 := h
  rw [toList_memberText] at enough ⊢
  simp only [List.length_cons, List.length_append] at enough
  have short := length_le_length_flatMap_escapeChar n.1.toList
  have name := readString_append n.1.toList (by omega : n.1.toList.length < fuel) []
    (':' :: (text.toList ++ rest))
  have value : readValue fuel (text.toList ++ rest) = some (n.2, rest) :=
    value (by omega) follows
  rw [List.cons_append, List.append_assoc, List.cons_append, List.cons_append, readMembers,
    skipBlank_cons (by decide)]
  simp only [name, skipBlank_cons (c := ':') (by decide), value, List.reverse_nil,
    List.nil_append, String.ofList_toList]
  rfl

/-- The members of an object are read up to its end. -/
theorem readMembers_append (head : ReadsMember m n) (tail : List.Forall₂ ReadsMember ms ns)
    {fuel : Nat} (enough : ((memberText m).toList ++ tailText (ms.map memberText)).length < fuel)
    (read : List (String × Document)) (rest : List Char) :
    readMembers fuel (some read)
        ((memberText m).toList ++ (tailText (ms.map memberText) ++ '\x7d' :: rest)) =
      some (.object (read.reverse ++ n :: ns), rest) := by
  induction tail generalizing m n fuel read with
  | nil =>
    obtain ⟨fuel, rfl⟩ : ∃ n, fuel = n + 1 := ⟨fuel - 1, by omega⟩
    rw [List.length_append] at enough
    have stop := follows_tailText (.inr rfl : '\x7d' = ']' ∨ '\x7d' = '\x7d') [] rest
    rw [List.map_nil] at enough ⊢
    rw [readMembers_member head (by omega) stop]
    simp [tailText, skipBlank_cons]
  | @cons m' n' ms ns next others ih =>
    obtain ⟨fuel, rfl⟩ : ∃ n, fuel = n + 1 := ⟨fuel - 1, by omega⟩
    have length : (tailText ((m' :: ms).map memberText)).length =
        ((memberText m').toList ++ tailText (ms.map memberText)).length + 1 := by
      simp [tailText]
    rw [List.length_append, length] at enough
    have comma : skipBlank (tailText ((m' :: ms).map memberText) ++ '\x7d' :: rest) =
        ',' :: ((memberText m').toList ++ (tailText (ms.map memberText) ++ '\x7d' :: rest)) := by
      simp [tailText, skipBlank_cons]
    rw [readMembers_member head (by omega) (follows_tailText (.inr rfl) _ rest)]
    simp only [comma]
    rw [ih next (by omega) (n :: read)]
    simp

/-- The texts of members, as a list, are the text of the object of these. -/
theorem Reads.object (h : List.Forall₂ ReadsMember ms ns) :
    Reads ("\x7b" ++ ",".intercalate (ms.map memberText) ++ "\x7d").toList (.object ns) := by
  intro fuel rest enough _
  cases h with
  | nil =>
    obtain ⟨fuel, rfl, -⟩ := exists_succ_of_reads enough
    rfl
  | @cons m n ms ns head tail =>
    have text : ("\x7b" ++ ",".intercalate ((m :: ms).map memberText) ++ "\x7d").toList =
        '\x7b' :: ((memberText m).toList ++ (tailText (ms.map memberText) ++ ['\x7d'])) := by
      rw [String.toList_append, String.toList_append, List.map_cons, toList_intercalate_cons]
      simp
    rw [text] at enough ⊢
    obtain ⟨fuel, rfl, room⟩ := exists_succ_of_reads enough
    have enough : ((memberText m).toList ++ tailText (ms.map memberText)).length < fuel := by
      simp only [List.length_append, List.length_singleton] at room ⊢
      omega
    have members := readMembers_append head tail enough [] rest
    have start (after : List Char) :
        skipBlank ((memberText m).toList ++ after) = (memberText m).toList ++ after := by
      rw [toList_memberText, List.cons_append, skipBlank_cons (by decide)]
    rw [List.cons_append, List.append_assoc, List.append_assoc, List.singleton_append, readValue,
      skipBlank_cons (by decide)]
    simp only [start]
    split
    next closed => rw [toList_memberText] at closed; exact nomatch closed
    next => rw [members]; rfl

/-! ### Documents -/

mutual

/-- What a document is read as: a number is read from its digits, the rest as it is. -/
def reread : Document → Document
  | .null => .null
  | .bool b => .bool b
  | .string s => .string s
  | .malformed => .malformed
  | .int n => (read? (toString n)).getD .malformed
  | .double x => (read? (Json.doubleText x)).getD .malformed
  | .array xs => .array (rereadItems xs)
  | .object ms => .object (rereadMembers ms)

/-- What the items are read as. -/
def rereadItems : List Document → List Document
  | [] => []
  | x :: xs => reread x :: rereadItems xs

/-- What the members are read as. -/
def rereadMembers : List (String × Document) → List (String × Document)
  | [] => []
  | (name, x) :: ms => (name, reread x) :: rereadMembers ms

end

theorem reads_getD_read? {s : String} (h : ∃ d, Reads s.toList d) :
    Reads s.toList ((read? s).getD .malformed) := by
  obtain ⟨d, h⟩ := h
  rwa [read?_of_reads h]

theorem renderMembers_eq (ms : List (String × Document)) :
    renderMembers ms = (ms.map fun m => (m.1, m.2.render)).map memberText := by
  induction ms with
  | nil => rfl
  | cons m ms ih =>
    rw [renderMembers, ih]
    rfl

mutual

/-- The text of a document is read to its end. -/
theorem reads_render : ∀ d : Document, Reads d.render.toList d.reread
  | .null => reads_null
  | .bool b => reads_bool b
  | .int n => by rw [render, reread]; exact reads_getD_read? (exists_reads_int n)
  | .double x => by rw [render, reread]; exact reads_getD_read? (exists_reads_double x)
  | .string s => by rw [render]; exact reads_quoted s
  | .malformed => reads_malformed
  | .array xs => by rw [render, reread]; exact Reads.array (reads_renderItems xs)
  | .object ms => by
    rw [render, reread, renderMembers_eq]
    exact Reads.object (reads_renderMembers ms)

theorem reads_renderItems : ∀ xs : List Document,
    List.Forall₂ (fun t d => Reads (String.toList t) d) (renderItems xs) (rereadItems xs)
  | [] => .nil
  | x :: xs => .cons (reads_render x) (reads_renderItems xs)

theorem reads_renderMembers : ∀ ms : List (String × Document),
    List.Forall₂ ReadsMember (ms.map fun m => (m.1, m.2.render)) (rereadMembers ms)
  | [] => .nil
  | (_, x) :: ms => .cons ⟨rfl, reads_render x⟩ (reads_renderMembers ms)

end

/-- The text of a document is read. -/
theorem read?_render (d : Document) : read? d.render = some d.reread :=
  read?_of_reads (reads_render d)

end Document

end TableMapper
