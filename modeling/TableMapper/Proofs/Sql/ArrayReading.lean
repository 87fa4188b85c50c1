import TableMapper.Proofs.Json.Number
import TableMapper.Sql.ArrayLiteral

/-!
# Array literals read back

The database reads the text of an array one character after the other: braces and commas give the
structure, an element in quotation marks may have escapes, and an element without them is a text or
NULL.

* `ArrayItem` is an element of an array in the database, and `ArrayItem.ofJson` the one that a JSON
  value stands for.
* `ArrayReading` is where the reading of an array stands, `ArrayReading.step?` reads a character and
  `ArrayReading.read?` a text.
* `ArrayReading.reads_element`: the text of an element is read as this element, whatever stands
  around it.
* `ArrayReading.array_reads_back`: an array is read back from its literal.
-/

namespace TableMapper

/-! ### Elements -/

/-- An element of an array in the database. -/
inductive ArrayItem where
  | null
  | text (s : String)
  | array (items : List ArrayItem)

namespace ArrayItem

mutual

/-- The element that a JSON value stands for: numbers, truth values and objects are their texts.  A
double that is not finite has no JSON text, and is null there. -/
def ofJson : Json → ArrayItem
  | .null => .null
  | .bool b => .text (Json.bool b).render
  | .int n => .text (Json.int n).render
  | .double x => if x.isFinite then .text (Json.double x).render else .null
  | .string s => .text s
  | .array xs => .array (ofItems xs)
  | .object ms => .text (Json.object ms).render

/-- The elements one by one. -/
def ofItems : List Json → List ArrayItem
  | [] => []
  | v :: vs => ofJson v :: ofItems vs

end

end ArrayItem

namespace Json

mutual

/-- A string, null, or an array of such values. -/
def IsPlain : Json → Prop
  | .null | .string _ => True
  | .array xs => ItemsPlain xs
  | .bool _ | .int _ | .double _ | .object _ => False

/-- The items are such values. -/
def ItemsPlain : List Json → Prop
  | [] => True
  | v :: vs => IsPlain v ∧ ItemsPlain vs

end

end Json

namespace ArrayItem

mutual

/-- Strings, nulls and arrays of them are told apart in the database. -/
theorem ofJson_inj : ∀ {v w : Json}, v.IsPlain → w.IsPlain → ofJson v = ofJson w → v = w
  | .null, .null, _, _, _ => rfl
  | .string _, .string _, _, _, same => by rw [ArrayItem.text.inj same]
  | .array _, .array _, hv, hw, same => by rw [ofItems_inj hv hw (ArrayItem.array.inj same)]
  | .null, .string _, _, _, same | .null, .array _, _, _, same
  | .string _, .null, _, _, same | .string _, .array _, _, _, same
  | .array _, .null, _, _, same | .array _, .string _, _, _, same => nomatch same

theorem ofItems_inj : ∀ {vs ws : List Json}, Json.ItemsPlain vs → Json.ItemsPlain ws →
    ofItems vs = ofItems ws → vs = ws
  | [], [], _, _, _ => rfl
  | v :: vs, w :: ws, hv, hw, same => by
    obtain ⟨first, rest⟩ := List.cons.inj same
    rw [ofJson_inj hv.1 hw.1 first, ofItems_inj hv.2 hw.2 rest]
  | [], _ :: _, _, _, same | _ :: _, [], _, _, same => nomatch same

end

end ArrayItem

/-! ### Reading -/

/-- Where the reading of the innermost array stands. -/
inductive ArrayPlace where
  /-- Before an element.  The array may end there if this is the first one. -/
  | before (first : Bool)
  /-- After an element. -/
  | after
  /-- In an element without quotation marks, the last character of which comes first. -/
  | word (text : List Char)
  /-- In quotation marks. -/
  | quoted (text : List Char)
  /-- After the backslash of an escape. -/
  | escaped (text : List Char)

/-- Where the reading of the text of an array stands. -/
inductive ArrayReading where
  | start
  /-- In an array with some elements so far, the last one first, inside of others. -/
  | inside (place : ArrayPlace) (outer : List (List ArrayItem)) (items : List ArrayItem)
  | finished (items : List ArrayItem)

namespace ArrayReading

/-- White space between elements. -/
def isSpace (c : Char) : Bool := c == ' ' || (9 ≤ c.toNat && c.toNat ≤ 13)

/-- A character of an element without quotation marks, but for blanks inside of it. -/
def isWordChar (c : Char) : Bool := !isSpace c && !"\x7b\x7d,\"\\".toList.contains c

/-- An element without quotation marks.  White space after it is not part of it. -/
def ofWord (text : List Char) : ArrayItem :=
  let s := String.ofList (text.dropWhile isSpace).reverse
  if Text.sameLetters s "NULL" then .null else .text s

/-- The end of the innermost array. -/
def close : List (List ArrayItem) → List ArrayItem → ArrayReading
  | [], items => finished items.reverse
  | above :: outer, items => inside .after outer (.array items.reverse :: above)

/-- The character after an element. -/
def separate? (outer : List (List ArrayItem)) (items : List ArrayItem) (c : Char) :
    Option ArrayReading :=
  if c = ',' then some (inside (.before false) outer items)
  else if c = '\x7d' then some (close outer items)
  else none

/-- Reads a character.  Escapes outside of quotation marks are refused. -/
def step? : ArrayReading → Char → Option ArrayReading
  | start, c =>
    if c = '\x7b' then some (inside (.before true) [] [])
    else if isSpace c then some start
    else none
  | inside (.before first) outer items, c =>
    if isSpace c then some (inside (.before first) outer items)
    else if c = '\x7b' then some (inside (.before true) (items :: outer) [])
    else if c = '"' then some (inside (.quoted []) outer items)
    else if c = '\x7d' ∧ first then some (close outer items)
    else if isWordChar c then some (inside (.word [c]) outer items)
    else none
  | inside .after outer items, c =>
    if isSpace c then some (inside .after outer items) else separate? outer items c
  | inside (.word text) outer items, c =>
    if isWordChar c || isSpace c then some (inside (.word (c :: text)) outer items)
    else separate? outer (ofWord text :: items) c
  | inside (.quoted text) outer items, c =>
    if c = '"' then some (inside .after outer (.text (String.ofList text.reverse) :: items))
    else if c = '\\' then some (inside (.escaped text) outer items)
    else some (inside (.quoted (c :: text)) outer items)
  | inside (.escaped text) outer items, c => some (inside (.quoted (c :: text)) outer items)
  | finished items, c => if isSpace c then some (finished items) else none

/-- Reads characters one after the other. -/
def steps? (r : ArrayReading) (cs : List Char) : Option ArrayReading := cs.foldlM step? r

/-- Reads the text of an array. -/
def read? (s : String) : Option (List ArrayItem) :=
  match start.steps? s.toList with
  | some (finished items) => some items
  | _ => none

theorem steps?_append (r : ArrayReading) (a b : List Char) :
    r.steps? (a ++ b) = (r.steps? a).bind (·.steps? b) := List.foldlM_append

theorem steps?_cons (r : ArrayReading) (c : Char) (cs : List Char) :
    r.steps? (c :: cs) = (r.step? c).bind (·.steps? cs) := List.foldlM_cons

theorem steps?_singleton (r : ArrayReading) (c : Char) : r.steps? [c] = r.step? c := by
  rw [steps?_cons]
  exact Option.bind_fun_some _

variable {outer : List (List ArrayItem)} {items : List ArrayItem}

/-! ### Elements in quotation marks -/

/-- Escaped characters are read as they were, up to the quotation mark. -/
theorem steps?_escaped (text s : List Char) :
    (inside (.quoted text) outer items).steps? (s.flatMap Sql.escapeElement ++ ['"']) =
      some (inside .after outer (.text (String.ofList (text.reverse ++ s)) :: items)) := by
  induction s generalizing text with
  | nil => simp [steps?_singleton, step?]
  | cons c s ih =>
    have goesOn : (inside (.quoted text) outer items).steps? (Sql.escapeElement c) =
        some (inside (.quoted (c :: text)) outer items) := by
      unfold Sql.escapeElement
      by_cases special : (c == '\\' || c == '"') = true
      · rw [if_pos special]
        rfl
      · rw [if_neg special]
        simp only [Bool.or_eq_true, beq_iff_eq, not_or] at special
        rw [steps?_singleton, step?, if_neg special.2, if_neg special.1]
    rw [List.flatMap_cons, List.append_assoc, steps?_append, goesOn, Option.bind_some, ih]
    simp

/-- A text in quotation marks is read as it is. -/
theorem steps?_quotedElement (first : Bool) (s : String) :
    (inside (.before first) outer items).steps? (Sql.quotedElement s).toList =
      some (inside .after outer (.text s :: items)) := by
  have opening : (inside (.before first) outer items).step? '"' =
      some (inside (.quoted []) outer items) := rfl
  have chars : (Sql.quotedElement s).toList =
      '"' :: (s.toList.flatMap Sql.escapeElement ++ ['"']) := by
    simp [Sql.quotedElement, String.toList_append]
  rw [chars, steps?_cons, opening, Option.bind_some, steps?_escaped]
  simp

/-! ### Elements without quotation marks -/

theorem steps?_word (text cs : List Char) (h : ∀ c ∈ cs, isWordChar c = true) :
    (inside (.word text) outer items).steps? cs =
      some (inside (.word (cs.reverse ++ text)) outer items) := by
  induction cs generalizing text with
  | nil => rfl
  | cons c cs ih =>
    rw [steps?_cons, step?, if_pos (by simp [h c List.mem_cons_self]), Option.bind_some,
      ih _ fun d hd => h d (List.mem_cons_of_mem c hd)]
    simp

/-- What is no word character is told apart from it. -/
theorem isWordChar_ne {c d : Char} (h : isWordChar c = true) (hd : isWordChar d = false) :
    c ≠ d := by
  rintro rfl
  rw [h] at hd
  cases hd

/-- A word that a separator follows is read as an element. -/
theorem steps?_wordElement (first : Bool) {s : String} (some : s ≠ "")
    (h : ∀ c ∈ s.toList, isWordChar c = true) {d : Char} (hd : d = ',' ∨ d = '\x7d') :
    (inside (.before first) outer items).steps? (s.toList ++ [d]) =
      separate? outer ((if Text.sameLetters s "NULL" then .null else .text s) :: items) d := by
  obtain ⟨c, cs, chars⟩ : ∃ c cs, s.toList = c :: cs :=
    List.exists_cons_of_ne_nil (by simpa using some)
  rw [chars] at h
  have word := h c List.mem_cons_self
  have noSpace : ∀ e ∈ c :: cs, isSpace e = false := by
    intro e he
    have := h e he
    simp only [isWordChar, Bool.and_eq_true, Bool.not_eq_true'] at this
    exact this.1
  have begun : (inside (.before first) outer items).step? c =
      Option.some (inside (.word [c]) outer items) := by
    rw [step?, if_neg (by simp [noSpace c List.mem_cons_self]), if_neg (isWordChar_ne word rfl),
      if_neg (isWordChar_ne word rfl), if_neg fun both => isWordChar_ne word rfl both.1,
      if_pos word]
  have whole : ofWord (cs.reverse ++ [c]) =
      if Text.sameLetters s "NULL" then .null else .text s := by
    have kept : (cs.reverse ++ [c]).dropWhile isSpace = cs.reverse ++ [c] := by
      obtain ⟨e, es, reversed⟩ := List.exists_cons_of_ne_nil (l := cs.reverse ++ [c]) (by simp)
      have last : e ∈ c :: cs := by
        rw [← List.mem_reverse, List.reverse_cons, reversed]
        exact List.mem_cons_self
      rw [reversed, List.dropWhile_cons_of_neg (by simp [noSpace e last])]
    have same : String.ofList (cs.reverse ++ [c]).reverse = s := by
      simp [← chars]
    simp only [ofWord, kept, same]
  have stop : isWordChar d = false ∧ isSpace d = false := by
    obtain rfl | rfl := hd <;> exact ⟨rfl, rfl⟩
  rw [chars, List.cons_append, steps?_cons, begun, Option.bind_some, steps?_append,
    steps?_word _ cs fun e he => h e (List.mem_cons_of_mem c he), Option.bind_some,
    steps?_singleton, step?, if_neg (by simp [stop]), whole]

theorem isWordChar_of_isScientific {c : Char} (h : Text.isScientific c = true) :
    isWordChar c = true := by
  have ne (mark : Char) (other : Text.isScientific mark = false) : c ≠ mark := by
    rintro rfl
    exact absurd h (by simp [other])
  have low : 33 ≤ c.toNat := by
    simp only [Text.isScientific, Text.isNumeral, Bool.or_eq_true, beq_iff_eq] at h
    obtain (((digit | rfl) | rfl) | rfl) | rfl := h
    · have range : 48 ≤ c.toNat ∧ c.toNat ≤ 57 := by
        simpa [Char.isDigit, UInt32.le_iff_toNat_le] using digit
      omega
    all_goals decide
  have noSpace : isSpace c = false := by
    simp only [isSpace, Bool.or_eq_false_iff, beq_eq_false_iff_ne, Bool.and_eq_false_iff,
      decide_eq_false_iff_not]
    exact ⟨ne ' ' rfl, by omega⟩
  simp [isWordChar, noSpace, ne '\x7b' rfl, ne '\x7d' rfl, ne ',' rfl, ne '"' rfl, ne '\\' rfl]

/-- A number is read as its text. -/
theorem steps?_number (first : Bool) {s : String} (some : s ≠ "")
    (h : ∀ c ∈ s.toList, Text.isScientific c = true) {d : Char} (hd : d = ',' ∨ d = '\x7d') :
    (inside (.before first) outer items).steps? (s.toList ++ [d]) =
      separate? outer (.text s :: items) d := by
  have noNull : Text.sameLetters s "NULL" = false := by
    refine beq_false_of_ne fun same => ?_
    have lowered : s.toList.map Char.toLower = ['n', 'u', 'l', 'l'] := by
      simpa [Text.lowerAscii] using congrArg String.toList same
    have kept : s.toList.map Char.toLower = s.toList :=
      Text.map_toLower_eq_self fun c hc => Text.toLower_of_isScientific (h c hc)
    have letter := h 'n' (by rw [← kept, lowered]; exact List.mem_cons_self)
    exact absurd letter (by decide)
  rw [steps?_wordElement first some (fun c hc => isWordChar_of_isScientific (h c hc)) hd, noNull]
  rfl

/-! ### Arrays -/

/-- The end of an element that is read before its separator. -/
theorem steps?_then {r : ArrayReading} {cs : List Char} {item : ArrayItem}
    (h : r.steps? cs = some (inside .after outer (item :: items))) {d : Char}
    (hd : d = ',' ∨ d = '\x7d') :
    r.steps? (cs ++ [d]) = separate? outer (item :: items) d := by
  rw [steps?_append, h, Option.bind_some, steps?_singleton]
  obtain rfl | rfl := hd <;> rfl

theorem toList_arrayLiteral (items : List Json) :
    (Sql.arrayLiteral items).toList =
      '\x7b' :: ((",".intercalate (Sql.arrayElements items)).toList ++ ['\x7d']) := by
  simp [Sql.arrayLiteral, String.toList_append]

mutual

/-- **The text of an element is read as this element**, up to the separator after it. -/
theorem reads_element : ∀ (v : Json) (first : Bool) (outer : List (List ArrayItem))
    (items : List ArrayItem) {d : Char}, d = ',' ∨ d = '\x7d' →
    (inside (.before first) outer items).steps? ((Sql.arrayElement v).toList ++ [d]) =
      separate? outer (.ofJson v :: items) d
  | .null, first, outer, items, d, hd => by
    rw [Sql.arrayElement, ArrayItem.ofJson]
    exact steps?_wordElement (s := "NULL") first (by decide) (List.all_eq_true.mp rfl) hd
  | .bool true, first, outer, items, d, hd => by
    rw [Sql.arrayElement, ArrayItem.ofJson, Json.render]
    exact steps?_wordElement (s := "true") first (by decide) (List.all_eq_true.mp rfl) hd
  | .bool false, first, outer, items, d, hd => by
    rw [Sql.arrayElement, ArrayItem.ofJson, Json.render]
    exact steps?_wordElement (s := "false") first (by decide) (List.all_eq_true.mp rfl) hd
  | .int n, first, outer, items, d, hd => by
    rw [Sql.arrayElement, ArrayItem.ofJson, Json.render]
    exact steps?_number first (Document.toString_int_ne_empty n)
      (fun c hc => Text.isScientific_of_isNumeral (Text.isNumeral_of_mem_int hc)) hd
  | .double x, first, outer, items, d, hd => by
    rw [Sql.arrayElement, ArrayItem.ofJson, Json.render]
    by_cases finite : x.isFinite = true
    · rw [if_pos finite]
      exact steps?_number first (Document.doubleText_ne_empty finite)
        (fun c => Document.isScientific_of_mem_double finite) hd
    · rw [if_neg finite, Json.doubleText, if_neg finite]
      exact steps?_wordElement (s := "null") first (by decide) (List.all_eq_true.mp rfl) hd
  | .string s, first, outer, items, d, hd => by
    rw [Sql.arrayElement, ArrayItem.ofJson]
    exact steps?_then (steps?_quotedElement first s) hd
  | .object ms, first, outer, items, d, hd => by
    rw [Sql.arrayElement, ArrayItem.ofJson]
    exact steps?_then (steps?_quotedElement first _) hd
  | .array xs, first, outer, items, d, hd => by
    have opening : (inside (.before first) outer items).step? '\x7b' =
      some (inside (.before true) (items :: outer) []) := rfl
    rw [Sql.arrayElement, ArrayItem.ofJson]
    refine steps?_then ?_ hd
    rw [toList_arrayLiteral, steps?_cons, opening, Option.bind_some,
      reads_elements xs true _ _ fun _ => rfl]
    simp [close]

/-- Elements are read one after the other, up to the end of their array. -/
theorem reads_elements : ∀ (vs : List Json) (first : Bool) (outer : List (List ArrayItem))
    (items : List ArrayItem), (vs = [] → first = true) →
    (inside (.before first) outer items).steps?
        ((",".intercalate (Sql.arrayElements vs)).toList ++ ['\x7d']) =
      some (close outer ((ArrayItem.ofItems vs).reverse ++ items))
  | [], first, outer, items, may => by
    obtain rfl := may rfl
    rw [Sql.arrayElements, String.intercalate_nil]
    rfl
  | [v], first, outer, items, _ => by
    rw [Sql.arrayElements, Sql.arrayElements, String.intercalate_singleton,
      reads_element v first outer items (.inr rfl)]
    rfl
  | v :: w :: vs, first, outer, items, _ => by
    have split : (",".intercalate (Sql.arrayElements (v :: w :: vs))).toList ++ ['\x7d'] =
        ((Sql.arrayElement v).toList ++ [',']) ++
          ((",".intercalate (Sql.arrayElements (w :: vs))).toList ++ ['\x7d']) := by
      simp only [Sql.arrayElements, String.intercalate_cons_cons, String.toList_append,
        List.append_assoc]
      rfl
    have comma : separate? outer (.ofJson v :: items) ',' =
        some (inside (.before false) outer (.ofJson v :: items)) := rfl
    rw [split, steps?_append, reads_element v first outer items (.inl rfl), comma,
      Option.bind_some, reads_elements (w :: vs) false _ _ fun none => nomatch none]
    simp [ArrayItem.ofItems]

end

theorem read?_arrayLiteral (items : List Json) :
    read? (Sql.arrayLiteral items) = some (ArrayItem.ofItems items) := by
  have opening : start.step? '\x7b' = some (inside (.before true) [] []) := rfl
  rw [read?, toList_arrayLiteral, steps?_cons, opening, Option.bind_some,
    reads_elements items true _ _ fun _ => rfl]
  simp [close]

/-- **Array literals are read back.**  The literal of a JSON array is read as the array of the
elements that its items stand for, to any depth.  Arrays of strings, nulls and such arrays have the
same literal only if they are equal. -/
theorem array_reads_back (items : List Json) :
    read? (Sql.arrayLiteral items) = some (ArrayItem.ofItems items) ∧
      ∀ others, Json.ItemsPlain items → Json.ItemsPlain others →
        Sql.arrayLiteral items = Sql.arrayLiteral others → items = others := by
  refine ⟨read?_arrayLiteral items, fun others plain plain' same => ?_⟩
  have read := read?_arrayLiteral items
  rw [same, read?_arrayLiteral others] at read
  exact (ArrayItem.ofItems_inj plain' plain (Option.some.inj read)).symm

/-- Marks of the notation inside of strings, and what could be taken for a null or for the end of an
array. -/
theorem array_reads_back_marks :
    let hostile : List Json := [.string "a\"b\\", .string "NULL", .null, .string "",
      .array [.string "\x7d,\x7b", .array []], .object [("k", .string "\"")], .int (-3), .bool true]
    let single : List Json := [.string "x,y"]
    let double : List Json := [.string "x", .string "y"]
    read? (Sql.arrayLiteral hostile) = some [.text "a\"b\\", .text "NULL", .null, .text "",
        .array [.text "\x7d,\x7b", .array []], .text "\x7b\"k\":\"\\\"\"\x7d", .text "-3",
        .text "true"] ∧
      Json.ItemsPlain single ∧ Json.ItemsPlain double ∧
      Sql.arrayLiteral single ≠ Sql.arrayLiteral double := by
  intro hostile single double
  refine ⟨(array_reads_back hostile).1, ⟨trivial, trivial⟩, ⟨trivial, trivial, trivial⟩, ?_⟩
  intro same
  have := (array_reads_back single).2 double ⟨trivial, trivial⟩ ⟨trivial, trivial, trivial⟩ same
  simp [single, double] at this

end ArrayReading

end TableMapper
