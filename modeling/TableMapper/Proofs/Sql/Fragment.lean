import Mathlib.Data.List.Basic
import TableMapper.Sql.Fragment

/-!
# The two ways of rendering a fragment

A rendered fragment is a list of stretches, one for each piece: text as it stands, or a numbered
placeholder with its cast.

* `Stretch.Shows` says which stretch a piece may have, `Fragment.stretches` gives the stretches of a
  fragment;
* `Fragment.sql_parameterized` and `Fragment.sql_inline` read the stretches as the text with
  placeholders and, each placeholder replaced by the literal of its argument, as the text with
  literals;
* `Fragment.sql_blank`: the text with placeholders says nothing about the arguments.
-/

namespace TableMapper

/-- A stretch of a rendered fragment. -/
inductive Stretch where
  /-- Text as it stands. -/
  | verbatim (text : String)
  /-- The placeholder of an argument, with the type that the argument is cast to. -/
  | placeholder (number : Nat) (cast : Option String)

namespace Stretch

/-- The text of a stretch. -/
def text : Stretch → String
  | .verbatim s => s
  | .placeholder n none => "$" ++ toString n
  | .placeholder n (some cast) => "$" ++ toString n ++ "::" ++ cast

/-- The text of a stretch, a placeholder with its cast being replaced by the literal of its
argument. -/
def filled (t : DollarTag) (args : List Value) : Stretch → String
  | .verbatim s => s
  | .placeholder n _ => ((args[n - 1]?).map t.literal).getD ""

/-- The number of a placeholder. -/
def number? : Stretch → Option Nat
  | .verbatim _ => none
  | .placeholder n _ => some n

end Stretch

namespace Piece

/-- The text or document for a column of known type. -/
def bound? : Piece → Option Value
  | .value (.text s) _ => some (.text s)
  | .value (.json d) _ => some (.json d)
  | _ => none

/-- The piece with nothing left of a text or document for a column of known type. -/
def blank : Piece → Piece
  | .value (.text _) cast => .value (.text "") cast
  | .value (.json _) cast => .value (.json .null) cast
  | p => p

end Piece

namespace Stretch

/-- The stretch of a piece: a placeholder for a text or document of known type, cast only if it is a
text, and else SQL text or a literal as it stands. -/
inductive Shows (t : DollarTag) : Piece → Stretch → Prop where
  | sql (s : String) : Shows t (.sql s) (.verbatim s)
  | untyped (v : Value) : Shows t (.untyped v) (.verbatim (t.literal v))
  | bare (v : Value) (cast : Option String) (h : Piece.bound? (.value v cast) = none) :
    Shows t (.value v cast) (.verbatim (t.literal v))
  | text (s : String) (cast : Option String) (n : Nat) :
    Shows t (.value (.text s) cast) (.placeholder n cast)
  | json (d : Json) (cast : Option String) (n : Nat) :
    Shows t (.value (.json d) cast) (.placeholder n none)

end Stretch

namespace Fragment

/-- The stretches of a fragment, after `n` arguments. -/
def stretches (t : DollarTag) : Nat → Fragment → List Stretch
  | _, [] => []
  | n, p :: f =>
    match p.argument? .parameterized with
    | some (_, cast) => .placeholder (n + 1) cast :: stretches t (n + 1) f
    | none => .verbatim (p.text t) :: stretches t n f

/-! ### Literals only -/

theorem argument?_inline (p : Piece) : p.argument? .inline = none := by
  cases p with
  | sql s => rfl
  | value v cast => cases v <;> rfl
  | untyped v => rfl

theorem texts_inline (t : DollarTag) (n : Nat) (f : Fragment) :
    texts .inline t n f = f.map (Piece.text t) := by
  induction f with
  | nil => rfl
  | cons p f ih =>
    rw [texts, argument?_inline, List.map_cons]
    exact congrArg _ ih

theorem arguments_inline (f : Fragment) : arguments .inline f = [] := by
  rw [arguments, List.filterMap_eq_nil_iff]
  intro p _
  rw [argument?_inline, Option.map_none]

/-! ### Placeholders -/

section

variable {p : Piece} {v : Value} {cast : Option String} (t : DollarTag) (n : Nat) (f : Fragment)

theorem arguments_cons_of_some (h : p.argument? .parameterized = some (v, cast)) :
    arguments .parameterized (p :: f) = v :: arguments .parameterized f := by
  rw [arguments, List.filterMap_cons, h]
  rfl

theorem arguments_cons_of_none (h : p.argument? .parameterized = none) :
    arguments .parameterized (p :: f) = arguments .parameterized f := by
  rw [arguments, List.filterMap_cons, h]
  rfl

theorem stretches_cons_of_some (h : p.argument? .parameterized = some (v, cast)) :
    stretches t n (p :: f) = .placeholder (n + 1) cast :: stretches t (n + 1) f := by
  rw [stretches, h]

theorem stretches_cons_of_none (h : p.argument? .parameterized = none) :
    stretches t n (p :: f) = .verbatim (p.text t) :: stretches t n f := by
  rw [stretches, h]

end

theorem argument?_parameterized (p : Piece) :
    (p.argument? .parameterized).map (·.1) = p.bound? := by
  cases p with
  | sql s => rfl
  | value v cast => cases v <;> rfl
  | untyped v => rfl

theorem arguments_parameterized (f : Fragment) :
    arguments .parameterized f = f.filterMap Piece.bound? := by
  simp only [arguments, argument?_parameterized]

theorem text_placeholder (n : Nat) (cast : Option String) :
    (Stretch.placeholder n cast).text = placeholder n cast := by
  cases cast with
  | none => simp [Stretch.text, placeholder]
  | some c => simp [Stretch.text, placeholder, String.append_assoc]

theorem texts_parameterized (t : DollarTag) (n : Nat) (f : Fragment) :
    texts .parameterized t n f = (stretches t n f).map Stretch.text := by
  induction f generalizing n with
  | nil => rfl
  | cons p f ih =>
    cases h : p.argument? .parameterized with
    | none => rw [stretches_cons_of_none t n f h, texts, h, List.map_cons, ← ih]; rfl
    | some a =>
      rw [stretches_cons_of_some t n f h, texts, h, List.map_cons, text_placeholder, ← ih]

/-- The argument of a piece is its value, and its literal the text of the piece. -/
theorem literal_of_argument? {p : Piece} {v : Value} {cast : Option String} (t : DollarTag)
    (h : p.argument? .parameterized = some (v, cast)) : t.literal v = p.text t := by
  cases p with
  | sql s => cases h
  | untyped v => cases h
  | value w c => cases w <;> cases h <;> rfl

theorem shows_of_argument?_eq_none {p : Piece} (t : DollarTag)
    (h : p.argument? .parameterized = none) : Stretch.Shows t p (.verbatim (p.text t)) := by
  cases p with
  | sql s => exact .sql s
  | untyped v => exact .untyped v
  | value v cast =>
    refine .bare v cast ?_
    rw [← argument?_parameterized, h, Option.map_none]

theorem shows_of_argument? {p : Piece} {v : Value} {cast : Option String} (t : DollarTag) (n : Nat)
    (h : p.argument? .parameterized = some (v, cast)) :
    Stretch.Shows t p (.placeholder n cast) := by
  cases p with
  | sql s => cases h
  | untyped v => cases h
  | value w c =>
    cases w <;> cases h
    · exact .text _ _ n
    · exact .json _ _ n

theorem shows_stretches (t : DollarTag) (n : Nat) (f : Fragment) :
    List.Forall₂ (Stretch.Shows t) f (stretches t n f) := by
  induction f generalizing n with
  | nil => exact .nil
  | cons p f ih =>
    cases h : p.argument? .parameterized with
    | none =>
      rw [stretches_cons_of_none t n f h]
      exact .cons (shows_of_argument?_eq_none t h) (ih n)
    | some a =>
      rw [stretches_cons_of_some t n f h]
      exact .cons (shows_of_argument? t (n + 1) h) (ih (n + 1))

/-- The placeholders are numbered in order. -/
theorem numbers_stretches (t : DollarTag) (n : Nat) (f : Fragment) :
    (stretches t n f).filterMap Stretch.number? =
      List.range' (n + 1) (arguments .parameterized f).length := by
  induction f generalizing n with
  | nil => rfl
  | cons p f ih =>
    cases h : p.argument? .parameterized with
    | none =>
      rw [stretches_cons_of_none t n f h, arguments_cons_of_none f h,
        List.filterMap_cons_none rfl, ih]
    | some a =>
      rw [stretches_cons_of_some t n f h, arguments_cons_of_some f h,
        List.filterMap_cons_some (f := Stretch.number?) rfl, ih, List.length_cons, List.range'_succ]

/-- Filling in the arguments gives the text with literals, if the first `n` of them belong to
pieces before the fragment. -/
theorem filled_stretches (t : DollarTag) (args : List Value) (f : Fragment) :
    (stretches t args.length f).map (Stretch.filled t (args ++ arguments .parameterized f)) =
      f.map (Piece.text t) := by
  -- the arguments seen so far grow by one with each placeholder, whose number is their count
  induction f generalizing args with
  | nil => rfl
  | cons p f ih =>
    cases h : p.argument? .parameterized with
    | none =>
      rw [stretches_cons_of_none t _ f h, arguments_cons_of_none f h, List.map_cons, List.map_cons,
        ih]
      rfl
    | some a =>
      have hf := ih (args ++ [a.1])
      rw [List.length_append, List.length_singleton, List.append_assoc] at hf
      have hp : Stretch.filled t (args ++ a.1 :: arguments .parameterized f)
          (.placeholder (args.length + 1) a.2) = p.text t := by
        simp [Stretch.filled, literal_of_argument? t h]
      rw [stretches_cons_of_some t _ f h, arguments_cons_of_some f h, List.map_cons, List.map_cons,
        hp]
      exact congrArg _ hf

/-! ### Whole fragments -/

theorem sql_parameterized (t : DollarTag) (f : Fragment) :
    (render .parameterized t f).sql = String.join ((stretches t 0 f).map Stretch.text) := by
  rw [render, texts_parameterized]

theorem sql_inline (t : DollarTag) (f : Fragment) :
    (render .inline t f).sql =
      String.join ((stretches t 0 f).map (Stretch.filled t (render .parameterized t f).args)) := by
  rw [render, texts_inline]
  exact congrArg String.join (filled_stretches t [] f).symm

theorem stretches_blank (t : DollarTag) (n : Nat) (f : Fragment) :
    stretches t n (f.map Piece.blank) = stretches t n f := by
  induction f generalizing n with
  | nil => rfl
  | cons p f ih =>
    cases p with
    | sql s => simpa [stretches, Piece.blank, Piece.argument?] using ih n
    | untyped v => simpa [stretches, Piece.blank, Piece.argument?] using ih n
    | value v cast =>
      cases v <;> simp [stretches, Piece.blank, Piece.argument?, ih]

theorem sql_blank (t : DollarTag) (f : Fragment) :
    (render .parameterized t (f.map Piece.blank)).sql = (render .parameterized t f).sql := by
  rw [sql_parameterized, sql_parameterized, stretches_blank]

end Fragment

end TableMapper
