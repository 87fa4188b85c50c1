import TableMapper.Proofs.Sql.DollarTag
import TableMapper.Proofs.Text.Search

/-!
# The normal form of a quoted text

The body of a literal is its text after rounds of deletions, each of which takes out all occurrences
of the opening of the tag at once and may form new ones.

* `DollarTag.round` is one round, and `DollarTag.strip_eq_iterate` says when the rounds stop.
* `DollarTag.body_append`: the bodies of two texts stand for the texts.
* `DollarTag.unquote?_quote`: taking the tags off gives the body.
* `DollarTag.body_normal_form`: deleting single occurrences in any other order gives the same body.
-/

namespace TableMapper

namespace DollarTag

open Relation (ReflTransGen)
open Text (Deletes)

variable {t : DollarTag}

/-! ### Rounds -/

/-- One round: the occurrences of `p` are deleted from left to right. -/
def round (p s : List Char) : List Char := Text.replaceFrom p [] 0 s

/-- The rounds go on as long as there is something to delete, and not longer than there are rounds
left. -/
theorem strip_eq_iterate (p : List Char) (rounds : Nat) (s : List Char) :
    ∃ n ≤ rounds, strip p rounds s = (round p)^[n] s ∧ ∀ k < n, p <:+: (round p)^[k] s := by
  induction rounds generalizing s with
  | zero => exact ⟨0, le_rfl, rfl, fun k hk => absurd hk (Nat.not_lt_zero k)⟩
  | succ rounds ih =>
    rw [strip]
    split_ifs with found
    · obtain ⟨n, bound, same, before⟩ := ih (round p s)
      refine ⟨n + 1, Nat.succ_le_succ bound, same, fun k hk => ?_⟩
      cases k with
      | zero => exact Text.occurs_iff_infix.mp found
      | succ k => exact before k (Nat.lt_of_succ_lt_succ hk)
    · exact ⟨0, Nat.zero_le _, rfl, fun k hk => absurd hk (Nat.not_lt_zero k)⟩

theorem strip_of_absent {p s : List Char} (none : ¬ p <:+: s) (rounds : Nat) :
    strip p rounds s = s := by
  cases rounds with
  | zero => rfl
  | succ rounds => rw [strip, if_neg fun found => none (Text.occurs_iff_infix.mp found)]

/-! ### Bodies -/

theorem not_mem_opening_tail (ht : '$' ∉ t.salt.toList) :
    '$' ∉ '_' :: (t.salt.toList ++ ['_']) := by
  simpa using ht

theorem body_eq_self_iff {s : List Char} : t.body s = s ↔ ¬ t.opening <:+: s :=
  ⟨fun same => same ▸ (t.stripped_body s).2, fun none => strip_of_absent none _⟩

theorem stripped_iff (ht : '$' ∉ t.salt.toList) {s b : List Char} :
    t.Stripped s b ↔ b = t.body s := by
  refine ⟨fun h => ?_, fun same => same ▸ t.stripped_body s⟩
  have body := t.stripped_body s
  exact Text.eq_of_deletes (not_mem_opening_tail ht) h.1 body.1 h.2 body.2

/-- Whatever was deleted from a text, its body is still arrived at. -/
theorem deletes_body (ht : '$' ∉ t.salt.toList) {s s' : List Char}
    (h : ReflTransGen (Deletes t.opening) s s') :
    ReflTransGen (Deletes t.opening) s' (t.body s) :=
  Text.deletes_of_deletes (not_mem_opening_tail ht) h (t.stripped_body s).1 (t.stripped_body s).2

/-- The bodies of two texts have the same body together as the texts. -/
theorem body_append (ht : '$' ∉ t.salt.toList) (a b : List Char) :
    t.body (a ++ b) = t.body (t.body a ++ t.body b) := by
  have parts := Text.deletes_append (t.stripped_body a).1 (t.stripped_body b).1
  obtain ⟨deleted, none⟩ := t.stripped_body (t.body a ++ t.body b)
  exact ((stripped_iff ht).mp ⟨parts.trans deleted, none⟩).symm

/-! ### Taking the tags off -/

theorem unquote?_quote (t : DollarTag) (s : String) :
    t.unquote? (t.quote s) = some (String.ofList (t.body s.toList)) := by
  have opened : Text.after? t.text (t.quote s) =
      some (String.ofList (t.body s.toList ++ t.chars)) := by
    rw [Text.after?, quote, text, String.toList_ofList, String.toList_ofList, List.append_assoc,
      Text.dropStart?_append, Option.map_some]
  rw [unquote?, opened, Option.bind_some, Text.before?, text, String.toList_ofList,
    String.toList_ofList, Text.dropEnd?_append, Option.map_some]

/-- **The body of a literal is the normal form of its text.**  The salt holds no dollar sign.  Then
the rounds of deletions stop with the body, before there are more of them than characters, and not
while there is something to delete.  Single occurrences cannot be deleted forever, and in whatever
order this is done, the body is what is arrived at when none is left.  It is the text itself just
when the opening of the tag does not occur in it, and it is what stands between the tags of the
literal. -/
theorem body_normal_form (t : DollarTag) (ht : '$' ∉ t.salt.toList) (s : String) :
    (∃ n ≤ s.toList.length, t.body s.toList = (round t.opening)^[n] s.toList ∧
        ∀ k < n, t.opening <:+: (round t.opening)^[k] s.toList) ∧
      ¬ t.opening <:+: t.body s.toList ∧
      WellFounded (fun s' s => Deletes t.opening s s') ∧
      (∀ s', ReflTransGen (Deletes t.opening) s.toList s' →
        ReflTransGen (Deletes t.opening) s' (t.body s.toList)) ∧
      (∀ b, t.Stripped s.toList b ↔ b = t.body s.toList) ∧
      (∀ a b, t.body (a ++ b) = t.body (t.body a ++ t.body b)) ∧
      (t.body s.toList = s.toList ↔ ¬ t.opening <:+: s.toList) ∧
      t.unquote? (t.quote s) = some (String.ofList (t.body s.toList)) :=
  ⟨strip_eq_iterate t.opening _ s.toList, (t.stripped_body s.toList).2,
    Text.wellFounded_deletes t.opening_ne_nil, fun _ => deletes_body ht,
    fun _ => stripped_iff ht, body_append ht, body_eq_self_iff, unquote?_quote t s⟩

/-- The opening that is deleted first stands inside of another one, which forms in the first round
and is deleted in the second. -/
theorem body_normal_form_nested :
    let t : DollarTag := ⟨"ouvxwz"⟩
    let s := "$_ou$_ouvxwz_vxwz_$x"
    '$' ∉ t.salt.toList ∧ t.body s.toList = "$x".toList ∧
      (∀ b, t.Stripped s.toList b ↔ b = "$x".toList) ∧
      t.unquote? (t.quote s) = some "$x" := by
  intro t s
  have plain : '$' ∉ t.salt.toList := by decide
  have body : t.body s.toList = "$x".toList := by decide
  obtain ⟨-, -, -, -, unique, -, -, unquoted⟩ := body_normal_form t plain s
  rw [body] at unique unquoted
  exact ⟨plain, body, unique, unquoted⟩

end DollarTag

end TableMapper
