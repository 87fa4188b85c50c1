import TableMapper.Session.Basic

/-!
# Databases with transactions

What a database is known to do about the transactions on its connections.

* `Transactional` states it: a statement that fails aborts the transaction, and COMMIT answers
  without an error then, too, although nothing is committed.
* `Ledger` is a database that remembers nothing but the fates of transactions.
-/

namespace TableMapper

/-- The transactions on the connections of a database. -/
structure Transactional (σ : Type) [Backend σ] where
  /-- The transaction on a connection is aborted. -/
  aborted : Nat → σ → Prop
  /-- The last transaction that ended on a connection was committed. -/
  durable : Nat → σ → Prop
  /-- The statement begins or ends a transaction or a part of one. -/
  controls : String → Prop
  not_aborted_begin : ∀ n d, (Backend.answer (.connection n) "BEGIN" [] d).1.isOk →
    ¬ aborted n (Backend.answer (.connection n) "BEGIN" [] d).2
  /-- A statement that fails aborts the transaction. -/
  aborted_of_error : ∀ n sql args d, ¬ controls sql →
    ¬ (Backend.answer (.connection n) sql args d).1.isOk →
    aborted n (Backend.answer (.connection n) sql args d).2
  /-- An aborted transaction stays so. -/
  aborted_of_aborted : ∀ n sql args d, ¬ controls sql → aborted n d →
    aborted n (Backend.answer (.connection n) sql args d).2
  /-- A statement that succeeds does not abort a transaction. -/
  not_aborted_of_ok : ∀ n sql args d, ¬ controls sql → ¬ aborted n d →
    (Backend.answer (.connection n) sql args d).1.isOk →
    ¬ aborted n (Backend.answer (.connection n) sql args d).2
  /-- COMMIT commits a transaction that is not aborted, unless it fails. -/
  durable_commit : ∀ n d, ¬ aborted n d → (Backend.answer (.connection n) "COMMIT" [] d).1.isOk →
    durable n (Backend.answer (.connection n) "COMMIT" [] d).2
  /-- COMMIT rolls an aborted transaction back, and answers without an error. -/
  commit_of_aborted : ∀ n d, aborted n d →
    (Backend.answer (.connection n) "COMMIT" [] d).1.isOk ∧
      ¬ durable n (Backend.answer (.connection n) "COMMIT" [] d).2

/-- A database that remembers the fates of transactions. -/
structure Ledger where
  /-- The statements that fail. -/
  refused : List String := []
  /-- The connections on which the transaction is aborted. -/
  aborted : List Nat := []
  /-- The connections on which the last transaction was committed. -/
  durable : List Nat := []
  deriving DecidableEq

namespace Ledger

/-- The failure of a statement. -/
def failure (sql : String) : Error := .database ("cannot run " ++ sql) none ""

/-- The answer to a statement on a connection. -/
def answerOn (n : Nat) (sql : String) (d : Ledger) : Except Error QueryOutput × Ledger :=
  if sql = "BEGIN" then (.ok {}, { d with aborted := d.aborted.filter (· ≠ n) })
  else if sql = "COMMIT" then
    if n ∈ d.aborted then (.ok {}, { d with durable := d.durable.filter (· ≠ n) })
    else (.ok {}, { d with durable := n :: d.durable })
  else if sql = "ROLLBACK" then (.ok {}, { d with durable := d.durable.filter (· ≠ n) })
  else if sql ∈ d.refused ∨ n ∈ d.aborted then
    (.error (failure sql), { d with aborted := n :: d.aborted })
  else (.ok {}, d)

instance : Backend Ledger where
  answer
    | .pool, sql, _, d => (if sql ∈ d.refused then .error (failure sql) else .ok {}, d)
    | .connection n, sql, _, d => answerOn n sql d
  connect d := (.ok (), d)

/-- A new session over a ledger. -/
def session (refused : List String) (handlers : List (String × Handler) := []) : Session Ledger :=
  { database := { refused }
    supply := { now := 0, counter := 0, random := { word := id } }
    handlers }

theorem answer_eq (n : Nat) (sql : String) (args : List Value) (d : Ledger) :
    Backend.answer (.connection n) sql args d = answerOn n sql d := rfl

/-- A ledger does about transactions what databases do. -/
def transactional : Transactional Ledger where
  aborted n d := n ∈ d.aborted
  durable n d := n ∈ d.durable
  controls sql := sql ∈ ["BEGIN", "COMMIT", "ROLLBACK"]
  not_aborted_begin n d _ := by simp [answer_eq, answerOn]
  aborted_of_error n sql args d hc h := by
    simp only [List.mem_cons, List.not_mem_nil, or_false, not_or] at hc
    simp only [answer_eq, answerOn, hc, if_false] at h ⊢
    split at h <;> simp_all [Except.isOk, Except.toBool]
  aborted_of_aborted n sql args d hc h := by
    simp only [List.mem_cons, List.not_mem_nil, or_false, not_or] at hc
    simp [answer_eq, answerOn, hc, h]
  not_aborted_of_ok n sql args d hc h hok := by
    simp only [List.mem_cons, List.not_mem_nil, or_false, not_or] at hc
    simp only [answer_eq, answerOn, hc, if_false] at hok ⊢
    split at hok <;> simp_all [Except.isOk, Except.toBool]
  durable_commit n d h _ := by simp [answer_eq, answerOn, h]
  commit_of_aborted n d h := by simp [answer_eq, answerOn, h, Except.isOk, Except.toBool]

end Ledger

end TableMapper
