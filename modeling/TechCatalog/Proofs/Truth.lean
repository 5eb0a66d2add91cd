import Mathlib.Data.List.Basic
import TechCatalog.Query.Meaning

/-!
# Truth values of several conditions

`Truth.all` and `Truth.any` fold the truth values of conditions from the right. What matters of them
is when the result is certain: `Truth.all` is true when all values are and false when one is, and
`Truth.any` is true when one value is. Whatever is unknown never makes a clause true.
-/

namespace TechCatalog.Query

namespace Truth

theorem and_eq_true (a b : Truth) : a.and b = some true ↔ a = some true ∧ b = some true := by
  rcases a with _ | a <;> rcases b with _ | b
  · simp [Truth.and]
  · cases b <;> simp [Truth.and]
  · cases a <;> simp [Truth.and]
  · cases a <;> cases b <;> simp [Truth.and]

theorem and_some_true (a : Truth) : a.and (some true) = a := by
  rcases a with _ | a
  · rfl
  · cases a <;> rfl

theorem and_eq_false (a b : Truth) : a.and b = some false ↔ a = some false ∨ b = some false := by
  rcases a with _ | a <;> rcases b with _ | b
  · simp [Truth.and]
  · cases b <;> simp [Truth.and]
  · cases a <;> simp [Truth.and]
  · cases a <;> cases b <;> simp [Truth.and]

theorem or_eq_true (a b : Truth) : a.or b = some true ↔ a = some true ∨ b = some true := by
  rcases a with _ | a <;> rcases b with _ | b
  · simp [Truth.or]
  · cases b <;> simp [Truth.or]
  · cases a <;> simp [Truth.or]
  · cases a <;> cases b <;> simp [Truth.or]

theorem not_eq_true (a : Truth) : a.not = some true ↔ a = some false := by
  rcases a with _ | a
  · simp [Truth.not]
  · cases a <;> simp [Truth.not]

theorem all_eq_true (ts : List Truth) : Truth.all ts = some true ↔ ∀ t ∈ ts, t = some true := by
  induction ts with
  | nil => simp [Truth.all]
  | cons t ts ih =>
    rw [Truth.all] at ih
    rw [Truth.all, List.foldr_cons, and_eq_true, ih, List.forall_mem_cons]

theorem all_eq_false (ts : List Truth) : Truth.all ts = some false ↔ ∃ t ∈ ts, t = some false := by
  induction ts with
  | nil => simp [Truth.all]
  | cons t ts ih =>
    rw [Truth.all] at ih
    rw [Truth.all, List.foldr_cons, and_eq_false, ih, List.exists_mem_cons_iff]

theorem any_eq_true (ts : List Truth) : Truth.any ts = some true ↔ ∃ t ∈ ts, t = some true := by
  induction ts with
  | nil => simp [Truth.any]
  | cons t ts ih =>
    rw [Truth.any] at ih
    rw [Truth.any, List.foldr_cons, or_eq_true, ih, List.exists_mem_cons_iff]

end Truth

/-- A term that asks for its tests is true when each test is. -/
theorem Term.eval_holds_eq_true (db : Store.Database) (r : JoinedRow) (tests : List Test) :
    (Term.holds tests).eval db r = some true ↔ ∀ t ∈ tests, t.eval db r = some true := by
  rw [Term.eval, Truth.all_eq_true]
  exact List.forall_mem_map

/-- A term that refuses its tests is true when one of them is certainly false. -/
theorem Term.eval_fails_eq_true (db : Store.Database) (r : JoinedRow) (tests : List Test) :
    (Term.fails tests).eval db r = some true ↔ ∃ t ∈ tests, t.eval db r = some false := by
  rw [Term.eval, Truth.not_eq_true, Truth.all_eq_false]
  simp only [List.mem_map, exists_exists_and_eq_and]

/-- A clause that asks for all of its terms is true when each term is. -/
theorem Clause.eval_all_eq_true (db : Store.Database) (r : JoinedRow) (terms : List Term) :
    (Clause.all terms).eval db r = some true ↔ ∀ t ∈ terms, t.eval db r = some true := by
  rw [Clause.eval, Truth.all_eq_true]
  exact List.forall_mem_map

/-- A clause that asks for any of its terms is true when one of them is. -/
theorem Clause.eval_any_eq_true (db : Store.Database) (r : JoinedRow) (terms : List Term) :
    (Clause.any terms).eval db r = some true ↔ ∃ t ∈ terms, t.eval db r = some true := by
  rw [Clause.eval, Truth.any_eq_true]
  simp only [List.mem_map, exists_exists_and_eq_and]

/-- The clause of some tests is true when each test is. -/
theorem Clause.eval_ofTests_eq_true (db : Store.Database) (r : JoinedRow) (tests : List Test) :
    (Clause.ofTests tests).eval db r = some true ↔ ∀ t ∈ tests, t.eval db r = some true := by
  rw [Clause.ofTests, Clause.eval_all_eq_true, List.forall_mem_singleton,
    Term.eval_holds_eq_true]

/-- The clause of one test decides what the test decides. -/
theorem Clause.eval_ofTest (db : Store.Database) (r : JoinedRow) (test : Test) :
    (Clause.ofTest test).eval db r = test.eval db r := by
  show ((test.eval db r).and (some true)).and (some true) = test.eval db r
  rw [Truth.and_some_true, Truth.and_some_true]

end TechCatalog.Query
