import TechCatalog.Store.Database

/-!
# Conditions

The conditions that searches are made of. A `Test` looks at one row of the joined tables: it
compares a column with a value, matches it against a pattern, looks for it in a list, or asks
whether the domain of the row is among the `Owners` of some technologies, who are found
independently of the row. A `Term` asks for all of some tests or refuses them together, and a
`Clause` asks for all of its terms or for any of them.
-/

namespace TechCatalog.Query

open Store

/-- What a test looks at. -/
inductive Operand where
  | column (c : Column)
  /-- A column with the letters A to Z made small. -/
  | lowered (c : Column)
  deriving DecidableEq, Repr

/-- The ways to compare with a value. -/
inductive Comparison where
  | equal
  /-- Not equal. -/
  | unequal
  | less
  /-- Less or equal. -/
  | atMost
  | greater
  /-- Greater or equal. -/
  | atLeast
  deriving DecidableEq, Repr

/-- Whether an order satisfies a comparison. -/
def Comparison.holds : Comparison → Ordering → Bool
  | .equal, o => o == .eq
  | .unequal, o => o != .eq
  | .less, o => o == .lt
  | .atMost, o => o != .gt
  | .greater, o => o == .gt
  | .atLeast, o => o != .lt

/-- Bounds on a number of links. -/
inductive CountBound where
  /-- From the first number to the second. -/
  | between (lo hi : Int)
  /-- This many or more. -/
  | atLeast (n : Int)
  /-- This many or fewer. -/
  | atMost (n : Int)
  deriving DecidableEq, Repr

/-- Whether a number keeps within bounds. -/
def CountBound.holds : CountBound → Int → Bool
  | .between lo hi, n => lo ≤ n && n ≤ hi
  | .atLeast lo, n => lo ≤ n
  | .atMost hi, n => n ≤ hi

/-- The domains that own certain technologies. -/
inductive Owners where
  /-- Owners of a technology with one of these names. -/
  | ofAny (names : List String)
  /-- Owners of technologies with all of these names. -/
  | ofAll (names : List String)
  /-- Owners of at least one technology of a category, and of so many that the bound holds. -/
  | ofCategory (category : String) (bound : CountBound)
  deriving DecidableEq, Repr

/-- What is asked of one row of the joined tables. -/
inductive Test where
  | compare (x : Operand) (op : Comparison) (v : Value)
  /-- A match against a pattern. -/
  | like (x : Operand) (pattern : String)
  /-- A column holds one of these texts. -/
  | among (c : Column) (texts : List String)
  /-- The domain is one of these owners. -/
  | owner (o : Owners)
  /-- The domain is none of these owners. -/
  | notOwner (o : Owners)
  deriving DecidableEq, Repr

/-- Tests that are asked for or refused together. -/
inductive Term where
  /-- All of the tests. -/
  | holds (tests : List Test)
  /-- Not all of the tests. -/
  | fails (tests : List Test)
  deriving DecidableEq, Repr

/-- Terms that are asked for together or as alternatives. -/
inductive Clause where
  | all (terms : List Term)
  | any (terms : List Term)
  deriving DecidableEq, Repr

/-- The clause of one test. -/
def Clause.ofTest (t : Test) : Clause :=
  .all [.holds [t]]

/-- The clause that asks for all of some tests. -/
def Clause.ofTests (ts : List Test) : Clause :=
  .all [.holds ts]

/-- The tests of a term. -/
def Term.tests : Term → List Test
  | .holds ts => ts
  | .fails ts => ts

/-- The terms of a clause. -/
def Clause.terms : Clause → List Term
  | .all ts => ts
  | .any ts => ts

/-- The tests of a clause, in order. -/
def Clause.tests (c : Clause) : List Test :=
  c.terms.flatMap Term.tests

end TechCatalog.Query
