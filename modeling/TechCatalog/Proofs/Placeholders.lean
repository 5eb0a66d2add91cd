import TechCatalog.Proofs.Naming
import TechCatalog.Proofs.Writing

/-!
# Question marks in statements

A value that is bound to a statement leaves a question mark in its text. No words, tables, columns
or names of tables hold one, so the question marks of a statement are as many as its values.
-/

namespace TechCatalog.Query

open Store

/-- The number of question marks in a text. -/
def questionMarks (s : String) : Nat :=
  s.toList.count '?'

/-- Whether a piece has a question mark for each of its values and no other. -/
def Piece.Placed (piece : Piece) : Prop :=
  questionMarks piece.text = piece.values.length

/-- Whether every piece has a question mark for each of its values and no other. -/
def Statement.Placed (s : Statement) : Prop :=
  ∀ piece ∈ s, piece.Placed

theorem questionMarks_append (s t : String) :
    questionMarks (s ++ t) = questionMarks s + questionMarks t := by
  rw [questionMarks, String.toList_append, List.count_append]
  rfl

theorem questionMarks_tableName (t : Table) : questionMarks t.name = 0 := by
  cases t <;> decide

theorem questionMarks_columnName (c : Column) : questionMarks c.name = 0 := by
  cases c with
  | ofDomain c => cases c <;> decide
  | ofTechnology c => cases c <;> decide
  | ofLink c => cases c <;> decide
  | ofStats c => cases c <;> decide

theorem questionMarks_numberedName (t : Table) (n : Nat) :
    questionMarks (numberedName t n) = 0 := by
  have hnumber : questionMarks (toString n) = 0 :=
    List.count_eq_zero.mpr fun hmem => absurd (Search.isDigit_of_mem_number hmem) (by decide)
  rw [numberedName, questionMarks_append, questionMarks_append, questionMarks_tableName, hnumber]
  rfl

@[simp] theorem placed_nil : Statement.Placed [] :=
  List.forall_mem_nil _

@[simp] theorem placed_cons {piece : Piece} {s : Statement} :
    Statement.Placed (piece :: s) ↔ piece.Placed ∧ s.Placed :=
  List.forall_mem_cons

@[simp] theorem placed_append {s t : Statement} :
    Statement.Placed (s ++ t) ↔ s.Placed ∧ t.Placed :=
  List.forall_mem_append

@[simp] theorem placed_words (w : String) : (Piece.words w).Placed ↔ questionMarks w = 0 :=
  Iff.rfl

@[simp] theorem placed_table (t : Table) : (Piece.table t none).Placed :=
  questionMarks_tableName t

@[simp] theorem placed_alias (t u : Table) (n : Nat) :
    (Piece.table t (some (numberedName u n))).Placed := by
  rw [Piece.Placed, Piece.text, questionMarks_append, questionMarks_append,
    questionMarks_tableName, questionMarks_numberedName]
  rfl

theorem placed_column {owner : String} (h : questionMarks owner = 0) (c : Column) :
    (Piece.column owner c).Placed := by
  rw [Piece.Placed, Piece.text, questionMarks_append, questionMarks_append, h,
    questionMarks_columnName]
  rfl

@[simp] theorem placed_ofColumn (c : Column) : (Piece.ofColumn c).Placed :=
  placed_column (questionMarks_tableName c.table) c

@[simp] theorem placed_columnOfAlias (t : Table) (n : Nat) (c : Column) :
    (Piece.column (numberedName t n) c).Placed :=
  placed_column (questionMarks_numberedName t n) c

@[simp] theorem placed_place (label : String) (v : Value) : (Piece.place label v).Placed := by
  have hmark : questionMarks "?" = 1 := by decide
  exact hmark

@[simp] theorem placed_places (label : String) (vs : List Value) :
    (Piece.places label vs).Placed := by
  rw [Piece.Placed, Piece.text, Piece.values, questionMarks, String.toList_intercalate]
  induction vs with
  | nil => rfl
  | cons v vs ih => cases vs <;> simp_all [Nat.add_comm]

theorem placed_owners (o : Owners) (n : Numbering) : Statement.Placed (o.pieces n).1 := by
  cases o with
  | ofAny names =>
    simp +decide [Owners.pieces]
  | ofAll names =>
    simp +decide [Owners.pieces]
  | ofCategory category bound =>
    cases bound <;> simp +decide [Owners.pieces, CountBound.pieces]

theorem placed_test (t : Test) (n : Numbering) : Statement.Placed (t.pieces n).1 := by
  have howners (o : Owners) := placed_owners o n
  have hoperand (x : Operand) : Statement.Placed x.pieces := by
    cases x <;> simp +decide [Operand.pieces]
  cases t with
  | compare x op v => cases op <;> simp +decide [Test.pieces, Comparison.sign, hoperand]
  | like x pattern =>
    simp +decide [Test.pieces, hoperand]
  | among c texts =>
    simp +decide [Test.pieces]
  | owner o =>
    simp +decide [Test.pieces, domainIdPiece, howners]
  | notOwner o =>
    simp +decide [Test.pieces, domainIdPiece, howners]

theorem placed_wherePieces (cs : List Clause) : Statement.Placed (wherePieces cs) := by
  have hconnective : ∀ w ∈ connectives, questionMarks w = 0 := by decide
  -- Neither the tests nor the numbering matter, only what is written.
  have hparts : HoldsOfParts fun _ _ s _ => Statement.Placed s :=
    { nil := fun _ => placed_nil
      words := fun hw _ => placed_cons.mpr ⟨hconnective _ hw, placed_nil⟩
      append := fun hs ht => placed_append.mpr ⟨hs, ht⟩
      test := placed_test }
  obtain ⟨-, h⟩ := hparts.conditions cs
  exact h

theorem placed_sharedPieces (s : Selection) : Statement.Placed s.sharedPieces := by
  have hjoins : Statement.Placed (s.joins.flatMap JoinTable.pieces) := by
    induction s.joins with
    | nil => exact placed_nil
    | cons j joins ih =>
      rw [List.flatMap_cons, placed_append]
      refine ⟨?_, ih⟩
      simp +decide [JoinTable.pieces]
  simp +decide [Selection.sharedPieces, Selection.fromPieces, hjoins, placed_wherePieces]

theorem placed_columnPieces (cs : List Column) : Statement.Placed (columnPieces cs) :=
  forall_mem_columnPieces (by decide : questionMarks ", " = 0) placed_ofColumn cs

theorem placed_countStatement (s : Selection) : s.countStatement.Placed := by
  simp +decide [Selection.countStatement, countHead, domainIdPiece, placed_sharedPieces]

theorem placed_pageStatement (q : PageQuery) : q.statement.Placed := by
  cases hdescending : q.descending <;>
    simp +decide [PageQuery.statement, PageQuery.head, PageQuery.tail, PageQuery.orderPieces,
      domainIdPiece, placed_columnPieces, placed_sharedPieces, hdescending]

theorem Statement.Placed.questionMarks_text {s : Statement} (h : s.Placed) :
    questionMarks s.text = s.values.length := by
  induction s with
  | nil => rfl
  | cons piece s ih =>
    obtain ⟨hpiece, hs⟩ := placed_cons.mp h
    have htext : Statement.text (piece :: s) = piece.text ++ Statement.text s :=
      String.join_cons
    rw [htext, questionMarks_append, hpiece, ih hs]
    exact List.length_append.symm

end TechCatalog.Query
