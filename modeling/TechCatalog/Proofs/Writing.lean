import TechCatalog.Query.Select

/-!
# How conditions are written

Tests are written one after the other with words between them, and the numbering of tables is passed
along. A property of what is written that holds of every test, of the words between tests, and of
two parts put one after the other holds of all conditions of a statement: `HoldsOfParts.conditions`.
-/

namespace TechCatalog.Query

open Store

/-- Names of columns are written as columns and commas. -/
theorem mem_columnPieces {cs : List Column} {piece : Piece} (h : piece ∈ columnPieces cs) :
    piece = .words ", " ∨ ∃ c ∈ cs, piece = .ofColumn c := by
  fun_induction columnPieces cs with
  | case1 => cases h
  | case2 c => exact .inr ⟨c, List.mem_singleton_self c, List.mem_singleton.mp h⟩
  | case3 c rest _ ih =>
    rw [List.mem_cons, List.mem_cons] at h
    rcases h with rfl | rfl | h
    · exact .inr ⟨c, List.mem_cons_self, rfl⟩
    · exact .inl rfl
    · obtain hcomma | ⟨d, hd, hpiece⟩ := ih h
      · exact .inl hcomma
      · exact .inr ⟨d, List.mem_cons_of_mem c hd, hpiece⟩

theorem forall_mem_columnPieces {P : Piece → Prop} (hcomma : P (.words ", "))
    (hcolumn : ∀ c : Column, P (.ofColumn c)) (cs : List Column) :
    ∀ piece ∈ columnPieces cs, P piece := by
  intro piece hpiece
  obtain rfl | ⟨c, -, rfl⟩ := mem_columnPieces hpiece
  · exact hcomma
  · exact hcolumn c

/-- The words that conditions put before, between and after tests. -/
def connectives : List String := [" WHERE ", " AND ", " OR ", "NOT (", "(", ")"]

/-- A property of tests, of what is written for them, and of the numbering before and after, that
passes from parts to the whole. -/
structure HoldsOfParts (R : List Test → Numbering → Statement → Numbering → Prop) : Prop where
  nil (n : Numbering) : R [] n [] n
  words {w : String} (h : w ∈ connectives) (n : Numbering) : R [] n [.words w] n
  append {ts us : List Test} {n m k : Numbering} {s t : Statement} :
    R ts n s m → R us m t k → R (ts ++ us) n (s ++ t) k
  test (t : Test) (n : Numbering) : R [t] n (t.pieces n).1 (t.pieces n).2

namespace HoldsOfParts

variable {R : List Test → Numbering → Statement → Numbering → Prop}

theorem words_before (h : HoldsOfParts R) {w : String} (hw : w ∈ connectives) {ts : List Test}
    {n m : Numbering} {s : Statement} (hs : R ts n s m) : R ts n (.words w :: s) m :=
  h.append (h.words hw n) hs

theorem words_after (h : HoldsOfParts R) {w : String} (hw : w ∈ connectives) {ts : List Test}
    {n m : Numbering} {s : Statement} (hs : R ts n s m) : R ts n (s ++ [.words w]) m := by
  have happend := h.append hs (h.words hw m)
  rwa [List.append_nil] at happend

theorem join (h : HoldsOfParts R) {α : Type} {write : α → Numbering → Statement × Numbering}
    {tests : α → List Test} (hwrite : ∀ a n, R (tests a) n (write a n).1 (write a n).2)
    {word : String} (hword : word ∈ connectives) (as : List α) (n : Numbering) :
    R (as.flatMap tests) n (joinPieces write word as n).1 (joinPieces write word as n).2 := by
  fun_induction joinPieces write word as n with
  | case1 n => exact h.nil n
  | case2 a n => simpa using hwrite a n
  | case3 a rest n _ first n' hfirst others n'' hothers ih =>
    have ha := hwrite a n
    rw [hfirst] at ha
    rw [hothers] at ih
    exact h.append ha (h.words_before hword ih)

theorem term (h : HoldsOfParts R) (t : Term) (n : Numbering) :
    R t.tests n (t.pieces n).1 (t.pieces n).2 := by
  have hjoin (ts : List Test) : R ts n (joinPieces Test.pieces " AND " ts n).1
      (joinPieces Test.pieces " AND " ts n).2 := by
    have hand : " AND " ∈ connectives := by decide
    have hts := h.join h.test hand ts n
    rwa [List.flatMap_singleton'] at hts
  cases t with
  | holds tests => exact hjoin tests
  | fails tests =>
    exact h.words_before (by decide) (h.words_after (by decide) (hjoin tests))

theorem clause (h : HoldsOfParts R) (c : Clause) (n : Numbering) :
    R c.tests n (c.pieces n).1 (c.pieces n).2 := by
  cases c with
  | all terms => exact h.join h.term (by decide) terms n
  | any terms => exact h.join h.term (by decide) terms n

theorem clause_among (h : HoldsOfParts R) (c : Clause) (n : Numbering) :
    R c.tests n (c.piecesAmong n).1 (c.piecesAmong n).2 := by
  rw [Clause.piecesAmong.eq_def]
  split
  · exact h.words_before (by decide) (h.words_after (by decide) (h.clause _ n))
  · exact h.clause c n

/-- What passes from parts to the whole holds of the conditions of a statement. -/
theorem conditions (h : HoldsOfParts R) (cs : List Clause) :
    ∃ m, R (cs.flatMap Clause.tests) {} (wherePieces cs) m := by
  rw [wherePieces.eq_def]
  split
  · exact ⟨_, h.nil {}⟩
  · rename_i c
    have hc := h.words_before (w := " WHERE ") (by decide) (h.clause c {})
    exact ⟨_, by simpa using hc⟩
  · exact ⟨_, h.words_before (by decide) (h.join h.clause_among (by decide) _ {})⟩

end HoldsOfParts

end TechCatalog.Query
