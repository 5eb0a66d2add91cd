import TechCatalog.Proofs.Naming
import TechCatalog.Proofs.Writing

/-!
# What the text of a statement depends on

Two tests are alike when they differ in their values only: in what is compared with, in the texts
looked for as long as there are equally many of them, and in the numbers of a bound. Alike clauses
are written with the same text and number the same tables. In the text of conditions the question
marks are the places of values, one for each.
-/

namespace TechCatalog.Query

open Store

/-- Bounds of the same form. -/
inductive CountBound.Alike : CountBound → CountBound → Prop where
  | between (lo hi lo' hi' : Int) : Alike (.between lo hi) (.between lo' hi')
  | atLeast (n n' : Int) : Alike (.atLeast n) (.atLeast n')
  | atMost (n n' : Int) : Alike (.atMost n) (.atMost n')

/-- Owners that are looked for in the same way, by equally many names. -/
inductive Owners.Alike : Owners → Owners → Prop where
  | ofAny {names names' : List String} (h : names.length = names'.length) :
    Alike (.ofAny names) (.ofAny names')
  | ofAll {names names' : List String} (h : names.length = names'.length) :
    Alike (.ofAll names) (.ofAll names')
  | ofCategory (category category' : String) {bound bound' : CountBound}
    (h : bound.Alike bound') : Alike (.ofCategory category bound) (.ofCategory category' bound')

/-- Tests that differ in their values only. -/
inductive Test.Alike : Test → Test → Prop where
  | compare (x : Operand) (op : Comparison) (v v' : Value) :
    Alike (.compare x op v) (.compare x op v')
  | like (x : Operand) (pattern pattern' : String) : Alike (.like x pattern) (.like x pattern')
  | among (c : Column) {texts texts' : List String} (h : texts.length = texts'.length) :
    Alike (.among c texts) (.among c texts')
  | owner {o o' : Owners} (h : o.Alike o') : Alike (.owner o) (.owner o')
  | notOwner {o o' : Owners} (h : o.Alike o') : Alike (.notOwner o) (.notOwner o')

/-- Terms of alike tests. -/
inductive Term.Alike : Term → Term → Prop where
  | holds {ts us : List Test} (h : List.Forall₂ Test.Alike ts us) : Alike (.holds ts) (.holds us)
  | fails {ts us : List Test} (h : List.Forall₂ Test.Alike ts us) : Alike (.fails ts) (.fails us)

/-- Clauses of alike terms. -/
inductive Clause.Alike : Clause → Clause → Prop where
  | all {ts us : List Term} (h : List.Forall₂ Term.Alike ts us) : Alike (.all ts) (.all us)
  | any {ts us : List Term} (h : List.Forall₂ Term.Alike ts us) : Alike (.any ts) (.any us)

/-- Two parts whose pieces have the same texts. -/
def SameTexts (s t : Statement) : Prop :=
  s.map Piece.text = t.map Piece.text

/-- Two parts with the same texts that lead to the same numbering. -/
structure SameWriting (x y : Statement × Numbering) : Prop where
  texts : SameTexts x.1 y.1
  numbering : x.2 = y.2

theorem SameTexts.refl (s : Statement) : SameTexts s s := rfl

theorem SameTexts.append {s s' t t' : Statement} (hs : SameTexts s s') (ht : SameTexts t t') :
    SameTexts (s ++ t) (s' ++ t') := by
  rw [SameTexts, List.map_append, List.map_append, hs, ht]

theorem SameTexts.cons (piece : Piece) {s s' : Statement} (hs : SameTexts s s') :
    SameTexts (piece :: s) (piece :: s') :=
  congrArg (piece.text :: ·) hs

theorem SameTexts.text_eq {s t : Statement} (h : SameTexts s t) : s.text = t.text :=
  congrArg String.join h

theorem text_place (label : String) (v : Value) : (Piece.place label v).text = "?" := rfl

/-- What is written for a list of values depends on how many they are. -/
theorem text_places (label : String) (vs : List Value) :
    (Piece.places label vs).text = ", ".intercalate (List.replicate vs.length "?") := by
  rw [Piece.text, List.map_const']

theorem CountBound.Alike.sameTexts {b b' : CountBound} (h : b.Alike b') :
    SameTexts b.pieces b'.pieces := by
  cases h <;> rfl

theorem Owners.Alike.sameWriting {o o' : Owners} (h : o.Alike o') (n : Numbering) :
    SameWriting (o.pieces n) (o'.pieces n) := by
  cases h with
  | ofAny h => exact ⟨by simp [SameTexts, Owners.pieces, text_places, h], rfl⟩
  | ofAll h => exact ⟨by simp [SameTexts, Owners.pieces, text_places, text_place, h], rfl⟩
  | ofCategory category category' h => exact ⟨SameTexts.append rfl h.sameTexts, rfl⟩

theorem Test.Alike.sameWriting {t t' : Test} (h : t.Alike t') (n : Numbering) :
    SameWriting (t.pieces n) (t'.pieces n) := by
  cases h with
  | compare x op v v' => cases x <;> exact ⟨rfl, rfl⟩
  | like x pattern pattern' => cases x <;> exact ⟨rfl, rfl⟩
  | among c h => exact ⟨by simp [SameTexts, Test.pieces, text_places, h], rfl⟩
  | owner h =>
    have howners := h.sameWriting n
    exact ⟨(SameTexts.append rfl howners.texts).append rfl, howners.numbering⟩
  | notOwner h =>
    have howners := h.sameWriting n
    exact ⟨(SameTexts.append rfl howners.texts).append rfl, howners.numbering⟩

theorem joinPieces_cons_cons {α : Type} (write : α → Numbering → Statement × Numbering)
    (word : String) (a b : α) (rest : List α) (n : Numbering) :
    joinPieces write word (a :: b :: rest) n =
      ((write a n).1 ++ .words word :: (joinPieces write word (b :: rest) (write a n).2).1,
        (joinPieces write word (b :: rest) (write a n).2).2) := rfl

/-- Items that are written alike make parts that are written alike. -/
theorem sameWriting_join {α : Type} {R : α → α → Prop} {as bs : List α} (h : List.Forall₂ R as bs)
    {write : α → Numbering → Statement × Numbering}
    (hwrite : ∀ a b, R a b → ∀ n, SameWriting (write a n) (write b n)) (word : String)
    (n : Numbering) : SameWriting (joinPieces write word as n) (joinPieces write word bs n) := by
  induction h generalizing n with
  | nil => exact ⟨rfl, rfl⟩
  | @cons a b as bs hab hrest ih =>
    have hfirst := hwrite a b hab n
    cases hrest with
    | nil => exact hfirst
    | cons _ _ =>
      -- The rest is written from where the first item leaves the numbering.
      rw [joinPieces_cons_cons, joinPieces_cons_cons, hfirst.numbering]
      have hothers := ih (write b n).2
      exact ⟨hfirst.texts.append (hothers.texts.cons _), hothers.numbering⟩

theorem Term.Alike.sameWriting {t t' : Term} (h : t.Alike t') (n : Numbering) :
    SameWriting (t.pieces n) (t'.pieces n) := by
  cases h with
  | holds h => exact sameWriting_join h (fun _ _ ht => ht.sameWriting) _ n
  | fails h =>
    have htests := sameWriting_join h (fun _ _ ht => ht.sameWriting) " AND " n
    exact ⟨(SameTexts.append rfl htests.texts).append rfl, htests.numbering⟩

theorem Clause.Alike.sameWriting {c c' : Clause} (h : c.Alike c') (n : Numbering) :
    SameWriting (c.pieces n) (c'.pieces n) := by
  cases h with
  | all h => exact sameWriting_join h (fun _ _ ht => ht.sameWriting) _ n
  | any h => exact sameWriting_join h (fun _ _ ht => ht.sameWriting) _ n

theorem Clause.Alike.sameWriting_among {c c' : Clause} (h : c.Alike c') (n : Numbering) :
    SameWriting (c.piecesAmong n) (c'.piecesAmong n) := by
  have hclause := h.sameWriting n
  cases h with
  | all h => exact hclause
  | any h =>
    cases h with
    | nil => exact hclause
    | cons _ hrest =>
      cases hrest with
      | nil => exact hclause
      | cons _ _ =>
        exact ⟨(SameTexts.append rfl hclause.texts).append rfl, hclause.numbering⟩

/-- Alike clauses make conditions with the same texts. -/
theorem sameTexts_wherePieces {cs ds : List Clause} (h : List.Forall₂ Clause.Alike cs ds) :
    SameTexts (wherePieces cs) (wherePieces ds) := by
  cases h with
  | nil => exact .refl _
  | cons hcd hrest =>
    cases hrest with
    | nil => exact (hcd.sameWriting {}).texts.cons _
    | cons hcd' hrest' =>
      have hall := sameWriting_join (.cons hcd (.cons hcd' hrest'))
        (fun _ _ hc => hc.sameWriting_among) " AND " {}
      exact hall.texts.cons _

end TechCatalog.Query
