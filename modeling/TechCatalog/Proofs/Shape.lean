import TechCatalog.Proofs.Alike
import TechCatalog.Proofs.Guard
import TechCatalog.Proofs.Placeholders
import TechCatalog.Proofs.SortKeys

/-!
# Searches of the same shape

Two searches have the same shape when the same filters are there, compare in the same way, and have
equally many values and the same bounds, whatever the values and bounds are. Such searches have the
same statements as texts: what a caller writes is bound to a statement and never becomes part of it.
-/

namespace TechCatalog.Request

/-- Text filters that compare in the same way. -/
structure TextFilter.SameShape (f g : TextFilter) : Prop where
  matchType : f.matchType = g.matchType
  caseSensitive : f.caseSensitive = g.caseSensitive

/-- List filters with equally many values to accept, to refuse and, repetitions left out, to require
together. -/
structure ListFilter.SameShape (f g : ListFilter) : Prop where
  included : (valuesOf f.included).length = (valuesOf g.included).length
  excluded : (valuesOf f.excluded).length = (valuesOf g.excluded).length
  required : (valuesOf f.required).eraseDups.length = (valuesOf g.required).eraseDups.length

/-- Ranges with the same bounds present, both accepted or both not. -/
structure Range.SameShape {α : Type} (r r' : Range α) : Prop where
  min : r.min.isSome = r'.min.isSome
  max : r.max.isSome = r'.max.isSome
  inclusive : r.inclusive = r'.inclusive

/-- Category filters with the same operator and the same bounds present. -/
structure CategoryFilter.SameShape (f g : CategoryFilter) : Prop where
  minCount : f.minCount.isSome = g.minCount.isSome
  maxCount : f.maxCount.isSome = g.maxCount.isSome
  operator : f.operator = g.operator

/-- Searches that differ in values only. -/
structure Filters.SameShape (f g : Filters) : Prop where
  domain : Option.Rel TextFilter.SameShape f.domain g.domain
  companyName : Option.Rel TextFilter.SameShape f.companyName g.companyName
  category : Option.Rel ListFilter.SameShape f.category g.category
  country : Option.Rel ListFilter.SameShape f.country g.country
  technologies : Option.Rel ListFilter.SameShape f.technologies g.technologies
  technologyCategories : Option.Rel (List.Forall₂ CategoryFilter.SameShape)
    f.technologyCategories g.technologyCategories
  totalSpendRange : Option.Rel Range.SameShape f.totalSpendRange g.totalSpendRange
  technologyCountRange : Option.Rel Range.SameShape f.technologyCountRange g.technologyCountRange

end TechCatalog.Request

namespace TechCatalog.Search

open Store Query Request Service

theorem textClause_alike (c : Column) {f g : TextFilter} (h : f.SameShape g) :
    (textClause c f).Alike (textClause c g) := by
  suffices htest : (textTest c f).Alike (textTest c g) from
    .all (.cons (.holds (.cons htest .nil)) .nil)
  obtain ⟨value, matchType, caseSensitive⟩ := f
  obtain ⟨value', _, _⟩ := g
  obtain ⟨rfl, rfl⟩ := h
  cases matchType with
  | exact => exact .compare _ _ _ _
  | contains => exact .like _ _ _
  | startsWith => exact .like _ _ _
  | endsWith => exact .like _ _ _

/-- Of two options that are both there or both absent nothing else is known. -/
theorem rel_of_isSome_eq {α : Type} {x y : Option α} (h : x.isSome = y.isSome) :
    Option.Rel (fun _ _ => True) x y := by
  cases x <;> cases y
  · exact .none
  · cases h
  · cases h
  · exact .some trivial

/-- A comparison of a column with each of equally many texts. -/
theorem comparisons_alike (c : Column) (op : Comparison) {vs ws : List String}
    (h : vs.length = ws.length) : List.Forall₂ Term.Alike
      (vs.map fun v => .holds [.compare (.column c) op (.text v)])
      (ws.map fun w => .holds [.compare (.column c) op (.text w)]) := by
  induction vs generalizing ws with
  | nil =>
    cases List.length_eq_zero_iff.mp h.symm
    exact .nil
  | cons v vs ih =>
    obtain ⟨w, ws, rfl⟩ := List.exists_of_length_succ ws h.symm
    exact .cons (.holds (.cons (.compare _ _ _ _) .nil)) (ih (Nat.succ.inj h))

theorem singleClause_alike (c : Column) {f g : ListFilter} (h : f.SameShape g) :
    Option.Rel Clause.Alike (singleClause? c f) (singleClause? c g) := by
  obtain ⟨hincluded, hexcluded, -⟩ := h
  rw [singleClause?, singleClause?]
  cases hf : valuesOf f.included with
  | cons v vs =>
    rw [hf] at hincluded
    obtain ⟨w, ws, hg⟩ := List.exists_of_length_succ _ hincluded.symm
    rw [hg] at hincluded ⊢
    exact .some (.any (comparisons_alike c _ hincluded))
  | nil =>
    -- Without values to accept, the values to refuse decide.
    rw [hf] at hincluded
    rw [List.length_eq_zero_iff.mp hincluded.symm]
    cases hf' : valuesOf f.excluded with
    | cons v vs =>
      rw [hf'] at hexcluded
      obtain ⟨w, ws, hg⟩ := List.exists_of_length_succ _ hexcluded.symm
      rw [hg] at hexcluded ⊢
      exact .some (.all (comparisons_alike c _ hexcluded))
    | nil =>
      rw [hf'] at hexcluded
      rw [List.length_eq_zero_iff.mp hexcluded.symm]
      exact .none

/-- Tests that make no clause where there are none are alike either way. -/
theorem ofTests_alike {ts us : List Test} (h : List.Forall₂ Test.Alike ts us) :
    Option.Rel Clause.Alike (if ts.isEmpty then none else some (.ofTests ts))
      (if us.isEmpty then none else some (.ofTests us)) := by
  cases h with
  | nil => exact .none
  | cons htest hrest => exact .some (.all (.cons (.holds (.cons htest hrest)) .nil))

theorem namesClause_alike {f g : ListFilter} (h : f.SameShape g) :
    Option.Rel Clause.Alike (namesClause? f) (namesClause? g) := by
  have htest {test : List String → Test} (halike : ∀ {vs ws : List String},
      vs.length = ws.length → (test vs).Alike (test ws)) {vs ws : List String}
      (hlength : vs.length = ws.length) : List.Forall₂ Test.Alike
        (if vs.isEmpty then [] else [test vs]) (if ws.isEmpty then [] else [test ws]) := by
    rw [isEmpty_congr hlength]
    split
    · exact .nil
    · exact .cons (halike hlength) .nil
  obtain ⟨hincluded, hexcluded, hrequired⟩ := h
  exact ofTests_alike (List.rel_append (List.rel_append
    (htest (.among _) hincluded) (htest (fun h => .notOwner (.ofAny h)) hexcluded))
    (htest (fun h => .owner (.ofAll h)) hrequired))

theorem rangeClause_alike {α : Type} (c : Column) (value : α → Value) {r r' : Range α}
    (h : r.SameShape r') :
    Option.Rel Clause.Alike (rangeClause? c value r) (rangeClause? c value r') := by
  have hbound (op : Comparison) {x y : Option α} (hsome : x.isSome = y.isSome) :
      List.Forall₂ Test.Alike (x.map fun a => Test.compare (.column c) op (value a)).toList
        (y.map fun a => Test.compare (.column c) op (value a)).toList := by
    cases rel_of_isSome_eq hsome with
    | none => exact .nil
    | some _ => exact .cons (.compare _ _ _ _) .nil
  refine ofTests_alike ?_
  rw [rangeTests, rangeTests, h.inclusive]
  exact List.rel_append (hbound _ h.min) (hbound _ h.max)

theorem countBound_alike {f g : CategoryFilter} (h : f.SameShape g) :
    Option.Rel CountBound.Alike (countBound? f) (countBound? g) := by
  obtain ⟨category, least, greatest, operator⟩ := f
  obtain ⟨category', least', greatest', operator'⟩ := g
  cases rel_of_isSome_eq h.minCount with
  | none =>
    cases rel_of_isSome_eq h.maxCount with
    | none => exact .none
    | some _ => exact .some (.atMost _ _)
  | some _ =>
    cases rel_of_isSome_eq h.maxCount with
    | none => exact .some (.atLeast _ _)
    | some _ => exact .some (.between _ _ _ _)

theorem categoryTerm_alike {f g : CategoryFilter} (h : f.SameShape g) :
    (categoryTerm f).Alike (categoryTerm g) := by
  have hbound := countBound_alike h
  have hcategory (op : Comparison) (v w : Value) :=
    Test.Alike.compare (.column (.ofTechnology .category)) op v w
  rw [categoryTerm, categoryTerm, h.operator]
  generalize countBound? f = bound at hbound ⊢
  generalize countBound? g = bound' at hbound ⊢
  cases hbound with
  | none => cases g.operator <;> exact .holds (.cons (hcategory _ _ _) .nil)
  | some hcount =>
    have htests := List.Forall₂.cons (hcategory .equal (.text f.category) (.text g.category))
      (.cons (.owner (.ofCategory f.category g.category hcount)) .nil)
    cases g.operator with
    | and => exact .holds htests
    | or => exact .holds htests
    | not => exact .fails htests

theorem categoriesClause_alike {fs gs : List CategoryFilter}
    (h : List.Forall₂ CategoryFilter.SameShape fs gs) :
    Option.Rel Clause.Alike (categoriesClause? fs) (categoriesClause? gs) := by
  have hany : (fs.any fun f => f.operator == .or) = gs.any fun g => g.operator == .or := by
    induction h with
    | nil => rfl
    | cons hfg _ ih => rw [List.any_cons, List.any_cons, hfg.operator, ih]
  have hterms : List.Forall₂ Term.Alike (fs.map categoryTerm) (gs.map categoryTerm) :=
    List.rel_map (fun _ _ hfg => categoryTerm_alike hfg) h
  rw [categoriesClause?, categoriesClause?, isEmpty_congr h.length_eq, hany]
  split
  · exact .none
  · split
    · exact .some (.any hterms)
    · exact .some (.all hterms)

/-- Searches of the same shape have alike clauses. -/
theorem clausesOf_alike {f g : Filters} (h : f.SameShape g) :
    List.Forall₂ Clause.Alike (clausesOf f) (clausesOf g) := by
  have hbind {α : Type} {R : α → α → Prop} {clause : α → Option Clause} {a b : Option α}
      (hclause : ∀ {x y}, R x y → Option.Rel Clause.Alike (clause x) (clause y))
      (hab : Option.Rel R a b) : Option.Rel Clause.Alike (a.bind clause) (b.bind clause) := by
    cases hab with
    | none => exact .none
    | some hxy => exact hclause hxy
  have htext (c : Column) {a b : Option TextFilter} (hab : Option.Rel TextFilter.SameShape a b) :
      Option.Rel Clause.Alike (a.map (textClause c)) (b.map (textClause c)) := by
    cases hab with
    | none => exact .none
    | some hxy => exact .some (textClause_alike c hxy)
  refine List.rel_filterMap (fun _ _ hclauses => hclauses) ?_
  exact .cons (htext _ h.domain) (.cons (htext _ h.companyName)
    (.cons (hbind (singleClause_alike _) h.category) (.cons (hbind (singleClause_alike _) h.country)
    (.cons (hbind namesClause_alike h.technologies)
    (.cons (hbind categoriesClause_alike h.technologyCategories)
    (.cons (hbind (rangeClause_alike _ _) h.totalSpendRange)
    (.cons (hbind (rangeClause_alike _ _) h.technologyCountRange) .nil)))))))

/-- Searches of the same shape join the same tables. -/
theorem planJoins_congr {f g : Filters} (h : f.SameShape g) (sortNeedsStats : Bool) :
    planJoins f sortNeedsStats = planJoins g sortNeedsStats := by
  have hany {α : Type} {R : α → α → Prop} {active : α → Bool} {a b : Option α}
      (hactive : ∀ {x y}, R x y → active x = active y) (hab : Option.Rel R a b) :
      a.any active = b.any active := by
    cases hab with
    | none => rfl
    | some hxy => exact hactive hxy
  have hlist : listActive f.technologies = listActive g.technologies := by
    refine hany (fun {x y} hxy => ?_) h.technologies
    rw [ListFilter.isActive, ListFilter.isActive, isEmpty_congr hxy.included,
      isEmpty_congr hxy.excluded, ← isEmpty_eraseDups (valuesOf x.required),
      isEmpty_congr hxy.required, isEmpty_eraseDups]
  have hcategories : categoriesActive f.technologyCategories =
      categoriesActive g.technologyCategories := by
    refine hany (fun {x y} hxy => ?_) h.technologyCategories
    rw [isEmpty_congr hxy.length_eq]
  have hrange {α : Type} {r r' : Option (Range α)} (hrr' : Option.Rel Range.SameShape r r') :
      rangeActive r = rangeActive r' := by
    refine hany (fun {x y} hxy => ?_) hrr'
    rw [Range.isActive, Range.isActive, hxy.min, hxy.max]
  have hreasons : reasonsFor f sortNeedsStats = reasonsFor g sortNeedsStats := by
    funext j
    cases j <;> simp only [reasonsFor, hlist, hcategories, hrange h.totalSpendRange,
      hrange h.technologyCountRange]
  rw [planJoins, planJoins, hreasons]

/-- Statements with the same joins, with alike clauses and in the same order have the same texts. -/
theorem texts_eq (q q' : PageQuery) (hjoins : q.selection.joins = q'.selection.joins)
    (hclauses : List.Forall₂ Clause.Alike q.selection.clauses q'.selection.clauses)
    (hcolumn : q.sortColumn = q'.sortColumn) (hdescending : q.descending = q'.descending) :
    q.selection.countStatement.text = q'.selection.countStatement.text ∧
      q.statement.text = q'.statement.text := by
  have hshared : SameTexts q.selection.sharedPieces q'.selection.sharedPieces := by
    rw [Selection.sharedPieces, Selection.sharedPieces, Selection.fromPieces, hjoins]
    exact .append rfl (sameTexts_wherePieces hclauses)
  have hhead : q.head = q'.head := by
    rw [PageQuery.head, PageQuery.head, PageQuery.extraColumns, hcolumn]
    rfl
  have htail : SameTexts q.tail q'.tail := by
    rw [PageQuery.tail, PageQuery.tail, PageQuery.orderPieces, PageQuery.orderPieces, hcolumn,
      hdescending]
    exact .append rfl rfl
  have hstatement : SameTexts q.statement q'.statement := by
    rw [PageQuery.statement, PageQuery.statement, hhead]
    exact (SameTexts.append rfl hshared).append htail
  exact ⟨SameTexts.text_eq (.append rfl hshared), hstatement.text_eq⟩

/-- The texts of both statements depend on the shape of a search and on the column and the direction
of its order only, and have as many question marks as values are bound. -/
theorem texts_depend_on_shape {f g : Filters} (h : f.SameShape g) (hf : f.NaNFree)
    (hg : g.NaNFree) {p p' : Paging} (hcolumn : (sortOf p).1.column = (sortOf p').1.column)
    (hdescending : (sortOf p).2.1 = (sortOf p').2.1) (s s' : Settings) :
    ∃ q q', (assemble f p s).1 = .ok q ∧ (assemble g p' s').1 = .ok q' ∧
      q.selection.countStatement.text = q'.selection.countStatement.text ∧
      q.page.statement.text = q'.page.statement.text ∧
      ∀ statement ∈ [q.selection.countStatement, q.page.statement,
          q'.selection.countStatement, q'.page.statement],
        questionMarks (Statement.text statement) = (Statement.values statement).length := by
  refine ⟨composePair f (PageOrder.of p s).1, composePair g (PageOrder.of p' s').1, ?_, ?_, ?_⟩
  · rw [assemble_eq, if_pos hf]
  · rw [assemble_eq, if_pos hg]
  have hstats : (PageOrder.of p s).1.needsStats = (PageOrder.of p' s').1.needsStats := by
    rw [needsStats_eq (sortOf_key p), needsStats_eq (sortOf_key p')]
    exact congrArg (fun c : Column => c.table == .stats) hcolumn
  have hjoins : (composePair f (PageOrder.of p s).1).selection.joins =
      (composePair g (PageOrder.of p' s').1).selection.joins := by
    simp only [composePair, planJoins_congr h, hstats]
  obtain ⟨hcount, hpage⟩ := texts_eq (composePair f (PageOrder.of p s).1).page
    (composePair g (PageOrder.of p' s').1).page hjoins (clausesOf_alike h) hcolumn hdescending
  refine ⟨hcount, hpage, ?_⟩
  simp only [List.forall_mem_cons]
  exact ⟨(placed_countStatement _).questionMarks_text, (placed_pageStatement _).questionMarks_text,
    (placed_countStatement _).questionMarks_text, (placed_pageStatement _).questionMarks_text,
    List.forall_mem_nil _⟩

/-- A search for text, names and numbers. -/
def plainSearch : Filters where
  domain := some { value := "shop" }
  technologies := some { included := some ["React", "jQuery"], required := some ["React", "React"] }
  technologyCategories := some [{ category := "Payment", minCount := some 1, operator := .or }]
  totalSpendRange := some { min := some (Decimal.toFloat false 10 0) }

/-- A search of the same shape whose values are written like parts of a statement. -/
def hostileSearch : Filters where
  domain := some { value := "' OR 1=1; DROP TABLE domains --?" }
  technologies := some { included := some ["?) OR (1=1", "%_\\"], required := some ["'"] }
  technologyCategories :=
    some [{ category := "?, ?", minCount := some 1000000000000000000000, operator := .or }]
  totalSpendRange := some { min := some (Decimal.toFloat true 1 (-5)) }

theorem plainSearch_sameShape : plainSearch.SameShape hostileSearch where
  domain := .some ⟨rfl, rfl⟩
  companyName := .none
  category := .none
  country := .none
  technologies := .some ⟨rfl, rfl, by decide⟩
  technologyCategories := .some (.cons ⟨rfl, rfl, rfl⟩ .nil)
  totalSpendRange := .some ⟨rfl, rfl, rfl⟩
  technologyCountRange := .none

/-- A page sorted by what is no name of a column, but written like a statement. -/
def hostilePaging : Paging where
  limit := some 7
  sortBy := some "id; DELETE FROM domains"

theorem texts_depend_on_shape_hostile :
    plainSearch.SameShape hostileSearch ∧ plainSearch.NaNFree ∧ hostileSearch.NaNFree ∧
    ∃ q q', (assemble plainSearch {} {}).1 = .ok q ∧
      (assemble hostileSearch hostilePaging {}).1 = .ok q' ∧
      q.selection.countStatement.text = q'.selection.countStatement.text ∧
      q.page.statement.text = q'.page.statement.text ∧
      questionMarks q'.page.statement.text = q'.page.statement.values.length := by
  have hplain : plainSearch.NaNFree := by decide
  have hhostile : hostileSearch.NaNFree := by decide
  have hcolumn : (sortOf {}).1.column = (sortOf hostilePaging).1.column := rfl
  obtain ⟨q, q', hq, hq', hcount, hpage, hmarks⟩ :=
    texts_depend_on_shape plainSearch_sameShape hplain hhostile hcolumn rfl {} {}
  exact ⟨plainSearch_sameShape, hplain, hhostile, q, q', hq, hq', hcount, hpage,
    hmarks _ (by simp)⟩

end TechCatalog.Search
