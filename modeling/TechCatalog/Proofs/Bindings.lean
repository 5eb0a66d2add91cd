import TechCatalog.Proofs.Lists
import TechCatalog.Proofs.Writing
import TechCatalog.Search.Assembly

/-!
# What conditions bind

A condition binds the same values under the same labels wherever it stands and whatever names it
gives to tables. `Clause.bindings` lists them without writing the clause out. Of the filters of a
search only bounds and the number of required technologies bind numbers; `Filters.numbers` lists
these. Everything else that is bound is text.
-/

namespace TechCatalog.Query

open Store

/-- The values at one place or at a list of places. -/
def Binding.values : Binding → List Value
  | .one v => [v]
  | .many vs => vs

/-- What a bound on a number of rows binds. -/
def CountBound.bindings : CountBound → List (String × Binding)
  | .between lo hi => [("count", .one (.int lo)), ("count", .one (.int hi))]
  | .atLeast n => [("count", .one (.int n))]
  | .atMost n => [("count", .one (.int n))]

/-- What the search for owners binds. -/
def Owners.bindings : Owners → List (String × Binding)
  | .ofAny names => [("technology_name", .many (names.map .text))]
  | .ofAll names =>
    [("technology_name", .many (names.map .text)), ("count", .one (.int names.length))]
  | .ofCategory category bound => ("category", .one (.text category)) :: bound.bindings

/-- What a test binds. -/
def Test.bindings : Test → List (String × Binding)
  | .compare x _ v => [(x.label, .one v)]
  | .like x pattern => [(x.label, .one (.text pattern))]
  | .among c texts => [(c.name, .many (texts.map .text))]
  | .owner o => o.bindings
  | .notOwner o => o.bindings

/-- What a clause binds. -/
def Clause.bindings (c : Clause) : List (String × Binding) :=
  c.tests.flatMap Test.bindings

theorem Statement.values_eq (s : Statement) :
    s.values = s.bindings.flatMap fun b => b.2.values := by
  induction s with
  | nil => rfl
  | cons piece rest ih =>
    rw [values, bindings] at *
    rw [List.flatMap_cons, List.filterMap_cons, ih]
    cases piece <;> rfl

@[simp] theorem Statement.bindings_append (s t : Statement) :
    Statement.bindings (s ++ t) = s.bindings ++ t.bindings :=
  List.filterMap_append

@[simp] theorem Statement.bindings_words (w : String) (s : Statement) :
    Statement.bindings (.words w :: s) = s.bindings := rfl

@[simp] theorem Statement.bindings_column (owner : String) (c : Column) (s : Statement) :
    Statement.bindings (.column owner c :: s) = s.bindings := rfl

@[simp] theorem Statement.bindings_table (t : Table) (name : Option String) (s : Statement) :
    Statement.bindings (.table t name :: s) = s.bindings := rfl

@[simp] theorem Statement.bindings_nil : Statement.bindings [] = [] := rfl

theorem CountBound.bindings_pieces (bound : CountBound) :
    Statement.bindings bound.pieces = bound.bindings := by
  cases bound <;> rfl

theorem Owners.bindings_pieces (o : Owners) (n : Numbering) :
    Statement.bindings (o.pieces n).1 = o.bindings := by
  cases o with
  | ofAny names => rfl
  | ofAll names => rfl
  | ofCategory category bound => exact congrArg _ bound.bindings_pieces

theorem Test.bindings_pieces (t : Test) (n : Numbering) :
    Statement.bindings (t.pieces n).1 = t.bindings := by
  cases t with
  | compare x op v => cases x <;> rfl
  | like x pattern => cases x <;> rfl
  | among c texts => rfl
  | owner o => simp [pieces, bindings, domainIdPiece, Piece.ofColumn, o.bindings_pieces]
  | notOwner o => simp [pieces, bindings, domainIdPiece, Piece.ofColumn, o.bindings_pieces]

/-- The conditions of a statement bind what their tests bind, in order. -/
theorem bindings_wherePieces (cs : List Clause) :
    Statement.bindings (wherePieces cs) = cs.flatMap Clause.bindings := by
  have hparts : HoldsOfParts fun ts _ s _ => Statement.bindings s = ts.flatMap Test.bindings :=
    { nil := fun _ => rfl
      words := fun _ _ => rfl
      append := fun hs ht => by rw [Statement.bindings_append, hs, ht, List.flatMap_append]
      test := fun t n => by rw [t.bindings_pieces n, List.flatMap_singleton] }
  obtain ⟨-, h⟩ := hparts.conditions cs
  rw [h, List.flatMap_assoc]
  rfl

theorem Selection.bindings_fromPieces (s : Selection) : Statement.bindings s.fromPieces = [] := by
  have hjoin : ∀ j : JoinTable, Statement.bindings j.pieces = [] := fun _ => rfl
  rw [fromPieces, Statement.bindings_words, Statement.bindings_table]
  induction s.joins with
  | nil => rfl
  | cons j joins ih => rw [List.flatMap_cons, Statement.bindings_append, hjoin, ih]; rfl

/-- The counting statement binds what its clauses bind. -/
theorem Selection.bindings_countStatement (s : Selection) :
    s.countStatement.bindings = s.clauses.flatMap Clause.bindings := by
  simp [countStatement, countHead, domainIdPiece, Piece.ofColumn, sharedPieces,
    bindings_fromPieces, bindings_wherePieces]

theorem bindings_columnPieces (cs : List Column) : Statement.bindings (columnPieces cs) = [] := by
  rw [Statement.bindings, List.filterMap_eq_nil_iff]
  apply forall_mem_columnPieces
  · rfl
  · intro _
    rfl

/-- The statement of a page binds what its clauses bind, then the size of the page and the number
of domains on the pages before. -/
theorem PageQuery.bindings_statement (q : PageQuery) :
    q.statement.bindings = q.selection.clauses.flatMap Clause.bindings ++
      [("param", .one (.int q.limit)), ("param", .one (.int q.offset))] := by
  simp [statement, head, bindings_columnPieces, Selection.sharedPieces,
    Selection.bindings_fromPieces, bindings_wherePieces]
  rfl

end TechCatalog.Query

namespace TechCatalog.Search

open Store Query Request

/-- The labels under which filters bind texts. -/
def textLabels : List String :=
  ["domain", "company_name", "lower", "category", "country", "technology_name"]

/-- A choice among bindings that takes none of the texts. -/
structure SkipsTexts (keep : String × Binding → Bool) : Prop where
  one {label : String} (h : label ∈ textLabels) (s : String) :
    keep (label, .one (.text s)) = false
  many {label : String} (h : label ∈ textLabels) (ss : List String) :
    keep (label, .many (ss.map .text)) = false

/-- The number of technologies that are required together. -/
def requiredSize (f : ListFilter) : List (String × Binding) :=
  if (valuesOf f.required).eraseDups.isEmpty then []
  else [("count", .one (.int (valuesOf f.required).eraseDups.length))]

/-- The bounds of a category filter. -/
def countBounds (f : CategoryFilter) : List (String × Binding) :=
  (f.minCount.toList ++ f.maxCount.toList).map fun n => ("count", .one (.int n))

/-- The bounds of a range. -/
def rangeBounds {α : Type} (label : String) (value : α → Value) (r : Range α) :
    List (String × Binding) :=
  (r.min.toList ++ r.max.toList).map fun x => (label, .one (value x))

/-- The numbers that the filters of a search bind, in order. -/
def numberBindings (f : Filters) : List (String × Binding) :=
  f.technologies.toList.flatMap requiredSize ++
  (f.technologyCategories.toList.flatMap fun fs => fs.flatMap countBounds) ++
  f.totalSpendRange.toList.flatMap (rangeBounds "spend" .real) ++
  f.technologyCountRange.toList.flatMap (rangeBounds "total_technologies" .int)

/-- What a clause binds, if there is one. -/
def clauseBindings (c : Option Clause) : List (String × Binding) :=
  c.toList.flatMap Clause.bindings

theorem clauseBindings_some (c : Clause) :
    clauseBindings (some c) = c.terms.flatMap fun t => t.tests.flatMap Test.bindings := by
  rw [clauseBindings, Option.toList_some, List.flatMap_singleton, Clause.bindings, Clause.tests,
    List.flatMap_assoc]

/-- Tests that make no clause where there are none bind the same either way. -/
theorem clauseBindings_ofTests (ts : List Test) :
    clauseBindings (if ts.isEmpty then none else some (.ofTests ts)) =
      ts.flatMap Test.bindings := by
  cases ts with
  | nil => rfl
  | cons t ts => exact (clauseBindings_some _).trans (List.flatMap_singleton _ _)

/-- A comparison of one column with each of several texts binds these texts. -/
theorem bindings_eachText (c : Column) (op : Comparison) (vs : List String) :
    (vs.map fun v => Term.holds [.compare (.column c) op (.text v)]).flatMap
        (fun t => t.tests.flatMap Test.bindings) =
      vs.map fun v => (c.name, .one (.text v)) := by
  rw [List.flatMap_map, List.map_eq_flatMap]
  rfl

theorem bindings_rangeClause {α : Type} (c : Column) (value : α → Value) (r : Range α) :
    clauseBindings (rangeClause? c value r) = rangeBounds c.name value r := by
  rw [rangeClause?, clauseBindings_ofTests, rangeTests, rangeBounds]
  cases r.min <;> cases r.max <;> rfl

section

variable {keep : String × Binding → Bool}

theorem filter_textClause (h : SkipsTexts keep) {c : Column} (hc : c.name ∈ textLabels)
    (f : TextFilter) : (clauseBindings (some (textClause c f))).filter keep = [] := by
  have hlabel : (if f.caseSensitive then Operand.column c else .lowered c).label ∈ textLabels := by
    split
    · exact hc
    · exact (by decide : "lower" ∈ textLabels)
  have htest : clauseBindings (some (textClause c f)) = (textTest c f).bindings := by
    rw [clauseBindings_some]
    exact (List.flatMap_singleton _ _).trans (List.flatMap_singleton _ _)
  rw [htest, textTest]
  split
  · exact List.filter_cons_of_neg (Bool.eq_false_iff.mp (h.one hlabel _))
  · exact List.filter_cons_of_neg (Bool.eq_false_iff.mp (h.one hlabel _))

theorem filter_singleClause (h : SkipsTexts keep) {c : Column} (hc : c.name ∈ textLabels)
    (f : ListFilter) : (clauseBindings (singleClause? c f)).filter keep = [] := by
  have htexts (vs : List String) :
      (vs.map fun v => (c.name, Binding.one (.text v))).filter keep = [] := by
    rw [List.filter_eq_nil_iff, List.forall_mem_map]
    intro v _
    simp [h.one hc]
  rw [singleClause?]
  split
  · rw [clauseBindings_some, Clause.terms, bindings_eachText]
    exact htexts _
  · rw [clauseBindings_some, Clause.terms, bindings_eachText]
    exact htexts _
  · rfl

theorem filter_namesClause (h : SkipsTexts keep) (f : ListFilter) :
    (clauseBindings (namesClause? f)).filter keep = (requiredSize f).filter keep := by
  have hnames (ss : List String) : keep ("technology_name", .many (ss.map .text)) = false :=
    h.many (by decide) ss
  have hincluded (ss : List String) : ((if ss.isEmpty then []
      else [Test.among (.ofLink .technologyName) ss]).flatMap Test.bindings).filter keep = [] := by
    split
    · rfl
    · exact List.filter_cons_of_neg (Bool.eq_false_iff.mp (hnames ss))
  have hexcluded (ss : List String) : ((if ss.isEmpty then []
      else [Test.notOwner (.ofAny ss)]).flatMap Test.bindings).filter keep = [] := by
    split
    · rfl
    · exact List.filter_cons_of_neg (Bool.eq_false_iff.mp (hnames ss))
  rw [namesClause?, clauseBindings_ofTests, List.flatMap_append, List.flatMap_append,
    List.filter_append, List.filter_append, hincluded, hexcluded, requiredSize]
  split
  · rfl
  · exact List.filter_cons_of_neg (Bool.eq_false_iff.mp (hnames _))

theorem filter_categoriesClause (h : SkipsTexts keep) (fs : List CategoryFilter) :
    (clauseBindings (categoriesClause? fs)).filter keep = (fs.flatMap countBounds).filter keep := by
  have hcategory (s : String) : keep ("category", .one (.text s)) = false :=
    h.one (by decide) s
  have hterm (f : CategoryFilter) : ((categoryTerm f).tests.flatMap Test.bindings).filter keep =
      (countBounds f).filter keep := by
    obtain ⟨category, least, greatest, operator⟩ := f
    cases least <;> cases greatest <;> cases operator <;>
      simp [categoryTerm, countBound?, countBounds, Term.tests, Test.bindings, Owners.bindings,
        CountBound.bindings, Operand.label, Column.name, TechnologyColumn.label, hcategory]
  have hterms : ((fs.map categoryTerm).flatMap fun t => t.tests.flatMap Test.bindings).filter keep =
      (fs.flatMap countBounds).filter keep := by
    rw [List.flatMap_map, List.filter_flatMap, List.filter_flatMap]
    exact List.flatMap_congr fun f _ => hterm f
  rw [categoriesClause?]
  split
  · rename_i hempty
    rw [List.isEmpty_iff.mp hempty]
    rfl
  · split
    · rw [clauseBindings_some]
      exact hterms
    · rw [clauseBindings_some]
      exact hterms

/-- The bindings that are chosen for a filter, if there is one, are those chosen for its clause. -/
theorem filter_bind {α : Type} {clause : α → Option Clause} {bound : α → List (String × Binding)}
    (h : ∀ a, (clauseBindings (clause a)).filter keep = (bound a).filter keep) (a : Option α) :
    (clauseBindings (a.bind clause)).filter keep = (a.toList.flatMap bound).filter keep := by
  cases a with
  | none => rfl
  | some a => simpa using h a

/-- A choice that takes no texts finds the same among all bindings of a search and among its
numbers. -/
theorem filter_clausesOf (h : SkipsTexts keep) (f : Filters) :
    ((clausesOf f).flatMap Clause.bindings).filter keep = (numberBindings f).filter keep := by
  have hflat (cs : List (Option Clause)) :
      (cs.filterMap id).flatMap Clause.bindings = cs.flatMap clauseBindings := by
    induction cs with
    | nil => rfl
    | cons c cs ih =>
      rw [List.filterMap_cons, List.flatMap_cons, ← ih]
      cases c with
      | none => rfl
      | some c => simp [clauseBindings]
  have htext (c : Column) (hc : c.name ∈ textLabels) (g : Option TextFilter) :
      (clauseBindings (g.map (textClause c))).filter keep = [] := by
    cases g with
    | none => rfl
    | some g => exact filter_textClause h hc g
  have hsingle (c : Column) (hc : c.name ∈ textLabels) (g : Option ListFilter) :
      (clauseBindings (g.bind (singleClause? c))).filter keep = [] := by
    cases g with
    | none => rfl
    | some g => exact filter_singleClause h hc g
  have hrange {α : Type} (c : Column) (value : α → Value) (r : Range α) :
      (clauseBindings (rangeClause? c value r)).filter keep =
        (rangeBounds c.name value r).filter keep := by
    rw [bindings_rangeClause]
  rw [clausesOf, hflat, numberBindings]
  simp only [List.flatMap_cons, List.flatMap_nil, List.append_nil, List.filter_append]
  rw [htext _ (by decide), htext _ (by decide), hsingle _ (by decide), hsingle _ (by decide),
    filter_bind (filter_namesClause h), filter_bind (filter_categoriesClause h),
    filter_bind (hrange _ _), filter_bind (hrange _ _)]
  simp only [List.nil_append, List.append_assoc]
  rfl

end

/-- The labels under which filters bind numbers. -/
def numberLabels : List String := ["count", "spend", "total_technologies"]

theorem label_of_mem_numberBindings {f : Filters} {b : String × Binding}
    (hb : b ∈ numberBindings f) : b.1 ∈ numberLabels := by
  simp only [numberBindings, List.mem_append, List.mem_flatMap, requiredSize, countBounds,
    rangeBounds, List.mem_map] at hb
  rcases hb with ((⟨g, -, hg⟩ | ⟨gs, -, g, -, n, -, rfl⟩) | ⟨r, -, x, -, rfl⟩) | ⟨r, -, n, -, rfl⟩
  · split at hg
    · cases hg
    · rw [List.mem_singleton.mp hg]
      exact (by decide : "count" ∈ numberLabels)
  · exact (by decide : "count" ∈ numberLabels)
  · exact (by decide : "spend" ∈ numberLabels)
  · exact (by decide : "total_technologies" ∈ numberLabels)

/-- A search binds under these labels only. -/
theorem label_of_mem_clausesOf {f : Filters} {b : String × Binding}
    (hb : b ∈ (clausesOf f).flatMap Clause.bindings) : b.1 ∈ textLabels ++ numberLabels := by
  by_cases htext : b.1 ∈ textLabels
  · exact List.mem_append_left _ htext
  · have hskips : SkipsTexts fun b : String × Binding => decide (b.1 ∉ textLabels) :=
      { one := fun h _ => decide_eq_false (not_not_intro h)
        many := fun h _ => decide_eq_false (not_not_intro h) }
    have hmem : b ∈ ((clausesOf f).flatMap Clause.bindings).filter
        fun b => decide (b.1 ∉ textLabels) := List.mem_filter.mpr ⟨hb, decide_eq_true htext⟩
    rw [filter_clausesOf hskips] at hmem
    exact List.mem_append_right _ (label_of_mem_numberBindings (List.mem_filter.mp hmem).1)

end TechCatalog.Search
