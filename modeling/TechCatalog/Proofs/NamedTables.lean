import TechCatalog.Proofs.Matching
import TechCatalog.Proofs.Missing
import TechCatalog.Proofs.Writing

/-!
# Which tables a search needs

Both statements of a search name the domains, the tables that are joined, and the tables in which
conditions look for owners. The owners of technologies are looked for in tables that are joined for
the same filter, so both statements need the planned tables and no others.
-/

namespace TechCatalog.Query

open Store

/-- The tables in which owners are looked for. -/
def Owners.tables : Owners → List Table
  | .ofAny _ => [.links]
  | .ofAll _ => [.links]
  | .ofCategory _ _ => [.links, .technologies]

/-- The tables that a test looks at apart from the joined row. -/
def Test.tables : Test → List Table
  | .owner o => o.tables
  | .notOwner o => o.tables
  | _ => []

/-- The tables that a clause looks at apart from the joined row. -/
def Clause.tables (c : Clause) : List Table :=
  c.tests.flatMap Test.tables

/-- The tables that a selection needs. -/
def Selection.tables (s : Selection) : List Table :=
  .domains :: s.joins.map (·.table) ++ s.clauses.flatMap Clause.tables

@[simp] theorem Statement.tables_append (s t : Statement) :
    Statement.tables (s ++ t) = s.tables ++ t.tables :=
  List.filterMap_append

@[simp] theorem Statement.tables_words (w : String) (s : Statement) :
    Statement.tables (.words w :: s) = s.tables := rfl

@[simp] theorem Statement.tables_column (owner : String) (c : Column) (s : Statement) :
    Statement.tables (.column owner c :: s) = s.tables := rfl

@[simp] theorem Statement.tables_nil : Statement.tables [] = [] := rfl

theorem Owners.tables_pieces (o : Owners) (n : Numbering) :
    Statement.tables (o.pieces n).1 = o.tables := by
  cases o with
  | ofAny names => rfl
  | ofAll names => rfl
  | ofCategory category bound => cases bound <;> rfl

theorem Test.tables_pieces (t : Test) (n : Numbering) :
    Statement.tables (t.pieces n).1 = t.tables := by
  cases t with
  | compare x op v => cases x <;> rfl
  | like x pattern => cases x <;> rfl
  | among c texts => rfl
  | owner o => simp [pieces, tables, domainIdPiece, Piece.ofColumn, o.tables_pieces]
  | notOwner o => simp [pieces, tables, domainIdPiece, Piece.ofColumn, o.tables_pieces]

theorem tables_wherePieces (cs : List Clause) :
    Statement.tables (wherePieces cs) = cs.flatMap Clause.tables := by
  have hparts : HoldsOfParts fun ts _ s _ => Statement.tables s = ts.flatMap Test.tables :=
    { nil := fun _ => rfl
      words := fun _ _ => rfl
      append := fun hs ht => by rw [Statement.tables_append, hs, ht, List.flatMap_append]
      test := fun t n => by rw [t.tables_pieces n, List.flatMap_singleton] }
  obtain ⟨-, h⟩ := hparts.conditions cs
  rw [h, List.flatMap_assoc]
  rfl

theorem tables_fromPieces (s : Selection) :
    Statement.tables s.fromPieces = .domains :: s.joins.map (·.table) := by
  have hjoin (j : JoinTable) : Statement.tables j.pieces = [j.table] := rfl
  have hjoins : Statement.tables (s.joins.flatMap JoinTable.pieces) = s.joins.map (·.table) := by
    induction s.joins with
    | nil => rfl
    | cons j joins ih =>
      rw [List.flatMap_cons, Statement.tables_append, hjoin, ih, List.map_cons]
      rfl
  rw [← hjoins]
  rfl

theorem tables_sharedPieces (s : Selection) : Statement.tables s.sharedPieces = s.tables := by
  rw [Selection.sharedPieces, Statement.tables_append, tables_fromPieces, tables_wherePieces,
    Selection.tables]

theorem tables_countStatement (s : Selection) : s.countStatement.tables = s.tables := by
  rw [Selection.countStatement, Statement.tables_append, tables_sharedPieces]
  rfl

theorem tables_columnPieces (cs : List Column) : Statement.tables (columnPieces cs) = [] := by
  rw [Statement.tables, List.filterMap_eq_nil_iff]
  apply forall_mem_columnPieces
  · rfl
  · intro _
    rfl

/-- The statement of a page needs the same tables as the counting statement: what it selects and
sorts by is in them. -/
theorem tables_pageStatement (q : PageQuery) : q.statement.tables = q.selection.tables := by
  have hhead : Statement.tables q.head = [] := by
    rw [PageQuery.head, Statement.tables_words, tables_columnPieces]
  have htail : Statement.tables q.tail = [] := by
    rw [PageQuery.tail, PageQuery.orderPieces]
    split <;> rfl
  rw [PageQuery.statement, Statement.tables_append, Statement.tables_append, hhead, htail,
    tables_sharedPieces, List.nil_append, List.append_nil]

end TechCatalog.Query

namespace TechCatalog.Search

open Request Store Query

/-- The tables that a search is planned to need: the domains and what is joined to them. -/
def plannedTables (f : Filters) (sortNeedsStats : Bool) : List Table :=
  .domains :: (planJoins f sortNeedsStats).map fun j => j.table.table

section

variable {f : Filters} {c : Clause} {t : Table}

theorem tests_ofTests (ts : List Test) : (Clause.ofTests ts).tests = ts := by
  simp [Clause.ofTests, Clause.tests, Clause.terms, Term.tests]

theorem tables_ofTests (ts : List Test) : (Clause.ofTests ts).tables = ts.flatMap Test.tables := by
  rw [Clause.tables, tests_ofTests]

theorem tables_textClause (column : Column) (g : TextFilter) :
    (textClause column g).tables = [] := by
  have htest : (textTest column g).tables = [] := by
    rw [textTest]
    split <;> rfl
  simp [textClause, Clause.tables, Clause.ofTest, Clause.tests, Clause.terms, Term.tests, htest]

/-- A clause compares a column with values and does nothing else. -/
def Compares (column : Column) (c : Clause) : Prop :=
  ∀ t ∈ c.tests, ∃ op v, t = .compare (.column column) op v

theorem compares_singleClause {column : Column} {g : ListFilter}
    (hc : c ∈ singleClause? column g) : Compares column c := by
  have heach (op : Comparison) (vs : List String) : ∀ t ∈ (vs.map fun v =>
      Term.holds [.compare (.column column) op (.text v)]).flatMap Term.tests,
        ∃ op v, t = .compare (.column column) op v := by
    intro t ht
    rw [List.flatMap_map, List.mem_flatMap] at ht
    obtain ⟨v, -, htest⟩ := ht
    exact ⟨op, .text v, List.mem_singleton.mp htest⟩
  rw [singleClause?] at hc
  split at hc
  · cases hc
    exact heach .equal _
  · cases hc
    exact heach .unequal _
  · cases hc

theorem compares_rangeClause {α : Type} {column : Column} {value : α → Value} {r : Range α}
    (hc : c ∈ rangeClause? column value r) : Compares column c := by
  rw [rangeClause?] at hc
  split at hc
  · cases hc
  · cases hc
    intro t ht
    rw [tests_ofTests, rangeTests, List.mem_append, Option.mem_toList, Option.mem_toList,
      Option.map_eq_some_iff, Option.map_eq_some_iff] at ht
    rcases ht with ⟨lo, -, rfl⟩ | ⟨hi, -, rfl⟩
    · exact ⟨_, _, rfl⟩
    · exact ⟨_, _, rfl⟩

theorem Compares.tables {column : Column} (h : Compares column c) : c.tables = [] := by
  rw [Clause.tables, List.flatMap_eq_nil_iff]
  intro t ht
  obtain ⟨op, v, rfl⟩ := h t ht
  rfl

/-- Conditions on the names of technologies look at links, when a name is given. -/
theorem tables_namesClause {g : ListFilter} (hc : c ∈ namesClause? g) (ht : t ∈ c.tables) :
    t = .links ∧ g.isActive = true := by
  simp only [namesClause?, Option.mem_def, Option.ite_none_left_eq_some, Option.some.injEq] at hc
  obtain ⟨-, rfl⟩ := hc
  rw [tables_ofTests, List.flatMap_append, List.flatMap_append, List.mem_append,
    List.mem_append] at ht
  rw [ListFilter.isActive]
  rcases ht with (hincluded | hexcluded) | hrequired
  · split at hincluded <;> cases hincluded
  · split at hexcluded
    · cases hexcluded
    · rename_i hne
      simp only [Bool.not_eq_true] at hne
      exact ⟨List.mem_singleton.mp hexcluded, by simp [hne]⟩
  · split at hrequired
    · cases hrequired
    · rename_i hne
      simp only [isEmpty_eraseDups, Bool.not_eq_true] at hne
      exact ⟨List.mem_singleton.mp hrequired, by simp [hne]⟩

/-- Conditions on categories look at links and technologies. -/
theorem tables_categoryTerm {g : CategoryFilter}
    (ht : t ∈ (categoryTerm g).tests.flatMap Test.tables) : t = .links ∨ t = .technologies := by
  have hcounted (bound : CountBound) : Test.tables (.owner (.ofCategory g.category bound)) =
      [.links, .technologies] := rfl
  rw [categoryTerm] at ht
  split at ht
  · cases ht
  · cases ht
  · simpa [Term.tests, Test.tables, Owners.tables] using ht
  · simpa [Term.tests, Test.tables, Owners.tables] using ht

/-- However category filters are combined, each of them becomes one term. -/
theorem terms_categoriesClause {gs : List CategoryFilter} (hc : c ∈ categoriesClause? gs) :
    c.terms = gs.map categoryTerm ∧ gs ≠ [] := by
  rw [categoriesClause?] at hc
  split at hc
  · cases hc
  · rename_i hne
    refine ⟨?_, fun h => hne (List.isEmpty_iff.mpr h)⟩
    split at hc
    all_goals
      cases hc
      rfl

theorem tables_categoriesClause {gs : List CategoryFilter} (hc : c ∈ categoriesClause? gs)
    (ht : t ∈ c.tables) : (t = .links ∨ t = .technologies) ∧ gs ≠ [] := by
  obtain ⟨hterms, hne⟩ := terms_categoriesClause hc
  rw [Clause.tables, Clause.tests, hterms, List.flatMap_assoc, List.flatMap_map,
    List.mem_flatMap] at ht
  obtain ⟨g, -, hg⟩ := ht
  exact ⟨tables_categoryTerm hg, hne⟩

/-- What a condition looks at apart from the joined row is planned to be joined. -/
theorem planned_of_mem_tables (sortNeedsStats : Bool) (hc : c ∈ clausesOf f) (ht : t ∈ c.tables) :
    t ∈ plannedTables f sortNeedsStats := by
  have hplanned (j : JoinTable) (hj : joinNeeded f sortNeedsStats j = true) :
      j.table ∈ plannedTables f sortNeedsStats := by
    have hmem : j ∈ (planJoins f sortNeedsStats).map (·.table) := by
      rw [planJoins_tables, List.mem_filter]
      exact ⟨by cases j <;> decide, hj⟩
    obtain ⟨join, hjoin, rfl⟩ := List.mem_map.mp hmem
    exact List.mem_cons_of_mem _ (List.mem_map.mpr ⟨join, hjoin, rfl⟩)
  have hnone {tables : List Table} (h : tables = []) : t ∉ tables := by
    rw [h]
    exact List.not_mem_nil
  -- What makes a condition look at a table also makes the plan join that table.
  have hnames {g : ListFilter} (hg : g ∈ f.technologies) (hactive : g.isActive = true) :
      joinNeeded f sortNeedsStats .links = true := by
    rw [joinNeeded_links, listActive, Option.mem_def.mp hg, Option.any_some, hactive]
    rfl
  have hcategories {gs : List CategoryFilter} (hgs : gs ∈ f.technologyCategories)
      (hne : gs ≠ []) : categoriesActive f.technologyCategories = true := by
    rw [categoriesActive, Option.mem_def.mp hgs, Option.any_some]
    simp [hne]
  simp only [clausesOf, List.mem_filterMap, List.mem_cons, List.not_mem_nil, or_false, id_eq,
    exists_eq_right, eq_comm (a := some c), Option.map_eq_some_iff, Option.bind_eq_some_iff] at hc
  rcases hc with ⟨g, -, rfl⟩ | ⟨g, -, rfl⟩ | ⟨g, -, hc⟩ | ⟨g, -, hc⟩ | ⟨g, hg, hc⟩ |
    ⟨gs, hgs, hc⟩ | ⟨r, -, hc⟩ | ⟨r, -, hc⟩
  · exact absurd ht (hnone (tables_textClause _ g))
  · exact absurd ht (hnone (tables_textClause _ g))
  · exact absurd ht (hnone (compares_singleClause hc).tables)
  · exact absurd ht (hnone (compares_singleClause hc).tables)
  · obtain ⟨rfl, hactive⟩ := tables_namesClause hc ht
    exact hplanned .links (hnames hg hactive)
  · obtain ⟨rfl | rfl, hne⟩ := tables_categoriesClause hc ht
    · refine hplanned .links ?_
      rw [joinNeeded_links, hcategories hgs hne, Bool.or_true, Bool.true_or]
    · refine hplanned .technologies ?_
      rw [joinNeeded_technologies, hcategories hgs hne]
  · exact absurd ht (hnone (compares_rangeClause hc).tables)
  · exact absurd ht (hnone (compares_rangeClause hc).tables)

/-- Both statements of a search need the planned tables and no others. -/
theorem mem_tables_composePair (o : PageOrder) :
    t ∈ (composePair f o).selection.tables ↔ t ∈ plannedTables f o.needsStats := by
  have hselection : (composePair f o).selection.tables =
      plannedTables f o.needsStats ++ (clausesOf f).flatMap Clause.tables := by
    rw [Selection.tables, plannedTables]
    simp only [composePair, List.map_map]
    rfl
  rw [hselection, List.mem_append, List.mem_flatMap]
  constructor
  · rintro (hplanned | ⟨c, hc, ht⟩)
    · exact hplanned
    · exact planned_of_mem_tables o.needsStats hc ht
  · exact Or.inl

end

end TechCatalog.Search
