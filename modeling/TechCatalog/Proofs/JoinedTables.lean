import TechCatalog.Proofs.Listing
import TechCatalog.Proofs.SubQueries

/-!
# Every table a search asks about is joined

The plan of joins and the conditions of a search are made apart from each other, but they agree on
which filters are active: a filter is a reason to join a table exactly if it has a clause. So the
tables whose columns a search reads are joined, and none is joined without a reason.
-/

namespace TechCatalog.Search

open Request Store Query Service

/-- The clauses of the filters, under the names of the filters. -/
def fieldClauses (f : Filters) : List (String × Option Clause) :=
  [("domain", f.domain.map (textClause (.ofDomain .domain))),
    ("companyName", f.companyName.map (textClause (.ofDomain .companyName))),
    ("category", f.category.bind (singleClause? (.ofDomain .category))),
    ("country", f.country.bind (singleClause? (.ofDomain .country))),
    ("technologies", f.technologies.bind namesClause?),
    ("technologyCategories", f.technologyCategories.bind categoriesClause?),
    ("totalSpendRange", f.totalSpendRange.bind (rangeClause? (.ofLink .spend) .real)),
    ("technologyCountRange",
      f.technologyCountRange.bind (rangeClause? (.ofStats .totalTechnologies) .int))]

theorem clausesOf_eq (f : Filters) : clausesOf f = (fieldClauses f).filterMap (·.2) := rfl

/-- The names of the filters that may be a reason to join a table. -/
def neededBy : JoinTable → List String
  | .links => ["technologies", "technologyCategories", "totalSpendRange"]
  | .technologies => ["technologyCategories"]
  | .stats => ["technologyCountRange"]

section

variable {f : Filters} {k : Clause}

theorem isSome_namesClause (g : ListFilter) : (namesClause? g).isSome = g.isActive := by
  rw [namesClause?, ListFilter.isActive]
  simp only [isEmpty_eraseDups]
  cases (valuesOf g.included).isEmpty <;> cases (valuesOf g.excluded).isEmpty <;>
    cases (valuesOf g.required).isEmpty <;> rfl

theorem isSome_categoriesClause (gs : List CategoryFilter) :
    (categoriesClause? gs).isSome = !gs.isEmpty := by
  rw [categoriesClause?]
  cases gs.isEmpty
  · rw [if_neg Bool.false_ne_true]
    split <;> rfl
  · rfl

theorem isSome_rangeClause {α : Type} (c : Column) (value : α → Value) (r : Range α) :
    (rangeClause? c value r).isSome = r.isActive := by
  rw [rangeClause?, rangeTests, Range.isActive]
  cases r.min <;> cases r.max <;> rfl

theorem mem_reason {applies : Bool} {r name : String} :
    r ∈ reason applies name ↔ applies = true ∧ r = name := by
  cases applies <;> simp [reason]

theorem listActive_eq (g : Option ListFilter) : listActive g = (g.bind namesClause?).isSome := by
  cases g with
  | none => rfl
  | some g => exact (isSome_namesClause g).symm

theorem categoriesActive_eq (gs : Option (List CategoryFilter)) :
    categoriesActive gs = (gs.bind categoriesClause?).isSome := by
  cases gs with
  | none => rfl
  | some gs => exact (isSome_categoriesClause gs).symm

theorem rangeActive_eq {α : Type} (c : Column) (value : α → Value) (r : Option (Range α)) :
    rangeActive r = (r.bind (rangeClause? c value)).isSome := by
  cases r with
  | none => rfl
  | some r => exact (isSome_rangeClause c value r).symm

/-- No two filters have the same name, so a name has one clause at most. -/
theorem fieldClauses_eq {name : String} {c c' : Option Clause} (h : (name, c) ∈ fieldClauses f)
    (h' : (name, c') ∈ fieldClauses f) : c = c' := by
  have hnodup : ((fieldClauses f).map Prod.fst).Nodup := by
    have hnames : (fieldClauses f).map Prod.fst = (fieldClauses {}).map Prod.fst := rfl
    rw [hnames]
    decide
  exact congrArg Prod.snd (List.inj_on_of_nodup_map hnodup h h' rfl)

theorem mem_clauseReason {applies : Bool} {r name : String} {c : Option Clause}
    (hfield : (name, c) ∈ fieldClauses f) (happlies : applies = c.isSome) :
    r ∈ reason applies name ↔ r = name ∧ ∃ k, (r, some k) ∈ fieldClauses f := by
  rw [mem_reason, happlies, Option.isSome_iff_exists]
  constructor
  · rintro ⟨⟨k, rfl⟩, rfl⟩
    exact ⟨rfl, k, hfield⟩
  · rintro ⟨rfl, k, hk⟩
    exact ⟨⟨k, fieldClauses_eq hfield hk⟩, rfl⟩

/-- A filter is a reason to join a table exactly if it has a clause. -/
theorem mem_reasonsFor {sortNeedsStats : Bool} {j : JoinTable} {r : String} :
    r ∈ reasonsFor f sortNeedsStats j ↔
      (r ∈ neededBy j ∧ ∃ k, (r, some k) ∈ fieldClauses f) ∨
        (j = .stats ∧ sortNeedsStats = true ∧ r = "sortBy") := by
  have htechnologies : r ∈ reason (listActive f.technologies) "technologies" ↔ _ :=
    mem_clauseReason (f := f) (by simp [fieldClauses]) (listActive_eq f.technologies)
  have hcategories : r ∈ reason (categoriesActive f.technologyCategories) "technologyCategories" ↔
      _ := mem_clauseReason (f := f) (by simp [fieldClauses]) (categoriesActive_eq _)
  have hspend : r ∈ reason (rangeActive f.totalSpendRange) "totalSpendRange" ↔ _ :=
    mem_clauseReason (f := f) (by simp [fieldClauses]) (rangeActive_eq (.ofLink .spend) .real _)
  have hcount : r ∈ reason (rangeActive f.technologyCountRange) "technologyCountRange" ↔ _ :=
    mem_clauseReason (f := f) (by simp [fieldClauses])
      (rangeActive_eq (.ofStats .totalTechnologies) .int _)
  cases j with
  | links =>
    rw [reasonsFor, List.mem_append, List.mem_append, htechnologies, hcategories, hspend]
    simp only [neededBy, List.mem_cons, List.not_mem_nil, or_false, or_and_right, or_assoc,
      reduceCtorEq, false_and]
  | technologies =>
    rw [reasonsFor, hcategories]
    simp only [neededBy, List.mem_singleton, reduceCtorEq, false_and, or_false]
  | stats =>
    rw [reasonsFor, List.mem_append, hcount, mem_reason]
    simp only [neededBy, List.mem_singleton, true_and]

theorem table_textClause (c : Column) (g : TextFilter) {t : Test}
    (ht : t ∈ (textClause c g).tests) : t.column.table = c.table := by
  cases List.mem_singleton.mp ht
  rw [textTest]
  split
  · cases g.caseSensitive <;> rfl
  · cases g.caseSensitive <;> rfl

theorem Compares.table {c : Column} (hk : Compares c k) {t : Test} (ht : t ∈ k.tests) :
    t.column.table = c.table := by
  obtain ⟨op, v, rfl⟩ := hk t ht
  rfl

theorem table_namesClause {g : ListFilter} (hk : k ∈ namesClause? g) {t : Test}
    (ht : t ∈ k.tests) : t.column.table = .domains ∨ t.column.table = .links := by
  simp only [namesClause?, Option.mem_def, Option.ite_none_left_eq_some, Option.some.injEq] at hk
  obtain ⟨-, rfl⟩ := hk
  rw [tests_ofTests, List.mem_append, List.mem_append, List.mem_ite_nil_left, List.mem_ite_nil_left,
    List.mem_ite_nil_left, List.mem_singleton, List.mem_singleton, List.mem_singleton] at ht
  rcases ht with (⟨-, rfl⟩ | ⟨-, rfl⟩) | ⟨-, rfl⟩
  · exact .inr rfl
  · exact .inl rfl
  · exact .inl rfl

theorem table_categoryTerm {g : CategoryFilter} {t : Test} (ht : t ∈ (categoryTerm g).tests) :
    t.column.table = .domains ∨ t.column.table = .technologies := by
  rw [categoryTerm] at ht
  split at ht
  · cases List.mem_singleton.mp ht
    exact .inr rfl
  · cases List.mem_singleton.mp ht
    exact .inr rfl
  · rcases List.mem_pair.mp ht with rfl | rfl
    · exact .inr rfl
    · exact .inl rfl
  · rcases List.mem_pair.mp ht with rfl | rfl
    · exact .inr rfl
    · exact .inl rfl

theorem table_categoriesClause {gs : List CategoryFilter} (hk : k ∈ categoriesClause? gs)
    {t : Test} (ht : t ∈ k.tests) :
    t.column.table = .domains ∨ t.column.table = .technologies := by
  rw [Clause.tests, (terms_categoriesClause hk).1, List.flatMap_map, List.mem_flatMap] at ht
  obtain ⟨g, -, hterm⟩ := ht
  exact table_categoryTerm hterm

/-- A clause reads columns of the domains, or of a table that its filter is a reason to join. -/
theorem table_of_mem_fieldClauses {name : String} (h : (name, some k) ∈ fieldClauses f) {t : Test}
    (ht : t ∈ k.tests) :
    t.column.table = .domains ∨ ∃ j : JoinTable, j.table = t.column.table ∧ name ∈ neededBy j := by
  have hjoin (j : JoinTable) (hname : name ∈ neededBy j)
      (hcolumn : t.column.table = .domains ∨ t.column.table = j.table) :
      t.column.table = .domains ∨ ∃ j : JoinTable, j.table = t.column.table ∧ name ∈ neededBy j :=
    hcolumn.imp_right fun htable => ⟨j, htable.symm, hname⟩
  simp only [fieldClauses, List.mem_cons, List.not_mem_nil, or_false, Prod.mk.injEq,
    eq_comm (a := some k), Option.map_eq_some_iff, Option.bind_eq_some_iff] at h
  rcases h with ⟨-, g, -, rfl⟩ | ⟨-, g, -, rfl⟩ | ⟨-, g, -, hk⟩ | ⟨-, g, -, hk⟩ | ⟨rfl, g, -, hk⟩ |
    ⟨rfl, gs, -, hk⟩ | ⟨rfl, r, -, hk⟩ | ⟨rfl, r, -, hk⟩
  · exact .inl (table_textClause _ g ht)
  · exact .inl (table_textClause _ g ht)
  · exact .inl ((compares_singleClause hk).table ht)
  · exact .inl ((compares_singleClause hk).table ht)
  · exact hjoin .links (by decide) (table_namesClause hk ht)
  · exact hjoin .technologies (by decide) (table_categoriesClause hk ht)
  · exact hjoin .links (by decide) (.inr ((compares_rangeClause hk).table ht))
  · exact hjoin .stats (by decide) (.inr ((compares_rangeClause hk).table ht))

theorem covers_of_needed {o : PageOrder} {j : JoinTable} (hj : joinNeeded f o.needsStats j = true)
    {c : Column} (hc : c.table = j.table) : (composePair f o).selection.Covers c := by
  have hmem : j ∈ (composePair f o).selection.joins := by
    show j ∈ (planJoins f o.needsStats).map (·.table)
    rw [planJoins_tables, List.mem_filter]
    exact ⟨by cases j <;> decide, hj⟩
  rw [Selection.Covers, hc]
  exact List.mem_cons_of_mem _ (List.mem_map_of_mem hmem)

/-- A search joins all tables whose columns its clauses read. -/
theorem complete_composePair (f : Filters) (o : PageOrder) :
    (composePair f o).selection.Complete where
  links h := by
    have htables : (composePair f o).selection.joins =
        joinOrder.filter (joinNeeded f o.needsStats) := planJoins_tables f o.needsStats
    rw [htables, List.mem_filter, joinNeeded_technologies] at h
    rw [htables, List.mem_filter, joinNeeded_links, h.2, Bool.or_true, Bool.true_or]
    exact ⟨by decide, rfl⟩
  clauses k hk t ht := by
    have hclauses : (composePair f o).selection.clauses = _ := clausesOf_eq f
    rw [hclauses, List.mem_filterMap] at hk
    obtain ⟨⟨name, _⟩, hfield, rfl⟩ := hk
    obtain hdomains | ⟨j, hj, hname⟩ := table_of_mem_fieldClauses hfield ht
    · rw [Selection.Covers, hdomains]
      exact List.mem_cons_self
    · have hreason : name ∈ reasonsFor f o.needsStats j :=
        mem_reasonsFor.mpr (.inl ⟨hname, k, hfield⟩)
      refine covers_of_needed ?_ hj.symm
      rw [joinNeeded, Bool.not_eq_true', List.isEmpty_eq_false_iff]
      exact List.ne_nil_of_mem hreason

end

/-- A request is sorted by a column of the statistics. -/
def SortsByStats (p : Paging) : Prop :=
  ∃ name ∈ p.sortBy, ∃ key ∈ SortKey.ofName? name, key.column.table = .stats

theorem sortsByStats_of_needsStats {p : Paging} {s : Settings}
    (h : (PageOrder.of p s).1.needsStats = true) : SortsByStats p := by
  have htable : (sortOf p).1.column.table = .stats := by
    rw [needsStats_eq (sortOf_key p)] at h
    exact eq_of_beq h
  rw [sortOf] at htable
  split at htable
  · cases htable
  · rename_i name hname
    split at htable
    · rename_i key hkey
      exact ⟨name, hname, key, hkey, htable⟩
    · cases htable

theorem covers_sortColumn (f : Filters) (p : Paging) (s : Settings) :
    (composePair f (PageOrder.of p s).1).selection.Covers (PageOrder.of p s).1.key.column := by
  have htables : ∀ c ∈ sortableColumns, c.table = .domains ∨ c.table = .stats := by decide
  obtain hdomains | hstats := htables _ (sortableColumn_of_mem (sortOf_key p))
  · rw [Selection.Covers]
    exact List.mem_cons.mpr (.inl hdomains)
  · refine covers_of_needed (j := .stats) ?_ hstats
    have hneeds : (PageOrder.of p s).1.needsStats = true := by
      rw [needsStats_eq (sortOf_key p)]
      exact beq_iff_eq.mpr hstats
    rw [joinNeeded_stats, hneeds, Bool.or_true]

/-- What a search refers to is joined, and what it joins is asked for. Outside their sub-queries
both of its statements mention the domains and the joined tables only, these by outer joins, and
name no column but those of mentioned tables; each sub-query has its own. The tables are joined in a
fixed order, each once, technologies after links, and for reasons: results are sorted by statistics,
or a filter has a clause. -/
theorem joins_cover_references (f : Filters) (p : Paging) (s : Settings) :
    let pair := composePair f (PageOrder.of p s).1
    (∀ q, (assemble f p s).1 = .ok q → q = pair) ∧
    pair.selection.countStatement.JoinsAs pair.selection ∧
    pair.page.statement.JoinsAs pair.selection ∧
    pair.selection.joins = pair.joins.map (·.table) ∧
    pair.selection.joins.Sublist joinOrder ∧ pair.selection.joins.Nodup ∧
    (.technologies ∈ pair.selection.joins → .links ∈ pair.selection.joins) ∧
    pair.selection.clauses = (fieldClauses f).filterMap (·.2) ∧
    ∀ j ∈ pair.joins, j.triggeredBy ≠ [] ∧ ∀ r ∈ j.triggeredBy,
      (r = "sortBy" ∧ SortsByStats p) ∨ ∃ k, (r, some k) ∈ fieldClauses f := by
  intro pair
  have hcomplete : pair.selection.Complete := complete_composePair f _
  have horder : pair.selection.joins.Sublist joinOrder := by
    have htables : pair.selection.joins = _ := planJoins_tables f _
    rw [htables]
    exact List.filter_sublist
  have hnodup : pair.selection.joins.Nodup := horder.nodup (by decide)
  refine ⟨fun q hq => assemble_ok hq, joinsAs_countStatement hcomplete,
    joinsAs_pageStatement hcomplete (covers_sortColumn f p s), rfl, horder, hnodup,
    hcomplete.links, clausesOf_eq f, fun j hj => ?_⟩
  obtain ⟨hplanned, hreasons⟩ := List.mem_filter.mp hj
  obtain ⟨table, -, rfl⟩ := List.mem_map.mp hplanned
  refine ⟨?_, fun r hr => ?_⟩
  · rwa [Bool.not_eq_true', List.isEmpty_eq_false_iff] at hreasons
  · obtain ⟨-, hclause⟩ | ⟨-, hneeds, hsort⟩ := mem_reasonsFor.mp hr
    · exact .inr hclause
    · exact .inl ⟨hsort, sortsByStats_of_needsStats hneeds⟩

end TechCatalog.Search
