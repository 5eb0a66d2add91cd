import Mathlib.Data.Option.Basic
import TechCatalog.Proofs.Clauses
import TechCatalog.Proofs.JoinedRows
import TechCatalog.Search.Execution

/-!
# Which domains a search matches

`Matches` says of one domain what a search asks for, without rows or joins. Names to refuse and
names required together are about all links of the domain, bounds on the number of technologies
about its statistics, and names to accept, categories and bounds on the spend about one and the same
row: a link with its technology, or nothing where the domain has no link. The main result is that
both statements of a search speak of the domains that match.
-/

namespace TechCatalog.Search

open Request Store Query

/-- What a search asks of one row of a domain: a link with its technology, or nothing. -/
structure RowAccepted (db : Database) (f : Filters) (d : Domain) (link : Option Link) : Prop where
  /-- The link has one of the names to accept. -/
  named : ∀ g ∈ f.technologies, valuesOf g.included ≠ [] →
    ∃ l ∈ link, l.technologyName ∈ valuesOf g.included
  /-- The technology suits the category filters. -/
  categorised : ∀ gs ∈ f.technologyCategories, gs ≠ [] →
    AcceptsCategory gs ((link.bind (technologyOf db)).bind (·.category))
      fun name => countInCategory db name d.id
  /-- What is spent on the link is known and within the bounds. -/
  spent : ∀ g ∈ f.totalSpendRange, g.isActive = true →
    ∃ x ∈ link.bind (·.spend), g.Admits Decimal.orderKey x

instance (db : Database) (f : Filters) (d : Domain) (link : Option Link) :
    Decidable (RowAccepted db f d link) :=
  decidable_of_iff (_ ∧ _ ∧ _)
    ⟨fun ⟨named, categorised, spent⟩ => ⟨named, categorised, spent⟩,
      fun ⟨named, categorised, spent⟩ => ⟨named, categorised, spent⟩⟩

/-- What a search asks of a domain as a whole, apart from its rows. -/
structure DomainAccepted (db : Database) (f : Filters) (d : Domain) : Prop where
  /-- The name of the domain is accepted. -/
  domain : ∀ g ∈ f.domain, g.Accepts (some d.domain)
  companyName : ∀ g ∈ f.companyName, g.Accepts d.companyName
  category : ∀ g ∈ f.category, g.Accepts d.category
  country : ∀ g ∈ f.country, g.Accepts d.country
  /-- No link of the domain has a name to refuse. -/
  refused : ∀ g ∈ f.technologies, ∀ l ∈ linksOf db d.id, l.technologyName ∉ valuesOf g.excluded
  /-- Every name that is required is the name in some link of the domain. -/
  required : ∀ g ∈ f.technologies, ∀ name ∈ valuesOf g.required,
    ∃ l ∈ linksOf db d.id, l.technologyName = name
  /-- The domain has statistics, and they give a number of technologies within the bounds. -/
  counted : ∀ g ∈ f.technologyCountRange, g.isActive = true →
    ∃ s ∈ db.stats, s.domainId = d.id ∧ g.Admits id s.totalTechnologies

instance (db : Database) (f : Filters) (d : Domain) : Decidable (DomainAccepted db f d) :=
  decidable_of_iff (_ ∧ _ ∧ _ ∧ _ ∧ _ ∧ _ ∧ _)
    ⟨fun ⟨domain, companyName, category, country, refused, required, counted⟩ =>
      ⟨domain, companyName, category, country, refused, required, counted⟩,
      fun ⟨domain, companyName, category, country, refused, required, counted⟩ =>
      ⟨domain, companyName, category, country, refused, required, counted⟩⟩

/-- What a search asks of a domain. -/
structure Matches (db : Database) (f : Filters) (d : Domain) : Prop
    extends DomainAccepted db f d where
  /-- One row of the domain meets all that is asked of a row. -/
  row : ∃ link ∈ orNothing (linksOf db d.id), RowAccepted db f d link

instance (db : Database) (f : Filters) (d : Domain) : Decidable (Matches db f d) :=
  decidable_of_iff (_ ∧ _) ⟨fun ⟨whole, row⟩ => ⟨whole, row⟩, fun ⟨whole, row⟩ => ⟨whole, row⟩⟩

/-- Whether a search joins a table. -/
def joinNeeded (f : Filters) (sortNeedsStats : Bool) (j : JoinTable) : Bool :=
  !(reasonsFor f sortNeedsStats j).isEmpty

theorem planJoins_tables (f : Filters) (sortNeedsStats : Bool) :
    (planJoins f sortNeedsStats).map (·.table) =
      joinOrder.filter (joinNeeded f sortNeedsStats) := by
  rw [planJoins, List.filter_map, List.map_map]
  exact List.map_id _

theorem joinNeeded_links (f : Filters) (sortNeedsStats : Bool) :
    joinNeeded f sortNeedsStats .links = (listActive f.technologies ||
      categoriesActive f.technologyCategories || rangeActive f.totalSpendRange) := by
  rw [joinNeeded, reasonsFor]
  cases listActive f.technologies <;> cases categoriesActive f.technologyCategories <;>
    cases rangeActive f.totalSpendRange <;> rfl

theorem joinNeeded_technologies (f : Filters) (sortNeedsStats : Bool) :
    joinNeeded f sortNeedsStats .technologies = categoriesActive f.technologyCategories := by
  rw [joinNeeded, reasonsFor]
  cases categoriesActive f.technologyCategories <;> rfl

theorem joinNeeded_stats (f : Filters) (sortNeedsStats : Bool) :
    joinNeeded f sortNeedsStats .stats =
      (rangeActive f.technologyCountRange || sortNeedsStats) := by
  rw [joinNeeded, reasonsFor]
  cases rangeActive f.technologyCountRange <;> cases sortNeedsStats <;> rfl

/-- The clauses of a search are those of its filters, one by one. -/
theorem satisfies_clausesOf (db : Database) (f : Filters) (r : JoinedRow) :
    satisfies db (clausesOf f) r = true ↔
      (∀ g ∈ f.domain, (textClause (.ofDomain .domain) g).eval db r = some true) ∧
      (∀ g ∈ f.companyName, (textClause (.ofDomain .companyName) g).eval db r = some true) ∧
      (∀ g ∈ f.category, ∀ k ∈ singleClause? (.ofDomain .category) g, k.eval db r = some true) ∧
      (∀ g ∈ f.country, ∀ k ∈ singleClause? (.ofDomain .country) g, k.eval db r = some true) ∧
      (∀ g ∈ f.technologies, ∀ k ∈ namesClause? g, k.eval db r = some true) ∧
      (∀ gs ∈ f.technologyCategories, ∀ k ∈ categoriesClause? gs, k.eval db r = some true) ∧
      (∀ g ∈ f.totalSpendRange, ∀ k ∈ rangeClause? (.ofLink .spend) .real g,
        k.eval db r = some true) ∧
      ∀ g ∈ f.technologyCountRange, ∀ k ∈ rangeClause? (.ofStats .totalTechnologies) .int g,
        k.eval db r = some true := by
  have hsome : ∀ os : List (Option Clause), (∀ k ∈ os.filterMap id, k.eval db r = some true) ↔
      ∀ o ∈ os, ∀ k ∈ o, k.eval db r = some true := by
    intro os
    simp only [List.mem_filterMap, id_eq, forall_exists_index, and_imp, Option.mem_def]
    exact ⟨fun h o ho k hk => h k o ho hk, fun h k o ho hk => h o ho k hk⟩
  have hbind : ∀ {α : Type} (o : Option α) (clause? : α → Option Clause),
      (∀ k ∈ o.bind clause?, k.eval db r = some true) ↔
        ∀ g ∈ o, ∀ k ∈ clause? g, k.eval db r = some true := by
    intro α o clause?
    cases o <;> simp
  simp only [satisfies, clausesOf, List.all_eq_true, beq_iff_eq, hsome, List.forall_mem_cons,
    List.not_mem_nil, false_imp_iff, implies_true, and_true, Option.forall_mem_map, hbind]

section

variable {db : Database} {f : Filters} {d : Domain} {link : Option Link} {sortNeedsStats : Bool}

theorem eval_joined_names (g : ListFilter) :
    (∀ k ∈ namesClause? g, k.eval db (plannedRow db (joinNeeded f sortNeedsStats) d link) =
        some true) ↔
      (valuesOf g.included ≠ [] → ∃ l ∈ link, l.technologyName ∈ valuesOf g.included) ∧
      (∀ l ∈ linksOf db d.id, l.technologyName ∉ valuesOf g.excluded) ∧
      ∀ name ∈ valuesOf g.required, ∃ l ∈ linksOf db d.id, l.technologyName = name :=
  eval_namesClause g

/-- A link of the domain to a technology of a category is counted in that category. -/
theorem countInCategory_pos (hlink : ∀ l ∈ link, l ∈ linksOf db d.id) {name : String}
    (h : (link.bind (technologyOf db)).bind (·.category) = some name) :
    0 < countInCategory db name d.id := by
  obtain ⟨t, ht, hname⟩ := Option.bind_eq_some_iff.mp h
  obtain ⟨l, hl, htl⟩ := Option.bind_eq_some_iff.mp ht
  rw [countInCategory, List.length_pos_iff_exists_mem]
  refine ⟨l, List.mem_filter.mpr ⟨hlink l hl, ?_⟩⟩
  simp [htl, hname]

theorem eval_joined_categories (hlink : ∀ l ∈ link, l ∈ linksOf db d.id)
    {gs : List CategoryFilter} (hgs : gs ∈ f.technologyCategories) :
    (∀ k ∈ categoriesClause? gs, k.eval db (plannedRow db (joinNeeded f sortNeedsStats) d link) =
        some true) ↔
      (gs ≠ [] → AcceptsCategory gs ((link.bind (technologyOf db)).bind (·.category))
        fun name => countInCategory db name d.id) := by
  by_cases hne : gs = []
  · simp [hne, categoriesClause?]
  have hneeded : joinNeeded f sortNeedsStats .technologies = true := by
    rw [joinNeeded_technologies, Option.mem_def.mp hgs]
    simp [categoriesActive, hne]
  refine eval_categoriesClause gs ?_ fun name hname => countInCategory_pos hlink hname
  simp only [JoinedRow.get, plannedRow, hneeded, if_true, Technology.get]
  cases link.bind (technologyOf db) <;> rfl

theorem eval_joined_spend (g : AmountRange) :
    (∀ k ∈ rangeClause? (.ofLink .spend) .real g,
        k.eval db (plannedRow db (joinNeeded f sortNeedsStats) d link) = some true) ↔
      (g.isActive = true → ∃ x ∈ link.bind (·.spend), g.Admits Decimal.orderKey x) := by
  refine eval_rangeClause ?_ (fun _ _ => rfl) g
  cases link <;> rfl

theorem eval_joined_count (h : db.Sound) {g : CountRange} (hg : g ∈ f.technologyCountRange) :
    (∀ k ∈ rangeClause? (.ofStats .totalTechnologies) .int g,
        k.eval db (plannedRow db (joinNeeded f sortNeedsStats) d link) = some true) ↔
      (g.isActive = true →
        ∃ s ∈ db.stats, s.domainId = d.id ∧ g.Admits id s.totalTechnologies) := by
  have hcell : (plannedRow db (joinNeeded f sortNeedsStats) d link).get
      (.ofStats .totalTechnologies) =
        ((plannedRow db (joinNeeded f sortNeedsStats) d link).stats.map
          (·.totalTechnologies)).map .int := by
    rw [JoinedRow.get]
    cases (plannedRow db (joinNeeded f sortNeedsStats) d link).stats <;> rfl
  have horder : ∀ m n : Int, (Value.int m).order (.int n) = compare (id m) (id n) :=
    fun _ _ => rfl
  rw [eval_rangeClause hcell horder g]
  refine imp_congr_right fun hactive => ?_
  have hneeded : joinNeeded f sortNeedsStats .stats = true := by
    rw [joinNeeded_stats, Option.mem_def.mp hg]
    simp [rangeActive, hactive]
  simp only [plannedRow, hneeded, if_true, Option.exists_mem_map]
  simp only [Option.mem_def, statsOf_eq_some_iff h, and_assoc]

/-- A joined row satisfies the clauses of a search when its domain and its link are accepted. -/
theorem satisfies_plannedRow (h : db.Sound) (hlink : ∀ l ∈ link, l ∈ linksOf db d.id) :
    satisfies db (clausesOf f) (plannedRow db (joinNeeded f sortNeedsStats) d link) = true ↔
      DomainAccepted db f d ∧ RowAccepted db f d link := by
  rw [satisfies_clausesOf]
  constructor
  · rintro ⟨hdomain, hcompany, hcategory, hcountry, hnames, hcategories, hspend, hcount⟩
    refine ⟨⟨?_, ?_, ?_, ?_, ?_, ?_, ?_⟩, ⟨?_, ?_, ?_⟩⟩
    · exact fun g hg => (eval_textClause rfl g).mp (hdomain g hg)
    · exact fun g hg => (eval_textClause rfl g).mp (hcompany g hg)
    · exact fun g hg => (eval_singleClause rfl g).mp (hcategory g hg)
    · exact fun g hg => (eval_singleClause rfl g).mp (hcountry g hg)
    · exact fun g hg => ((eval_joined_names g).mp (hnames g hg)).2.1
    · exact fun g hg => ((eval_joined_names g).mp (hnames g hg)).2.2
    · exact fun g hg => (eval_joined_count h hg).mp (hcount g hg)
    · exact fun g hg => ((eval_joined_names g).mp (hnames g hg)).1
    · exact fun gs hgs => (eval_joined_categories hlink hgs).mp (hcategories gs hgs)
    · exact fun g hg => (eval_joined_spend g).mp (hspend g hg)
  · rintro ⟨hd, hr⟩
    refine ⟨?_, ?_, ?_, ?_, ?_, ?_, ?_, ?_⟩
    · exact fun g hg => (eval_textClause rfl g).mpr (hd.domain g hg)
    · exact fun g hg => (eval_textClause rfl g).mpr (hd.companyName g hg)
    · exact fun g hg => (eval_singleClause rfl g).mpr (hd.category g hg)
    · exact fun g hg => (eval_singleClause rfl g).mpr (hd.country g hg)
    · exact fun g hg =>
        (eval_joined_names g).mpr ⟨hr.named g hg, hd.refused g hg, hd.required g hg⟩
    · exact fun gs hgs => (eval_joined_categories hlink hgs).mpr (hr.categorised gs hgs)
    · exact fun g hg => (eval_joined_spend g).mpr (hr.spent g hg)
    · exact fun g hg => (eval_joined_count h hg).mpr (hd.counted g hg)

/-- Where a search joins no links, it asks nothing of a row. -/
theorem rowAccepted_of_no_links (hn : joinNeeded f sortNeedsStats .links = false)
    (link : Option Link) : RowAccepted db f d link := by
  rw [joinNeeded_links, Bool.or_eq_false_iff, Bool.or_eq_false_iff] at hn
  obtain ⟨⟨hnames, hcategories⟩, hspend⟩ := hn
  refine ⟨?_, ?_, ?_⟩
  · intro g hg hne
    rw [listActive, Option.mem_def.mp hg, Option.any_some, ListFilter.isActive] at hnames
    simp [hne] at hnames
  · intro gs hgs hne
    rw [categoriesActive, Option.mem_def.mp hgs, Option.any_some] at hcategories
    simp [hne] at hcategories
  · intro g hg hactive
    rw [rangeActive, Option.mem_def.mp hg, Option.any_some] at hspend
    rw [hspend] at hactive
    exact absurd hactive (by decide)

/-- A search that joins no links asks for nothing but what it asks of the domain as a whole. -/
theorem matches_iff_domainAccepted (hn : joinNeeded f sortNeedsStats .links = false) :
    Matches db f d ↔ DomainAccepted db f d := by
  constructor
  · intro hmatches
    exact hmatches.toDomainAccepted
  · intro haccepted
    -- A domain without links has one joined row all the same, with nothing in place of a link.
    obtain ⟨link, hlink⟩ := List.exists_mem_of_ne_nil _ (orNothing_ne_nil (linksOf db d.id))
    exact ⟨haccepted, link, hlink, rowAccepted_of_no_links hn link⟩

theorem mem_linksOf_of_mem_orNothing (hlink : link ∈ orNothing (linksOf db d.id)) :
    ∀ l ∈ link, l ∈ linksOf db d.id := by
  intro l hl
  rcases mem_orNothing.mp hlink with ⟨-, rfl⟩ | ⟨k, hk, rfl⟩
  · exact nomatch hl
  · exact Option.some.inj hl ▸ hk

/-- A search by attributes of the domain only asks nothing of its links. -/
theorem matches_attributes (domain companyName : Option TextFilter)
    (category country : Option ListFilter) :
    Matches db { domain, companyName, category, country } d ↔
      (∀ g ∈ domain, g.Accepts (some d.domain)) ∧ (∀ g ∈ companyName, g.Accepts d.companyName) ∧
      (∀ g ∈ category, g.Accepts d.category) ∧ ∀ g ∈ country, g.Accepts d.country := by
  have hlinks : joinNeeded { domain, companyName, category, country } false .links = false := rfl
  rw [matches_iff_domainAccepted hlinks]
  constructor
  · intro h
    exact ⟨h.domain, h.companyName, h.category, h.country⟩
  · rintro ⟨hdomain, hcompany, hcategory, hcountry⟩
    exact {
      domain := hdomain
      companyName := hcompany
      category := hcategory
      country := hcountry
      refused := fun _ hg => nomatch hg
      required := fun _ hg => nomatch hg
      counted := fun _ hg => nomatch hg }

/-- A search by names of technologies only asks for them among the names of the links. -/
theorem matches_technologies (g : ListFilter) :
    Matches db { technologies := some g } d ↔
      (valuesOf g.included ≠ [] →
        ∃ l ∈ linksOf db d.id, l.technologyName ∈ valuesOf g.included) ∧
      (∀ l ∈ linksOf db d.id, l.technologyName ∉ valuesOf g.excluded) ∧
      ∀ name ∈ valuesOf g.required, ∃ l ∈ linksOf db d.id, l.technologyName = name := by
  constructor
  · intro h
    refine ⟨fun hne => ?_, h.refused g rfl, h.required g rfl⟩
    obtain ⟨link, hlink, haccepted⟩ := h.row
    obtain ⟨l, hl, hname⟩ := haccepted.named g rfl hne
    exact ⟨l, mem_linksOf_of_mem_orNothing hlink l hl, hname⟩
  · rintro ⟨hincluded, hrefused, hrequired⟩
    have hlink : ∃ link ∈ orNothing (linksOf db d.id), valuesOf g.included ≠ [] →
        ∃ l ∈ link, l.technologyName ∈ valuesOf g.included := by
      by_cases hne : valuesOf g.included = []
      · obtain ⟨link, hlink⟩ := List.exists_mem_of_ne_nil _ (orNothing_ne_nil (linksOf db d.id))
        exact ⟨link, hlink, fun h => absurd hne h⟩
      · obtain ⟨l, hl, hname⟩ := hincluded hne
        exact ⟨some l, mem_orNothing.mpr (.inr ⟨l, hl, rfl⟩), fun _ => ⟨l, rfl, hname⟩⟩
    obtain ⟨link, hlink, hnamed⟩ := hlink
    have haccepted : RowAccepted db { technologies := some g } d link := {
      named := by
        rintro _ ⟨⟩
        exact hnamed
      categorised := fun _ hg => nomatch hg
      spent := fun _ hg => nomatch hg }
    exact {
      domain := fun _ hg => nomatch hg
      companyName := fun _ hg => nomatch hg
      category := fun _ hg => nomatch hg
      country := fun _ hg => nomatch hg
      refused := by
        rintro _ ⟨⟩
        exact hrefused
      required := by
        rintro _ ⟨⟩
        exact hrequired
      counted := fun _ hg => nomatch hg
      row := ⟨link, hlink, haccepted⟩ }

/-- Some joined row of a domain satisfies the clauses of a search if and only if the domain
matches. -/
theorem exists_row_iff_matches (h : db.Sound) :
    (∃ r ∈ rowsOf db ((planJoins f sortNeedsStats).map (·.table)) d,
        satisfies db (clausesOf f) r = true) ↔ Matches db f d := by
  rw [planJoins_tables, rowsOf_eq_map h]
  simp only [List.mem_map, exists_exists_and_eq_and, linkChoices]
  cases hn : joinNeeded f sortNeedsStats .links with
  | true =>
    rw [if_pos rfl]
    constructor
    · rintro ⟨link, hlink, hsat⟩
      have hown := mem_linksOf_of_mem_orNothing hlink
      obtain ⟨hd, hr⟩ := (satisfies_plannedRow h hown).mp hsat
      exact ⟨hd, link, hlink, hr⟩
    · rintro ⟨hd, link, hlink, hr⟩
      have hown := mem_linksOf_of_mem_orNothing hlink
      exact ⟨link, hlink, (satisfies_plannedRow h hown).mpr ⟨hd, hr⟩⟩
  | false =>
    -- The rows have no link then, and the search asks nothing of a link.
    rw [if_neg (by decide)]
    have hown : ∀ l ∈ (none : Option Link), l ∈ linksOf db d.id := by
      intro l hl
      cases hl
    constructor
    · rintro ⟨link, hlink, hsat⟩
      rw [List.mem_singleton] at hlink
      subst hlink
      obtain ⟨link, hmem⟩ := List.exists_mem_of_ne_nil _ (orNothing_ne_nil (linksOf db d.id))
      obtain ⟨hd, -⟩ := (satisfies_plannedRow h hown).mp hsat
      exact ⟨hd, link, hmem, rowAccepted_of_no_links hn link⟩
    · rintro ⟨hd, -⟩
      exact ⟨none, List.mem_singleton_self _,
        (satisfies_plannedRow h hown).mpr ⟨hd, rowAccepted_of_no_links hn none⟩⟩

/-- The rows of a search are the joined rows of the domains that satisfy the clauses. -/
theorem mem_rows {o : PageOrder} {r : JoinedRow} :
    r ∈ (composePair f o).selection.rows db ↔
      (r.domain ∈ db.domains ∧
        r ∈ rowsOf db (joinOrder.filter (joinNeeded f o.needsStats)) r.domain) ∧
      satisfies db (clausesOf f) r = true := by
  have hjoins : (composePair f o).selection.joins = joinOrder.filter (joinNeeded f o.needsStats) :=
    planJoins_tables f o.needsStats
  rw [Selection.rows, List.mem_filter, hjoins, mem_joinedRows]
  rfl

/-- The domains of the rows of a search are the domains that match. -/
theorem mem_rows_domains (h : db.Sound) (o : PageOrder) :
    d ∈ ((composePair f o).selection.rows db).map (·.domain) ↔
      d ∈ db.domains ∧ Matches db f d := by
  have hmatches : (∃ r ∈ rowsOf db ((planJoins f o.needsStats).map (·.table)) d,
      satisfies db (clausesOf f) r = true) ↔ Matches db f d := exists_row_iff_matches h
  rw [← hmatches, planJoins_tables, List.mem_map]
  constructor
  · rintro ⟨r, hrow, rfl⟩
    obtain ⟨⟨hd, hr⟩, hsat⟩ := mem_rows.mp hrow
    exact ⟨hd, r, hr, hsat⟩
  · rintro ⟨hd, r, hr, hsat⟩
    have hdomain := domain_of_mem_rowsOf hr
    subst hdomain
    exact ⟨r, mem_rows.mpr ⟨⟨hd, hr⟩, hsat⟩, rfl⟩

end

/-- The counting statement counts the domains that match. -/
theorem count_eq_countP {db : Database} (h : db.Sound) (f : Filters) (o : PageOrder) :
    (composePair f o).selection.count db = db.domains.countP fun d => decide (Matches db f d) := by
  rw [List.countP_eq_length_filter, Selection.count,
    ← List.length_map (f := fun d : Domain => d.id)]
  refine List.Perm.length_eq ((List.perm_ext_iff_of_nodup (nodup_eraseDups _) ?_).mpr ?_)
  · exact (h.domain_ids.sublist (List.filter_sublist.map _))
  · intro i
    have hrows : ((composePair f o).selection.rows db).map (·.domain.id) =
        (((composePair f o).selection.rows db).map (·.domain)).map (·.id) := by
      rw [List.map_map]
      rfl
    rw [List.mem_eraseDups, hrows, List.mem_map, List.mem_map]
    simp only [mem_rows_domains h, List.mem_filter, decide_eq_true_eq]

/-- The page statement orders the domains that match. -/
theorem mem_sorted_domains {db : Database} (h : db.Sound) {f : Filters} {o : PageOrder}
    {d : Domain} : d ∈ ((composePair f o).page.sorted db).map (·.domain) ↔
      d ∈ db.domains ∧ Matches db f d := by
  rw [← mem_rows_domains h o, PageQuery.sorted]
  simp only [List.mem_map, List.mem_mergeSort, List.mem_eraseDups]
  constructor
  · rintro ⟨_, ⟨r, hr, rfl⟩, rfl⟩
    exact ⟨r, hr, rfl⟩
  · rintro ⟨r, hr, rfl⟩
    exact ⟨_, ⟨r, hr, rfl⟩, rfl⟩

/-- The statements that are assembled are those composed of the filters and the settled order. -/
theorem assemble_ok {f : Filters} {p : Paging} {s : Service.Settings} {q : QueryPair}
    (h : (assemble f p s).1 = .ok q) : q = composePair f (PageOrder.of p s).1 := by
  simp only [assemble] at h
  split at h
  · exact (Except.ok.inj h).symm
  · cases h

theorem assemble_records (f : Filters) (p : Paging) (s : Service.Settings) :
    (assemble f p s).2 = (sortOf p).2.2 := by
  simp only [assemble]
  split <;> rfl

theorem mem_of_mem_window {α : Type} {limit offset : Int} {xs : List α} {x : α}
    (h : x ∈ window limit offset xs) : x ∈ xs := by
  rw [window] at h
  split at h
  · exact List.mem_of_mem_drop h
  · exact List.mem_of_mem_drop (List.mem_of_mem_take h)

theorem runCount_ok {db : Database} {q : Selection} {total : Nat}
    (h : q.runCount db = .ok total) : total = q.count db := by
  rw [Selection.runCount] at h
  split at h
  · cases h
  · exact (Except.ok.inj h).symm

theorem run_ok {db : Database} {q : PageQuery} {page : List Domain}
    (h : q.run db = .ok page) : page = (q.rows db).map (·.domain) := by
  rw [PageQuery.run] at h
  split at h
  · cases h
  · exact (Except.ok.inj h).symm

/-- A page statement gives none but domains that match. -/
theorem matches_of_run {db : Database} (h : db.Sound) {f : Filters} {o : PageOrder}
    {page : List Domain} (hpage : (composePair f o).page.run db = .ok page) :
    ∀ d ∈ page, d ∈ db.domains ∧ Matches db f d := by
  intro d hd
  rw [run_ok hpage, PageQuery.rows, List.mem_map] at hd
  obtain ⟨row, hrow, rfl⟩ := hd
  exact (mem_sorted_domains h).mp (List.mem_map.mpr ⟨row, mem_of_mem_window hrow, rfl⟩)

/-- The counting statement and the page statement of a search speak of the same domains: those that
match. What is counted is their number, and a page shows none but them. -/
theorem statements_select_matches {db : Database} (h : db.Sound) {f : Filters} {p : Paging}
    {s : Service.Settings} {q : QueryPair} (hq : (assemble f p s).1 = .ok q) {total : Nat}
    (hcount : q.selection.runCount db = .ok total) {page : List Domain}
    (hpage : q.page.run db = .ok page) :
    (∀ d ∈ db.domains,
      (d.id ∈ (q.selection.rows db).map (·.domain.id) ↔ Matches db f d) ∧
      (d ∈ (q.page.sorted db).map (·.domain) ↔ Matches db f d)) ∧
    total = db.domains.countP (fun d => decide (Matches db f d)) ∧
    ∀ d ∈ page, d ∈ db.domains ∧ Matches db f d := by
  have hpair := assemble_ok hq
  subst hpair
  refine ⟨fun d hd => ⟨?_, ?_⟩, ?_, ?_⟩
  · rw [← and_iff_right hd (b := Matches db f d), ← mem_rows_domains h (PageOrder.of p s).1]
    simp only [List.mem_map]
    constructor
    · rintro ⟨r, hr, hid⟩
      have hmem := (mem_rows_domains h (PageOrder.of p s).1).mp (List.mem_map.mpr ⟨r, hr, rfl⟩)
      exact ⟨r, hr, h.domain_eq hmem.1 hd hid⟩
    · rintro ⟨r, hr, rfl⟩
      exact ⟨r, hr, rfl⟩
  · rw [mem_sorted_domains h]
    exact and_iff_right hd
  · rw [runCount_ok hcount, count_eq_countP h]
  · exact matches_of_run h hpage

/-- Filters on three kinds of things: the names and the categories of technologies and their
number. -/
def mixedFilters : Filters where
  technologies := some { included := some ["React"] }
  technologyCategories := some [{ category := "Payment", operator := .not }]
  technologyCountRange := some { min := some 1 }

/-- The statements of a search with these filters. -/
def mixedPair : QueryPair := composePair mixedFilters (PageOrder.of {} {}).1

theorem statements_select_matches_small :
    Database.small.Sound ∧ (assemble mixedFilters {} {}).1 = .ok mixedPair ∧
      mixedPair.selection.runCount Database.small = .ok 1 ∧
      mixedPair.page.run Database.small = .ok (Database.small.domains.take 1) ∧
      (∀ d ∈ Database.small.domains,
        (d.id ∈ (mixedPair.selection.rows Database.small).map (·.domain.id) ↔
          Matches Database.small mixedFilters d) ∧
        (d ∈ (mixedPair.page.sorted Database.small).map (·.domain) ↔
          Matches Database.small mixedFilters d)) ∧
      1 = Database.small.domains.countP (fun d => decide (Matches Database.small mixedFilters d)) ∧
      ∀ d ∈ Database.small.domains.take 1,
        d ∈ Database.small.domains ∧ Matches Database.small mixedFilters d := by
  have hq : (assemble mixedFilters {} {}).1 = .ok mixedPair := rfl
  have hcount : mixedPair.selection.runCount Database.small = .ok 1 := rfl
  have hpage : mixedPair.page.run Database.small = .ok (Database.small.domains.take 1) := by
    let row := SortedRow.mk Database.small.domains[0] (some (.text "alpha.com"))
    have hsorted : mixedPair.page.sorted Database.small = [row] := List.mergeSort_singleton row
    rw [PageQuery.run, PageQuery.rows, hsorted]
    rfl
  exact ⟨Database.small_sound, hq, hcount, hpage,
    statements_select_matches Database.small_sound hq hcount hpage⟩

end TechCatalog.Search
