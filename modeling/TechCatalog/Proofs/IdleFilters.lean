import TechCatalog.Proofs.JoinedTables
import TechCatalog.Proofs.ObjectMembers

/-!
# Filters that ask for nothing

A filter may be there and still ask for nothing: a list filter without values, a range without
bounds, an empty list of category filters. Such a filter has no clause and is no reason to join a
table, so a search with it has the statements of the search without it. An object that holds no text
to look for is not even read: a request is accepted, or has its faults, as if it were not there.
-/

namespace TechCatalog.Request

/-- A list filter on an attribute with one value asks for nothing when it names no value to accept
and none to refuse. Values that are required together are not looked at. -/
def ListFilter.IdleOnColumn (g : ListFilter) : Prop :=
  valuesOf g.included = [] ∧ valuesOf g.excluded = []

/-- A list filter on an attribute with many values asks for nothing when it names no value. -/
def ListFilter.Idle (g : ListFilter) : Prop :=
  g.IdleOnColumn ∧ valuesOf g.required = []

def Range.Idle {α : Type} (r : Range α) : Prop :=
  r.min = none ∧ r.max = none

/-- The second part is the first, or the first asks for nothing and the second is absent. -/
def DropsIf {α : Type} (idle : α → Prop) (a b : Option α) : Prop :=
  b = a ∨ (∀ x ∈ a, idle x) ∧ b = none

/-- A search without some of the filters that ask for nothing. -/
structure Filters.DropsIdle (f g : Filters) : Prop where
  domain : g.domain = f.domain
  companyName : g.companyName = f.companyName
  category : DropsIf ListFilter.IdleOnColumn f.category g.category
  country : DropsIf ListFilter.IdleOnColumn f.country g.country
  technologies : DropsIf ListFilter.Idle f.technologies g.technologies
  technologyCategories : DropsIf (· = []) f.technologyCategories g.technologyCategories
  totalSpendRange : DropsIf Range.Idle f.totalSpendRange g.totalSpendRange
  technologyCountRange : DropsIf Range.Idle f.technologyCountRange g.technologyCountRange

section

variable {α β : Type} {idle : α → Prop} {a b : Option α}

theorem dropsIf_none_iff : DropsIf idle a none ↔ ∀ x ∈ a, idle x := by
  constructor
  · rintro (rfl | ⟨hidle, -⟩)
    · exact fun x hx => nomatch hx
    · exact hidle
  · intro hidle
    exact .inr ⟨hidle, rfl⟩

/-- What is made of a part is made of it without those that nothing is made of. -/
theorem DropsIf.bind_eq {make : α → Option β} (h : DropsIf idle a b)
    (hmake : ∀ x, make x = none ↔ idle x) : b.bind make = a.bind make := by
  obtain rfl | ⟨hidle, rfl⟩ := h
  · rfl
  · cases a with
    | none => rfl
    | some x => exact ((hmake x).mpr (hidle x rfl)).symm

theorem bind_eq_none_iff_dropsIf {make : α → Option β} (hmake : ∀ x, make x = none ↔ idle x) :
    a.bind make = none ↔ DropsIf idle a none := by
  rw [Option.bind_eq_none_iff, dropsIf_none_iff]
  simp only [hmake, Option.mem_def]

end

/-- The keys under which a search has text filters. -/
def textFilterKeys : List Key :=
  [Key.only "domain", ⟨"companyName", "company_name"⟩]

/-- An object has no text to look for when its value is absent, null or blank. -/
def HoldsNoText (filter : Json.Members) : Prop :=
  ∀ v ∈ Json.Members.get? "value" filter, v = .null ∨ ∃ s, v = .str s ∧ Text.allBlank s = true

section

variable {α : Type} {origin : Origin} {o filter : Json.Members} {k : Key} {name : String}

theorem readTextFilter?_of_holdsNoText (h : HoldsNoText filter) :
    readTextFilter? origin (.obj filter) = .accept none := by
  rw [readTextFilter?]
  cases hvalue : Json.Members.get? "value" filter with
  | none => rfl
  | some v =>
    obtain rfl | ⟨s, rfl, hblank⟩ := h v hvalue
    · rfl
    · exact if_pos hblank

/-- What is read of one member does not depend on members of other names. -/
theorem Key.optional_without (h : ¬ k.Spells name) (absent : α) (read : Json → Checked α) :
    k.optional absent read (Json.Members.without name o) = k.optional absent read o := by
  rw [Key.optional, Key.optional, Key.find?_without h]

/-- A text filter without a text to look for is read as one that is not there. -/
theorem Key.textFilter_without (origin : Origin) (hfind : k.find? o = some (name, .obj filter))
    (hfilter : HoldsNoText filter) (honce : ∀ m ∈ o, k.Spells m.1 → m.1 = name) :
    k.optional none (readTextFilter? origin) (Json.Members.without name o) =
      k.optional none (readTextFilter? origin) o := by
  have hnone : k.find? (Json.Members.without name o) = none := by
    rw [Key.find?_eq_none_iff]
    intro m hm hspells
    obtain ⟨hmem, hne⟩ := List.mem_filter.mp hm
    exact bne_iff_ne.mp hne (honce m hmem hspells)
  rw [Key.optional, Key.optional, hnone, hfind]
  exact (congrArg (Checked.within (.key name)) (readTextFilter?_of_holdsNoText hfilter)).symm

/-- A request with a text filter that has no text to look for is read as the request without it. -/
theorem Filters.read_without (hk : k ∈ textFilterKeys)
    (hfind : k.find? o = some (name, .obj filter)) (hfilter : HoldsNoText filter)
    (honce : ∀ m ∈ o, k.Spells m.1 → m.1 = name) :
    Filters.read origin (.obj (Json.Members.without name o)) = Filters.read origin (.obj o) := by
  have hsame := Key.textFilter_without origin hfind hfilter honce
  obtain ⟨hspells, -⟩ := Key.get?_of_find? hfind
  rw [textFilterKeys, List.mem_pair] at hk
  -- All other keys are spelled differently, whichever of the keys this is.
  obtain rfl | rfl := hk <;> obtain rfl | rfl := hspells <;>
    simp (disch := decide) only [Filters.read, readForm, hsame, Key.optional_without]

end

end TechCatalog.Request

namespace TechCatalog.Search

open Request Store Query Service

theorem singleClause_eq_none_iff (c : Column) (g : ListFilter) :
    singleClause? c g = none ↔ g.IdleOnColumn := by
  rw [singleClause?, ListFilter.IdleOnColumn]
  cases valuesOf g.included <;> cases valuesOf g.excluded <;> simp

theorem namesClause_eq_none_iff (g : ListFilter) : namesClause? g = none ↔ g.Idle := by
  rw [← Option.isNone_iff_eq_none, ← Option.isSome_eq_false_iff, isSome_namesClause]
  simp [ListFilter.isActive, ListFilter.Idle, ListFilter.IdleOnColumn]

theorem categoriesClause_eq_none_iff (gs : List CategoryFilter) :
    categoriesClause? gs = none ↔ gs = [] := by
  rw [← Option.isNone_iff_eq_none, ← Option.isSome_eq_false_iff, isSome_categoriesClause]
  simp

theorem rangeClause_eq_none_iff {α : Type} (c : Column) (value : α → Value) (r : Range α) :
    rangeClause? c value r = none ↔ r.Idle := by
  rw [← Option.isNone_iff_eq_none, ← Option.isSome_eq_false_iff, isSome_rangeClause]
  simp [Range.isActive, Range.Idle]

section

variable {f g : Filters}

/-- A filter that asks for nothing has no clause. -/
theorem fieldClauses_of_dropsIdle (h : f.DropsIdle g) : fieldClauses g = fieldClauses f := by
  rw [fieldClauses, h.domain, h.companyName, h.category.bind_eq (singleClause_eq_none_iff _),
    h.country.bind_eq (singleClause_eq_none_iff _),
    h.technologies.bind_eq namesClause_eq_none_iff,
    h.technologyCategories.bind_eq categoriesClause_eq_none_iff,
    h.totalSpendRange.bind_eq (rangeClause_eq_none_iff _ _),
    h.technologyCountRange.bind_eq (rangeClause_eq_none_iff _ _)]
  rfl

/-- A filter that asks for nothing is no reason to join a table. -/
theorem planJoins_of_dropsIdle (h : f.DropsIdle g) (sortNeedsStats : Bool) :
    planJoins g sortNeedsStats = planJoins f sortNeedsStats := by
  have hreasons : reasonsFor g sortNeedsStats = reasonsFor f sortNeedsStats := by
    funext j
    cases j <;>
      simp only [reasonsFor, listActive_eq, categoriesActive_eq,
        rangeActive_eq (.ofLink .spend) .real, rangeActive_eq (.ofStats .totalTechnologies) .int,
        h.technologies.bind_eq namesClause_eq_none_iff,
        h.technologyCategories.bind_eq categoriesClause_eq_none_iff,
        h.totalSpendRange.bind_eq (rangeClause_eq_none_iff _ _),
        h.technologyCountRange.bind_eq (rangeClause_eq_none_iff _ _)]
  rw [planJoins, planJoins, hreasons]

theorem assemble_of_dropsIdle (h : f.DropsIdle g) (p : Paging) (s : Settings) :
    assemble g p s = assemble f p s := by
  have hclauses : clausesOf g = clausesOf f := by
    rw [clausesOf_eq, clausesOf_eq, fieldClauses_of_dropsIdle h]
  have hpair : composePair g = composePair f := by
    funext o
    simp only [composePair, planJoins_of_dropsIdle h, hclauses]
  simp only [assemble, hpair]

/-- A search has no clause exactly if all its filters ask for nothing. -/
theorem clausesOf_eq_nil_iff : clausesOf f = [] ↔ f.DropsIdle {} := by
  have hclauses : clausesOf f = [] ↔ ∀ c ∈ fieldClauses f, c.2 = none := by
    rw [clausesOf_eq, List.filterMap_eq_nil_iff]
  rw [hclauses]
  simp only [fieldClauses, List.forall_mem_cons, Option.map_eq_none_iff,
    bind_eq_none_iff_dropsIf (singleClause_eq_none_iff _),
    bind_eq_none_iff_dropsIf namesClause_eq_none_iff,
    bind_eq_none_iff_dropsIf categoriesClause_eq_none_iff,
    bind_eq_none_iff_dropsIf (rangeClause_eq_none_iff _ _)]
  constructor
  · rintro ⟨hdomain, hcompany, hcategory, hcountry, htechnologies, hcategories, hspent, hcounted, -⟩
    exact ⟨hdomain.symm, hcompany.symm, hcategory, hcountry, htechnologies, hcategories, hspent,
      hcounted⟩
  · intro h
    exact ⟨h.domain.symm, h.companyName.symm, h.category, h.country, h.technologies,
      h.technologyCategories, h.totalSpendRange, h.technologyCountRange, List.forall_mem_nil _⟩

end

/-- Filters that ask for nothing leave no trace. A search without some of them has the plan of joins
and the two statements of the search with them, and a search has no clause exactly if all of its
filters are of this kind. An object without a text to look for, sent as a text filter under one
spelling, makes no difference to whether a request is accepted, as what, or with which faults. -/
theorem idle_filters_leave_no_trace :
    (∀ f g : Filters, f.DropsIdle g → ∀ (p : Paging) (s : Settings),
      (assemble g p s).2 = (assemble f p s).2 ∧
      ∀ q, (assemble f p s).1 = .ok q → ∃ q', (assemble g p s).1 = .ok q' ∧ q'.joins = q.joins ∧
        q'.selection.countStatement = q.selection.countStatement ∧
        q'.page.statement = q.page.statement) ∧
    (∀ f : Filters, clausesOf f = [] ↔ f.DropsIdle {}) ∧
    ∀ k ∈ textFilterKeys, ∀ (o : Json.Members) (name : String) (filter : Json.Members),
      k.find? o = some (name, .obj filter) → HoldsNoText filter →
      (∀ m ∈ o, k.Spells m.1 → m.1 = name) → ∀ origin,
        Filters.read origin (.obj (Json.Members.without name o)) =
          Filters.read origin (.obj o) := by
  refine ⟨fun f g h p s => ?_, fun f => clausesOf_eq_nil_iff, ?_⟩
  · rw [assemble_of_dropsIdle h]
    exact ⟨rfl, fun q hq => ⟨q, hq, rfl, rfl, rfl⟩⟩
  · intro k hk o name filter hfind hfilter honce origin
    exact Filters.read_without hk hfind hfilter honce

/-- A search with filters that ask for nothing beside two that do not. -/
def cluttered : Filters where
  domain := some { value := "shop" }
  category := some { included := some [], required := some ["Retail"] }
  country := some { excluded := some ["DE"] }
  technologies := some { included := some [], excluded := none, required := some [] }
  technologyCategories := some []
  totalSpendRange := some { inclusive := false }

/-- The search without them. -/
def tidied : Filters where
  domain := some { value := "shop" }
  country := some { excluded := some ["DE"] }

/-- A search as it may be sent, with a blank company name and a match type that is wrong. -/
def blankNamed : Json.Members :=
  [("company_name", .obj [("value", .str " \t"), ("matchType", .int 7)]),
    ("country", .arr [])]

theorem idle_filters_leave_no_trace_cluttered :
    cluttered.DropsIdle tidied ∧
    (∃ q q', (assemble cluttered {} {}).1 = .ok q ∧ (assemble tidied {} {}).1 = .ok q' ∧
      q'.selection.countStatement = q.selection.countStatement) ∧
    Filters.read .body (.obj [("country", .arr [])]) = Filters.read .body (.obj blankNamed) := by
  obtain ⟨hassemble, -, hread⟩ := idle_filters_leave_no_trace
  have hdrops : cluttered.DropsIdle tidied :=
    { domain := rfl
      companyName := rfl
      category := .inr ⟨by rintro _ ⟨⟩; exact ⟨rfl, rfl⟩, rfl⟩
      country := .inl rfl
      technologies := .inr ⟨by rintro _ ⟨⟩; exact ⟨⟨rfl, rfl⟩, rfl⟩, rfl⟩
      technologyCategories := .inr ⟨by rintro _ ⟨⟩; rfl, rfl⟩
      totalSpendRange := .inr ⟨by rintro _ ⟨⟩; exact ⟨rfl, rfl⟩, rfl⟩
      technologyCountRange := .inl rfl }
  obtain ⟨q', hq', -, hcount, -⟩ := (hassemble cluttered tidied hdrops {} {}).2 _ rfl
  have hblank : HoldsNoText [("value", .str " \t"), ("matchType", .int 7)] := by
    rintro _ ⟨⟩
    exact .inr ⟨_, rfl, rfl⟩
  have honce : ∀ m ∈ blankNamed, (Key.mk "companyName" "company_name").Spells m.1 →
      m.1 = "company_name" := by
    simp only [blankNamed, List.forall_mem_cons]
    exact ⟨by decide, by decide, List.forall_mem_nil _⟩
  refine ⟨hdrops, ⟨_, q', rfl, hq', hcount⟩, ?_⟩
  exact hread _ (List.mem_cons_of_mem _ List.mem_cons_self) blankNamed "company_name" _ rfl hblank
    honce .body

end TechCatalog.Search
