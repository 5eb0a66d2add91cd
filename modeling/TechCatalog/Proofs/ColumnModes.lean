import TechCatalog.Proofs.Finding

/-!
# Two ways to ask for values of a column

The category and the country of a domain are single values, and a search can include values or
exclude them. Among the domains with a value, the one asks for the opposite of the other. A domain
without a value is found in neither way: an empty cell is not equal to any value, and not unequal to
any either.
-/

namespace TechCatalog.Request

/-- The filter that accepts some values. -/
def accepting (vs : List String) : ListFilter where
  included := some vs

/-- The filter that refuses some values. -/
def refusing (vs : List String) : ListFilter where
  excluded := some vs

section

variable {vs : List String} {cell : Option String}

theorem accepts_accepting (hne : vs ≠ []) :
    (accepting vs).Accepts cell ↔ ∃ v ∈ vs, cell = some v := by
  simp only [ListFilter.Accepts, accepting, valuesOf, Option.getD_some, hne, ne_eq,
    not_false_eq_true, if_true, Option.mem_def]
  constructor
  · rintro ⟨v, hcell, hv⟩
    exact ⟨v, hv, hcell⟩
  · rintro ⟨v, hv, hcell⟩
    exact ⟨v, hcell, hv⟩

/-- Values are refused to a cell that has one. -/
theorem accepts_refusing (hne : vs ≠ []) :
    (refusing vs).Accepts cell ↔ cell ≠ none ∧ ¬ (accepting vs).Accepts cell := by
  rw [accepts_accepting hne]
  cases cell with
  | none => simp [ListFilter.Accepts, refusing, valuesOf, hne]
  | some v => simp [ListFilter.Accepts, refusing, valuesOf, hne]

end

end TechCatalog.Request

namespace TechCatalog.Search

open Request Store Query

/-- The search with a list filter on the category or on the country. -/
def columnSearch (c : DomainColumn) (g : ListFilter) : Filters where
  category := if c = .category then some g else none
  country := if c = .country then some g else none

section

variable {db : Database} {d : Domain} {c : DomainColumn} {vs : List String}

theorem columnSearch_nanFree (c : DomainColumn) (g : ListFilter) : (columnSearch c g).NaNFree :=
  (attributes_plain none none _ _).1

theorem matches_columnSearch (db : Database) (d : Domain) (hc : c = .category ∨ c = .country)
    (g : ListFilter) :
    ∃ cell : Option String, d.get c = cell.map .text ∧
      (Matches db (columnSearch c g) d ↔ g.Accepts cell) := by
  rw [columnSearch, matches_attributes]
  rcases hc with rfl | rfl
  · exact ⟨d.category, rfl, by simp⟩
  · exact ⟨d.country, rfl, by simp⟩

theorem matches_accepting (hc : c = .category ∨ c = .country) (hne : vs ≠ []) :
    Matches db (columnSearch c (accepting vs)) d ↔ ∃ v ∈ vs, d.get c = some (.text v) := by
  obtain ⟨cell, hcell, hmatches⟩ := matches_columnSearch db d hc (accepting vs)
  rw [hmatches, accepts_accepting hne, hcell]
  simp

theorem matches_refusing (hc : c = .category ∨ c = .country) (hne : vs ≠ []) :
    Matches db (columnSearch c (refusing vs)) d ↔
      (d.get c).isSome = true ∧ ¬ Matches db (columnSearch c (accepting vs)) d := by
  obtain ⟨cell, hcell, hmatches⟩ := matches_columnSearch db d hc (refusing vs)
  rw [hmatches, accepts_refusing hne, accepts_accepting hne, matches_accepting hc hne, hcell]
  cases cell <;> simp

/-- Between them the pages of both searches show every domain with a value, each once. -/
theorem shown_accepting_refusing (h : db.Sound) (hc : c = .category ∨ c = .country) (hne : vs ≠ [])
    {included excluded : List Int}
    (hincluded : ShowsInFull db (columnSearch c (accepting vs)) included)
    (hexcluded : ShowsInFull db (columnSearch c (refusing vs)) excluded) :
    (included ++ excluded).Perm ((db.domains.filter fun d => (d.get c).isSome).map (·.id)) := by
  -- What the first search matches has a value, so the second one is its opposite among those.
  refine shown_append_perm h (fun d _ hmatches => ?_) (fun d _ => matches_refusing hc hne)
    hincluded hexcluded
  obtain ⟨v, -, hv⟩ := (matches_accepting hc hne).mp hmatches
  rw [hv]
  rfl

/-- Accepting values of a column selects the domains with one of them, and refusing these values
selects what that passes over, as far as it has a value in the column. Domains without a value are
passed over by both. The pages of both searches show the domains with a value, each once. -/
theorem column_modes_meaning (h : db.Sound) (hc : c = .category ∨ c = .country) (hne : vs ≠ []) :
    (∀ d ∈ db.domains,
      (Selects db (columnSearch c (accepting vs)) d ↔ ∃ v ∈ vs, d.get c = some (.text v)) ∧
      (Selects db (columnSearch c (refusing vs)) d ↔
        d.get c ≠ none ∧ PassesOver db (columnSearch c (accepting vs)) d) ∧
      (PassesOver db (columnSearch c (refusing vs)) d ↔
        d.get c = none ∨ Selects db (columnSearch c (accepting vs)) d) ∧
      (d.get c = none → PassesOver db (columnSearch c (accepting vs)) d)) ∧
    ∀ included excluded : List Int, ShowsInFull db (columnSearch c (accepting vs)) included →
      ShowsInFull db (columnSearch c (refusing vs)) excluded →
      (included ++ excluded).Perm
        ((db.domains.filter fun d => (d.get c).isSome).map (·.id)) := by
  constructor
  · intro d hd
    have hselects := fun g => selects_iff_matches h (columnSearch_nanFree c g) hd
    have hpasses := fun g => passesOver_iff_not_matches h (columnSearch_nanFree c g) hd
    rw [hselects, hselects, hpasses, hpasses, matches_refusing hc hne, Option.isSome_iff_ne_none]
    refine ⟨matches_accepting hc hne, Iff.rfl, ?_, ?_⟩
    · rw [not_and_or, not_not, not_not]
    · intro hnone hmatches
      obtain ⟨v, -, hv⟩ := (matches_accepting hc hne).mp hmatches
      rw [hnone] at hv
      cases hv
  · intro included excluded hincluded hexcluded
    exact shown_accepting_refusing h hc hne hincluded hexcluded

end

/-- A store of three domains: two of different categories and one without a category. -/
def branches : Database where
  domains := [{ id := 1, domain := "alpha.com", category := some "Retail" },
    { id := 2, domain := "beta.com", category := some "Media" },
    { id := 3, domain := "gamma.com" }]

theorem branches_sound : branches.Sound where
  keys t := by cases t <;> decide
  uniques t := by cases t <;> decide

theorem branches_whole : Whole branches := by
  decide

theorem column_modes_meaning_branches :
    branches.Sound ∧ ["Retail", "Retail"] ≠ [] ∧
      ShowsInFull branches (columnSearch .category (accepting ["Retail", "Retail"])) [1] ∧
      ShowsInFull branches (columnSearch .category (refusing ["Retail", "Retail"])) [2] ∧
      (∀ d ∈ branches.domains,
        Selects branches (columnSearch .category (refusing ["Retail", "Retail"])) d ↔
          d.get .category ≠ none ∧
            PassesOver branches (columnSearch .category (accepting ["Retail", "Retail"])) d) ∧
      ([1] ++ [2] : List Int).Perm
        ((branches.domains.filter fun d => (d.get .category).isSome).map (·.id)) := by
  have hne : ["Retail", "Retail"] ≠ [] := List.cons_ne_nil _ _
  have hincluded :
      ShowsInFull branches (columnSearch .category (accepting ["Retail", "Retail"])) [1] :=
    showsInFull_of_sorted branches_sound branches_whole (branches.domains.take 1) rfl rfl rfl
      (by decide) (by decide) (by decide)
  have hexcluded :
      ShowsInFull branches (columnSearch .category (refusing ["Retail", "Retail"])) [2] :=
    showsInFull_of_sorted branches_sound branches_whole ((branches.domains.drop 1).take 1)
      rfl rfl rfl (by decide) (by decide) (by decide)
  obtain ⟨hselects, hpartition⟩ := column_modes_meaning branches_sound (.inl rfl) hne
  exact ⟨branches_sound, hne, hincluded, hexcluded, fun d hd => (hselects d hd).2.1,
    hpartition _ _ hincluded hexcluded⟩

/-- A domain without a category is found neither among those of a category nor among the others. -/
theorem no_category_found_neither_way :
    Filters.read .value (.obj [("category", .obj [("exclude", .arr [.str "Retail"])])]) =
        .accept (columnSearch .category (refusing ["Retail"])) ∧
      Filters.read .value (.obj [("category", .obj [("include", .arr [.str "Retail"])])]) =
        .accept (columnSearch .category (accepting ["Retail"])) ∧
      branches.Sound ∧ ∃ d ∈ branches.domains, d.get .category = none ∧
        PassesOver branches (columnSearch .category (refusing ["Retail"])) d ∧
        PassesOver branches (columnSearch .category (accepting ["Retail"])) d := by
  refine ⟨rfl, rfl, branches_sound, { id := 3, domain := "gamma.com" }, by decide, rfl, ?_, ?_⟩
  · exact passesOver_of_not_matches branches_sound (columnSearch_nanFree _ _) (by decide)
      (by decide)
  · exact passesOver_of_not_matches branches_sound (columnSearch_nanFree _ _) (by decide)
      (by decide)

end TechCatalog.Search
