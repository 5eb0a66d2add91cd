import TechCatalog.Proofs.Finding

/-!
# Lists of category filters

A list of category filters is tested on one row of a domain, on which the rest of the search is
tested too: a link with its technology, or nothing where the domain has no link. An alternative
anywhere in the list makes the search the union of the searches for its entries, the negated ones
and those with bounds included. A list of negated filters asks for a technology with a category if
one of them goes without bounds. If all of them have bounds it does not: bounds are never kept by a
domain without such a technology, and a filter that is not met is met when it is negated.
-/

namespace TechCatalog.Request

/-- The search with these category filters in place of its own. -/
def Filters.withCategories (f : Filters) (gs : Option (List CategoryFilter)) : Filters :=
  { f with technologyCategories := gs }

section

variable {gs : List CategoryFilter} {category : Option String} {count : String → Nat}

theorem acceptsCategory_singleton (g : CategoryFilter) :
    AcceptsCategory [g] category count ↔ g.Accepts category (count g.category) := by
  simp [AcceptsCategory]

theorem acceptsCategory_of_alternative (hor : ∃ g ∈ gs, g.operator = .or) :
    AcceptsCategory gs category count ↔ ∃ g ∈ gs, g.Accepts category (count g.category) := by
  rw [AcceptsCategory, if_pos hor]

theorem acceptsCategory_of_negated (hnot : ∀ g ∈ gs, g.operator = .not) :
    AcceptsCategory gs category count ↔ ∀ g ∈ gs, g.Accepts category (count g.category) := by
  have hor : ¬ ∃ g ∈ gs, g.operator = .or := by
    rintro ⟨g, hg, hop⟩
    rw [hnot g hg] at hop
    cases hop
  rw [AcceptsCategory, if_neg hor]

/-- Without a category, a negated filter is left with its bounds. -/
theorem CategoryFilter.accepts_none {g : CategoryFilter} (hnot : g.operator = .not) (n : Nat) :
    g.Accepts none n ↔ g.isCounted = true ∧ ¬ (0 < n ∧ g.AdmitsCount n) := by
  simp [CategoryFilter.Accepts, hnot]

end

end TechCatalog.Request

namespace TechCatalog.Search

open Request Store Query

/-- The domain owns a technology with a category. -/
def OwnsCategorised (db : Database) (d : Domain) : Prop :=
  ∃ l ∈ linksOf db d.id, ∃ t ∈ db.technologies, t.id = l.technologyId ∧ t.category ≠ none
  deriving Decidable

section

variable {db : Database} {f : Filters} {d : Domain} {gs : List CategoryFilter}

theorem domainAccepted_withCategories (gs : Option (List CategoryFilter)) :
    DomainAccepted db (f.withCategories gs) d ↔ DomainAccepted db f d := by
  constructor
  · intro h
    exact ⟨h.domain, h.companyName, h.category, h.country, h.refused, h.required, h.counted⟩
  · intro h
    exact ⟨h.domain, h.companyName, h.category, h.country, h.refused, h.required, h.counted⟩

theorem rowAccepted_withCategories (link : Option Link) :
    RowAccepted db (f.withCategories (some gs)) d link ↔
      RowAccepted db (f.withCategories none) d link ∧
      (gs ≠ [] → AcceptsCategory gs ((link.bind (technologyOf db)).bind (·.category))
        fun name => countInCategory db name d.id) := by
  constructor
  · intro h
    exact ⟨⟨h.named, (fun _ hgs => nomatch hgs), h.spent⟩, h.categorised gs rfl⟩
  · rintro ⟨h, hcategories⟩
    refine ⟨h.named, ?_, h.spent⟩
    rintro _ ⟨⟩
    exact hcategories

/-- The category filters are tested on a row that suits the rest of the search. -/
theorem matches_withCategories :
    Matches db (f.withCategories (some gs)) d ↔ DomainAccepted db f d ∧
      ∃ link ∈ orNothing (linksOf db d.id), RowAccepted db (f.withCategories none) d link ∧
        (gs ≠ [] → AcceptsCategory gs ((link.bind (technologyOf db)).bind (·.category))
          fun name => countInCategory db name d.id) := by
  rw [← domainAccepted_withCategories (some gs)]
  simp only [← rowAccepted_withCategories]
  exact ⟨fun ⟨hdomain, hrow⟩ => ⟨hdomain, hrow⟩, fun ⟨hdomain, hrow⟩ => ⟨hdomain, hrow⟩⟩

theorem matches_withoutCategories :
    Matches db (f.withCategories none) d ↔ DomainAccepted db f d ∧
      ∃ link ∈ orNothing (linksOf db d.id), RowAccepted db (f.withCategories none) d link := by
  rw [← domainAccepted_withCategories none]
  exact ⟨fun ⟨hdomain, hrow⟩ => ⟨hdomain, hrow⟩, fun ⟨hdomain, hrow⟩ => ⟨hdomain, hrow⟩⟩

/-! ### Alternatives -/

/-- With an alternative among its category filters, a search matches what it matches with one of
them alone. -/
theorem matches_of_alternative (hor : ∃ g ∈ gs, g.operator = .or) :
    Matches db (f.withCategories (some gs)) d ↔
      ∃ g ∈ gs, Matches db (f.withCategories (some [g])) d := by
  have hne : gs ≠ [] := by
    rintro rfl
    simp at hor
  simp only [matches_withCategories, acceptsCategory_of_alternative hor,
    acceptsCategory_singleton, hne, List.cons_ne_nil, ne_eq, not_false_eq_true, true_imp_iff]
  constructor
  · rintro ⟨hdomain, link, hlink, hrow, g, hg, haccepts⟩
    exact ⟨g, hg, hdomain, link, hlink, hrow, haccepts⟩
  · rintro ⟨g, hg, hdomain, link, hlink, hrow, haccepts⟩
    exact ⟨hdomain, link, hlink, hrow, g, hg, haccepts⟩

/-- The pages of a search with an alternative among its category filters show what the pages of the
searches with one of them show. -/
theorem mem_shown_of_alternative (h : db.Sound) (hor : ∃ g ∈ gs, g.operator = .or)
    {united : List Int} {single : CategoryFilter → List Int}
    (hunited : ShowsInFull db (f.withCategories (some gs)) united)
    (hsingle : ∀ g ∈ gs, ShowsInFull db (f.withCategories (some [g])) (single g)) (i : Int) :
    i ∈ united ↔ ∃ g ∈ gs, i ∈ single g := by
  constructor
  · intro hi
    obtain ⟨d, hd, rfl⟩ := stored_of_mem_shown_ids h hunited hi
    obtain ⟨g, hg, hmatches⟩ := (matches_of_alternative hor).mp ((mem_shown_ids h hunited hd).mp hi)
    exact ⟨g, hg, (mem_shown_ids h (hsingle g hg) hd).mpr hmatches⟩
  · rintro ⟨g, hg, hi⟩
    obtain ⟨d, hd, rfl⟩ := stored_of_mem_shown_ids h (hsingle g hg) hi
    have hmatches := (mem_shown_ids h (hsingle g hg) hd).mp hi
    exact (mem_shown_ids h hunited hd).mpr ((matches_of_alternative hor).mpr ⟨g, hg, hmatches⟩)

/-- A search with an alternative among its category filters is the union of the searches with one of
them each, whatever else is asked for: in what its statements select, in what they pass over, and
in what its pages show. -/
theorem alternatives_unite (h : db.Sound) (f : Filters) (hor : ∃ g ∈ gs, g.operator = .or) :
    (∀ d ∈ db.domains,
      (Selects db (f.withCategories (some gs)) d ↔
        ∃ g ∈ gs, Selects db (f.withCategories (some [g])) d) ∧
      (PassesOver db (f.withCategories (some gs)) d ↔
        ∀ g ∈ gs, PassesOver db (f.withCategories (some [g])) d)) ∧
    ∀ (united : List Int) (single : CategoryFilter → List Int),
      ShowsInFull db (f.withCategories (some gs)) united →
      (∀ g ∈ gs, ShowsInFull db (f.withCategories (some [g])) (single g)) →
      united.Nodup ∧ ∀ i, i ∈ united ↔ ∃ g ∈ gs, i ∈ single g := by
  constructor
  · intro d hd
    -- What is bound for the spend is the same in all of these searches.
    have hnan (gs : Option (List CategoryFilter)) : (f.withCategories gs).NaNFree ↔ f.NaNFree :=
      Iff.rfl
    obtain ⟨g, hg⟩ : ∃ g, g ∈ gs := hor.imp fun g h => h.1
    simp only [selects_iff h hd, passesOver_iff h hd, hnan, matches_of_alternative hor]
    constructor
    · constructor
      · rintro ⟨hfree, g, hg, hmatches⟩
        exact ⟨g, hg, hfree, hmatches⟩
      · rintro ⟨g, hg, hfree, hmatches⟩
        exact ⟨hfree, g, hg, hmatches⟩
    · constructor
      · rintro ⟨hfree, hmatches⟩ g hg
        exact ⟨hfree, fun hg' => hmatches ⟨g, hg, hg'⟩⟩
      · intro hall
        refine ⟨(hall g hg).1, ?_⟩
        rintro ⟨g', hg', hmatches⟩
        exact (hall g' hg').2 hmatches
  · intro united single hunited hsingle
    exact ⟨shown_ids_nodup h hunited, mem_shown_of_alternative h hor hunited hsingle⟩

/-- Category filters of each kind: one to be met, an alternative with a bound that no domain of the
sample store keeps, and a negated one with a bound. -/
def variedGroup : List CategoryFilter :=
  [{ category := "Payment" }, { category := "Framework", minCount := some 2, operator := .or },
    { category := "Payment", minCount := some 2, operator := .not }]

/-- What a search for one of these filters alone shows of the sample store. -/
def shownAlone (g : CategoryFilter) : List Int :=
  match g.operator with
  | .and => [1]
  | .or => []
  | .not => [1, 2]

theorem alternatives_unite_varied :
    Database.small.Sound ∧ (∃ g ∈ variedGroup, g.operator = .or) ∧
      ShowsInFull Database.small (Filters.withCategories {} (some variedGroup)) [1, 2] ∧
      (∀ g ∈ variedGroup,
        ShowsInFull Database.small (Filters.withCategories {} (some [g])) (shownAlone g)) ∧
      (∀ d ∈ Database.small.domains,
        Selects Database.small (Filters.withCategories {} (some variedGroup)) d ↔
          ∃ g ∈ variedGroup, Selects Database.small (Filters.withCategories {} (some [g])) d) ∧
      ∀ i : Int, i ∈ [1, 2] ↔ ∃ g ∈ variedGroup, i ∈ shownAlone g := by
  have hor : ∃ g ∈ variedGroup, g.operator = .or := by decide
  have hunited : ShowsInFull Database.small (Filters.withCategories {} (some variedGroup)) [1, 2] :=
    showsInFull_of_sorted Database.small_sound small_whole Database.small.domains rfl rfl rfl
      (by decide) (by decide) (by decide)
  have hsingle : ∀ g ∈ variedGroup,
      ShowsInFull Database.small (Filters.withCategories {} (some [g])) (shownAlone g) := by
    simp only [variedGroup, List.forall_mem_cons]
    refine ⟨?_, ?_, ?_, List.forall_mem_nil _⟩
    · exact showsInFull_of_sorted Database.small_sound small_whole
        (Database.small.domains.take 1) rfl rfl rfl (by decide) (by decide) (by decide)
    · exact showsInFull_of_sorted Database.small_sound small_whole [] rfl rfl rfl
        (by decide) (by decide) (by decide)
    · exact showsInFull_of_sorted Database.small_sound small_whole
        Database.small.domains rfl rfl rfl (by decide) (by decide) (by decide)
  obtain ⟨hselects, hshows⟩ := alternatives_unite Database.small_sound {} hor
  exact ⟨Database.small_sound, hor, hunited, hsingle, fun d hd => (hselects d hd).1,
    (hshows _ _ hunited hsingle).2⟩

/-! ### Negated filters -/

theorem ownsCategorised_of_row {link : Option Link} (hlink : link ∈ orNothing (linksOf db d.id))
    {c : String} (hc : (link.bind (technologyOf db)).bind (·.category) = some c) :
    OwnsCategorised db d := by
  obtain ⟨t, ht, hcategory⟩ := Option.bind_eq_some_iff.mp hc
  obtain ⟨l, hl, htl⟩ := Option.bind_eq_some_iff.mp ht
  have hid := List.find?_some htl
  rw [beq_iff_eq] at hid
  refine ⟨l, mem_linksOf_of_mem_orNothing hlink l hl, t, List.mem_of_find?_eq_some htl, hid, ?_⟩
  rw [hcategory]
  exact Option.some_ne_none c

theorem category_eq_none_of_bare (hbare : ¬ OwnsCategorised db d) {link : Option Link}
    (hlink : link ∈ orNothing (linksOf db d.id)) :
    (link.bind (technologyOf db)).bind (·.category) = none := by
  cases hc : (link.bind (technologyOf db)).bind (·.category) with
  | none => rfl
  | some c => exact absurd (ownsCategorised_of_row hlink hc) hbare

theorem countInCategory_eq_zero_of_bare (hbare : ¬ OwnsCategorised db d) (name : String) :
    countInCategory db name d.id = 0 := by
  rw [countInCategory, List.length_eq_zero_iff, List.filter_eq_nil_iff]
  intro l hl hcounted
  have hnone : (technologyOf db l).bind (·.category) = none :=
    category_eq_none_of_bare hbare (mem_orNothing.mpr (.inr ⟨l, hl, rfl⟩))
  cases ht : technologyOf db l with
  | none =>
    rw [ht] at hcounted
    cases hcounted
  | some t =>
    rw [ht, Option.bind_some] at hnone
    rw [ht, Option.any_some, hnone] at hcounted
    cases hcounted

/-- Of a domain that owns no technology with a category, negated filters ask that all of them have
bounds, and nothing else. -/
theorem matches_negated_of_bare (hne : gs ≠ []) (hnot : ∀ g ∈ gs, g.operator = .not)
    (hbare : ¬ OwnsCategorised db d) :
    Matches db (f.withCategories (some gs)) d ↔
      (∀ g ∈ gs, g.isCounted = true) ∧ Matches db (f.withCategories none) d := by
  have haccepts {link : Option Link} (hlink : link ∈ orNothing (linksOf db d.id)) :
      AcceptsCategory gs ((link.bind (technologyOf db)).bind (·.category))
        (fun name => countInCategory db name d.id) ↔ ∀ g ∈ gs, g.isCounted = true := by
    rw [acceptsCategory_of_negated hnot, category_eq_none_of_bare hbare hlink]
    refine forall₂_congr fun g hg => ?_
    rw [CategoryFilter.accepts_none (hnot g hg), countInCategory_eq_zero_of_bare hbare]
    simp
  rw [matches_withCategories, matches_withoutCategories]
  constructor
  · rintro ⟨hdomain, link, hlink, hrow, hcategories⟩
    exact ⟨(haccepts hlink).mp (hcategories hne), hdomain, link, hlink, hrow⟩
  · rintro ⟨hcounted, hdomain, link, hlink, hrow⟩
    exact ⟨hdomain, link, hlink, hrow, fun _ => (haccepts hlink).mpr hcounted⟩

theorem ownsCategorised_of_matches (hnot : ∀ g ∈ gs, g.operator = .not)
    (huncounted : ∃ g ∈ gs, g.isCounted = false)
    (hmatches : Matches db (f.withCategories (some gs)) d) : OwnsCategorised db d := by
  obtain ⟨g, hg, hfree⟩ := huncounted
  by_contra hbare
  have hcounted := ((matches_negated_of_bare (List.ne_nil_of_mem hg) hnot hbare).mp hmatches).1 g hg
  rw [hfree] at hcounted
  cases hcounted

/-- What a search with negated category filters alone finds owns a technology with a category if one
of the filters goes without bounds. If all of them have bounds, a domain that owns no such
technology is found exactly if it is found without the filters. -/
theorem negated_filters_meaning (h : db.Sound) (f : Filters) (hne : gs ≠ [])
    (hnot : ∀ g ∈ gs, g.operator = .not) :
    ((∃ g ∈ gs, g.isCounted = false) →
      (∀ d ∈ db.domains, Selects db (f.withCategories (some gs)) d → OwnsCategorised db d) ∧
      ∀ ids, ShowsInFull db (f.withCategories (some gs)) ids →
        ∀ i ∈ ids, ∃ d ∈ db.domains, d.id = i ∧ OwnsCategorised db d) ∧
    ((∀ g ∈ gs, g.isCounted = true) → ∀ d ∈ db.domains, ¬ OwnsCategorised db d →
      (Selects db (f.withCategories (some gs)) d ↔ Selects db (f.withCategories none) d) ∧
      (PassesOver db (f.withCategories (some gs)) d ↔
        PassesOver db (f.withCategories none) d)) := by
  constructor
  · intro huncounted
    constructor
    · intro d hd hselects
      exact ownsCategorised_of_matches hnot huncounted ((selects_iff h hd).mp hselects).2
    · intro ids hshows i hi
      obtain ⟨d, hd, rfl⟩ := stored_of_mem_shown_ids h hshows hi
      have hmatches := (mem_shown_ids h hshows hd).mp hi
      exact ⟨d, hd, rfl, ownsCategorised_of_matches hnot huncounted hmatches⟩
  · intro hcounted d hd hbare
    exact selects_congr h Iff.rfl hd
      ((matches_negated_of_bare hne hnot hbare).trans (and_iff_right hcounted))

end

/-- A domain of the sample store without technologies. -/
def bareDomain : Domain where
  id := 2
  domain := "beta.com"

/-- Negated filters of which the first goes without bounds. -/
def unboundedGroup : List CategoryFilter :=
  [{ category := "Payment", operator := .not },
    { category := "Hosting", maxCount := some 3, operator := .not }]

/-- A negated filter with a bound. -/
def boundedGroup : List CategoryFilter :=
  [{ category := "Payment", minCount := some 1, operator := .not }]

theorem negated_filters_meaning_small :
    Database.small.Sound ∧ unboundedGroup ≠ [] ∧ boundedGroup ≠ [] ∧
      (∀ g ∈ unboundedGroup, g.operator = .not) ∧ (∀ g ∈ boundedGroup, g.operator = .not) ∧
      (∃ g ∈ unboundedGroup, g.isCounted = false) ∧ (∀ g ∈ boundedGroup, g.isCounted = true) ∧
      (∀ d ∈ Database.small.domains,
        Selects Database.small (Filters.withCategories {} (some unboundedGroup)) d →
          OwnsCategorised Database.small d) ∧
      bareDomain ∈ Database.small.domains ∧ ¬ OwnsCategorised Database.small bareDomain ∧
      (Selects Database.small (Filters.withCategories {} (some boundedGroup)) bareDomain ↔
        Selects Database.small (Filters.withCategories {} none) bareDomain) := by
  have hunbounded : ∃ g ∈ unboundedGroup, g.isCounted = false := by decide
  have hbounded : ∀ g ∈ boundedGroup, g.isCounted = true := by decide
  have hnegated : ∀ g ∈ unboundedGroup, g.operator = .not := by decide
  have hnegated' : ∀ g ∈ boundedGroup, g.operator = .not := by decide
  have hstored : bareDomain ∈ Database.small.domains := by decide
  have hbare : ¬ OwnsCategorised Database.small bareDomain := by decide
  obtain ⟨howns, -⟩ :=
    negated_filters_meaning Database.small_sound {} (List.cons_ne_nil _ _) hnegated
  obtain ⟨-, hasks⟩ :=
    negated_filters_meaning Database.small_sound {} (List.cons_ne_nil _ _) hnegated'
  exact ⟨Database.small_sound, List.cons_ne_nil _ _, List.cons_ne_nil _ _, hnegated, hnegated',
    hunbounded, hbounded, (howns hunbounded).1, hstored, hbare,
    (hasks hbounded bareDomain hstored hbare).1⟩

/-- A negated filter with a bound finds a domain without technologies. -/
theorem negated_bound_finds_bare :
    Filters.read .value (.obj [("technologyCategories", .arr [.obj [("category", .str "Payment"),
      ("minCount", .int 1), ("operator", .str "NOT")]])]) =
        .accept (Filters.withCategories {} (some boundedGroup)) ∧
      Database.small.Sound ∧ bareDomain ∈ Database.small.domains ∧
      linksOf Database.small bareDomain.id = [] ∧
      ¬ OwnsCategorised Database.small bareDomain ∧
      Selects Database.small (Filters.withCategories {} (some boundedGroup)) bareDomain := by
  refine ⟨rfl, Database.small_sound, by decide, rfl, by decide, ?_⟩
  exact selects_of_matches Database.small_sound (by decide) (by decide) (by decide)

end TechCatalog.Search
