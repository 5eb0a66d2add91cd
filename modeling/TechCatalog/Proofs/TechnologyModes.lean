import TechCatalog.Proofs.Finding

/-!
# Three ways to ask for names of technologies

A search can include names of technologies, exclude them or require them together. Names to include
are looked for in the joined link, names to exclude are kept off by a list of owners, and owners of
required names are found by counting distinct names. The three agree: a search that excludes names
finds what the search that includes them leaves out, domains without technologies among it, and a
search that requires names finds what all searches that include one of them find.
-/

namespace TechCatalog.Search

open Request Store Query Profile

/-- The search for the domains that own a technology with one of some names. -/
def includingAny (names : List String) : Filters where
  technologies := some { included := some names }

/-- The search for the domains that own no technology with one of some names. -/
def excluding (names : List String) : Filters where
  technologies := some { excluded := some names }

/-- The search for the domains that own technologies with all of some names. -/
def requiring (names : List String) : Filters where
  technologies := some { required := some names }

section

variable {db : Database} {d : Domain} {names : List String}

theorem technologies_nanFree (g : ListFilter) :
    Filters.NaNFree { technologies := some g } := by
  rintro r ⟨⟩

theorem matches_includingAny (hne : names ≠ []) :
    Matches db (includingAny names) d ↔ ∃ l ∈ linksOf db d.id, l.technologyName ∈ names := by
  rw [includingAny, matches_technologies]
  simp [valuesOf, hne]

theorem matches_excluding :
    Matches db (excluding names) d ↔ ∀ l ∈ linksOf db d.id, l.technologyName ∉ names := by
  rw [excluding, matches_technologies]
  simp [valuesOf]

theorem matches_requiring :
    Matches db (requiring names) d ↔
      ∀ name ∈ names, ∃ l ∈ linksOf db d.id, l.technologyName = name := by
  rw [requiring, matches_technologies]
  simp [valuesOf]

/-- A domain matches the search that excludes names if it does not match the one that includes
them. -/
theorem matches_excluding_iff_not (hne : names ≠ []) :
    Matches db (excluding names) d ↔ ¬ Matches db (includingAny names) d := by
  rw [matches_excluding, matches_includingAny hne]
  push Not
  rfl

/-- A domain matches the search that requires names if it matches each search that includes one. -/
theorem matches_requiring_iff_forall :
    Matches db (requiring names) d ↔ ∀ name ∈ names, Matches db (includingAny [name]) d := by
  rw [matches_requiring]
  refine forall₂_congr fun name _ => ?_
  rw [matches_includingAny (List.cons_ne_nil name [])]
  simp only [List.mem_singleton]

/-- What the statements select of one way to ask they pass over, or select, of the others. -/
theorem selects_modes (h : db.Sound) (hne : names ≠ []) (hd : d ∈ db.domains) :
    (Selects db (excluding names) d ↔ PassesOver db (includingAny names) d) ∧
    (PassesOver db (excluding names) d ↔ Selects db (includingAny names) d) ∧
    (linksOf db d.id = [] → Selects db (excluding names) d) ∧
    (Selects db (requiring names) d ↔ ∀ name ∈ names, Selects db (includingAny [name]) d) ∧
    (PassesOver db (requiring names) d ↔
      ∃ name ∈ names, PassesOver db (includingAny [name]) d) := by
  have hselects := fun g => selects_iff_matches h (technologies_nanFree g) hd
  have hpasses := fun g => passesOver_iff_not_matches h (technologies_nanFree g) hd
  refine ⟨?_, ?_, ?_, ?_, ?_⟩
  · exact (hselects _).trans ((matches_excluding_iff_not hne).trans (hpasses _).symm)
  · refine (hpasses _).trans (Iff.trans ?_ (hselects _).symm)
    exact (not_congr (matches_excluding_iff_not hne)).trans not_not
  · intro hnone
    refine (hselects _).mpr (matches_excluding.mpr ?_)
    rw [hnone]
    exact List.forall_mem_nil _
  · refine (hselects _).trans (matches_requiring_iff_forall.trans ?_)
    exact forall₂_congr fun name _ => (hselects _).symm
  · refine (hpasses _).trans ((not_congr matches_requiring_iff_forall).trans ?_)
    rw [not_forall₂]
    exact exists_congr fun name => exists_prop.trans (and_congr_right fun _ => (hpasses _).symm)

/-- The pages of the searches that include and that exclude names show every domain once between
them. -/
theorem shown_including_excluding (h : db.Sound) (hne : names ≠ []) {included excluded : List Int}
    (hincluded : ShowsInFull db (includingAny names) included)
    (hexcluded : ShowsInFull db (excluding names) excluded) :
    (included ++ excluded).Perm (db.domains.map (·.id)) := by
  -- The second search asks for the opposite of what the first one asks for, of every domain.
  have hshown := shown_append_perm h (p := fun _ => true) (fun _ _ _ => rfl)
    (fun d _ => (matches_excluding_iff_not hne).trans (and_iff_right rfl).symm) hincluded hexcluded
  rwa [List.filter_true] at hshown

/-- The pages of the search that requires names show what the pages of all searches for one of them
show. -/
theorem mem_shown_requiring (h : db.Sound) (hne : names ≠ []) {required : List Int}
    {single : String → List Int} (hrequired : ShowsInFull db (requiring names) required)
    (hsingle : ∀ name ∈ names, ShowsInFull db (includingAny [name]) (single name)) (i : Int) :
    i ∈ required ↔ ∀ name ∈ names, i ∈ single name := by
  constructor
  · intro hi name hname
    obtain ⟨d, hd, rfl⟩ := stored_of_mem_shown_ids h hrequired hi
    have hmatches := (mem_shown_ids h hrequired hd).mp hi
    exact (mem_shown_ids h (hsingle name hname) hd).mpr
      (matches_requiring_iff_forall.mp hmatches name hname)
  · intro hi
    obtain ⟨name, hname⟩ := List.exists_mem_of_ne_nil names hne
    obtain ⟨d, hd, rfl⟩ := stored_of_mem_shown_ids h (hsingle name hname) (hi name hname)
    refine (mem_shown_ids h hrequired hd).mpr (matches_requiring_iff_forall.mpr ?_)
    intro other hother
    exact (mem_shown_ids h (hsingle other hother) hd).mp (hi other hother)

/-- The search that excludes names finds the domains that the search that includes them leaves out,
and the search that requires names finds the domains that every search that includes one of them
finds. So it is with what the statements of these searches select, and with what their pages show:
those that include and those that exclude show every domain of the store once between them. -/
theorem technology_modes_agree (h : db.Sound) (hne : names ≠ []) :
    (∀ d ∈ db.domains,
      (Selects db (excluding names) d ↔ PassesOver db (includingAny names) d) ∧
      (PassesOver db (excluding names) d ↔ Selects db (includingAny names) d) ∧
      (linksOf db d.id = [] → Selects db (excluding names) d) ∧
      (Selects db (requiring names) d ↔ ∀ name ∈ names, Selects db (includingAny [name]) d) ∧
      (PassesOver db (requiring names) d ↔
        ∃ name ∈ names, PassesOver db (includingAny [name]) d)) ∧
    (∀ included excluded : List Int, ShowsInFull db (includingAny names) included →
      ShowsInFull db (excluding names) excluded →
      (included ++ excluded).Perm (db.domains.map (·.id))) ∧
    ∀ (required : List Int) (single : String → List Int),
      ShowsInFull db (requiring names) required →
      (∀ name ∈ names, ShowsInFull db (includingAny [name]) (single name)) →
      required.Nodup ∧ ∀ i, i ∈ required ↔ ∀ name ∈ names, i ∈ single name := by
  refine ⟨fun d hd => selects_modes h hne hd, ?_, ?_⟩
  · intro included excluded hincluded hexcluded
    exact shown_including_excluding h hne hincluded hexcluded
  · intro required single hrequired hsingle
    exact ⟨shown_ids_nodup h hrequired, mem_shown_requiring h hne hrequired hsingle⟩

end

/-- A store of three domains with two technologies, with one and with none. -/
def stepped : Database where
  domains := [{ id := 1, domain := "alpha.com" }, { id := 2, domain := "beta.com" },
    { id := 3, domain := "gamma.com" }]
  technologies := [{ id := 1, name := "React" }, { id := 2, name := "Stripe" }]
  links := [
    { id := 1, domainId := 1, technologyId := 1, domainName := "alpha.com",
      technologyName := "React" },
    { id := 2, domainId := 1, technologyId := 2, domainName := "alpha.com",
      technologyName := "Stripe" },
    { id := 3, domainId := 2, technologyId := 1, domainName := "beta.com",
      technologyName := "React" }]

/-- Names of which one is repeated. -/
def repeatedNames : List String := ["React", "Stripe", "React"]

theorem stepped_sound : stepped.Sound where
  keys t := by cases t <;> decide
  uniques t := by cases t <;> decide

theorem stepped_whole : Whole stepped := by
  decide

/-- The first one or two domains of this store, or the last one, are shown by a search that matches
none but them. -/
theorem stepped_shows {f : Filters} (ds : List Domain) (hds : ds ∈ [stepped.domains.take 1,
    stepped.domains.take 2, stepped.domains.drop 2])
    (hfilter : stepped.domains.filter (fun d => decide (Matches stepped f d)) = ds)
    {q : QueryPair} (hq : (assemble f {} {}).1 = .ok q) {total : Nat}
    (hcount : q.selection.runCount stepped = .ok total)
    (hrun : q.page.selection.obstacle? stepped q.page.statement q.page.lookups = none) :
    ShowsInFull stepped f (ds.map (·.id)) := by
  simp only [List.mem_cons, List.not_mem_nil, or_false] at hds
  have hsorted : ds.Pairwise fun d e =>
      (listingOrder stepped (.ofDomain .domain) false d e).isLE = true := by
    rcases hds with rfl | rfl | rfl <;> decide
  have hfew : ds.length ≤ 25 := by
    rcases hds with rfl | rfl | rfl <;> decide
  exact showsInFull_of_sorted stepped_sound stepped_whole ds hq hcount hrun hfilter hsorted hfew

theorem technology_modes_agree_repeated :
    stepped.Sound ∧ repeatedNames ≠ [] ∧
      ShowsInFull stepped (includingAny repeatedNames) [1, 2] ∧
      ShowsInFull stepped (excluding repeatedNames) [3] ∧
      ShowsInFull stepped (requiring repeatedNames) [1] ∧
      (∀ name ∈ repeatedNames, ShowsInFull stepped (includingAny [name])
        (if name = "React" then [1, 2] else [1])) ∧
      (∀ d ∈ stepped.domains, Selects stepped (excluding repeatedNames) d ↔
        PassesOver stepped (includingAny repeatedNames) d) ∧
      ([1, 2] ++ [3] : List Int).Perm (stepped.domains.map (·.id)) ∧
      ∀ i : Int, i ∈ [1] ↔
        ∀ name ∈ repeatedNames, i ∈ if name = "React" then [1, 2] else [1] := by
  have hne : repeatedNames ≠ [] := List.cons_ne_nil _ _
  have hincluded : ShowsInFull stepped (includingAny repeatedNames) [1, 2] :=
    stepped_shows (stepped.domains.take 2) (by decide) (by decide) rfl rfl rfl
  have hexcluded : ShowsInFull stepped (excluding repeatedNames) [3] :=
    stepped_shows (stepped.domains.drop 2) (by decide) (by decide) rfl rfl rfl
  have hrequired : ShowsInFull stepped (requiring repeatedNames) [1] :=
    stepped_shows (stepped.domains.take 1) (by decide) (by decide) rfl rfl rfl
  have hreact : ShowsInFull stepped (includingAny ["React"]) [1, 2] :=
    stepped_shows (stepped.domains.take 2) (by decide) (by decide) rfl rfl rfl
  have hstripe : ShowsInFull stepped (includingAny ["Stripe"]) [1] :=
    stepped_shows (stepped.domains.take 1) (by decide) (by decide) rfl rfl rfl
  have hsingle : ∀ name ∈ repeatedNames, ShowsInFull stepped (includingAny [name])
      (if name = "React" then [1, 2] else [1]) := by
    simp only [repeatedNames, List.forall_mem_cons]
    exact ⟨hreact, hstripe, hreact, List.forall_mem_nil _⟩
  obtain ⟨hselects, hpartition, hall⟩ := technology_modes_agree stepped_sound hne
  exact ⟨stepped_sound, hne, hincluded, hexcluded, hrequired, hsingle,
    fun d hd => (hselects d hd).1, hpartition _ _ hincluded hexcluded,
    (hall _ _ hrequired hsingle).2⟩

end TechCatalog.Search
