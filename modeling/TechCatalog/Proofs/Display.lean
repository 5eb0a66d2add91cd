import TechCatalog.Proofs.Pages
import TechCatalog.Proofs.Statistics

/-!
# What is filtered and sorted is what is shown

A search filters and sorts by the kept statistics, and shows numbers that are counted anew. After a
rebuild these are the same: the number of links of a domain decides whether it is found, where it
stands, and is what is shown of it.
-/

namespace TechCatalog.Search

open Request Store Query Profile Service

/-- Whatever page is shown, its profiles describe domains that match. -/
theorem shown_matches {db : Database} (h : db.Sound) {f : Filters} {p : Paging} {s : Settings}
    {requestId : Option String} {result : ResultPage}
    (hresult : (execute db f p s requestId).result = .ok result) :
    ∀ q ∈ result.domains, ∃ d ∈ db.domains, Matches db f d ∧ Describes db d q := by
  intro q hq
  obtain ⟨pair, hpair, total, -, page, hpage, shown, hshown, rfl⟩ := execute_eq_ok.mp hresult
  have hcomposed := assemble_ok hpair
  subst hcomposed
  obtain ⟨d, hd, hdescribes⟩ := exists_of_forall₂ (profiles_describe hshown).flip hq
  obtain ⟨hstored, hmatches⟩ := matches_of_run h hpage d hd
  exact ⟨d, hstored, hmatches, hdescribes⟩

/-- The number of technologies that is shown is the number of links, where links resolve. -/
theorem Describes.totalTechnologies {db : Database} (hl : db.LinksResolve) {d : Domain}
    {q : DomainProfile} (h : Describes db d q) :
    q.summary.totalTechnologies = (linksOf db d.id).length := by
  rw [h.summary]
  exact totalTechnologies_eq hl h.technologies

/-- A search for domains by the number of their technologies only. -/
def countSearch (r : CountRange) : Filters where
  technologyCountRange := some r

theorem admits_of_inactive {r : CountRange} (h : r.isActive = false) (x : Int) :
    r.Admits id x := by
  rw [Range.isActive, Bool.or_eq_false_iff, Option.isSome_eq_false_iff,
    Option.isSome_eq_false_iff, Option.isNone_iff_eq_none, Option.isNone_iff_eq_none] at h
  rw [Range.Admits, h.1, h.2]
  constructor
  · intro lo hlo
    cases hlo
  · intro hi hhi
    cases hhi

section

variable {db db' : Database}

/-- In a rebuilt store, a search by the number of technologies goes by the number of links. -/
theorem matches_countSearch (h : Stats.Rebuilt db db') (hs : db.Sound) (r : CountRange) {d : Domain}
    (hd : d ∈ db'.domains) :
    Matches db' (countSearch r) d ↔ r.Admits id (linksOf db' d.id).length := by
  obtain ⟨row, hrow, htotal⟩ := h.statsOf_totalTechnologies hs hd
  have hfind := statsOf_eq_some_iff (h.sound hs) d.id
  have hlinks : joinNeeded (countSearch r) false .links = false := rfl
  rw [← htotal, matches_iff_domainAccepted hlinks]
  constructor
  · intro haccepted
    cases hactive : r.isActive with
    | false => exact admits_of_inactive hactive _
    | true =>
      obtain ⟨other, hother, hid, hadmits⟩ := haccepted.counted r rfl hactive
      rw [(hfind other).mpr ⟨hother, hid⟩, Option.some.injEq] at hrow
      rw [← hrow]
      exact hadmits
  · intro hadmits
    exact {
      domain := fun _ hg => nomatch hg
      companyName := fun _ hg => nomatch hg
      category := fun _ hg => nomatch hg
      country := fun _ hg => nomatch hg
      refused := fun _ hg => nomatch hg
      required := fun _ hg => nomatch hg
      counted := by
        intro g hg _
        cases hg
        exact ⟨row, ((hfind row).mp hrow).1, ((hfind row).mp hrow).2, hadmits⟩ }

/-- In a rebuilt store, sorting by the number of technologies goes by the number of links. -/
theorem sortCell_totalTechnologies (h : Stats.Rebuilt db db') (hs : db.Sound) {d : Domain}
    (hd : d ∈ db'.domains) : sortCell db' (.ofStats .totalTechnologies) d =
      some (.int (linksOf db' d.id).length) := by
  obtain ⟨row, hrow, htotal⟩ := h.statsOf_totalTechnologies hs hd
  rw [sortCell, hrow, Option.bind_some, ← htotal]
  rfl

/-- The domains whose number of links is within a range. -/
def domainsWithin (db : Database) (r : CountRange) : List Domain :=
  db.domains.filter fun d => decide (r.Admits id (linksOf db d.id).length)

theorem listing_countSearch_perm (h : Stats.Rebuilt db db') (hs : db.Sound) (r : CountRange)
    (p : Paging) : (listingOf db' (countSearch r) p).Perm (domainsWithin db' r) := by
  refine listing_perm.trans (List.Perm.of_eq (List.filter_congr fun d hd => ?_))
  rw [decide_eq_decide]
  exact matches_countSearch h hs r hd

/-- In a listing by the number of technologies, the numbers of links stand in order. -/
theorem listing_links_sorted (h : Stats.Rebuilt db db') (hs : db.Sound) (f : Filters)
    (descending : Bool) :
    ((listing db' f (.ofStats .totalTechnologies) descending).map fun d =>
      ((linksOf db' d.id).length : Int)).Pairwise
        fun m n => if descending then n ≤ m else m ≤ n := by
  rw [List.pairwise_map]
  refine listing_sorted.imp_of_mem fun {d e} hd he hde => ?_
  have hcells := directedOrder_of_listingOrder hde
  rw [sortCell_totalTechnologies h hs (mem_listing.mp hd).1,
    sortCell_totalTechnologies h hs (mem_listing.mp he).1] at hcells
  cases descending with
  | false => exact Int.isLE_compare.mp hcells
  | true => exact Int.isLE_compare.mp hcells

theorem listingOf_totalTechnologies (db : Database) (f : Filters) {p : Paging}
    (hsort : p.sortBy = some "ds.total_technologies") : listingOf db f p =
      listing db f (.ofStats .totalTechnologies) (p.sortOrder == .descending) := by
  have hkey : SortKey.ofName? "ds.total_technologies" =
      some ⟨.ofStats .totalTechnologies, true⟩ := by decide
  simp only [listingOf, sortOf, hsort, hkey]

/-- The numbers of technologies shown on the pages of a search that is sorted by them are in order,
also from one page to the next. -/
theorem shown_totals_sorted (h : Stats.Rebuilt db db') (hs : db.Sound) (hl : db.LinksResolve)
    {f : Filters} {p : Paging} (hsort : p.sortBy = some "ds.total_technologies")
    {s : Settings} {requestId : Option String} {pages : Nat} {result : Nat → ResultPage}
    (hpages : PagesComplete db' f p s requestId pages result) :
    ((shownOn pages result).map (·.summary.totalTechnologies)).Pairwise
      fun m n => if p.sortOrder == .descending then n ≤ m else m ≤ n := by
  have hdescribe := pages_describe (h.sound hs) hpages
  rw [map_eq_of_describes hdescribe fun d q hq => hq.totalTechnologies (h.linksResolve hl),
    List.map_take, listingOf_totalTechnologies db' f hsort]
  exact (listing_links_sorted h hs f _).sublist (List.take_sublist _ _)

/-- The pages of a search by the number of technologies show the domains whose number of links is
within the range. -/
theorem shown_ids_perm (h : Stats.Rebuilt db db') (hs : db.Sound) (r : CountRange) {p : Paging}
    {s : Settings} {requestId : Option String} {pages : Nat} {result : Nat → ResultPage}
    (hpages : PagesComplete db' (countSearch r) p s requestId pages result)
    (hlength : (domainsWithin db' r).length ≤ pages * (limitOf p s).toNat) :
    ((shownOn pages result).map (·.id)).Perm ((domainsWithin db' r).map (·.id)) := by
  have hperm := listing_countSearch_perm h hs r p
  have hdescribe := all_pages_describe (h.sound hs) hpages (by rw [hperm.length_eq]; exact hlength)
  rw [map_eq_of_describes hdescribe fun d q hq => hq.id]
  exact hperm.map _

end

/-- After a rebuild, a search by the number of technologies shows over its pages the domains whose
number of links is within the range, the numbers that are shown of them are within it, and a search
that is sorted by the number of technologies shows these numbers in order. -/
theorem shown_as_filtered_and_sorted {trouble : Stats.Trouble} {s s' : Session} {n : Nat}
    (hs : s.working.Sound) (hl : s.working.LinksResolve)
    (h : Stats.rebuild trouble s = (s', .ok n)) (p : Paging) (settings : Settings)
    (requestId : Option String) :
    (∀ (r : CountRange) (pages : Nat) (result : Nat → ResultPage),
      (domainsWithin s'.working r).length ≤ pages * (limitOf p settings).toNat →
      PagesComplete s'.working (countSearch r) p settings requestId pages result →
      ((shownOn pages result).map (·.id)).Perm
        ((domainsWithin s'.working r).map (·.id))) ∧
    (∀ (r : CountRange) (result : ResultPage),
      (execute s'.working (countSearch r) p settings requestId).result = .ok result →
      ∀ q ∈ result.domains, r.Admits id q.summary.totalTechnologies) ∧
    (p.sortBy = some "ds.total_technologies" →
      ∀ (f : Filters) (pages : Nat) (result : Nat → ResultPage),
      PagesComplete s'.working f p settings requestId pages result →
      ((shownOn pages result).map (·.summary.totalTechnologies)).Pairwise
        fun m n => if p.sortOrder == .descending then n ≤ m else m ≤ n) := by
  obtain ⟨hrebuilt, -, -⟩ := Stats.rebuild_ok h
  refine ⟨?_, ?_, ?_⟩
  · intro r pages result hlength hpages
    exact shown_ids_perm hrebuilt hs r hpages hlength
  · intro r result hresult q hq
    obtain ⟨d, hd, hmatches, hdescribes⟩ := shown_matches (hrebuilt.sound hs) hresult q hq
    rw [hdescribes.totalTechnologies (hrebuilt.linksResolve hl)]
    exact (matches_countSearch hrebuilt hs r hd).mp hmatches
  · intro hsort f pages result hpages
    exact shown_totals_sorted hrebuilt hs hl hsort hpages

/-- Domains by the number of their technologies, the greatest number first. -/
def mostFirst : Paging where
  sortBy := some "ds.total_technologies"
  sortOrder := .descending

theorem recounted_sound : recounted.Sound :=
  (Stats.rebuild_ok rebuild_small).1.sound Database.small_sound

theorem countSearch_completes : ∃ result,
    PagesComplete recounted (countSearch { max := some 1 }) mostFirst {} none 1 result := by
  have hfound : recounted.domains.filter
      (fun d => decide (Matches recounted (countSearch { max := some 1 }) d)) =
        Database.small.domains.drop 1 := by decide
  have hlisting : listingOf recounted (countSearch { max := some 1 }) mostFirst =
      Database.small.domains.drop 1 := by
    rw [listingOf, listing, hfound]
    exact List.mergeSort_singleton _
  have hshown : ∃ shown, (profiles recounted (((listingOf recounted
      (countSearch { max := some 1 }) mostFirst).drop 0).take 25)).result = .ok shown := by
    rw [hlisting]
    exact ⟨_, (profiles_eq_ok (List.cons_ne_nil _ _)).mpr ⟨_, rfl, .cons rfl .nil⟩⟩
  obtain ⟨shown, hshown⟩ := hshown
  refine exists_pagesComplete fun i hi => ?_
  obtain rfl : i = 0 := by omega
  exact ⟨by decide, _, execute_completes recounted_sound none rfl rfl rfl hshown⟩

theorem mostFirst_completes : ∃ result,
    PagesComplete recounted {} mostFirst {} none 1 result := by
  have hfound : recounted.domains.filter (fun d => decide (Matches recounted {} d)) =
      Database.small.domains := by decide
  have hlisting : listingOf recounted {} mostFirst = Database.small.domains := by
    rw [listingOf, listing, hfound]
    exact List.mergeSort_of_pairwise (by decide)
  have hshown : ∃ shown, (profiles recounted (((listingOf recounted {} mostFirst).drop
      0).take 25)).result = .ok shown := by
    rw [hlisting]
    exact ⟨_, (profiles_eq_ok (List.cons_ne_nil _ _)).mpr ⟨_, rfl, .cons rfl (.cons rfl .nil)⟩⟩
  obtain ⟨shown, hshown⟩ := hshown
  refine exists_pagesComplete fun i hi => ?_
  obtain rfl : i = 0 := by omega
  exact ⟨by decide, _, execute_completes recounted_sound none rfl rfl rfl hshown⟩

theorem shown_as_filtered_and_sorted_small :
    Database.small.Sound ∧ Database.small.LinksResolve ∧
      Stats.rebuild Stats.noTrouble (Session.start Database.small) =
        (⟨Database.small, recounted⟩, .ok 2) ∧
      (∃ result,
        PagesComplete recounted (countSearch { max := some 1 }) mostFirst {} none 1 result ∧
        ((shownOn 1 result).map (·.id)).Perm [2] ∧
        ∀ q ∈ (result 0).domains, q.summary.totalTechnologies ≤ 1) ∧
      ∃ result, PagesComplete recounted {} mostFirst {} none 1 result ∧
        ((shownOn 1 result).map (·.summary.totalTechnologies)).Pairwise (· ≥ ·) := by
  obtain ⟨hfiltered, hwithin, hsorted⟩ := shown_as_filtered_and_sorted
    (s := Session.start Database.small) Database.small_sound Database.small_linksResolve
    rebuild_small mostFirst {} none
  obtain ⟨few, hfew⟩ := countSearch_completes
  obtain ⟨all, hall⟩ := mostFirst_completes
  have hnumber : (domainsWithin recounted { max := some 1 }).map (·.id) = [2] := by decide
  refine ⟨Database.small_sound, Database.small_linksResolve, rebuild_small,
    ⟨few, hfew, ?_, fun q hq => ?_⟩, all, hall, hsorted rfl {} 1 all hall⟩
  · rw [← hnumber]
    exact hfiltered _ 1 few (by decide) hfew
  · exact (hwithin _ (few 0) (hfew 0 (by decide)).2 q hq).2 1 rfl

end TechCatalog.Search
