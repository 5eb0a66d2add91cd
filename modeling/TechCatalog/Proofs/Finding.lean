import TechCatalog.Proofs.Phases

/-!
# What a search finds

A search finds the domains that match it, in three senses. Its statements select them and pass over
all others, whatever page is asked for. Its counting statement runs and gives their number, where
the store has all tables and columns and no value is in the way. And its pages, read to the end,
show them, each once.
-/

namespace TechCatalog.Search

open Request Store Query Profile Service

/-- A store without gaps: no table or column is missing, every domain has a number that fits and
texts that can be shown, and the technologies of a usual page can be asked for. -/
structure Whole (db : Database) : Prop where
  tables : db.droppedTables = []
  columns : db.droppedColumns = []
  ids : ∀ d ∈ db.domains, fits d.id = true
  texts : ∀ d ∈ db.domains, Showable db.platform.reader d
  room : 25 ≤ db.platform.variableLimit

instance (db : Database) : Decidable (Whole db) :=
  decidable_of_iff (_ ∧ _ ∧ _ ∧ _ ∧ _)
    ⟨fun ⟨tables, columns, ids, texts, room⟩ => ⟨tables, columns, ids, texts, room⟩,
      fun ⟨tables, columns, ids, texts, room⟩ => ⟨tables, columns, ids, texts, room⟩⟩

/-- The statements of a search select a domain: it is among those that the one counts and among
those that the other puts in order. -/
def Selects (db : Database) (f : Filters) (d : Domain) : Prop :=
  ∀ p s, ∃ q, (assemble f p s).1 = .ok q ∧
    d.id ∈ (q.selection.rows db).map (·.domain.id) ∧ d ∈ (q.page.sorted db).map (·.domain)

/-- The statements of a search pass over a domain: it is neither among those that the one counts nor
among those that the other puts in order. -/
def PassesOver (db : Database) (f : Filters) (d : Domain) : Prop :=
  ∀ p s, ∃ q, (assemble f p s).1 = .ok q ∧
    d.id ∉ (q.selection.rows db).map (·.domain.id) ∧ d ∉ (q.page.sorted db).map (·.domain)

/-- The number of domains that a search finds. -/
def found (db : Database) (f : Filters) : Nat :=
  db.domains.countP fun d => decide (Matches db f d)

/-- A search finds so many domains: whatever page is asked for, the statements are assembled, the
counting statement gives this number, and it is the total of every result. -/
def Finds (db : Database) (f : Filters) (n : Nat) : Prop :=
  ∀ p s, ∃ q, (assemble f p s).1 = .ok q ∧ q.selection.runCount db = .ok n ∧
    ∀ requestId result, (execute db f p s requestId).result = .ok result → result.totalCount = n

/-- A search is read to its end: all its pages complete, up to the one that shows the last of the
domains that the first one counts. They show the domains of these numbers, one page after the
other. -/
def ShowsInFull (db : Database) (f : Filters) (ids : List Int) : Prop :=
  ∃ (p : Paging) (s : Settings) (requestId : Option String) (pages : Nat)
    (result : Nat → ResultPage),
    0 < pages ∧ PagesComplete db f p s requestId pages result ∧
    (result 0).totalCount ≤ pages * (limitOf p s).toNat ∧ (shownOn pages result).map (·.id) = ids

section

variable {db : Database} {f : Filters} {d : Domain}

theorem mem_row_ids (h : db.Sound) (o : PageOrder) (hd : d ∈ db.domains) :
    d.id ∈ ((composePair f o).selection.rows db).map (·.domain.id) ↔ Matches db f d := by
  constructor
  · intro hmem
    obtain ⟨r, hr, hid⟩ := List.mem_map.mp hmem
    obtain ⟨hstored, hmatches⟩ := (mem_rows_domains h o).mp (List.mem_map_of_mem hr)
    rw [h.domain_eq hd hstored hid.symm]
    exact hmatches
  · intro hmatches
    obtain ⟨r, hr, rfl⟩ := List.mem_map.mp ((mem_rows_domains h o).mpr ⟨hd, hmatches⟩)
    exact List.mem_map_of_mem hr

/-- A search without NaN selects the domains that match and passes over the others. -/
theorem selects_of_matches (h : db.Sound) (hnan : f.NaNFree) (hd : d ∈ db.domains)
    (hmatches : Matches db f d) : Selects db f d := by
  intro p s
  refine ⟨composePair f (PageOrder.of p s).1, ?_, (mem_row_ids h _ hd).mpr hmatches, ?_⟩
  · rw [assemble_eq, if_pos hnan]
  · exact (mem_sorted_domains h).mpr ⟨hd, hmatches⟩

theorem passesOver_of_not_matches (h : db.Sound) (hnan : f.NaNFree) (hd : d ∈ db.domains)
    (hmatches : ¬ Matches db f d) : PassesOver db f d := by
  intro p s
  refine ⟨composePair f (PageOrder.of p s).1, ?_, mt (mem_row_ids h _ hd).mp hmatches, ?_⟩
  · rw [assemble_eq, if_pos hnan]
  · intro hmem
    exact hmatches ((mem_sorted_domains h).mp hmem).2

/-- Statements that bind NaN are not assembled, so nothing is selected or passed over by them. -/
theorem nanFree_of_assemble {p : Paging} {s : Settings} {q : QueryPair}
    (hq : (assemble f p s).1 = .ok q) : f.NaNFree := by
  by_contra hnan
  rw [assemble_eq, if_neg hnan] at hq
  cases hq

theorem selects_iff (h : db.Sound) (hd : d ∈ db.domains) :
    Selects db f d ↔ f.NaNFree ∧ Matches db f d := by
  constructor
  · intro hselects
    obtain ⟨q, hq, hmem, -⟩ := hselects {} {}
    rw [assemble_ok hq] at hmem
    exact ⟨nanFree_of_assemble hq, (mem_row_ids h _ hd).mp hmem⟩
  · rintro ⟨hnan, hmatches⟩
    exact selects_of_matches h hnan hd hmatches

theorem passesOver_iff (h : db.Sound) (hd : d ∈ db.domains) :
    PassesOver db f d ↔ f.NaNFree ∧ ¬ Matches db f d := by
  constructor
  · intro hpasses
    obtain ⟨q, hq, hnot, -⟩ := hpasses {} {}
    rw [assemble_ok hq] at hnot
    exact ⟨nanFree_of_assemble hq, mt (mem_row_ids h _ hd).mpr hnot⟩
  · rintro ⟨hnan, hmatches⟩
    exact passesOver_of_not_matches h hnan hd hmatches

theorem selects_iff_matches (h : db.Sound) (hnan : f.NaNFree) (hd : d ∈ db.domains) :
    Selects db f d ↔ Matches db f d :=
  (selects_iff h hd).trans (and_iff_right hnan)

theorem passesOver_iff_not_matches (h : db.Sound) (hnan : f.NaNFree) (hd : d ∈ db.domains) :
    PassesOver db f d ↔ ¬ Matches db f d :=
  (passesOver_iff h hd).trans (and_iff_right hnan)

/-- Searches that match a domain alike select it alike and pass it over alike. -/
theorem selects_congr (h : db.Sound) {g : Filters} (hnan : f.NaNFree ↔ g.NaNFree)
    (hd : d ∈ db.domains) (hmatches : Matches db f d ↔ Matches db g d) :
    (Selects db f d ↔ Selects db g d) ∧ (PassesOver db f d ↔ PassesOver db g d) := by
  constructor
  · rw [selects_iff h hd, selects_iff h hd, hnan, hmatches]
  · rw [passesOver_iff h hd, passesOver_iff h hd, hnan, hmatches]

theorem finds_found (h : db.Sound) (htables : db.droppedTables = [])
    (hcolumns : db.droppedColumns = []) (hnan : f.NaNFree) (hfits : f.CountsFit)
    (hpatterns : ∀ c ∈ clausesOf f, c.tests.any Test.tooLong = false) :
    Finds db f (found db f) := by
  intro p s
  have hq : (assemble f p s).1 = .ok (composePair f (PageOrder.of p s).1) := by
    rw [assemble_eq, if_pos hnan]
  have hvalues : (composePair f (PageOrder.of p s).1).selection.countStatement.values.any
      Value.overflows = false := by
    rw [any_overflows_eq, Selection.bindings_countStatement]
    exact (clausesOf_overflows_eq_false_iff f).mpr hfits
  have hcount : (composePair f (PageOrder.of p s).1).selection.runCount db = .ok (found db f) := by
    have hshort : ∀ r ∈ joinedRows db (composePair f (PageOrder.of p s).1).selection.joins,
        meetsLongPattern db r (clausesOf f) = false :=
      fun r _ => meetsLongPattern_eq_false db r hpatterns
    rw [Selection.runCount, obstacle?_eq _ hvalues hshort, lacks_eq_none htables hcolumns, found,
      ← count_eq_countP h f (PageOrder.of p s).1]
    rfl
  refine ⟨_, hq, hcount, fun requestId result hresult => ?_⟩
  -- A search that gives a result has counted, with the statement that was just run.
  obtain ⟨q', hq', total, htotal, page, -, shown, -, rfl⟩ := execute_eq_ok.mp hresult
  rw [assemble_ok hq', hcount] at htotal
  cases htotal
  rfl

/-- A search by attributes of the domain only binds no numbers. -/
theorem attributes_plain (domain companyName : Option TextFilter)
    (category country : Option ListFilter) :
    Filters.NaNFree { domain, companyName, category, country } ∧
      Filters.CountsFit { domain, companyName, category, country } := by
  refine ⟨?_, ?_, ?_, ?_⟩
  · rintro r ⟨⟩
  · rintro g ⟨⟩
  · rintro gs ⟨⟩
  · rintro r ⟨⟩

/-- The pages of a search that is read to its end show the domains that match, each once. -/
theorem shown_ids_perm_matching (h : db.Sound) {ids : List Int} (hshows : ShowsInFull db f ids) :
    ids.Perm ((db.domains.filter fun d => decide (Matches db f d)).map (·.id)) := by
  obtain ⟨p, s, requestId, pages, result, hpos, hpages, htotal, rfl⟩ := hshows
  have hlength : (result 0).totalCount = (listingOf db f p).length := by
    obtain ⟨hoffset, hresult⟩ := hpages 0 hpos
    refine (page_describes h (p := { p with page := 1 }) (Int.le_refl 1) ?_ hresult).1
    rw [Int.sub_self, Int.zero_mul]
    decide
  have hdescribe := all_pages_describe h hpages (by omega)
  rw [map_eq_of_describes hdescribe fun d q hq => hq.id]
  exact listing_perm.map _

theorem shown_ids_nodup (h : db.Sound) {ids : List Int} (hshows : ShowsInFull db f ids) :
    ids.Nodup :=
  (shown_ids_perm_matching h hshows).nodup_iff.mpr
    (h.domain_ids.sublist (List.filter_sublist.map _))

/-- Whatever is shown is the number of a domain of the store. -/
theorem stored_of_mem_shown_ids (h : db.Sound) {ids : List Int} (hshows : ShowsInFull db f ids)
    {i : Int} (hi : i ∈ ids) : ∃ d ∈ db.domains, d.id = i := by
  obtain ⟨d, hd, hid⟩ := List.mem_map.mp ((shown_ids_perm_matching h hshows).mem_iff.mp hi)
  exact ⟨d, (List.mem_filter.mp hd).1, hid⟩

theorem mem_shown_ids (h : db.Sound) {ids : List Int} (hshows : ShowsInFull db f ids)
    (hd : d ∈ db.domains) : d.id ∈ ids ↔ Matches db f d := by
  rw [(shown_ids_perm_matching h hshows).mem_iff, List.mem_map]
  simp only [List.mem_filter, decide_eq_true_eq]
  constructor
  · rintro ⟨e, ⟨he, hmatches⟩, hid⟩
    rw [← h.domain_eq he hd hid]
    exact hmatches
  · intro hmatches
    exact ⟨d, ⟨hd, hmatches⟩, rfl⟩

/-- Of two searches, let the one ask for the opposite of the other among the domains with a
property. Then the pages of both show every domain with the property once between them. -/
theorem shown_append_perm (h : db.Sound) {g : Filters} {p : Domain → Bool}
    (hf : ∀ d ∈ db.domains, Matches db f d → p d = true)
    (hg : ∀ d ∈ db.domains, Matches db g d ↔ p d = true ∧ ¬ Matches db f d) {ids ids' : List Int}
    (hids : ShowsInFull db f ids) (hids' : ShowsInFull db g ids') :
    (ids ++ ids').Perm ((db.domains.filter p).map (·.id)) := by
  have hfirst : db.domains.filter (fun d => decide (Matches db f d)) =
      (db.domains.filter p).filter fun d => decide (Matches db f d) := by
    rw [List.filter_filter]
    refine List.filter_congr fun d hd => ?_
    rw [Bool.eq_iff_iff, Bool.and_eq_true, decide_eq_true_eq]
    exact (and_iff_left_of_imp (hf d hd)).symm
  have hrest : db.domains.filter (fun d => decide (Matches db g d)) =
      (db.domains.filter p).filter fun d => !decide (Matches db f d) := by
    rw [List.filter_filter]
    refine List.filter_congr fun d hd => ?_
    rw [Bool.eq_iff_iff, Bool.and_eq_true, Bool.not_eq_true', decide_eq_true_eq,
      decide_eq_false_iff_not, hg d hd]
    exact and_comm
  have hshown := (shown_ids_perm_matching h hids).append (shown_ids_perm_matching h hids')
  rw [hfirst, hrest, ← List.map_append] at hshown
  exact hshown.trans ((List.filter_append_perm _ _).map _)

/-- Domains that stand in the usual order already are listed as they stand. -/
theorem listingOf_of_sorted {ds : List Domain}
    (hfilter : db.domains.filter (fun d => decide (Matches db f d)) = ds)
    (hsorted : ds.Pairwise fun d e =>
      (listingOrder db (.ofDomain .domain) false d e).isLE = true) :
    listingOf db f {} = ds := by
  rw [listingOf, listing, hfilter]
  exact List.mergeSort_of_pairwise hsorted

theorem Whole.profiles (hwhole : Whole db) {ds : List Domain} (hds : ∀ d ∈ ds, d ∈ db.domains)
    (hfew : ds.length ≤ 25) :
    (profiles db ds).result = .ok (ds.map fun d =>
      shownOf db.platform.reader d (technologiesIn (ownedRows db (ds.map (·.id))) d.id)) := by
  rw [profiles_result_eq db (lacks_eq_none hwhole.tables hwhole.columns _ _)
    (fun d hd => hwhole.ids d (hds d hd)) (Nat.le_trans hfew hwhole.room)]
  exact mapM_profile _ fun d hd => hwhole.texts d (hds d hd)

/-- The first page of a search shows a listing that is no longer than the usual page. -/
theorem execute_firstPage (h : db.Sound) {q : QueryPair} (hq : (assemble f {} {}).1 = .ok q)
    {total : Nat} (hcount : q.selection.runCount db = .ok total)
    (hrun : q.page.selection.obstacle? db q.page.statement q.page.lookups = none)
    {ds : List Domain} (hlisting : listingOf db f {} = ds) (hfew : ds.length ≤ 25)
    {shown : List DomainProfile} (hshown : (profiles db ds).result = .ok shown) :
    (execute db f {} {} none).result = .ok { domains := shown, totalCount := total } := by
  have hpart : ((listingOf db f {}).drop (PageOrder.of {} {}).1.offset.toNat).take
      (limitOf {} {}).toNat = ds := by
    rw [hlisting]
    exact List.take_of_length_le hfew
  exact execute_completes h none hq hcount hrun (hpart.symm ▸ hshown)

/-- A search whose listing fits on the usual page is read to its end by its first page. -/
theorem showsInFull_of_onePage (h : db.Sound) {q : QueryPair} (hq : (assemble f {} {}).1 = .ok q)
    {total : Nat} (hcount : q.selection.runCount db = .ok total)
    (hrun : q.page.selection.obstacle? db q.page.statement q.page.lookups = none)
    {ds : List Domain} (hlisting : listingOf db f {} = ds) (hfew : ds.length ≤ 25)
    (hprofiles : ∃ shown, (profiles db ds).result = .ok shown) :
    ShowsInFull db f (ds.map (·.id)) := by
  obtain ⟨shown, hshown⟩ := hprofiles
  have hresult := execute_firstPage h hq hcount hrun hlisting hfew hshown
  have hpages : PagesComplete db f {} {} none 1
      (fun _ => { domains := shown, totalCount := total }) := by
    intro i hi
    obtain rfl : i = 0 := by omega
    exact ⟨by decide, hresult⟩
  have hlength : (listingOf db f {}).length ≤ 1 * (limitOf {} {}).toNat := by
    rw [hlisting]
    exact hfew
  have htotal := (page_describes h (Int.le_refl 1) (by decide) hresult).1
  refine ⟨{}, {}, none, 1, _, Nat.one_pos, hpages, ?_, ?_⟩
  · rw [htotal]
    exact_mod_cast hlength
  · rw [map_eq_of_describes (all_pages_describe h hpages hlength) fun d q hq => hq.id, hlisting]

/-- In a store without gaps, so is a search whose domains are few and stand in the usual order. -/
theorem showsInFull_of_sorted (h : db.Sound) (hwhole : Whole db) (ds : List Domain)
    {q : QueryPair} (hq : (assemble f {} {}).1 = .ok q) {total : Nat}
    (hcount : q.selection.runCount db = .ok total)
    (hrun : q.page.selection.obstacle? db q.page.statement q.page.lookups = none)
    (hfilter : db.domains.filter (fun d => decide (Matches db f d)) = ds)
    (hsorted : ds.Pairwise fun d e =>
      (listingOrder db (.ofDomain .domain) false d e).isLE = true)
    (hfew : ds.length ≤ 25) : ShowsInFull db f (ds.map (·.id)) := by
  have hstored : ∀ d ∈ ds, d ∈ db.domains := by
    rw [← hfilter]
    exact fun d hd => List.mem_of_mem_filter hd
  exact showsInFull_of_onePage h hq hcount hrun (listingOf_of_sorted hfilter hsorted) hfew
    ⟨_, hwhole.profiles hstored hfew⟩

end

theorem small_whole : Whole Database.small := by
  decide

end TechCatalog.Search
