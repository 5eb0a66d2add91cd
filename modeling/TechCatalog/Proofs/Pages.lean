import TechCatalog.Proofs.Listing
import TechCatalog.Proofs.PageNumbers
import TechCatalog.Proofs.Shown

/-!
# Pages of a listing

The domains on a page of a search are the part of the listing that the number and the size of the
page cut out, and every page gives the length of the whole listing. So the pages, read one after the
other, show every domain that matches once.
-/

namespace TechCatalog.Search

open Request Store Query Profile Service

/-- A search completes when the statements are assembled, both run and the page can be shown. -/
theorem execute_eq_ok {db : Database} {f : Filters} {p : Paging} {s : Settings}
    {requestId : Option String} {result : ResultPage} :
    (execute db f p s requestId).result = .ok result ↔
      ∃ q, (assemble f p s).1 = .ok q ∧ ∃ total, q.selection.runCount db = .ok total ∧
        ∃ page, q.page.run db = .ok page ∧ ∃ shown, (profiles db page).result = .ok shown ∧
          { domains := shown, totalCount := total } = result := by
  simp only [execute, runPair, inPhase, Log.Traced.andThen_result_eq_ok,
    Log.Traced.onError_result_eq_ok, Log.Traced.map_result_eq_ok, mapError_eq_ok,
    Log.Traced.statement, Log.Traced.log, true_and, exists_const]

theorem window_of_nonneg {α : Type} {limit : Int} (h : 0 ≤ limit) (offset : Int) (xs : List α) :
    window limit offset xs = (xs.drop offset.toNat).take limit.toNat := by
  have hneg : ¬ limit < 0 := by omega
  simp only [window, if_neg hneg]

/-- The domains on a page are cut from the listing. -/
theorem rows_eq_listing {db : Database} (h : db.Sound) (f : Filters) {o : PageOrder}
    (hc : o.key ∈ SortKey.all) (hlimit : 1 ≤ o.limit) :
    ((composePair f o).page.rows db).map (·.domain) =
      ((listing db f o.key.column o.descending).drop o.offset.toNat).take o.limit.toNat := by
  calc
    ((composePair f o).page.rows db).map (·.domain)
      = ((((composePair f o).page.sorted db).drop o.offset.toNat).take o.limit.toNat).map
          (·.domain) := by
      exact congrArg (List.map fun row : SortedRow => row.domain)
        (window_of_nonneg (Int.le_trans (by decide) hlimit) o.offset _)
    _ = ((listing db f o.key.column o.descending).drop o.offset.toNat).take o.limit.toNat := by
      rw [sorted_eq_listing h f hc, ← List.map_drop, ← List.map_take, List.map_map]
      exact List.map_id _

/-- The listing that a search asks for. -/
def listingOf (db : Database) (f : Filters) (p : Paging) : List Domain :=
  listing db f (sortOf p).1.column (sortOf p).2.1

/-- A search that completes counts the whole listing and shows its own part of it. -/
theorem execute_shows {db : Database} (h : db.Sound) {f : Filters} {p : Paging} {s : Settings}
    {requestId : Option String} {result : ResultPage}
    (hresult : (execute db f p s requestId).result = .ok result) :
    result.totalCount = (listingOf db f p).length ∧
      (profiles db (((listingOf db f p).drop (PageOrder.of p s).1.offset.toNat).take
        (limitOf p s).toNat)).result = .ok result.domains := by
  obtain ⟨q, hq, total, hcount, page, hrun, shown, hshown, rfl⟩ := execute_eq_ok.mp hresult
  have hpair := assemble_ok hq
  subst hpair
  have hrows := rows_eq_listing h f (o := (PageOrder.of p s).1) (sortOf_key p)
    (one_le_limitOf p s)
  constructor
  · rw [listingOf, length_listing, ← count_eq_countP h f (PageOrder.of p s).1, runCount_ok hcount]
  · rw [run_ok hrun, hrows] at hshown
    exact hshown

/-- What it shows describes the domains in this part, where the offset of the page fits. -/
theorem page_describes {db : Database} (h : db.Sound) {f : Filters} {p : Paging} {s : Settings}
    {requestId : Option String} {result : ResultPage} (hpage : 1 ≤ p.page)
    (hoffset : (p.page - 1) * limitOf p s ≤ maxOffset)
    (hresult : (execute db f p s requestId).result = .ok result) :
    result.totalCount = (listingOf db f p).length ∧
      List.Forall₂ (Describes db) (((listingOf db f p).drop
        ((p.page - 1) * limitOf p s).toNat).take (limitOf p s).toNat) result.domains := by
  have hoffset' : (PageOrder.of p s).1.offset = (p.page - 1) * limitOf p s :=
    congrArg (fun n => (n - 1) * limitOf p s) (pageOf_eq (one_le_limitOf p s) hpage hoffset)
  obtain ⟨htotal, hshown⟩ := execute_shows h hresult
  rw [hoffset'] at hshown
  exact ⟨htotal, profiles_describe hshown⟩

/-- A search completes when the statements bind the same values, neither meets an obstacle, and its
part of the listing can be shown. -/
theorem execute_completes {db : Database} (h : db.Sound) {f : Filters} {p : Paging} {s : Settings}
    (requestId : Option String) {q : QueryPair} (hq : (assemble f p s).1 = .ok q) {total : Nat}
    (hcount : q.selection.runCount db = .ok total)
    (hrun : q.page.selection.obstacle? db q.page.statement q.page.lookups = none)
    {shown : List DomainProfile} (hshown : (profiles db (((listingOf db f p).drop
      (PageOrder.of p s).1.offset.toNat).take (limitOf p s).toNat)).result = .ok shown) :
    (execute db f p s requestId).result = .ok { domains := shown, totalCount := total } := by
  have hpair := assemble_ok hq
  subst hpair
  have hrows := rows_eq_listing h f (o := (PageOrder.of p s).1) (sortOf_key p)
    (one_le_limitOf p s)
  refine execute_eq_ok.mpr ⟨_, hq, total, hcount, _, ?_, shown, hshown, rfl⟩
  rw [PageQuery.run, hrun]
  exact congrArg Except.ok hrows

/-- The first pages of a search have offsets that fit, and complete with these results. -/
def PagesComplete (db : Database) (f : Filters) (p : Paging) (s : Settings)
    (requestId : Option String) (pages : Nat) (result : Nat → ResultPage) : Prop :=
  ∀ i : Nat, i < pages → i * limitOf p s ≤ maxOffset ∧
    (execute db f { p with page := i + 1 } s requestId).result = .ok (result i)

theorem exists_pagesComplete {db : Database} {f : Filters} {p : Paging} {s : Settings}
    {requestId : Option String} {pages : Nat}
    (h : ∀ i : Nat, i < pages → i * limitOf p s ≤ maxOffset ∧
      ∃ result, (execute db f { p with page := i + 1 } s requestId).result = .ok result) :
    ∃ result, PagesComplete db f p s requestId pages result := by
  refine ⟨fun i => if hi : i < pages then (h i hi).2.choose else {}, fun i hi => ⟨(h i hi).1, ?_⟩⟩
  simp only [dif_pos hi]
  exact (h i hi).2.choose_spec

/-- The profiles on the first pages, one page after the other. -/
def shownOn (pages : Nat) (result : Nat → ResultPage) : List DomainProfile :=
  (List.range pages).flatMap fun i => (result i).domains

/-- The first pages describe the beginning of the listing. -/
theorem pages_describe {db : Database} (h : db.Sound) {f : Filters} {p : Paging} {s : Settings}
    {requestId : Option String} {pages : Nat} {result : Nat → ResultPage}
    (hpages : PagesComplete db f p s requestId pages result) :
    List.Forall₂ (Describes db) ((listingOf db f p).take (pages * (limitOf p s).toNat))
      (shownOn pages result) := by
  rw [← flatMap_pages, shownOn]
  refine forall₂_flatMap fun i hi => ?_
  obtain ⟨hoffset, hresult⟩ := hpages i (List.mem_range.mp hi)
  have hlimit := one_le_limitOf p s
  -- Pages are numbered from 1, the parts of a list from 0.
  have hfirst : ((i : Int) + 1 - 1) * limitOf p s = i * limitOf p s := by rw [Int.add_sub_cancel]
  have hnat : (((i : Int) + 1 - 1) * limitOf p s).toNat = i * (limitOf p s).toNat := by
    rw [hfirst, Int.toNat_mul (by omega) (by omega), Int.toNat_natCast]
  have hpart := (page_describes h (p := { p with page := i + 1 }) (by simp only; omega)
    (Int.le_trans (Int.le_of_eq hfirst) hoffset) hresult).2
  rw [← hnat]
  exact hpart

/-- As many pages as the listing fills describe all of it. -/
theorem all_pages_describe {db : Database} (h : db.Sound) {f : Filters} {p : Paging} {s : Settings}
    {requestId : Option String} {pages : Nat} {result : Nat → ResultPage}
    (hpages : PagesComplete db f p s requestId pages result)
    (hlength : (listingOf db f p).length ≤ pages * (limitOf p s).toNat) :
    List.Forall₂ (Describes db) (listingOf db f p) (shownOn pages result) := by
  have hdescribe := pages_describe h hpages
  rw [List.take_of_length_le hlength] at hdescribe
  exact hdescribe

/-- Each page of a search counts the domains of the listing and shows its own part of them, and the
pages together show the listing: every domain that matches, once, in order. -/
theorem pages_show_listing {db : Database} (h : db.Sound) (f : Filters) (p : Paging) (s : Settings)
    (requestId : Option String) :
    (listingOf db f p).Nodup ∧
    (∀ d, d ∈ listingOf db f p ↔ d ∈ db.domains ∧ Matches db f d) ∧
    ((listingOf db f p).Pairwise fun d e =>
      (listingOrder db (sortOf p).1.column (sortOf p).2.1 d e).isLE = true) ∧
    (∀ n : Int, 1 ≤ n → (n - 1) * limitOf p s ≤ maxOffset → ∀ result,
      (execute db f { p with page := n } s requestId).result = .ok result →
      result.totalCount = (listingOf db f p).length ∧
      List.Forall₂ (Describes db) (((listingOf db f p).drop
        ((n - 1) * limitOf p s).toNat).take (limitOf p s).toNat) result.domains) ∧
    ∀ (pages : Nat) (result : Nat → ResultPage),
      (listingOf db f p).length ≤ pages * (limitOf p s).toNat →
      PagesComplete db f p s requestId pages result →
      List.Forall₂ (Describes db) (listingOf db f p) (shownOn pages result) := by
  refine ⟨listing_nodup h, fun d => mem_listing, listing_sorted, ?_, ?_⟩
  · intro n hn hoffset result hresult
    exact page_describes h (p := { p with page := n }) hn hoffset hresult
  · intro pages result hlength hpages
    exact all_pages_describe h hpages hlength

/-- A page of one domain, those with the most technologies first. -/
def ranked (page : Int) : Paging where
  limit := some 1
  page := page
  sortBy := some "ds.total_technologies"
  sortOrder := .descending

theorem small_domains_match :
    Database.small.domains.filter (fun d => decide (Matches Database.small {} d)) =
      Database.small.domains := by
  decide

theorem listing_ranked : listingOf Database.small {} (ranked 1) = Database.small.domains := by
  rw [listingOf, listing, small_domains_match]
  exact List.mergeSort_of_pairwise (by decide)

theorem ranked_completes :
    ∃ result, PagesComplete Database.small {} (ranked 1) {} none 2 result := by
  have hfirst : ∃ shown, (profiles Database.small
      (((listingOf Database.small {} (ranked 1)).drop 0).take 1)).result = .ok shown := by
    rw [listing_ranked]
    exact ⟨_, (profiles_eq_ok (List.cons_ne_nil _ _)).mpr ⟨_, rfl, .cons rfl .nil⟩⟩
  have hsecond : ∃ shown, (profiles Database.small
      (((listingOf Database.small {} (ranked 1)).drop 1).take 1)).result = .ok shown := by
    rw [listing_ranked]
    exact ⟨_, (profiles_eq_ok (List.cons_ne_nil _ _)).mpr ⟨_, rfl, .cons rfl .nil⟩⟩
  refine exists_pagesComplete fun i hi => ?_
  have hcases : i = 0 ∨ i = 1 := by omega
  rcases hcases with rfl | rfl
  · obtain ⟨shown, hshown⟩ := hfirst
    exact ⟨by decide, _, execute_completes Database.small_sound none rfl rfl rfl hshown⟩
  · obtain ⟨shown, hshown⟩ := hsecond
    exact ⟨by decide, _, execute_completes Database.small_sound none rfl rfl rfl hshown⟩

theorem pages_show_listing_small :
    Database.small.Sound ∧ ∃ result : Nat → ResultPage,
      PagesComplete Database.small {} (ranked 1) {} none 2 result ∧
      (∀ i < 2, (result i).totalCount = 2) ∧
      List.Forall₂ (Describes Database.small) Database.small.domains (shownOn 2 result) := by
  obtain ⟨-, -, -, hpage, hpages⟩ :=
    pages_show_listing Database.small_sound {} (ranked 1) {} none
  rw [listing_ranked] at hpage hpages
  obtain ⟨result, hcomplete⟩ := ranked_completes
  refine ⟨Database.small_sound, result, hcomplete, fun i hi => ?_, ?_⟩
  · obtain ⟨hoffset, hresult⟩ := hcomplete i hi
    refine (hpage (i + 1) (by omega) ?_ (result i) hresult).1
    rw [Int.add_sub_cancel]
    exact hoffset
  · exact hpages 2 result (by decide) hcomplete

end TechCatalog.Search
