import TechCatalog.Proofs.CompensatedSums
import TechCatalog.Proofs.Rebuilding
import TechCatalog.Proofs.Tally

/-!
# The figures of a rebuilt store

Whatever the table of statistics held before, a rebuild that succeeds replaces it: every domain has
one row, which holds the number of its links, what is spent on them, and how many of them lead into
each category, and there is no row besides. Everything is computed from the other tables, which stay
as they are, so a second rebuild comes to the same figures.
-/

namespace TechCatalog.Stats

open Store Query

/-! ### Categories -/

/-- A category is counted once for every link into it; the empty one is not counted. -/
theorem count_categoriesOf (db : Database) (domainId : Int) (c : String) :
    (categoriesOf db domainId).count c = if c = "" then 0 else countInCategory db c domainId := by
  rw [categoriesOf, List.count_filterMap, countInCategory, ← List.countP_eq_length_filter]
  by_cases hc : c = ""
  · rw [if_pos hc, List.countP_eq_zero]
    intro l _
    split <;> simp_all
  · rw [if_neg hc]
    refine List.countP_congr fun l _ => ?_
    cases technologyOf db l with
    | none => simp
    | some t =>
      cases ht : t.category with
      | none => simp [ht]
      | some own =>
        by_cases hown : own = ""
        · simp [ht, hown, Ne.symm hc]
        · simp [ht]

/-- The members of a document give every category of the technologies that a domain is linked to the
number of its links into it, and nothing else. An empty category is none. -/
structure CountsCategories (db : Database) (domainId : Int) (members : Json.Members) : Prop where
  distinct : (members.map (·.1)).Nodup
  lookup_eq : ∀ c, members.lookup c =
    if c = "" ∨ countInCategory db c domainId = 0 then none
    else some (.int (countInCategory db c domainId))

theorem countsCategories_histogram (db : Database) (domainId : Int) :
    CountsCategories db domainId ((histogram db domainId).map fun c => (c.1, .int c.2)) where
  distinct := by
    rw [List.map_map]
    exact (Profile.tallies_countEach _).distinct
  lookup_eq c := by
    have hcount : ((categoriesOf db domainId).mergeSort fun a b => compare a b != .gt).count c =
        if c = "" then 0 else countInCategory db c domainId := by
      rw [(List.mergeSort_perm _ _).count_eq, count_categoriesOf]
    rw [lookup_map_snd Json.int, histogram, (Profile.tallies_countEach _).lookup_eq, hcount]
    by_cases hc : c = ""
    · simp [hc]
    · by_cases hzero : countInCategory db c domainId = 0 <;> simp [hc, hzero]

/-! ### Spends -/

/-- The spends that are known of the links of a domain. -/
def knownSpends (db : Database) (domainId : Int) : List Float :=
  (linksOf db domainId).filterMap (·.spend)

/-- What is spent on the links of a domain as an exact number; what is unknown counts as zero. -/
def spentOn (db : Database) (domainId : Int) : ℚ :=
  ((linksOf db domainId).map fun l => (l.spend.map Decimal.value).getD 0).sum

theorem exactSum_knownSpends (db : Database) (domainId : Int) :
    Decimal.exactSum (knownSpends db domainId) = spentOn db domainId := by
  rw [knownSpends, Decimal.exactSum_filterMap, Decimal.exactSum, List.map_map, spentOn]
  refine congrArg List.sum (List.map_congr_left fun l _ => ?_)
  cases hspend : l.spend with
  | none => simp [hspend, Decimal.value_zero]
  | some x => simp [hspend]

section

variable {p : Platform} {links : List Link}

theorem spendOn_of_known (hknown : ∃ l ∈ links, l.spend ≠ none)
    (hnumber : Decimal.isNaN (p.sum links) = false) : spendOn p links = p.sum links := by
  obtain ⟨l, hl, hspend⟩ := hknown
  have hall : links.all (·.spend.isNone) = false := by
    rw [List.all_eq_false]
    exact ⟨l, hl, by simpa using hspend⟩
  simp only [spendOn, hall, hnumber, Bool.or_self, Bool.false_eq_true, if_false]

theorem spendOn_of_unknown (hunknown : ∀ l ∈ links, l.spend = none) :
    spendOn p links = Float.ofBits 0 := by
  have hall : links.all (·.spend.isNone) = true := by
    rw [List.all_eq_true]
    intro l hl
    rw [hunknown l hl]
    rfl
  simp only [spendOn, hall, Bool.true_or, if_true]

theorem spendOn_of_isNaN (hnone : Decimal.isNaN (p.sum links) = true) :
    spendOn p links = Float.ofBits 0 := by
  simp only [spendOn, hnone, Bool.or_true, if_true]

/-- A sum that is not rounded is kept, and no amount at all is zero. -/
theorem value_spendOn (h : p.SumsExactly links) :
    Decimal.value (spendOn p links) = Decimal.exactSum (links.filterMap (·.spend)) := by
  by_cases hknown : ∃ l ∈ links, l.spend ≠ none
  · rw [spendOn_of_known hknown (Decimal.not_isNaN_of_isFinite h.1)]
    exact h.2
  · have hunknown : ∀ l ∈ links, l.spend = none := by
      intro l hl
      by_contra hspend
      exact hknown ⟨l, hl, hspend⟩
    rw [spendOn_of_unknown hunknown, List.filterMap_eq_nil_iff.mpr hunknown, Decimal.value_zero]
    rfl

end

/-! ### Rows -/

/-- A row of statistics is what there is to say about a domain by its links. -/
structure CountsLinks (db : Database) (d : Domain) (row : Store.Stats) : Prop where
  domainId : row.domainId = d.id
  technologies : row.totalTechnologies = (linksOf db d.id).length
  categories : ∃ members, row.technologiesByCategory = .obj members ∧
    CountsCategories db d.id members
  /-- What is spent is the sum that the store gives, if there is one. -/
  spend : (∃ l ∈ linksOf db d.id, l.spend ≠ none) →
    Decimal.isNaN (db.platform.sum (linksOf db d.id)) = false →
    row.totalSpend = db.platform.sum (linksOf db d.id)
  spend_none : (∀ l ∈ linksOf db d.id, l.spend = none) → row.totalSpend = Float.ofBits 0
  spend_undefined : Decimal.isNaN (db.platform.sum (linksOf db d.id)) = true →
    row.totalSpend = Float.ofBits 0
  /-- As exact numbers the spends that are known make up all that is spent, and where the store
  rounds no addition this is kept. -/
  spend_exact : Decimal.exactSum (knownSpends db d.id) = spentOn db d.id ∧
    (db.platform.SumsExactly (linksOf db d.id) → Decimal.value row.totalSpend = spentOn db d.id)
  spend_units : db.platform.Faithful → ∀ q : Int, -1074 ≤ q → q ≤ 971 →
    Decimal.FewUnits q (knownSpends db d.id) → Decimal.value row.totalSpend = spentOn db d.id

theorem countsLinks_rowOf (db : Database) (d : Domain) (id : Int) :
    CountsLinks db d (rowOf db (totalsOf db d) id) := by
  have hexact (h : db.platform.SumsExactly (linksOf db d.id)) :
      Decimal.value (spendOn db.platform (linksOf db d.id)) = spentOn db d.id :=
    (value_spendOn h).trans (exactSum_knownSpends db d.id)
  exact {
    domainId := rfl
    technologies := rfl
    categories := ⟨_, rfl, countsCategories_histogram db d.id⟩
    spend := spendOn_of_known
    spend_none := spendOn_of_unknown
    spend_undefined := spendOn_of_isNaN
    spend_exact := ⟨exactSum_knownSpends db d.id, hexact⟩
    spend_units := fun hfaithful q hlow hhigh hfew =>
      hexact (hfaithful _ q hlow hhigh hfew) }

/-- One store has the statistics of another, and otherwise the same tables. -/
structure Replaces (db db' : Database) : Prop where
  same : db' = { db with stats := db'.stats }
  /-- Every domain has one row, which is computed from its links. -/
  one : ∀ d ∈ db.domains,
    ∃ row, db'.stats.filter (fun r => r.domainId == d.id) = [row] ∧ CountsLinks db d row
  all : (db'.stats.map (·.domainId)).Perm (db.domains.map (·.id))

theorem Rebuilt.replaces {db db' : Database} (h : Rebuilt db db')
    (hids : (db.domains.map (·.id)).Nodup) : Replaces db db' where
  same := h.same
  one d hd := by
    obtain ⟨id, hrow⟩ := h.filter_stats hids hd
    exact ⟨_, hrow, countsLinks_rowOf db d id⟩
  all := h.stats_domains_perm

/-! ### A second rebuild -/

/-- The figures in a row of statistics. -/
def figures (row : Store.Stats) : Int × Int × Json × Float :=
  (row.domainId, row.totalTechnologies, row.technologiesByCategory, row.totalSpend)

theorem Rebuilt.figures_eq {db db' : Database} (h : Rebuilt db db') :
    db'.stats.map figures = (totals db).map fun t => figures (rowOf db t 0) := by
  -- Row by row; what a row is numbered is none of its figures.
  rw [← List.forall₂_eq_eq_eq, List.forall₂_map_left_iff, List.forall₂_map_right_iff]
  refine ((List.forall₂_map_left_iff.mp h.rows).imp ?_).flip
  rintro t _ ⟨id, rfl⟩
  rfl

/-- What the figures are computed from is the same in a rebuilt store. -/
theorem Rebuilt.recomputes {db db' : Database} (h : Rebuilt db db') :
    totals db' = totals db ∧ ∀ t, rowOf db' t = rowOf db t := by
  rw [h.same]
  exact ⟨rfl, fun _ => rfl⟩

theorem Rebuilt.figures_again {db db' db'' : Database} (h : Rebuilt db db')
    (h' : Rebuilt db' db'') : db''.stats.map figures = db'.stats.map figures := by
  obtain ⟨htotals, hrows⟩ := h.recomputes
  rw [h'.figures_eq, h.figures_eq, htotals]
  simp only [hrows]

/-- A rebuild that succeeds gives the number of domains and replaces the statistics, whatever they
were: one row for every domain, computed from its links, and no row besides. The other tables stay
as they are, and nothing is permanent yet. A second rebuild changes no figure. -/
theorem rebuild_replaces {trouble : Trouble} {s s' : Session} {n : Nat}
    (hids : (s.working.domains.map (·.id)).Nodup) (h : rebuild trouble s = (s', .ok n)) :
    n = s.working.domains.length ∧ Replaces s.working s'.working ∧ s'.committed = s.committed ∧
    ∀ (trouble' : Trouble) (s'' : Session) (m : Nat), rebuild trouble' s' = (s'', .ok m) →
      m = n ∧ s''.working.stats.map figures = s'.working.stats.map figures ∧
        s''.working = { s'.working with stats := s''.working.stats } := by
  obtain ⟨hrebuilt, hcommitted, hcount⟩ := rebuild_ok h
  refine ⟨hcount, hrebuilt.replaces hids, hcommitted, fun trouble' s'' m hagain => ?_⟩
  obtain ⟨hrebuilt', -, hcount'⟩ := rebuild_ok hagain
  refine ⟨?_, hrebuilt.figures_again hrebuilt', hrebuilt'.same⟩
  rw [hcount', hrebuilt.domains, hcount]

/-- A store with much to cope with: technologies of one category, without any and with an empty one,
links whose technology or domain is missing, and rows of statistics that are out of date or of no
domain. -/
def tangled : Database where
  domains := [{ id := 1, domain := "alpha.com" }, { id := 2, domain := "beta.com" }]
  technologies := [{ id := 1, name := "React", category := some "Framework" },
    { id := 2, name := "Vue", category := some "Framework" }, { id := 3, name := "Stripe" },
    { id := 4, name := "Plain", category := some "" }]
  links := [
    { id := 1, domainId := 1, technologyId := 1, domainName := "alpha.com",
      technologyName := "React", spend := some 10 },
    { id := 2, domainId := 1, technologyId := 2, domainName := "alpha.com",
      technologyName := "Vue" },
    { id := 3, domainId := 1, technologyId := 3, domainName := "alpha.com",
      technologyName := "Stripe", spend := some 2.5 },
    { id := 4, domainId := 1, technologyId := 4, domainName := "alpha.com",
      technologyName := "Plain" },
    { id := 5, domainId := 1, technologyId := 9, domainName := "alpha.com",
      technologyName := "Gone", spend := some 1 },
    { id := 6, domainId := 7, technologyId := 1, domainName := "gone.com",
      technologyName := "React", spend := some 3 }]
  stats := [{ id := 4, domainId := 7, totalTechnologies := 1 },
    { id := 5, domainId := 1, totalTechnologies := 99 }]

/-- This store after a rebuild. -/
def untangled : Database :=
  let row (d : Domain) := rowOf tangled (totalsOf tangled d)
  { tangled with stats := [row tangled.domains[0] 1, row tangled.domains[1] 2] }

theorem rebuild_tangled :
    rebuild noTrouble (Session.start tangled) = (⟨tangled, untangled⟩, .ok 2) ∧
      rebuild noTrouble ⟨tangled, untangled⟩ = (⟨tangled, untangled⟩, .ok 2) := by
  have htotals : totals tangled = tangled.domains.map (totalsOf tangled) :=
    congrArg (List.map (totalsOf tangled)) (List.mergeSort_of_pairwise (by decide))
  have hfirst : totals (Session.start tangled).working = tangled.domains.map (totalsOf tangled) :=
    htotals
  have hagain : totals untangled = tangled.domains.map (totalsOf tangled) := htotals
  constructor
  · simp only [rebuild, hfirst]
    rfl
  · simp only [rebuild, hagain]
    rfl

theorem knownSpends_tangled : knownSpends tangled 1 = [10, 2.5, 1] := rfl

theorem inUnits_tangled :
    List.Forall₂ (Decimal.InUnits (-1)) [(10 : Float), 2.5, 1] [20, 5, 2] := by
  have hten : Decimal.shape 10 = .finite false (10 * 2 ^ 49) (-49) := by decide +kernel
  have hhalf : Decimal.shape 2.5 = .finite false (5 * 2 ^ 50) (-51) := by decide +kernel
  have hone : Decimal.shape 1 = .finite false (2 ^ 52) (-52) := by decide +kernel
  refine .cons ⟨by decide +kernel, ?_⟩ (.cons ⟨by decide +kernel, ?_⟩
    (.cons ⟨by decide +kernel, ?_⟩ .nil))
  · rw [Decimal.value, hten]
    norm_num
  · rw [Decimal.value, hhalf]
    norm_num
  · rw [Decimal.value, hone]
    norm_num

theorem rebuild_replaces_tangled :
    (tangled.domains.map (·.id)).Nodup ∧
    rebuild noTrouble (Session.start tangled) = (⟨tangled, untangled⟩, .ok 2) ∧
    Replaces tangled untangled ∧ untangled.links = tangled.links ∧
    (∃ row members, untangled.stats.filter (fun r => r.domainId == 1) = [row] ∧
      row.totalTechnologies = 5 ∧ Decimal.value row.totalSpend = 27 / 2 ∧
      row.technologiesByCategory = .obj members ∧
      members.lookup "Framework" = some (.int 2) ∧ members.lookup "" = none) ∧
    untangled.stats.filter (fun r => r.domainId == 7) = [] ∧
    ∀ s m, rebuild noTrouble ⟨tangled, untangled⟩ = (s, .ok m) →
      s.working.stats.map figures = untangled.stats.map figures := by
  have hids : (tangled.domains.map (·.id)).Nodup := by decide
  obtain ⟨-, hreplaces, -, hagain⟩ := rebuild_replaces hids rebuild_tangled.1
  obtain ⟨row, hrow, hcounts⟩ := hreplaces.one tangled.domains[0] List.mem_cons_self
  obtain ⟨members, hmembers, hcategories⟩ := hcounts.categories
  have hfew : Decimal.FewUnits (-1) (knownSpends tangled 1) :=
    knownSpends_tangled ▸ ⟨_, inUnits_tangled, by decide⟩
  have hspent : spentOn tangled 1 = 27 / 2 := by
    rw [← exactSum_knownSpends, knownSpends_tangled, Decimal.exactSum_of_inUnits inUnits_tangled]
    norm_num
  refine ⟨hids, rebuild_tangled.1, hreplaces, rfl, ⟨row, members, hrow, ?_, ?_, hmembers, ?_, ?_⟩,
    ?_, fun s m h => (hagain noTrouble s m h).2.1⟩
  · exact hcounts.technologies
  · rw [hcounts.spend_units Platform.faithful_default (-1) (by decide) (by decide) hfew]
    exact hspent
  · exact hcategories.lookup_eq "Framework"
  · exact hcategories.lookup_eq ""
  · rfl

end TechCatalog.Stats
