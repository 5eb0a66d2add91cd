import TechCatalog.Proofs.RebuiltFigures
import TechCatalog.Proofs.Shown
import TechCatalog.Proofs.Tally

/-!
# Kept and shown statistics

The statistics that a rebuild keeps of a domain are computed from its links in the store, and those
that are shown of it from its technologies as they were loaded. The two agree in the number of
technologies, in the counts per category and, but for the rounding of floating-point sums, in what
is spent.
-/

namespace TechCatalog.Search

open Store Query Profile

/-- Where links resolve, every link is shown. -/
theorem map_ownedBy {α : Type} {db : Database} (h : db.LinksResolve) (shown : OwnedTechnology → α)
    (linked : Link → α) (hsame : ∀ l t, shown (shownLink l t) = linked l) (id : Int) :
    (ownedBy db id).map shown = (linksOf db id).map linked := by
  rw [ownedBy, List.map_filterMap, ← List.filterMap_eq_map]
  refine List.filterMap_congr fun l hl => ?_
  obtain ⟨t, ht⟩ := Option.isSome_iff_exists.mp (technologyOf_isSome h (mem_linksOf.mp hl).1)
  rw [ht]
  exact congrArg some (hsame l t)

theorem length_ownedBy {db : Database} (h : db.LinksResolve) (id : Int) :
    (ownedBy db id).length = (linksOf db id).length := by
  have hmap := map_ownedBy h (fun _ => ()) (fun _ => ()) (fun _ _ => rfl) id
  simpa using congrArg List.length hmap

/-- The categories of the technologies shown are those of the links. -/
theorem categoriesOf_ownedBy (db : Database) (id : Int) :
    Profile.categoriesOf (ownedBy db id) = Stats.categoriesOf db id := by
  rw [Profile.categoriesOf, ownedBy, List.filterMap_filterMap, Stats.categoriesOf]
  refine List.filterMap_congr fun l _ => ?_
  cases technologyOf db l with
  | none => rfl
  | some t =>
    simp only [Option.map_some, Option.bind_some, shownLink]
    cases t.category with
    | none => rfl
    | some c =>
      by_cases hempty : c = ""
      · rw [hempty]
        rfl
      · simp [hempty]

section

variable {db : Database} {id : Int} {owned : List OwnedTechnology}

theorem totalTechnologies_eq (h : db.LinksResolve) (howned : owned.Perm (ownedBy db id)) :
    (summarize owned).totalTechnologies = (linksOf db id).length := by
  rw [summarize, howned.length_eq, length_ownedBy h]

/-- The counts per category that a rebuild keeps are those of a summary. -/
theorem histogram_perm (howned : owned.Perm (ownedBy db id)) :
    (Stats.histogram db id).Perm (summarize owned).categories := by
  refine Tallies.perm (tallies_countEach _) (tallies_countEach _) ?_
  refine (List.mergeSort_perm _ _).trans ?_
  rw [← categoriesOf_ownedBy]
  exact (howned.filterMap _).symm

/-- The amounts that are shown make up what is spent, apart from order and zeros. -/
theorem exactSum_amounts (h : db.LinksResolve) (howned : owned.Perm (ownedBy db id)) :
    Decimal.exactSum (owned.map (·.amount)) = Stats.spentOn db id := by
  calc
    Decimal.exactSum (owned.map (·.amount))
      = Decimal.exactSum ((ownedBy db id).map (·.amount)) :=
      Decimal.exactSum_perm (howned.map _)
    _ = Decimal.exactSum ((linksOf db id).map fun l => l.spend.getD (Float.ofBits 0)) := by
      rw [map_ownedBy h (·.amount) (fun l => l.spend.getD (Float.ofBits 0)) fun _ _ => rfl]
    _ = Decimal.exactSum (Stats.knownSpends db id) := (Decimal.exactSum_filterMap _ _).symm
    _ = Stats.spentOn db id := Stats.exactSum_knownSpends db id

/-- Amounts in units are shown as amounts in units; what is unknown is shown as none. -/
theorem fewUnits_amounts (h : db.LinksResolve) (howned : owned.Perm (ownedBy db id)) {q : Int}
    (hfew : Decimal.FewUnits q (Stats.knownSpends db id)) :
    Decimal.FewUnits q (owned.map (·.amount)) := by
  refine Decimal.FewUnits.perm ?_ (howned.symm.map _)
  rw [map_ownedBy h (·.amount) (fun l => l.spend.getD (Float.ofBits 0)) fun _ _ => rfl]
  exact hfew.getD

end

/-- A rebuild does not change which technologies are loaded. -/
theorem loadTechnologies_rebuilt {db db' : Database} (h : Stats.Rebuilt db db') (ids : List Int) :
    loadTechnologies db' ids = loadTechnologies db ids := by
  rw [h.same]
  rfl

/-- After a rebuild, the one row of statistics of a domain agrees with the summary of its
technologies as they are loaded: in the number of technologies, in the counts per category, and in
what is spent, when spends are added as exact numbers. The store adds in its own way and the summary
from left to right; each of the two totals is what is spent if its additions round nothing, and both
are when all spends are whole multiples of one unit, together fewer than `2 ^ 53`. -/
theorem rebuilt_statistics_agree {trouble : Stats.Trouble} {s s' : Session} {n : Nat}
    (hs : s.working.Sound) (hl : s.working.LinksResolve)
    (h : Stats.rebuild trouble s = (s', .ok n)) {d : Domain} (hd : d ∈ s.working.domains)
    {ids : List Int} (hid : d.id ∈ ids) {rows : List OwnedRow}
    (hrows : loadTechnologies s'.working ids = .ok rows) :
    ∃ row total, s'.working.stats.filter (fun r => r.domainId == d.id) = [row] ∧
      (summarize (technologiesIn rows d.id)).totalSpend = some total ∧
      row.totalTechnologies = (summarize (technologiesIn rows d.id)).totalTechnologies ∧
      (∃ counts : List (String × Int),
        row.technologiesByCategory = .obj (counts.map fun c => (c.1, .int c.2)) ∧
        (counts.map (·.1)).Nodup ∧
        counts.Perm (summarize (technologiesIn rows d.id)).categories) ∧
      Decimal.exactSum ((technologiesIn rows d.id).map (·.amount)) =
        Stats.spentOn s.working d.id ∧
      (s.working.platform.SumsExactly (linksOf s.working d.id) →
        Decimal.value row.totalSpend = Stats.spentOn s.working d.id) ∧
      (Decimal.AddsExactly ((technologiesIn rows d.id).map (·.amount)) →
        Decimal.value total = Stats.spentOn s.working d.id) ∧
      (s.working.platform.Faithful → ∀ q : Int, -1074 ≤ q → q ≤ 971 →
        Decimal.FewUnits q (Stats.knownSpends s.working d.id) →
        Decimal.value row.totalSpend = Stats.spentOn s.working d.id ∧
          Decimal.value total = Stats.spentOn s.working d.id) := by
  obtain ⟨hrebuilt, -, -⟩ := Stats.rebuild_ok h
  rw [loadTechnologies_rebuilt hrebuilt] at hrows
  obtain ⟨-, -, -, rfl⟩ := loadTechnologies_eq_ok.mp hrows
  have howned := technologiesIn_perm s.working hid
  obtain ⟨id, hrow⟩ := hrebuilt.filter_stats hs.domain_ids hd
  have hcounts := Stats.countsLinks_rowOf s.working d id
  have hexact := exactSum_amounts hl howned
  have hunits (hfaithful : s.working.platform.Faithful) (q : Int) (hlow : -1074 ≤ q)
      (hhigh : q ≤ 971) (hfew : Decimal.FewUnits q (Stats.knownSpends s.working d.id)) :=
    And.intro (hcounts.spend_units hfaithful q hlow hhigh hfew)
      (((fewUnits_amounts hl howned hfew).addsExactly hlow hhigh).2.trans hexact)
  exact ⟨_, _, hrow, rfl, (totalTechnologies_eq hl howned).symm,
    ⟨_, rfl, (tallies_countEach _).distinct, histogram_perm howned⟩, hexact,
    hcounts.spend_exact.2, fun hadds => hadds.2.trans hexact, hunits⟩

/-- The small store with the statistics that a rebuild gives it. -/
def recounted : Database :=
  let row (d : Domain) := Stats.rowOf Database.small (Stats.totalsOf Database.small d)
  { Database.small with
    stats := [row Database.small.domains[0] 1, row Database.small.domains[1] 2] }

theorem rebuild_small :
    Stats.rebuild Stats.noTrouble (Session.start Database.small) =
      (⟨Database.small, recounted⟩, .ok 2) := by
  have htotals : Stats.totals (Session.start Database.small).working =
      Database.small.domains.map (Stats.totalsOf Database.small) :=
    congrArg (List.map (Stats.totalsOf Database.small)) (List.mergeSort_of_pairwise (by decide))
  simp only [Stats.rebuild, htotals]
  rfl

theorem technologiesIn_small :
    technologiesIn (ownedRows Database.small [1, 2]) 1 = ownedBy Database.small 1 := by
  rw [ownedRows, List.mergeSort_of_pairwise (by decide)]
  rfl

theorem fewUnits_small : Decimal.FewUnits 1 (Stats.knownSpends Database.small 1) := by
  have hspends : Stats.knownSpends Database.small 1 = [10] := rfl
  have hten : Decimal.shape 10 = .finite false (10 * 2 ^ 49) (-49) := by decide +kernel
  rw [hspends]
  refine ⟨[5], .cons ⟨by decide +kernel, ?_⟩ .nil, by decide⟩
  rw [Decimal.value, hten]
  norm_num

theorem rebuilt_statistics_agree_small :
    Database.small.Sound ∧ Database.small.LinksResolve ∧
      Stats.rebuild Stats.noTrouble (Session.start Database.small) =
        (⟨Database.small, recounted⟩, .ok 2) ∧
      loadTechnologies recounted [1, 2] = .ok (ownedRows Database.small [1, 2]) ∧
      ∃ row total, recounted.stats.filter (fun r => r.domainId == 1) = [row] ∧
        (summarize (ownedBy Database.small 1)).totalSpend = some total ∧
        row.totalTechnologies = 2 ∧
        (∃ counts : List (String × Int),
          row.technologiesByCategory = .obj (counts.map fun c => (c.1, .int c.2)) ∧
          counts.Perm [("Framework", 1), ("Payment", 1)]) ∧
        Decimal.value row.totalSpend = Stats.spentOn Database.small 1 ∧
        Decimal.value total = Stats.spentOn Database.small 1 := by
  have hsession := rebuild_small
  have hload : loadTechnologies recounted [1, 2] =
      .ok (ownedRows Database.small [1, 2]) :=
    loadTechnologies_rebuilt (Stats.rebuild_ok hsession).1 [1, 2]
  have hid : Database.small.domains[0].id ∈ ([1, 2] : List Int) := List.mem_cons_self
  obtain ⟨row, total, hrow, htotal, htechnologies, ⟨counts, hcounts, -, hperm⟩, -, -, -, hspend⟩ :=
    rebuilt_statistics_agree (s := Session.start Database.small) Database.small_sound
      Database.small_linksResolve hsession (d := Database.small.domains[0])
      List.mem_cons_self hid hload
  have hdomain : Database.small.domains[0].id = 1 := rfl
  rw [hdomain, technologiesIn_small] at htotal htechnologies hperm
  exact ⟨Database.small_sound, Database.small_linksResolve, hsession, hload, row, total, hrow,
    htotal, htechnologies, ⟨counts, hcounts, hperm⟩,
    hspend Platform.faithful_default 1 (by decide) (by decide) fewUnits_small⟩

end TechCatalog.Search
