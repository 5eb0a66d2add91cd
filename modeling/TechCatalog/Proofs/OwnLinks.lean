import Mathlib.Data.String.Basic
import TechCatalog.Proofs.Collections
import TechCatalog.Proofs.ExactSums
import TechCatalog.Proofs.Tally

/-!
# Profiles and the links of their domains

A profile lists the links of its domain whose technology exists, each once and by the name of the
technology, with what the technology is and how the link uses it. The summary counts what is listed:
all of it, what is of each category, and what is spent. Which other domains are on the page does not
matter.
-/

namespace TechCatalog.Search

open Request Store Query Profile

/-- A profile shows of a domain what the store has of it: its own columns, and with their
technologies the links of it whose technology exists. -/
structure ShowsOwn (db : Database) (d : Domain) (pairs : List (Link × Technology))
    (q : DomainProfile) : Prop where
  /-- The links of the domain beside their technologies, each once. -/
  nodup : pairs.Nodup
  mem_iff : ∀ l t, (l, t) ∈ pairs ↔
    l ∈ db.links ∧ l.domainId = d.id ∧ t ∈ db.technologies ∧ t.id = l.technologyId
  /-- They stand by the name of the technology. -/
  sorted : pairs.Pairwise fun a b => a.2.name < b.2.name
  technologies : q.technologies = pairs.map fun p => shownLink p.1 p.2
  /-- All else that is shown comes from the columns of the domain and from the technologies. -/
  columns : q = shownOf db.platform.reader d q.technologies
  total : q.summary.totalTechnologies = pairs.length
  /-- Every category is counted once for each technology of it; the empty one is none. -/
  counts : ∀ c, q.summary.categories.lookup c =
    if c = "" ∨ pairs.countP (fun p => p.2.category == some c) = 0 then none
    else some (pairs.countP (fun p => p.2.category == some c) : Int)
  categorised : (q.summary.categories.map (·.2)).sum =
    pairs.countP fun p => p.2.category.any (· != "")
  /-- What is spent on the links is added up, exactly where no addition has to be rounded. -/
  spend : ∃ total, q.summary.totalSpend = some total ∧ ∀ unit : Int, -1074 ≤ unit → unit ≤ 971 →
    Decimal.FewUnits unit (pairs.filterMap (·.1.spend)) →
    Decimal.value total = Decimal.exactSum (pairs.filterMap (·.1.spend))

/-! ### Links and technologies -/

/-- The links of a domain whose technology exists, each beside the technology. -/
def ownedLinks (db : Database) (id : Int) : List (Link × Technology) :=
  (linksOf db id).filterMap fun l => (technologyOf db l).map fun t => (l, t)

section

variable {db : Database} {id : Int}

theorem map_ownedLinks (db : Database) (id : Int) :
    ((ownedLinks db id).map fun p => shownLink p.1 p.2) = ownedBy db id := by
  rw [ownedLinks, List.map_filterMap, ownedBy]
  refine List.filterMap_congr fun l _ => ?_
  rw [Option.map_map]
  rfl

theorem mem_ownedLinks (h : db.Sound) {l : Link} {t : Technology} :
    (l, t) ∈ ownedLinks db id ↔
      l ∈ db.links ∧ l.domainId = id ∧ t ∈ db.technologies ∧ t.id = l.technologyId := by
  rw [ownedLinks, List.mem_filterMap]
  simp only [Option.map_eq_some_iff, Prod.mk.injEq, technologyOf,
    find?_key_eq_some_iff h.technology_ids, mem_linksOf]
  constructor
  · rintro ⟨_, ⟨hl, hid⟩, _, ⟨ht, htech⟩, rfl, rfl⟩
    exact ⟨hl, hid, ht, htech⟩
  · rintro ⟨hl, hid, ht, htech⟩
    exact ⟨l, ⟨hl, hid⟩, t, ⟨ht, htech⟩, rfl, rfl⟩

/-- The links of one domain lead to technologies of different names. -/
theorem ownedLinks_names (h : db.Sound) (id : Int) :
    ((ownedLinks db id).map fun p => p.2.name).Nodup := by
  have hlinks : (ownedLinks db id).Nodup := by
    refine (h.link_ends.of_map.filter _).filterMap ?_
    intro l k p hl hk
    obtain ⟨t, -, rfl⟩ := Option.map_eq_some_iff.mp hl
    obtain ⟨u, -, hu⟩ := Option.map_eq_some_iff.mp hk
    exact (congrArg Prod.fst hu).symm
  refine hlinks.map_on ?_
  rintro ⟨l, t⟩ hl ⟨k, u⟩ hk hname
  rw [mem_ownedLinks h] at hl hk
  obtain ⟨hl, hlid, ht, hlt⟩ := hl
  obtain ⟨hk, hkid, hu, hku⟩ := hk
  -- A name belongs to one technology, and a domain has one link to a technology.
  have htech : t = u := List.inj_on_of_nodup_map h.technology_names ht hu hname
  subst htech
  have hends : (l.domainId, l.technologyId) = (k.domainId, k.technologyId) := by
    rw [hlid, hkid, ← hlt, ← hku]
  rw [List.inj_on_of_nodup_map h.link_ends hl hk hends]

theorem ownedLinks_nodup (h : db.Sound) (id : Int) : (ownedLinks db id).Nodup :=
  (ownedLinks_names h id).of_map

end

/-! ### Loaded rows -/

theorem OwnedRow.before_iff (a b : OwnedRow) : a.before b = true ↔
    a.domainId < b.domainId ∨
      (a.domainId = b.domainId ∧ a.technology.name ≤ b.technology.name) := by
  rw [OwnedRow.before]
  split
  · rename_i hlt
    exact iff_of_true rfl (.inl (compare_lt_iff_lt.mp hlt))
  · rename_i hgt
    have hids := compare_gt_iff_gt.mp hgt
    refine iff_of_false Bool.false_ne_true ?_
    rintro (hless | ⟨hsame, -⟩) <;> omega
  · rename_i heq
    have hsame := compare_eq_iff_eq.mp heq
    rw [bne_iff_ne, ← compare_le_iff_le]
    constructor
    · exact fun hle => .inr ⟨hsame, hle⟩
    · rintro (hless | ⟨-, hle⟩)
      · omega
      · exact hle

/-- Loaded rows are in order. -/
theorem ownedRows_sorted (db : Database) (ids : List Int) :
    (ownedRows db ids).Pairwise fun a b => a.before b = true := by
  refine List.pairwise_mergeSort ?_ ?_ _
  · intro a b c hab hbc
    rw [OwnedRow.before_iff] at *
    rcases hab with hab | ⟨hab, ha⟩ <;> rcases hbc with hbc | ⟨hbc, hb⟩
    · exact .inl (by omega)
    · exact .inl (by omega)
    · exact .inl (by omega)
    · exact .inr ⟨hab.trans hbc, ha.trans hb⟩
  · intro a b
    rw [Bool.or_eq_true, OwnedRow.before_iff, OwnedRow.before_iff]
    rcases lt_trichotomy a.domainId b.domainId with hlt | heq | hgt
    · exact .inl (.inl hlt)
    · rcases le_total a.technology.name b.technology.name with hle | hle
      · exact .inl (.inr ⟨heq, hle⟩)
      · exact .inr (.inr ⟨heq.symm, hle⟩)
    · exact .inr (.inl hgt)

section

variable {db : Database} {id : Int}

/-- The technologies of one domain among those of several stand by name, no name twice. -/
theorem technologiesIn_sorted (h : db.Sound) {ids : List Int} (hid : id ∈ ids) :
    (technologiesIn (ownedRows db ids) id).Pairwise fun a b => a.name < b.name := by
  -- Rows of one domain are ordered by name alone, and by `ownedLinks_names` no two names are equal.
  have hle : (technologiesIn (ownedRows db ids) id).Pairwise fun a b => a.name ≤ b.name := by
    rw [technologiesIn, List.pairwise_map]
    refine ((ownedRows_sorted db ids).filter _).imp_of_mem ?_
    intro a b ha hb hbefore
    have hsame : a.domainId = b.domainId := by
      rw [beq_iff_eq.mp (List.mem_filter.mp ha).2, beq_iff_eq.mp (List.mem_filter.mp hb).2]
    rcases (OwnedRow.before_iff a b).mp hbefore with hless | ⟨-, hle⟩
    · omega
    · exact hle
  have hne : (technologiesIn (ownedRows db ids) id).Pairwise fun a b => a.name ≠ b.name := by
    have hnames := ownedLinks_names h id
    rw [← List.pairwise_map, ← List.nodup_iff_pairwise_ne]
    have hperm := (technologiesIn_perm db hid).map OwnedTechnology.name
    rw [hperm.nodup_iff, ← map_ownedLinks, List.map_map]
    exact hnames
  exact (hle.and hne).imp fun hab => lt_of_le_of_ne hab.1 hab.2

/-- The technologies of a domain are the same on every page the domain is on. -/
theorem technologiesIn_congr (h : db.Sound) {ids ids' : List Int} (hid : id ∈ ids)
    (hid' : id ∈ ids') :
    technologiesIn (ownedRows db ids) id = technologiesIn (ownedRows db ids') id := by
  refine List.Perm.eq_of_pairwise ?_ (technologiesIn_sorted h hid) (technologiesIn_sorted h hid') ?_
  · intro a b _ _ hab hba
    have hbefore : a.name < b.name := hab
    exact absurd hba hbefore.asymm
  · exact (technologiesIn_perm db hid).trans (technologiesIn_perm db hid').symm

/-- The technologies of a domain among those of several are its links in the order of the names. -/
theorem exists_pairs (db : Database) {ids : List Int} (hid : id ∈ ids) :
    ∃ pairs : List (Link × Technology), pairs.Perm (ownedLinks db id) ∧
      technologiesIn (ownedRows db ids) id = pairs.map fun p => shownLink p.1 p.2 := by
  -- The loaded rows are what the links show, in another order; the links are put in this order.
  have hshown : List.Forall₂ (fun a p => a = shownLink p.1 p.2)
      ((ownedLinks db id).map fun p => shownLink p.1 p.2) (ownedLinks db id) :=
    List.forall₂_map_left_iff.mpr (List.forall₂_same.mpr fun _ _ => rfl)
  have hperm := technologiesIn_perm db hid
  rw [← map_ownedLinks] at hperm
  obtain ⟨pairs, hpairs, horder⟩ := List.perm_comp_forall₂ hperm hshown
  refine ⟨pairs, horder, ?_⟩
  rw [← List.forall₂_eq_eq_eq, List.forall₂_map_right_iff]
  exact hpairs

end

/-! ### Summaries -/

section

variable (pairs : List (Link × Technology))

theorem count_categoriesOf (c : String) :
    (categoriesOf (pairs.map fun p => shownLink p.1 p.2)).count c =
      if c = "" then 0 else pairs.countP fun p => p.2.category == some c := by
  rw [categoriesOf, List.filterMap_map, List.count_filterMap]
  by_cases hc : c = ""
  · rw [if_pos hc, List.countP_eq_zero]
    rintro p -
    simp only [Function.comp_apply, shownLink]
    cases p.2.category with
    | none => simp
    | some own => by_cases hown : own = "" <;> simp_all
  · rw [if_neg hc]
    refine List.countP_congr fun p _ => ?_
    simp only [Function.comp_apply, shownLink]
    cases p.2.category with
    | none => simp
    | some own => by_cases hown : own = "" <;> simp [hown, Ne.symm hc]

theorem length_categoriesOf :
    (categoriesOf (pairs.map fun p => shownLink p.1 p.2)).length =
      pairs.countP fun p => p.2.category.any (· != "") := by
  rw [categoriesOf, List.length_filterMap_eq_countP, List.countP_map]
  refine List.countP_congr fun p _ => ?_
  simp only [Function.comp_apply, shownLink]
  cases p.2.category with
  | none => simp
  | some c => by_cases hc : c = "" <;> simp [hc]

theorem lookup_categories (c : String) :
    (summarize (pairs.map fun p => shownLink p.1 p.2)).categories.lookup c =
      if c = "" ∨ pairs.countP (fun p => p.2.category == some c) = 0 then none
      else some (pairs.countP (fun p => p.2.category == some c) : Int) := by
  rw [summarize, (tallies_countEach _).lookup_eq, count_categoriesOf]
  by_cases hc : c = ""
  · simp [hc]
  · by_cases hzero : pairs.countP (fun p => p.2.category == some c) = 0 <;> simp [hc, hzero]

theorem amounts_pairs : (pairs.map fun p => shownLink p.1 p.2).map (·.amount) =
    pairs.map fun p => p.1.spend.getD (Float.ofBits 0) := by
  rw [List.map_map]
  rfl

end

theorem showsOwn_shownOf {db : Database} (h : db.Sound) {ids : List Int} {d : Domain}
    (hid : d.id ∈ ids) : ∃ pairs, ShowsOwn db d pairs
      (shownOf db.platform.reader d (technologiesIn (ownedRows db ids) d.id)) := by
  obtain ⟨pairs, horder, hshown⟩ := exists_pairs db hid
  have hsorted := technologiesIn_sorted h hid
  rw [hshown, List.pairwise_map] at hsorted
  rw [hshown]
  refine ⟨pairs, ?_⟩
  exact {
    nodup := horder.nodup_iff.mpr (ownedLinks_nodup h d.id)
    mem_iff := fun l t => by rw [horder.mem_iff, mem_ownedLinks h]
    sorted := hsorted
    technologies := rfl
    columns := rfl
    total := congrArg Int.ofNat (List.length_map _)
    counts := lookup_categories pairs
    categorised := by
      rw [← length_categoriesOf]
      exact sum_countEach _
    spend := by
      refine ⟨_, rfl, fun unit hlow hhigh hfew => ?_⟩
      rw [amounts_pairs, (hfew.getD.addsExactly hlow hhigh).2, ← Decimal.exactSum_filterMap] }

/-- Profiles that are made of the technologies loaded for a page each show their own domain. -/
theorem showsOwn_of_mapM {db : Database} (h : db.Sound) {page : List Domain}
    {shown : List DomainProfile} (hshown : (page.mapM fun d => profile db.platform.reader d
      (technologiesIn (ownedRows db (page.map (·.id))) d.id)) = .ok shown) :
    List.Forall₂ (fun d q => ∃ pairs, ShowsOwn db d pairs q) page shown := by
  have hnumbers : ∀ d ∈ page, d.id ∈ page.map (·.id) := fun d hd => List.mem_map_of_mem hd
  refine ((List.forall₂_and_left page shown).mpr ⟨hnumbers, mapM_eq_ok.mp hshown⟩).imp ?_
  rintro d q ⟨hid, hq⟩
  rw [(profile_ok_iff.mp hq).2]
  exact showsOwn_shownOf h hid

end TechCatalog.Search
