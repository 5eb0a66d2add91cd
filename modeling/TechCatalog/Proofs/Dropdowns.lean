import Mathlib.Algebra.GroupWithZero.Nat
import TechCatalog.Proofs.Finding
import TechCatalog.Proofs.Usage

/-!
# Lists to choose from and what their values find

The values of a list to choose from are offered in the order of what a search for them finds. A
category or a country counts once for every domain that has it, and a search that includes only it
finds these domains. The name of a technology counts once for every link to the technology. Where
links resolve and carry the name of their technology, a search that includes only this name finds
one domain for each of these links.
-/

namespace TechCatalog.Store

/-- Every link carries the name of its technology. -/
def Database.NamesKept (db : Database) : Prop :=
  ∀ l ∈ db.links, ∀ t ∈ db.technologies, t.id = l.technologyId → l.technologyName = t.name
  deriving Decidable

end TechCatalog.Store

namespace TechCatalog.Options

open Store Query

/-- The part that is wanted of a list of so many values is the whole list. -/
def Wanted.Covers (w : Wanted) (length : Nat) : Prop :=
  ∀ limit ∈ w.limit, fits limit = true ∧ fits w.offset = true ∧ w.offset ≤ 0 ∧
    (limit < 0 ∨ length ≤ limit)

theorem Wanted.Covers.mono {w : Wanted} {m n : Nat} (h : w.Covers n) (hle : m ≤ n) :
    w.Covers m := by
  intro limit hlimit
  obtain ⟨hfits, hoffset, hzero, hlength⟩ := h limit hlimit
  exact ⟨hfits, hoffset, hzero, by omega⟩

theorem Wanted.Covers.part_eq {w : Wanted} {values : List String} (h : w.Covers values.length) :
    w.part values = values := by
  rw [Wanted.part]
  split
  · rename_i limit hlimit
    obtain ⟨-, -, hoffset, hlength⟩ := h limit hlimit
    have hdrop : values.drop w.offset.toNat = values := by
      rw [Int.toNat_of_nonpos hoffset, List.drop_zero]
    simp only [window, hdrop]
    split
    · rfl
    · exact List.take_of_length_le (by omega)
  · rfl

end TechCatalog.Options

namespace TechCatalog.Search

open Request Store Query Profile Service Options

/-- The filter that includes one value only. -/
def including (v : String) : ListFilter where
  included := some [v]

/-- The search for the domains with one category or one country. -/
def valueSearch (c : DomainColumn) (v : String) : Filters where
  category := if c = .category then some (including v) else none
  country := if c = .country then some (including v) else none

/-- The search for the domains that use a technology of one name. -/
def technologySearch (name : String) : Filters where
  technologies := some (including name)

section

variable {db : Database} {d : Domain}

theorem accepts_including (v : String) (cell : Option String) :
    (including v).Accepts cell ↔ cell = some v := by
  simp [ListFilter.Accepts, including, valuesOf]

theorem matches_valueSearch {c : DomainColumn} (hc : c = .category ∨ c = .country) (v : String) :
    Matches db (valueSearch c v) d ↔ d.get c = some (.text v) := by
  rw [valueSearch, matches_attributes]
  rcases hc with rfl | rfl
  · simp [accepts_including, Domain.get]
  · simp [accepts_including, Domain.get]

theorem matches_technologySearch (name : String) :
    Matches db (technologySearch name) d ↔ ∃ l ∈ linksOf db d.id, l.technologyName = name := by
  rw [technologySearch, matches_technologies]
  simp [including, valuesOf]

/-- A search for one value of a column finds the domains that have it. -/
theorem found_valueSearch {c : DomainColumn} (hc : c = .category ∨ c = .country) (v : String) :
    found db (valueSearch c v) = db.domains.countP fun d => d.get c == some (.text v) := by
  refine List.countP_congr fun d _ => ?_
  rw [decide_eq_true_eq, beq_iff_eq]
  exact matches_valueSearch hc v

/-- A search for the name of a technology finds one domain for each link to it. -/
theorem found_technologySearch (h : db.Sound) (hl : db.LinksResolve) (hn : db.NamesKept)
    {t : Technology} (ht : t ∈ db.technologies) :
    found db (technologySearch t.name) =
      db.links.countP fun l => l.technologyId == t.id := by
  have hdomains : ((db.domains.filter fun d =>
      decide (Matches db (technologySearch t.name) d)).map (·.id)).Nodup :=
    h.domain_ids.sublist (List.filter_sublist.map _)
  -- Links to one technology are told apart by their domains.
  have hlinks : ((db.links.filter fun l => l.technologyId == t.id).map (·.domainId)).Nodup := by
    refine List.Nodup.map_on ?_ (h.link_ends.of_map.filter _)
    intro l hl' k hk hsame
    rw [List.mem_filter, beq_iff_eq] at hl' hk
    have hends : (l.domainId, l.technologyId) = (k.domainId, k.technologyId) := by
      rw [hsame, hl'.2, hk.2]
    exact List.inj_on_of_nodup_map h.link_ends hl'.1 hk.1 hends
  have hperm : ((db.links.filter fun l => l.technologyId == t.id).map (·.domainId)).Perm
      ((db.domains.filter fun d =>
        decide (Matches db (technologySearch t.name) d)).map (·.id)) := by
    refine (List.perm_ext_iff_of_nodup hlinks hdomains).mpr fun i => ?_
    simp only [List.mem_map, List.mem_filter, beq_iff_eq, decide_eq_true_eq,
      matches_technologySearch, mem_linksOf]
    constructor
    · rintro ⟨l, ⟨hl', htech⟩, rfl⟩
      obtain ⟨d, hd, hid⟩ := hl.domain l hl'
      exact ⟨d, ⟨hd, l, ⟨hl', hid.symm⟩, hn l hl' t ht htech.symm⟩, hid⟩
    · rintro ⟨d, ⟨-, l, ⟨hl', hid⟩, hname⟩, rfl⟩
      -- The link resolves to a technology of the same name, and no two technologies share one.
      obtain ⟨t', ht', hid'⟩ := hl.technology l hl'
      have hsame : t'.name = t.name := (hn l hl' t' ht' hid').symm.trans hname
      have heq : t' = t := List.inj_on_of_nodup_map h.technology_names ht' ht hsame
      rw [heq] at hid'
      exact ⟨l, ⟨hl', hid'.symm⟩, hid⟩
  rw [found, List.countP_eq_length_filter, List.countP_eq_length_filter]
  have hlength := hperm.length_eq
  rw [List.length_map, List.length_map] at hlength
  exact hlength.symm

/-- Values stand in the order of the number of domains that a search for each of them finds, and in
alphabetical order where these numbers are the same. -/
structure RankedBySearch (db : Database) (search : String → Filters) (values : List String) :
    Prop where
  finds : ∀ v, Finds db (search v) (found db (search v))
  sorted : values.Pairwise (Precedes fun v => found db (search v))

/-- A list is ranked by search when each of its values counts for what a search for it finds. -/
theorem rankedBySearch_rank {search : String → Filters} {offers : List Offer}
    (hfinds : ∀ v, Finds db (search v) (found db (search v)))
    (hweight : ∀ v ∈ rank offers, weightOf offers v = found db (search v)) :
    RankedBySearch db search (rank offers) where
  finds := hfinds
  sorted := by
    refine rank_sorted.imp_of_mem fun {v w} hv hw hprecedes => ?_
    rw [Precedes, hweight v hv, hweight w hw] at hprecedes
    exact hprecedes

/-- Where the store has all names and evaluates the pattern, a list comes to nothing only because of
a number that does not fit. -/
theorem list_eq (htables : db.droppedTables = []) (hcolumns : db.droppedColumns = [])
    (source : Source) {w : Wanted}
    (hpattern : ∀ pattern ∈ w.pattern?, Text.patternTooLong pattern = false) :
    source.list db w =
      if w.limit.any fun limit => !(fits limit && fits w.offset) then .error .overflow
      else .ok (w.part (rank ((source.offers db).filter fun o => w.accepts o.value))) := by
  have hshort : w.pattern?.any Text.patternTooLong = false := by
    cases hp : w.pattern? with
    | none => rfl
    | some pattern => exact hpattern pattern hp
  rw [Source.list, Source.obstacle?, lacks_eq_none htables hcolumns]
  by_cases hnumbers : (w.limit.any fun limit => !(fits limit && fits w.offset)) = true
  · simp only [if_pos hnumbers]
  · simp only [if_neg hnumbers, hshort, Bool.and_false, Bool.false_and, Bool.false_eq_true,
      if_false]

/-- Where nothing is searched for and the whole list is asked for, the ranked list is given. -/
theorem list_eq_rank (htables : db.droppedTables = []) (hcolumns : db.droppedColumns = [])
    (source : Source) {w : Wanted} (hpattern : w.pattern? = none)
    (hcovers : w.Covers (rank (source.offers db)).length) :
    source.list db w = .ok (rank (source.offers db)) := by
  have hnumbers : (w.limit.any fun limit => !(fits limit && fits w.offset)) = false := by
    cases hlimit : w.limit with
    | none => rfl
    | some limit =>
      obtain ⟨hfits, hoffset, -⟩ := hcovers limit hlimit
      simp [hfits, hoffset]
  have haccepts : (source.offers db).filter (fun o => w.accepts o.value) = source.offers db := by
    refine List.filter_eq_self.mpr fun o _ => ?_
    rw [Wanted.accepts, hpattern, Option.all_none]
  have hshort : ∀ pattern ∈ w.pattern?, Text.patternTooLong pattern = false := by
    rw [hpattern]
    intro pattern hp
    cases hp
  rw [list_eq htables hcolumns source hshort, hnumbers, haccepts, hcovers.part_eq]
  rfl

theorem weightOf_domains {c : DomainColumn} {v : String} (hv : v ≠ "") :
    weightOf ((Source.domains c).offers db) v =
      db.domains.countP fun d => d.get c == some (.text v) := by
  refine (weightOf_offers db.domains (fun d => d.get c) (fun _ => 1) hv).trans ?_
  rw [List.countP_eq_length_filter, ← List.sum_eq_foldl]
  simp

/-- Names tell technologies apart, so the name of a technology counts for its links. -/
theorem weightOf_name_eq (h : db.Sound) {t : Technology} (ht : t ∈ db.technologies)
    (hname : t.name ≠ "") : weightOf (Source.technologyNames.offers db) t.name =
      db.links.countP fun l => l.technologyId == t.id := by
  have honly : db.technologies.filter (fun u => u.name == t.name) = [t] := by
    rw [filter_key_eq h.technology_names,
      (find?_key_eq_some_iff h.technology_names t.name t).mpr ⟨ht, rfl⟩]
    rfl
  rw [weightOf_technologyNames db hname, honly, List.map_singleton, List.sum_singleton]

/-- However many rows there are, there are no more names than technologies. -/
theorem length_rank_technologyNames : (rank (Source.technologyNames.offers db)).length ≤
    db.technologies.countP fun t => t.name != "" := by
  have hsub : rank (Source.technologyNames.offers db) ⊆
      (db.technologies.filter fun t => t.name != "").map (·.name) := by
    intro v hv
    obtain ⟨hne, t, ht, rfl⟩ := (exists_technologyName_iff db).mp (mem_rank.mp hv)
    exact List.mem_map_of_mem (List.mem_filter.mpr ⟨ht, bne_iff_ne.mpr hne⟩)
  have hle := (rank_nodup.subperm hsub).length_le
  rwa [List.length_map, ← List.countP_eq_length_filter] at hle

theorem plain_valueSearch {c : DomainColumn} (hc : c = .category ∨ c = .country) (v : String) :
    (valueSearch c v).NaNFree ∧ (valueSearch c v).CountsFit ∧
      ∀ k ∈ clausesOf (valueSearch c v), k.tests.any Test.tooLong = false := by
  obtain ⟨hnan, hfits⟩ := attributes_plain none none _ _
  refine ⟨hnan, hfits, ?_⟩
  rcases hc with rfl | rfl
  · exact List.forall_mem_singleton.mpr rfl
  · exact List.forall_mem_singleton.mpr rfl

theorem plain_technologySearch (name : String) :
    (technologySearch name).NaNFree ∧ (technologySearch name).CountsFit ∧
      ∀ k ∈ clausesOf (technologySearch name), k.tests.any Test.tooLong = false := by
  refine ⟨?_, ⟨?_, ?_, ?_⟩, ?_⟩
  · rintro r ⟨⟩
  · rintro g ⟨⟩
    have hzero : fits 0 = true := by decide
    exact hzero
  · rintro g ⟨⟩
  · rintro g ⟨⟩
  · exact List.forall_mem_singleton.mpr rfl

/-- The lists of categories and of countries have the values that domains have, and the list of
technologies has the names of technologies, unused ones last. All of them are ranked by what a
search that includes one of their values finds. -/
theorem dropdowns_rank_by_search (h : db.Sound) (htables : db.droppedTables = [])
    (hcolumns : db.droppedColumns = []) :
    (∀ c : DomainColumn, c = .category ∨ c = .country →
      ∃ values, Source.list db (.domains c) {} = .ok values ∧
        (∀ v, v ∈ values ↔ v ≠ "" ∧ ∃ d ∈ db.domains, d.get c = some (.text v)) ∧
        RankedBySearch db (valueSearch c) values) ∧
    (db.LinksResolve → db.NamesKept → ∀ w : Wanted, w.pattern? = none →
      w.Covers (db.technologies.countP fun t => t.name != "") →
      ∃ values, Source.list db .technologyNames w = .ok values ∧
        (∀ v, v ∈ values ↔ v ≠ "" ∧ ∃ t ∈ db.technologies, t.name = v) ∧
        RankedBySearch db technologySearch values ∧
        ∀ t ∈ db.technologies, (∀ l ∈ db.links, l.technologyId ≠ t.id) →
          found db (technologySearch t.name) = 0) := by
  constructor
  · intro c hc
    have hmem (v : String) : v ∈ rank ((Source.domains c).offers db) ↔
        v ≠ "" ∧ ∃ d ∈ db.domains, d.get c = some (.text v) :=
      mem_rank.trans (exists_offer_iff db.domains (fun d => d.get c) fun _ => 1)
    have hlist : Source.list db (.domains c) {} = .ok (rank ((Source.domains c).offers db)) :=
      list_eq_rank htables hcolumns _ rfl fun _ hlimit => nomatch hlimit
    refine ⟨_, hlist, hmem, rankedBySearch_rank (fun v => ?_) fun v hv => ?_⟩
    · obtain ⟨hnan, hfits, hpatterns⟩ := plain_valueSearch hc v
      exact finds_found h htables hcolumns hnan hfits hpatterns
    · rw [weightOf_domains ((hmem v).mp hv).1, found_valueSearch hc]
  · intro hl hn w hpattern hcovers
    have hmem (v : String) : v ∈ rank (Source.technologyNames.offers db) ↔
        v ≠ "" ∧ ∃ t ∈ db.technologies, t.name = v :=
      mem_rank.trans (exists_technologyName_iff db)
    refine ⟨_, list_eq_rank htables hcolumns _ hpattern (hcovers.mono length_rank_technologyNames),
      hmem, rankedBySearch_rank (fun v => ?_) fun v hv => ?_, fun t ht hunused => ?_⟩
    · obtain ⟨hnan, hfits, hpatterns⟩ := plain_technologySearch v
      exact finds_found h htables hcolumns hnan hfits hpatterns
    · obtain ⟨hne, t, ht, rfl⟩ := (hmem v).mp hv
      rw [weightOf_name_eq h ht hne, found_technologySearch h hl hn ht]
    · rw [found_technologySearch h hl hn ht, List.countP_eq_zero]
      intro l hmeml hid
      exact hunused l hmeml (beq_iff_eq.mp hid)

end

theorem small_namesKept : Database.small.NamesKept := by
  decide

theorem dropdowns_rank_by_search_small :
    Database.small.Sound ∧ Database.small.LinksResolve ∧ Database.small.NamesKept ∧
    (∃ values, Source.list Database.small (.domains .category) {} = .ok values ∧
      "Retail" ∈ values ∧ RankedBySearch Database.small (valueSearch .category) values) ∧
    ∃ values, Source.list Database.small .technologyNames { limit := some usualLength } =
        .ok values ∧
      "React" ∈ values ∧ "Stripe" ∈ values ∧
      RankedBySearch Database.small technologySearch values := by
  obtain ⟨hdomains, htechnologies⟩ := dropdowns_rank_by_search Database.small_sound rfl rfl
  obtain ⟨categories, hlist, hmem, hranked⟩ := hdomains .category (.inl rfl)
  have hcovers : Wanted.Covers { limit := some usualLength }
      (Database.small.technologies.countP fun t => t.name != "") := by
    rintro limit ⟨⟩
    decide
  obtain ⟨names, hnames, hnamed, hrankedNames, -⟩ := htechnologies Database.small_linksResolve
    small_namesKept { limit := some usualLength } rfl hcovers
  refine ⟨Database.small_sound, Database.small_linksResolve, small_namesKept,
    ⟨categories, hlist, (hmem "Retail").mpr (by decide), hranked⟩,
    names, hnames, (hnamed "React").mpr (by decide), (hnamed "Stripe").mpr (by decide),
    hrankedNames⟩

end TechCatalog.Search
