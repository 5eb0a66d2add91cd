import TechCatalog.Proofs.Dropdowns
import TechCatalog.Proofs.Trimming

/-!
# Searching a list of values and taking a part of it

A list of values to choose from is ranked as a whole: every value counts for the rows that hold it,
whatever is searched for. To search the list is to keep the values that contain a text, in the order
in which they stand, and to ask for a part is to cut it out of what is kept. So the parts of one
search, one after the other, neither overlap nor leave anything out.
-/

namespace TechCatalog.Options

open Store Query Request Text

/-- A source has a value when one of its rows holds it. -/
def Source.Holds (db : Database) (source : Source) (v : String) : Prop :=
  match source with
  | .domains c => ∃ d ∈ db.domains, d.get c = some (.text v)
  | .technologyNames => ∃ t ∈ db.technologies, t.name = v
  | .technologyCategories => ∃ t ∈ db.technologies, t.category = some v

/-- How much a value counts for: the rows that hold it, or, for the name of a technology, the links
to the technologies of this name. -/
def Source.countOf (db : Database) (source : Source) (v : String) : Nat :=
  match source with
  | .domains c => db.domains.countP fun d => d.get c == some (.text v)
  | .technologyNames =>
    ((db.technologies.filter fun t => t.name == v).map fun t =>
      db.links.countP fun l => l.technologyId == t.id).sum
  | .technologyCategories => db.technologies.countP fun t => t.category == some v

/-- A list has every value of a source that is not empty, each once, the weightiest first and
equally weighty ones in alphabetical order. -/
structure Ranked (db : Database) (source : Source) (values : List String) : Prop where
  distinct : values.Nodup
  mem : ∀ v, v ∈ values ↔ v ≠ "" ∧ source.Holds db v
  sorted : values.Pairwise (Precedes (source.countOf db))

/-- A search asks for a value that contains its text, blanks around the text left out and the case
of the letters A to Z apart. -/
def Sought (search : Option String) (v : String) : Prop :=
  ∀ s ∈ search, MatchType.contains.OccursIn (asciiLower (strip s)) (asciiLower v)

instance (search : Option String) (v : String) : Decidable (Sought search v) :=
  inferInstanceAs (Decidable (∀ s ∈ search, _))

/-- The store evaluates the pattern of a search. -/
def WithinLimit (search : Option String) : Prop :=
  ∀ pattern ∈ ({ search := search } : Wanted).pattern?, patternTooLong pattern = false
  deriving Decidable

section

variable {weight : String → Nat} {offers : List Offer}

instance (weight : String → Nat) (v w : String) : Decidable (Precedes weight v w) :=
  inferInstanceAs (Decidable (_ ∨ _))

theorem Precedes.asymm {v w : String} (h : Precedes weight v w) : ¬ Precedes weight w v := by
  rintro (hless | ⟨hsame, hlt⟩)
  · rcases h with hmore | ⟨hequal, -⟩ <;> omega
  · rcases h with hmore | ⟨-, hgt⟩
    · omega
    · exact hlt.asymm hgt

/-- There is one order in which some values precede each other. -/
theorem eq_of_precedes {xs ys : List String} (hx : xs.Pairwise (Precedes weight))
    (hy : ys.Pairwise (Precedes weight)) (h : ∀ v, v ∈ xs ↔ v ∈ ys) : xs = ys := by
  have hnodup {zs : List String} (hz : zs.Pairwise (Precedes weight)) : zs.Nodup := by
    refine hz.imp fun {v w} hvw heq => ?_
    subst heq
    exact hvw.asymm hvw
  refine List.Perm.eq_of_pairwise (fun v w _ _ hvw hwv => absurd hwv hvw.asymm) hx hy ?_
  exact (List.perm_ext_iff_of_nodup (hnodup hx) (hnodup hy)).mpr h

/-- Leaving out some values does not change what the others count for. -/
theorem weightOf_filter {p : String → Bool} {v : String} (hv : p v = true) :
    weightOf (offers.filter fun o => p o.value) v = weightOf offers v := by
  rw [weightOf, weightOf, List.filter_filter]
  refine congrArg (List.foldl _ 0) (List.filter_congr fun o _ => ?_)
  by_cases ho : o.value = v
  · simp [ho, hv]
  · simp [ho]

/-- To rank some of the values is to keep them in the ranked list of all. -/
theorem rank_filter (offers : List Offer) (p : String → Bool) :
    rank (offers.filter fun o => p o.value) = (rank offers).filter p := by
  have hmem (v : String) :
      v ∈ rank (offers.filter fun o => p o.value) ↔ v ∈ (rank offers).filter p := by
    rw [List.mem_filter, mem_rank, mem_rank]
    constructor
    · rintro ⟨o, ho, rfl⟩
      rw [List.mem_filter] at ho
      exact ⟨⟨o, ho.1, rfl⟩, ho.2⟩
    · rintro ⟨⟨o, ho, rfl⟩, hp⟩
      exact ⟨o, List.mem_filter.mpr ⟨ho, hp⟩, rfl⟩
  -- By the weights of all offers both lists are in order, and only one list of these values is.
  have hsorted : ((rank offers).filter p).Pairwise (Precedes (weightOf offers)) :=
    rank_sorted.filter p
  refine eq_of_precedes ?_ hsorted hmem
  refine rank_sorted.imp_of_mem fun {v w} hv hw hprecedes => ?_
  have hkept {u : String} (hu : u ∈ rank (offers.filter fun o => p o.value)) : p u = true :=
    (List.mem_filter.mp ((hmem u).mp hu)).2
  rwa [Precedes, weightOf_filter (hkept hv), weightOf_filter (hkept hw)] at hprecedes

end

section

variable (db : Database) (source : Source)

theorem weightOf_eq_countOf {v : String} (hv : v ≠ "") :
    weightOf (source.offers db) v = source.countOf db v := by
  cases source with
  | domains c => exact Search.weightOf_domains hv
  | technologyNames => exact weightOf_technologyNames db hv
  | technologyCategories =>
    have hcell : db.technologies.filter (fun t => t.get .category == some (.text v)) =
        db.technologies.filter fun t => t.category == some v := by
      refine List.filter_congr fun t _ => ?_
      rw [Bool.eq_iff_iff, beq_iff_eq, beq_iff_eq]
      simp [Technology.get]
    refine (weightOf_offers db.technologies (fun t => t.get .category) (fun _ => 1) hv).trans ?_
    rw [hcell, ← List.sum_eq_foldl, Source.countOf, List.countP_eq_length_filter]
    simp

theorem mem_rank_offers {v : String} :
    v ∈ rank (source.offers db) ↔ v ≠ "" ∧ source.Holds db v := by
  rw [mem_rank]
  cases source with
  | domains c => exact exists_offer_iff db.domains (fun d => d.get c) fun _ => 1
  | technologyNames => exact exists_technologyName_iff db
  | technologyCategories =>
    refine (exists_offer_iff db.technologies (fun t => t.get .category) fun _ => 1).trans ?_
    simp [Source.Holds, Technology.get]

theorem ranked_rank : Ranked db source (rank (source.offers db)) where
  distinct := rank_nodup
  mem v := mem_rank_offers db source
  sorted := by
    refine rank_sorted.imp_of_mem fun {v w} hv hw hprecedes => ?_
    rwa [Precedes, weightOf_eq_countOf db source ((mem_rank_offers db source).mp hv).1,
      weightOf_eq_countOf db source ((mem_rank_offers db source).mp hw).1] at hprecedes

end

theorem Ranked.eq {db : Database} {source : Source} {xs ys : List String}
    (hx : Ranked db source xs) (hy : Ranked db source ys) : xs = ys :=
  eq_of_precedes hx.sorted hy.sorted fun v => (hx.mem v).trans (hy.mem v).symm

section

variable {w : Wanted} {search : Option String} {v : String}

theorem part_eq {limit : Int} {values : List String} (hlimit : w.limit = some limit)
    (hone : 1 ≤ limit) : w.part values = (values.drop w.offset.toNat).take limit.toNat := by
  have hnegative : ¬ limit < 0 := by omega
  simp only [Wanted.part, hlimit, window, if_neg hnegative]

theorem occursIn_empty (v : String) :
    MatchType.contains.OccursIn (asciiLower "") (asciiLower v) :=
  List.nil_infix

theorem sought_of_allBlank (h : ∀ s ∈ search, allBlank s = true) (v : String) :
    Sought search v := by
  intro s hs
  rw [strip_of_allBlank (h s hs)]
  exact occursIn_empty v

/-- A value is wanted if the search asks for it. -/
theorem accepts_iff_sought (hsearch : ∀ s ∈ w.search, NulFree s) (hv : NulFree v) :
    w.accepts v = true ↔ Sought w.search v := by
  rw [Wanted.accepts, Wanted.pattern?, Sought]
  cases hs : w.search with
  | none => simp
  | some s =>
    have hstripped : NulFree (strip s) := (hsearch s hs).strip
    simp only [Option.map_some, Option.mem_some_iff, forall_eq']
    split
    · rename_i heq
      cases heq
    · rename_i heq
      have hempty : strip s = "" := Option.some.inj heq
      rw [hempty, Option.all_none]
      exact iff_of_true rfl (occursIn_empty v)
    · rename_i heq
      have hpattern : "%" ++ escapeLike (strip s) ++ "%" ∈ Search.patternFor .contains (strip s) :=
        rfl
      rw [← Option.some.inj heq, Option.all_some]
      exact Search.like_patternFor hpattern hstripped hv

end

section

variable {db : Database} (htables : db.droppedTables = []) (hcolumns : db.droppedColumns = [])
  {source : Source} (hvalues : ∀ v, source.Holds db v → NulFree v) {search : Option String}
  (hsearch : ∀ s ∈ search, NulFree s) (hlimit : WithinLimit search)

include htables hcolumns hvalues hsearch hlimit

/-- A part of what is searched for is cut out of what the search keeps of the ranked list. -/
theorem list_sought {limit offset : Int} (hone : 1 ≤ limit) (hfits : fits limit = true)
    (hoffset : fits offset = true) : source.list db ⟨search, some limit, offset⟩ =
      .ok ((((rank (source.offers db)).filter fun v => Sought search v).drop
        offset.toNat).take limit.toNat) := by
  have hkept : (rank (source.offers db)).filter
      (fun v => (Wanted.mk search (some limit) offset).accepts v) =
        (rank (source.offers db)).filter fun v => Sought search v := by
    refine List.filter_congr fun v hv => ?_
    have hnul := hvalues v ((mem_rank_offers db source).mp hv).2
    rw [Bool.eq_iff_iff, decide_eq_true_eq]
    exact accepts_iff_sought hsearch hnul
  have hshort : ∀ pattern ∈ (Wanted.mk search (some limit) offset).pattern?,
      patternTooLong pattern = false := hlimit
  rw [Search.list_eq htables hcolumns source hshort, rank_filter, hkept, part_eq rfl hone]
  simp [hfits, hoffset]

/-- The parts of a search are those of what it keeps of the ranked list. -/
theorem mapM_list_sought {limit : Int} {parts : Nat} (hone : 1 ≤ limit) (hfits : fits limit = true)
    (hoffsets : ∀ i < parts, fits (i * limit) = true) :
    (List.range parts).mapM (fun i : Nat => source.list db ⟨search, some limit, i * limit⟩) =
      .ok ((List.range parts).map fun i =>
        (((rank (source.offers db)).filter fun v => Sought search v).drop
          (i * limit.toNat)).take limit.toNat) := by
  rw [mapM_eq_ok, List.forall₂_map_right_iff, List.forall₂_same]
  intro i hi
  have hoffset : ((i : Int) * limit).toNat = i * limit.toNat := by
    rw [Int.toNat_mul (by omega) (by omega), Int.toNat_natCast]
  rw [list_sought htables hcolumns hvalues hsearch hlimit hone hfits
    (hoffsets i (List.mem_range.mp hi)), hoffset]

end

/-- Domains of which some share the name of a company and some have none, and technologies that are
used by three of them, by two, by one and by none. -/
def shops : Database where
  domains := [
    { id := 1, companyName := some "Corner_shop" }, { id := 2, companyName := some "Zoo" },
    { id := 3, companyName := some "Tea Shop" }, { id := 4, companyName := some "50% off shop" },
    { id := 5, companyName := some "" }, { id := 6, companyName := some "Tea Shop" }, { id := 7 },
    { id := 8, companyName := some "Zoo" }]
  technologies := [{ id := 1, name := "Angular" }, { id := 2, name := "React" },
    { id := 3, name := "Preact" }, { id := 4, name := "jQuery" }, { id := 5, name := "" },
    { id := 6, name := "Inferno" }]
  links := [{ id := 1, domainId := 1, technologyId := 4 },
    { id := 2, domainId := 2, technologyId := 4 }, { id := 3, domainId := 3, technologyId := 4 },
    { id := 4, domainId := 1, technologyId := 2 }, { id := 5, domainId := 2, technologyId := 2 },
    { id := 6, domainId := 4, technologyId := 3 }, { id := 7, domainId := 6, technologyId := 3 },
    { id := 8, domainId := 8, technologyId := 6 }, { id := 9, domainId := 8, technologyId := 5 }]

/-- The names in the order of a list to choose from. -/
def shopNames : List String := ["Tea Shop", "Zoo", "50% off shop", "Corner_shop"]

/-- The names of the technologies in the order of a list to choose from. -/
def technologyNames : List String := ["jQuery", "Preact", "React", "Inferno", "Angular"]

theorem ranked_shops : Ranked shops (.domains .companyName) shopNames where
  distinct := by decide
  mem v := by
    have hheld : ∀ u ∈ shopNames, u ≠ "" ∧
        ∃ d ∈ shops.domains, d.get .companyName = some (.text u) := by decide
    have hlisted : ∀ d ∈ shops.domains, ∀ u ∈ d.companyName, u ≠ "" → u ∈ shopNames := by decide
    refine ⟨hheld v, ?_⟩
    rintro ⟨hne, d, hd, hcell⟩
    have hname : d.companyName = some v := by simpa [Domain.get] using hcell
    exact hlisted d hd v hname hne
  sorted := by decide

theorem ranked_technologies : Ranked shops .technologyNames technologyNames where
  distinct := by decide
  mem v := by
    have hheld : ∀ u ∈ technologyNames, u ≠ "" ∧ ∃ t ∈ shops.technologies, t.name = u := by decide
    have hlisted : ∀ t ∈ shops.technologies, t.name ≠ "" → t.name ∈ technologyNames := by decide
    refine ⟨hheld v, ?_⟩
    rintro ⟨hne, t, ht, rfl⟩
    exact hlisted t ht hne
  sorted := by decide

/-- Values that stand in a list to choose from or are empty have no null character, if those of the
list have none. -/
theorem nulFree_of_ranked {db : Database} {source : Source} {values : List String}
    (hranked : Ranked db source values) (hfree : ∀ u ∈ "" :: values, NulFree u) {v : String}
    (hv : source.Holds db v) : NulFree v := by
  refine hfree v (List.mem_cons.mpr ?_)
  by_cases hne : v = ""
  · exact .inl hne
  · exact .inr ((hranked.mem v).mpr ⟨hne, hv⟩)

end TechCatalog.Options
