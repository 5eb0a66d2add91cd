import TechCatalog.Proofs.Finding

/-!
# Lists of values as sets

The values that a search includes, excludes or requires are given in lists, and so are its category
filters, but only what is in a list counts. Searches that differ in the order and the repetition of
such items alone match the same domains, and searches that match the same domains give the same
result for the same page.
-/

namespace TechCatalog.Request

/-- Two lists hold the same items, in whatever order and however often. -/
def SameMembers {α : Type} (xs ys : List α) : Prop :=
  ∀ x, x ∈ xs ↔ x ∈ ys

instance {α : Type} [DecidableEq α] (xs ys : List α) : Decidable (SameMembers xs ys) :=
  decidable_of_iff (xs ⊆ ys ∧ ys ⊆ xs)
    ⟨fun h _ => ⟨fun hx => h.1 hx, fun hy => h.2 hy⟩,
      fun h => ⟨fun x hx => (h x).mp hx, fun x hy => (h x).mpr hy⟩⟩

/-- Two list filters give the same values to accept, to refuse and to require. -/
structure ListFilter.SameValues (g k : ListFilter) : Prop where
  included : SameMembers (valuesOf g.included) (valuesOf k.included)
  excluded : SameMembers (valuesOf g.excluded) (valuesOf k.excluded)
  required : SameMembers (valuesOf g.required) (valuesOf k.required)

/-- Two searches differ at most in the order and the repetition of the values in their list filters
and of their category filters. -/
structure Filters.SameValues (f g : Filters) : Prop where
  domain : f.domain = g.domain
  companyName : f.companyName = g.companyName
  category : Option.Rel ListFilter.SameValues f.category g.category
  country : Option.Rel ListFilter.SameValues f.country g.country
  technologies : Option.Rel ListFilter.SameValues f.technologies g.technologies
  technologyCategories : Option.Rel SameMembers f.technologyCategories g.technologyCategories
  totalSpendRange : f.totalSpendRange = g.totalSpendRange
  technologyCountRange : f.technologyCountRange = g.technologyCountRange

section

variable {α : Type} {xs ys : List α}

theorem SameMembers.symm (h : SameMembers xs ys) : SameMembers ys xs :=
  fun x => (h x).symm

theorem SameMembers.eq_nil_iff (h : SameMembers xs ys) : xs = [] ↔ ys = [] := by
  rw [List.eq_nil_iff_forall_not_mem, List.eq_nil_iff_forall_not_mem]
  exact forall_congr' fun x => not_congr (h x)

theorem SameMembers.forall_iff (h : SameMembers xs ys) {p : α → Prop} :
    (∀ x ∈ xs, p x) ↔ ∀ x ∈ ys, p x :=
  forall_congr' fun x => imp_congr_left (h x)

theorem SameMembers.exists_iff (h : SameMembers xs ys) {p : α → Prop} :
    (∃ x ∈ xs, p x) ↔ ∃ x ∈ ys, p x :=
  exists_congr fun x => and_congr_left' (h x)

end

theorem optionRel_symm {α : Type} {r : α → α → Prop} (hr : ∀ {x y}, r x y → r y x) {a b : Option α}
    (h : Option.Rel r a b) : Option.Rel r b a := by
  cases h with
  | none => exact .none
  | some hxy => exact .some (hr hxy)

/-- What is asked of a part that may be absent goes over to a related one. -/
theorem forall_mem_of_optionRel {α : Type} {r : α → α → Prop} {a b : Option α}
    (h : Option.Rel r a b) {p : α → Prop} (hp : ∀ x y, r x y → p x → p y) (ha : ∀ x ∈ a, p x) :
    ∀ y ∈ b, p y := by
  cases h with
  | none => exact fun y hy => nomatch hy
  | some hxy =>
    rintro y ⟨⟩
    exact hp _ _ hxy (ha _ rfl)

theorem ListFilter.SameValues.symm {g k : ListFilter} (h : g.SameValues k) : k.SameValues g :=
  ⟨h.included.symm, h.excluded.symm, h.required.symm⟩

theorem Filters.SameValues.symm {f g : Filters} (h : f.SameValues g) : g.SameValues f where
  domain := h.domain.symm
  companyName := h.companyName.symm
  category := optionRel_symm ListFilter.SameValues.symm h.category
  country := optionRel_symm ListFilter.SameValues.symm h.country
  technologies := optionRel_symm ListFilter.SameValues.symm h.technologies
  technologyCategories := optionRel_symm SameMembers.symm h.technologyCategories
  totalSpendRange := h.totalSpendRange.symm
  technologyCountRange := h.technologyCountRange.symm

theorem ListFilter.SameValues.accepts_iff {g k : ListFilter} (h : g.SameValues k)
    (cell : Option String) : g.Accepts cell ↔ k.Accepts cell := by
  simp only [ListFilter.Accepts, ne_eq, h.included.eq_nil_iff, h.excluded.eq_nil_iff, h.included _,
    h.excluded _]

/-- Whether there is an alternative among category filters, and which of them accept, does not
depend on their order. -/
theorem acceptsCategory_congr {gs ks : List CategoryFilter} (h : SameMembers gs ks)
    (category : Option String) (count : String → Nat) :
    AcceptsCategory gs category count ↔ AcceptsCategory ks category count := by
  simp only [AcceptsCategory, h.exists_iff, h.forall_iff]

end TechCatalog.Request

namespace TechCatalog.Search

open Request Store Query Profile Service

section

variable {db : Database} {f g : Filters} {d : Domain}

theorem DomainAccepted.of_sameValues (h : f.SameValues g) (hd : DomainAccepted db f d) :
    DomainAccepted db g d where
  domain := h.domain ▸ hd.domain
  companyName := h.companyName ▸ hd.companyName
  category :=
    forall_mem_of_optionRel h.category (fun _ _ hsame => (hsame.accepts_iff _).mp) hd.category
  country :=
    forall_mem_of_optionRel h.country (fun _ _ hsame => (hsame.accepts_iff _).mp) hd.country
  refused := by
    refine forall_mem_of_optionRel h.technologies (fun g k hsame hrefused l hl => ?_) hd.refused
    rw [← hsame.excluded]
    exact hrefused l hl
  required := by
    refine forall_mem_of_optionRel h.technologies (fun g k hsame hrequired => ?_) hd.required
    rw [← hsame.required.forall_iff]
    exact hrequired
  counted := h.technologyCountRange ▸ hd.counted

theorem RowAccepted.of_sameValues (h : f.SameValues g) {link : Option Link}
    (hrow : RowAccepted db f d link) : RowAccepted db g d link where
  named := by
    refine forall_mem_of_optionRel h.technologies (fun g k hsame hnamed hne => ?_) hrow.named
    obtain ⟨l, hl, hname⟩ := hnamed (mt hsame.included.eq_nil_iff.mp hne)
    exact ⟨l, hl, (hsame.included _).mp hname⟩
  categorised := by
    refine forall_mem_of_optionRel h.technologyCategories (fun gs ks hsame haccepts hne => ?_)
      hrow.categorised
    rw [← acceptsCategory_congr hsame]
    exact haccepts (mt hsame.eq_nil_iff.mp hne)
  spent := h.totalSpendRange ▸ hrow.spent

theorem Matches.of_sameValues (h : f.SameValues g) (hmatches : Matches db f d) :
    Matches db g d := by
  -- The row that serves the one search serves the other too, so the links need no comparison.
  obtain ⟨link, hlink, hrow⟩ := hmatches.row
  exact ⟨hmatches.toDomainAccepted.of_sameValues h, link, hlink, hrow.of_sameValues h⟩

theorem matches_congr (h : f.SameValues g) : Matches db f d ↔ Matches db g d :=
  ⟨.of_sameValues h, .of_sameValues h.symm⟩

theorem listingOf_congr (hmatches : ∀ d ∈ db.domains, (Matches db f d ↔ Matches db g d))
    (p : Paging) : listingOf db f p = listingOf db g p := by
  have hfilter : db.domains.filter (fun d => decide (Matches db f d)) =
      db.domains.filter fun d => decide (Matches db g d) :=
    List.filter_congr fun d hd => decide_eq_decide.mpr (hmatches d hd)
  rw [listingOf, listing, hfilter]
  rfl

/-- Searches that match the same domains give the same result, as far as they complete. -/
theorem result_eq_of_matches_iff (h : db.Sound)
    (hmatches : ∀ d ∈ db.domains, (Matches db f d ↔ Matches db g d)) {p : Paging} {s : Settings}
    {id₁ id₂ : Option String} {result₁ result₂ : ResultPage}
    (hf : (execute db f p s id₁).result = .ok result₁)
    (hg : (execute db g p s id₂).result = .ok result₂) :
    result₁.totalCount = result₂.totalCount ∧ result₁.domains = result₂.domains := by
  obtain ⟨htotal₁, hshown₁⟩ := execute_shows h hf
  obtain ⟨htotal₂, hshown₂⟩ := execute_shows h hg
  rw [listingOf_congr hmatches] at htotal₁ hshown₁
  exact ⟨htotal₁.trans htotal₂.symm, Except.ok.inj (hshown₁.symm.trans hshown₂)⟩

/-- Of the lists in a search only what is in them counts. Searches that differ in the order and the
repetition of such items alone select and pass over the same domains, and wherever both complete
for the same page they give the same total and show the same domains. -/
theorem lists_ask_as_sets (h : db.Sound) (hsame : f.SameValues g) :
    (∀ d ∈ db.domains, (Selects db f d ↔ Selects db g d) ∧
      (PassesOver db f d ↔ PassesOver db g d)) ∧
    ∀ (p : Paging) (s : Settings) (id₁ id₂ : Option String) (result₁ result₂ : ResultPage),
      (execute db f p s id₁).result = .ok result₁ →
      (execute db g p s id₂).result = .ok result₂ →
      result₁.totalCount = result₂.totalCount ∧ result₁.domains = result₂.domains := by
  constructor
  · intro d hd
    -- NaN is bound for the spend only, and there the searches are equal.
    have hnan : f.NaNFree ↔ g.NaNFree := by
      rw [Filters.NaNFree, hsame.totalSpendRange]
      rfl
    exact selects_congr h hnan hd (matches_congr hsame)
  · intro p s id₁ id₂ result₁ result₂ hf hg
    exact result_eq_of_matches_iff h (fun d _ => matches_congr hsame) hf hg

end

/-- A search with lists of every kind. -/
def listedOnce : Filters where
  category := some { included := some ["Retail", "Media"] }
  technologies := some { excluded := some ["jQuery"], required := some ["React", "Stripe"] }
  technologyCategories := some [{ category := "Payment" },
    { category := "Framework", minCount := some 2, operator := .or }]

/-- The same search with its lists turned round and with repetitions. -/
def listedTwice : Filters where
  category := some { included := some ["Media", "Retail", "Media"] }
  technologies := some {
    excluded := some ["jQuery", "jQuery"]
    required := some ["Stripe", "React", "Stripe"] }
  technologyCategories := some [
    { category := "Framework", minCount := some 2, operator := .or },
    { category := "Payment" }, { category := "Payment" }]

theorem listedOnce_sameValues : listedOnce.SameValues listedTwice where
  domain := rfl
  companyName := rfl
  category := .some ⟨by decide, by decide, by decide⟩
  country := .none
  technologies := .some ⟨by decide, by decide, by decide⟩
  technologyCategories := .some (by decide)
  totalSpendRange := rfl
  technologyCountRange := rfl

theorem lists_ask_as_sets_small :
    Database.small.Sound ∧ listedOnce.SameValues listedTwice ∧
      ∃ result₁ result₂,
        (execute Database.small listedOnce {} {} none).result = .ok result₁ ∧
        (execute Database.small listedTwice {} {} none).result = .ok result₂ ∧
        result₁.totalCount = 1 ∧ result₁.domains.map (·.id) = [1] ∧
        result₁.totalCount = result₂.totalCount ∧ result₁.domains = result₂.domains := by
  have hstored : ∀ d ∈ Database.small.domains.take 1, d ∈ Database.small.domains :=
    fun d hd => List.mem_of_mem_take hd
  have honce : listingOf Database.small listedOnce {} = Database.small.domains.take 1 :=
    listingOf_of_sorted (by decide) (by decide)
  have htwice : listingOf Database.small listedTwice {} = Database.small.domains.take 1 :=
    listingOf_of_sorted (by decide) (by decide)
  have hfirst := execute_firstPage Database.small_sound rfl rfl rfl honce (by decide)
    (small_whole.profiles hstored (by decide))
  have hsecond := execute_firstPage Database.small_sound rfl rfl rfl htwice (by decide)
    (small_whole.profiles hstored (by decide))
  obtain ⟨-, hresults⟩ := lists_ask_as_sets Database.small_sound listedOnce_sameValues
  exact ⟨Database.small_sound, listedOnce_sameValues, _, _, hfirst, hsecond, rfl, rfl,
    hresults {} {} none none _ _ hfirst hsecond⟩

end TechCatalog.Search
