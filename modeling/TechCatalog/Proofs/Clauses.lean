import TechCatalog.Proofs.Keys
import TechCatalog.Proofs.Truth
import TechCatalog.Search.Conditions

/-!
# What each filter asks for

A filter is read here as a demand on the cell or on the count it is about, and each clause that
`Search.clausesOf` makes of a filter is shown to be true of a joined row exactly when the row meets
the demand. A demand is never met by an empty cell, with one exception: a negated category filter
with bounds is met by a domain whose number of technologies is out of bounds.
-/

namespace TechCatalog.Request

/-- The text of a cell as a text filter looks at it. -/
def TextFilter.seen (f : TextFilter) (s : String) : String :=
  if f.caseSensitive then s else Text.asciiLower s

/-- The text that a text filter looks for. -/
def TextFilter.wanted (f : TextFilter) : String :=
  if f.caseSensitive then f.value else Text.lower f.value

/-- Whether a text is the one that a text filter looks for, or matches the pattern made of it. -/
def TextFilter.suits (f : TextFilter) (s : String) : Bool :=
  match Search.patternFor f.matchType f.wanted with
  | none => f.seen s == f.wanted
  | some pattern => Text.like pattern (f.seen s)

/-- A text filter accepts a cell that holds a suitable text. -/
def TextFilter.Accepts (f : TextFilter) (cell : Option String) : Prop :=
  ∃ s ∈ cell, f.suits s = true
  deriving Decidable

/-- A list filter accepts a cell with a single value: values to accept come before values to
refuse, and an empty cell is neither among the ones nor outside the others. -/
def ListFilter.Accepts (f : ListFilter) (cell : Option String) : Prop :=
  if valuesOf f.included ≠ [] then ∃ s ∈ cell, s ∈ valuesOf f.included
  else if valuesOf f.excluded ≠ [] then ∃ s ∈ cell, s ∉ valuesOf f.excluded
  else True
  deriving Decidable

/-- A range admits what lies between its bounds, by the places of values in their order. -/
def Range.Admits {α : Type} (place : α → Int) (r : Range α) (x : α) : Prop :=
  (∀ lo ∈ r.min, if r.inclusive then place lo ≤ place x else place lo < place x) ∧
  (∀ hi ∈ r.max, if r.inclusive then place x ≤ place hi else place x < place hi)
  deriving Decidable

/-- A category filter admits a number of technologies within its bounds. -/
def CategoryFilter.AdmitsCount (f : CategoryFilter) (n : Nat) : Prop :=
  (∀ lo ∈ f.minCount, lo ≤ n) ∧ ∀ hi ∈ f.maxCount, (n : Int) ≤ hi
  deriving Decidable

/-- A category filter accepts a technology of the category where the number of such technologies is
within the bounds. Negated, it accepts a technology of another category, and whatever there is where
bounds are set and the domain is none of the owners whose number is within them. -/
def CategoryFilter.Accepts (f : CategoryFilter) (category : Option String) (count : Nat) : Prop :=
  if f.operator = .not then
    (∃ c ∈ category, c ≠ f.category) ∨ (f.isCounted = true ∧ ¬(0 < count ∧ f.AdmitsCount count))
  else category = some f.category ∧ f.AdmitsCount count
  deriving Decidable

/-- A list of category filters accepts what one of them accepts if there is an alternative among
them, and otherwise what each of them accepts. `count` gives the number of technologies of a
category. -/
def AcceptsCategory (fs : List CategoryFilter) (category : Option String) (count : String → Nat) :
    Prop :=
  if ∃ f ∈ fs, f.operator = .or then ∃ f ∈ fs, f.Accepts category (count f.category)
  else ∀ f ∈ fs, f.Accepts category (count f.category)
  deriving Decidable

end TechCatalog.Request

namespace TechCatalog.Search

open Request Store Query

variable {db : Database} {r : JoinedRow}

theorem holds_equal_text (s v : String) :
    Comparison.equal.holds ((Value.text s).order (.text v)) = true ↔ s = v := by
  simp only [Comparison.holds, Value.order, beq_iff_eq, Std.LawfulEqOrd.compare_eq_iff_eq]

theorem holds_unequal_text (s v : String) :
    Comparison.unequal.holds ((Value.text s).order (.text v)) = true ↔ s ≠ v := by
  simp only [Comparison.holds, Value.order, bne_iff_ne, ne_eq, Std.LawfulEqOrd.compare_eq_iff_eq]

/-- The clause of a text filter decides a text by whether it suits, and nothing else. -/
theorem eval_textClause_eq {c : Column} {cell : Option String} (hc : r.get c = cell.map .text)
    (f : TextFilter) : (textClause c f).eval db r = cell.map f.suits := by
  have hx : (if f.caseSensitive = true then Operand.column c else .lowered c).get r =
      cell.map fun s => .text (f.seen s) := by
    cases cell <;> cases hs : f.caseSensitive <;>
      simp [Operand.get, hc, TextFilter.seen, hs]
  have hv : (if f.caseSensitive = true then f.value else Text.lower f.value) = f.wanted := rfl
  have hequal (s : String) :
      Comparison.equal.holds ((Value.text (f.seen s)).order (.text f.wanted)) =
        (f.seen s == f.wanted) := by
    rw [Bool.eq_iff_iff, holds_equal_text, beq_iff_eq]
  rw [textClause, Clause.eval_ofTest, textTest, hv]
  cases hp : patternFor f.matchType f.wanted with
  | none =>
    cases cell with
    | none => simp [Test.eval, hx]
    | some s => simp [Test.eval, hx, hequal, TextFilter.suits, hp]
  | some pattern =>
    cases cell with
    | none => simp [Test.eval, hx]
    | some s => simp [Test.eval, hx, TextFilter.suits, hp]

/-- A text filter. -/
theorem eval_textClause {c : Column} {cell : Option String} (hc : r.get c = cell.map .text)
    (f : TextFilter) : (textClause c f).eval db r = some true ↔ f.Accepts cell := by
  rw [eval_textClause_eq hc, Option.map_eq_some_iff, TextFilter.Accepts]
  rfl

theorem eval_equalText {c : Column} {cell : Option String} (hc : r.get c = cell.map .text)
    (v : String) :
    (Test.compare (.column c) .equal (.text v)).eval db r = some true ↔ cell = some v := by
  cases cell with
  | none => simp [Test.eval, Operand.get, hc]
  | some s => simp [Test.eval, Operand.get, hc, holds_equal_text]

theorem eval_equalText_false {c : Column} {cell : Option String} (hc : r.get c = cell.map .text)
    (v : String) :
    (Test.compare (.column c) .equal (.text v)).eval db r = some false ↔ ∃ s ∈ cell, s ≠ v := by
  cases cell with
  | none => simp [Test.eval, Operand.get, hc]
  | some s =>
    have h := holds_equal_text s v
    simp [Test.eval, Operand.get, hc, ← Bool.not_eq_true, h]

theorem eval_unequalText {c : Column} {cell : Option String} (hc : r.get c = cell.map .text)
    (v : String) :
    (Test.compare (.column c) .unequal (.text v)).eval db r = some true ↔ ∃ s ∈ cell, s ≠ v := by
  cases cell with
  | none => simp [Test.eval, Operand.get, hc]
  | some s => simp [Test.eval, Operand.get, hc, holds_unequal_text]

/-- A list filter on a column with one value per domain. -/
theorem eval_singleClause {c : Column} {cell : Option String} (hc : r.get c = cell.map .text)
    (f : ListFilter) :
    (∀ k ∈ singleClause? c f, k.eval db r = some true) ↔ f.Accepts cell := by
  rw [singleClause?, ListFilter.Accepts]
  cases hi : valuesOf f.included with
  | cons v vs =>
    simp only [Option.mem_def, Option.some.injEq, forall_eq', Clause.eval_any_eq_true,
      List.mem_map, exists_exists_and_eq_and, Term.eval_holds_eq_true,
      List.forall_mem_singleton, eval_equalText hc]
    rw [if_pos (List.cons_ne_nil v vs)]
    constructor
    · rintro ⟨s, hs, hcell⟩
      exact ⟨s, hcell, hs⟩
    · rintro ⟨s, hcell, hs⟩
      exact ⟨s, hs, hcell⟩
  | nil =>
    rw [if_neg (not_not_intro rfl)]
    cases he : valuesOf f.excluded with
    | nil => simp
    | cons v vs =>
      simp only [Option.mem_def, Option.some.injEq, forall_eq', Clause.eval_all_eq_true,
        List.forall_mem_map, Term.eval_holds_eq_true, List.forall_mem_singleton,
        eval_unequalText hc]
      rw [if_pos (List.cons_ne_nil v vs)]
      constructor
      · intro h
        obtain ⟨s, hcell, -⟩ := h v List.mem_cons_self
        refine ⟨s, hcell, fun hs => ?_⟩
        obtain ⟨t, ht, hne⟩ := h s hs
        exact hne (Option.some.inj (ht.symm.trans hcell))
      · rintro ⟨s, hcell, hs⟩ w hw
        exact ⟨s, hcell, fun hsw => hs (hsw ▸ hw)⟩

/-- Owners of a technology with one of some names. -/
theorem contains_ofAny (domainId : Int) (names : List String) :
    (Owners.ofAny names).contains db domainId = true ↔
      ∃ l ∈ linksOf db domainId, l.technologyName ∈ names := by
  simp only [Owners.contains, List.any_eq_true, List.contains_iff_mem]

/-- Owners of technologies with all of some distinct names. -/
theorem contains_ofAll (domainId : Int) {names : List String} (hn : names.Nodup)
    (hne : names ≠ []) : (Owners.ofAll names).contains db domainId = true ↔
      ∀ name ∈ names, ∃ l ∈ linksOf db domainId, l.technologyName = name := by
  have hall := length_eraseDups_filter_eq_iff hn ((linksOf db domainId).map (·.technologyName))
  simp only [List.mem_map] at hall
  simp only [Owners.contains, Bool.and_eq_true, beq_iff_eq, hall, Bool.not_eq_true',
    List.isEmpty_eq_false_iff]
  refine and_iff_right_of_imp fun h => ?_
  obtain ⟨name, hname⟩ := List.exists_mem_of_ne_nil names hne
  obtain ⟨l, hl, hln⟩ := h name hname
  refine List.ne_nil_of_mem (a := name) (List.mem_filter.mpr ⟨?_, ?_⟩)
  · exact List.mem_map.mpr ⟨l, hl, hln⟩
  · exact List.contains_iff_mem.mpr hname

theorem eval_linkAmong (names : List String) :
    (Test.among (.ofLink .technologyName) names).eval db r = some true ↔
      ∃ l ∈ r.link, l.technologyName ∈ names := by
  cases hl : r.link <;> simp [Test.eval, JoinedRow.get, hl, Link.get]

theorem eval_notOwner (names : List String) :
    (Test.notOwner (.ofAny names)).eval db r = some true ↔
      ∀ l ∈ linksOf db r.domain.id, l.technologyName ∉ names := by
  simp only [Test.eval, Option.some.injEq, Bool.not_eq_true', ← Bool.not_eq_true, contains_ofAny,
    not_exists, not_and]

/-- Names that are required twice are required once. -/
theorem eval_owner {names : List String} (hne : names.eraseDups ≠ []) :
    (Test.owner (.ofAll names.eraseDups)).eval db r = some true ↔
      ∀ name ∈ names, ∃ l ∈ linksOf db r.domain.id, l.technologyName = name := by
  rw [Test.eval, Option.some.injEq, contains_ofAll _ (nodup_eraseDups _) hne]
  simp only [List.mem_eraseDups]

/-- A list filter on the names of technologies: the joined link has a name to accept, no link of the
domain has a name to refuse, and the links of the domain have all names required together. -/
theorem eval_namesClause (f : ListFilter) :
    (∀ k ∈ namesClause? f, k.eval db r = some true) ↔
      (valuesOf f.included ≠ [] → ∃ l ∈ r.link, l.technologyName ∈ valuesOf f.included) ∧
      (∀ l ∈ linksOf db r.domain.id, l.technologyName ∉ valuesOf f.excluded) ∧
      ∀ name ∈ valuesOf f.required,
        ∃ l ∈ linksOf db r.domain.id, l.technologyName = name := by
  have hclause : (∀ k ∈ namesClause? f, k.eval db r = some true) ↔
      (valuesOf f.included ≠ [] →
        (Test.among (.ofLink .technologyName) (valuesOf f.included)).eval db r = some true) ∧
      (valuesOf f.excluded ≠ [] →
        (Test.notOwner (.ofAny (valuesOf f.excluded))).eval db r = some true) ∧
      ((valuesOf f.required).eraseDups ≠ [] →
        (Test.owner (.ofAll (valuesOf f.required).eraseDups)).eval db r = some true) := by
    rw [namesClause?]
    cases valuesOf f.included <;> cases valuesOf f.excluded <;>
      cases (valuesOf f.required).eraseDups <;>
      simp [Clause.eval_ofTests_eq_true]
  rw [hclause, eval_linkAmong, eval_notOwner]
  refine and_congr Iff.rfl (and_congr ?_ ?_)
  · constructor
    · intro h l hl hmem
      exact h (List.ne_nil_of_mem hmem) l hl hmem
    · intro h _
      exact h
  · constructor
    · intro h name hname
      have hne := List.ne_nil_of_mem (List.mem_eraseDups.mpr hname)
      exact (eval_owner hne).mp (h hne) name hname
    · intro h hne
      exact (eval_owner hne).mpr h

/-- Owners of so many technologies of a category that a bound holds. -/
theorem contains_ofCategory (domainId : Int) (category : String) (bound : CountBound) :
    (Owners.ofCategory category bound).contains db domainId = true ↔
      0 < countInCategory db category domainId ∧
      bound.holds (countInCategory db category domainId) = true := by
  simp only [Owners.contains, Bool.and_eq_true, decide_eq_true_eq]

/-- The bounds of a category filter, and whether it has any. -/
theorem countBound?_holds (f : CategoryFilter) (n : Nat) :
    (∀ bound ∈ countBound? f, bound.holds n = true) ↔ f.AdmitsCount n := by
  rw [countBound?, CategoryFilter.AdmitsCount]
  cases f.minCount <;> cases f.maxCount <;> simp [CountBound.holds]

theorem countBound?_isSome (f : CategoryFilter) : (countBound? f).isSome = f.isCounted := by
  rw [countBound?, CategoryFilter.isCounted]
  cases f.minCount <;> cases f.maxCount <;> rfl

/-- A category filter, on a row whose technology is counted for the domain of the row. -/
theorem eval_categoryTerm (f : CategoryFilter) {category : Option String}
    (hc : r.get (.ofTechnology .category) = category.map .text)
    (hcount : category = some f.category → 0 < countInCategory db f.category r.domain.id) :
    (categoryTerm f).eval db r = some true ↔
      f.Accepts category (countInCategory db f.category r.domain.id) := by
  have hbound := countBound?_holds f (countInCategory db f.category r.domain.id)
  have hcounted := countBound?_isSome f
  rw [categoryTerm, CategoryFilter.Accepts]
  cases hb : countBound? f with
  | none =>
    rw [hb] at hbound hcounted
    have hadmits : f.AdmitsCount (countInCategory db f.category r.domain.id) :=
      hbound.mp fun bound hmem => nomatch hmem
    cases f.operator <;>
      simp [Term.eval_holds_eq_true, eval_equalText hc, eval_unequalText hc, hadmits,
        ← hcounted]
  | some bound =>
    rw [hb] at hbound hcounted
    simp only [Option.mem_def, Option.some.injEq, forall_eq'] at hbound
    have howner : ∀ b : Bool,
        (Test.owner (.ofCategory f.category bound)).eval db r = some b ↔
          ((Owners.ofCategory f.category bound).contains db r.domain.id) = b := by
      intro b
      rw [Test.eval, Option.some.injEq]
    have hpositive : (Term.holds [.compare (.column (.ofTechnology .category)) .equal
          (.text f.category), .owner (.ofCategory f.category bound)]).eval db r = some true ↔
        category = some f.category ∧
          f.AdmitsCount (countInCategory db f.category r.domain.id) := by
      simp only [Term.eval_holds_eq_true, List.forall_mem_cons, List.not_mem_nil, false_imp_iff,
        implies_true, and_true, eval_equalText hc, howner, contains_ofCategory, hbound]
      -- That the domain owns one at all is known from the joined row itself.
      exact and_congr_right fun h => and_iff_right (hcount h)
    cases f.operator with
    | and => exact hpositive
    | or => exact hpositive
    | not =>
      simp only [Term.eval_fails_eq_true, List.exists_mem_cons_iff, List.not_mem_nil, false_and,
        exists_false, or_false, eval_equalText_false hc, howner, ← hcounted, Option.isSome_some,
        true_and, ← Bool.not_eq_true, contains_ofCategory, hbound, if_true]

/-- A list of category filters, on a row whose technology is counted for the domain of the row. -/
theorem eval_categoriesClause (fs : List CategoryFilter) {category : Option String}
    (hc : r.get (.ofTechnology .category) = category.map .text)
    (hcount : ∀ name, category = some name → 0 < countInCategory db name r.domain.id) :
    (∀ k ∈ categoriesClause? fs, k.eval db r = some true) ↔
      (fs ≠ [] →
        AcceptsCategory fs category fun name => countInCategory db name r.domain.id) := by
  have hterm : ∀ f : CategoryFilter, (categoryTerm f).eval db r = some true ↔
      f.Accepts category (countInCategory db f.category r.domain.id) :=
    fun f => eval_categoryTerm f hc (hcount f.category)
  have hor : (fs.any fun f => f.operator == .or) = true ↔ ∃ f ∈ fs, f.operator = .or := by
    simp only [List.any_eq_true, beq_iff_eq]
  rw [categoriesClause?, AcceptsCategory]
  cases fs with
  | nil => simp
  | cons f fs =>
    rw [if_neg (by simp), if_congr hor rfl rfl]
    rw [show (f :: fs ≠ []) = True from eq_true (List.cons_ne_nil f fs), true_imp_iff]
    split
    · simp only [Option.mem_def, Option.some.injEq, forall_eq', Clause.eval_any_eq_true,
        List.mem_map, exists_exists_and_eq_and, hterm]
    · simp only [Option.mem_def, Option.some.injEq, forall_eq', Clause.eval_all_eq_true,
        List.forall_mem_map, hterm]

theorem holds_lower (inclusive : Bool) (lo x : Int) :
    Comparison.holds (if inclusive then .atLeast else .greater) (compare x lo) = true ↔
      if inclusive then lo ≤ x else lo < x := by
  cases inclusive
  · simp [Comparison.holds, Int.compare_eq_gt]
  · simp [Comparison.holds, ← Int.compare_ne_lt]

theorem holds_upper (inclusive : Bool) (hi x : Int) :
    Comparison.holds (if inclusive then .atMost else .less) (compare x hi) = true ↔
      if inclusive then x ≤ hi else x < hi := by
  cases inclusive
  · simp [Comparison.holds, Int.compare_eq_lt]
  · simp [Comparison.holds, ← Int.compare_ne_gt]

/-- A range on a column whose values are ordered by their places. -/
theorem eval_rangeClause {α : Type} {c : Column} {value : α → Value} {place : α → Int}
    {cell : Option α} (hc : r.get c = cell.map value)
    (horder : ∀ x y, (value x).order (value y) = compare (place x) (place y)) (g : Range α) :
    (∀ k ∈ rangeClause? c value g, k.eval db r = some true) ↔
      (g.isActive = true → ∃ x ∈ cell, g.Admits place x) := by
  have htest : ∀ (op : Comparison) (v : α),
      (Test.compare (.column c) op (value v)).eval db r = some true ↔
        ∃ x ∈ cell, op.holds (compare (place x) (place v)) = true := by
    intro op v
    cases cell <;> simp [Test.eval, Operand.get, hc, horder]
  obtain ⟨least, greatest, inclusive⟩ := g
  simp only [rangeClause?, rangeTests, Range.isActive, Range.Admits]
  cases least with
  | none =>
    cases greatest with
    | none => simp
    | some hi => simp [Clause.eval_ofTests_eq_true, htest, holds_upper]
  | some lo =>
    cases greatest with
    | none => simp [Clause.eval_ofTests_eq_true, htest, holds_lower]
    | some hi =>
      cases cell <;> simp [Clause.eval_ofTests_eq_true, htest, holds_lower, holds_upper]

end TechCatalog.Search
