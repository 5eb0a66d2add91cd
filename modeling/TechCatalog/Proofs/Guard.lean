import TechCatalog.Proofs.Bindings
import TechCatalog.Proofs.Naming

/-!
# What the guard of the two statements refuses

The page statement binds all that the counting statement binds, in the same order, before the two
numbers of its own. So every name of the one is a name of the other and stands for the same value.
The guard compares values for equality, and NaN alone is not equal to itself: the guard refuses a
search exactly when a bound on what is spent is NaN, and it names these bounds.
-/

namespace TechCatalog.Query

open Store

/-- Whether a value is NaN. -/
def Value.isNaN : Value → Bool
  | .real x => Decimal.isNaN x
  | _ => false

/-- Whether NaN is bound. -/
def Binding.hasNaN (b : Binding) : Bool :=
  b.values.any Value.isNaN

end TechCatalog.Query

namespace TechCatalog.Request

/-- No bound on what is spent is NaN. -/
def Filters.NaNFree (f : Filters) : Prop :=
  ∀ r ∈ f.totalSpendRange, ∀ x ∈ r.min.toList ++ r.max.toList, Decimal.isNaN x = false
  deriving Decidable

end TechCatalog.Request

namespace TechCatalog.Search

open Store Query Request Service

theorem sameValue_self (v : Value) : sameValue v v = !Value.isNaN v := by
  cases v with
  | real x => simp [sameValue, Decimal.same, Value.isNaN]
  | text s => exact beq_self_eq_true _
  | int i => exact beq_self_eq_true _
  | moment t => exact beq_self_eq_true _

theorem sameValues_self (vs : List Value) : sameValues vs vs = !vs.any Value.isNaN := by
  induction vs with
  | nil => rfl
  | cons v vs ih => rw [sameValues, sameValue_self, ih, List.any_cons, Bool.not_or]

theorem sameBinding_self (b : Binding) : sameBinding b b = !b.hasNaN := by
  cases b with
  | one v => simp [sameBinding, sameValue_self, Binding.hasNaN, Binding.values]
  | many vs => exact sameValues_self vs

/-- A list differs from one that goes on from it only where it binds NaN. -/
theorem divergingNames_append (first rest : List (String × Binding)) :
    divergingNames first (first ++ rest) =
      ((named first).filter fun b => b.2.hasNaN).map (·.1) := by
  rw [divergingNames]
  refine congrArg _ (List.filter_congr fun b hb => ?_)
  rw [lookup_named_append rest hb]
  simp [sameBinding_self]

/-- The bounds on what is spent, as they are bound. -/
def spendBounds (f : Filters) : List (String × Binding) :=
  f.totalSpendRange.toList.flatMap (rangeBounds "spend" .real)

/-- The bounds on what is spent bear a label of their own. -/
theorem filter_spend (f : Filters) :
    ((clausesOf f).flatMap Clause.bindings).filter (fun b => b.1 == "spend") = spendBounds f := by
  have hlabels : ∀ label ∈ textLabels, (label == "spend") = false := by decide
  have hskips : SkipsTexts fun b : String × Binding => b.1 == "spend" :=
    { one := fun h _ => hlabels _ h
      many := fun h _ => hlabels _ h }
  have hsize (g : ListFilter) : (requiredSize g).filter (fun b => b.1 == "spend") = [] := by
    rw [requiredSize]
    split <;> rfl
  have hcount (g : CategoryFilter) : (countBounds g).filter (fun b => b.1 == "spend") = [] := by
    simp [countBounds]
  have hrange {α : Type} (label : String) (value : α → Value) (r : Range α) :
      (rangeBounds label value r).filter (fun b => b.1 == "spend") =
        if label == "spend" then rangeBounds label value r else [] := by
    rw [rangeBounds, List.filter_map]
    split <;> simp_all [Function.comp_def]
  have hnone {α β : Type} (xs : List α) : xs.flatMap (fun _ => ([] : List β)) = [] :=
    List.flatMap_eq_nil_iff.mpr fun _ _ => rfl
  rw [filter_clausesOf hskips, numberBindings]
  simp only [List.filter_append, List.filter_flatMap, hsize, hcount, hrange, hnone]
  simp [spendBounds, hnone]

theorem filter_hasNaN (f : Filters) :
    ((clausesOf f).flatMap Clause.bindings).filter (fun b => b.2.hasNaN) =
      (numberBindings f).filter fun b => b.2.hasNaN := by
  have hmany (ss : List String) : (Binding.many (ss.map .text)).hasNaN = false := by
    simp [Binding.hasNaN, Binding.values, Value.isNaN]
  exact filter_clausesOf { one := fun _ _ => rfl, many := fun _ ss => hmany ss } f

/-- Only bounds on what is spent can be NaN. -/
theorem label_of_hasNaN {f : Filters} {b : String × Binding}
    (hb : b ∈ (clausesOf f).flatMap Clause.bindings) (hnan : b.2.hasNaN = true) :
    b.1 = "spend" := by
  have hmem : b ∈ (numberBindings f).filter fun b => b.2.hasNaN := by
    rw [← filter_hasNaN]
    exact List.mem_filter.mpr ⟨hb, hnan⟩
  have hnumber := (List.mem_filter.mp hmem).1
  have hint (label : String) (i : Int) : b ≠ (label, .one (.int i)) := by
    rintro rfl
    exact Bool.false_ne_true hnan
  simp only [numberBindings, List.mem_append, List.mem_flatMap, requiredSize, countBounds,
    rangeBounds, List.mem_map] at hnumber
  rcases hnumber with
    ((⟨g, -, hg⟩ | ⟨gs, -, g, -, n, -, hn⟩) | ⟨r, -, x, -, rfl⟩) | ⟨r, -, n, -, hn⟩
  · split at hg
    · cases hg
    · exact absurd (List.mem_singleton.mp hg) (hint _ _)
  · exact absurd hn.symm (hint _ _)
  · rfl
  · exact absurd hn.symm (hint _ _)

/-- The names of the bounds on what is spent that are NaN. -/
def nanNames (f : Filters) : List String :=
  ((named (spendBounds f)).filter fun b => b.2.hasNaN).map (·.1)

theorem divergingNames_composePair (f : Filters) (o : PageOrder) :
    divergingNames (composePair f o).selection.countStatement.bindings
      (composePair f o).page.statement.bindings = nanNames f := by
  rw [Selection.bindings_countStatement, PageQuery.bindings_statement]
  refine (divergingNames_append ((clausesOf f).flatMap Clause.bindings) _).trans ?_
  rw [nanNames, ← filter_spend]
  exact congrArg _ (filter_named_of_label "spend" Binding.hasNaN _ fun b => label_of_hasNaN)

theorem nanNames_eq_nil_iff (f : Filters) : nanNames f = [] ↔ f.NaNFree := by
  have hbound (x : Float) : ¬ (Binding.one (.real x)).hasNaN = true ↔ Decimal.isNaN x = false := by
    simp [Binding.hasNaN, Binding.values, Value.isNaN]
  rw [nanNames, List.map_eq_nil_iff, List.filter_eq_nil_iff]
  refine (forall_mem_named (P := fun b => ¬ b.hasNaN = true) (spendBounds f)).trans ?_
  rw [spendBounds, List.forall_mem_flatMap, Filters.NaNFree]
  simp only [rangeBounds, List.forall_mem_map, hbound, Option.mem_toList]
  rfl

/-- The statements are assembled unless a bound on what is spent is NaN. -/
theorem assemble_eq (f : Filters) (p : Paging) (s : Settings) :
    (assemble f p s).1 =
      if f.NaNFree then .ok (composePair f (PageOrder.of p s).1) else .error (nanNames f) := by
  by_cases hf : f.NaNFree
  · have hnames := (nanNames_eq_nil_iff f).mpr hf
    simp only [assemble, checkShared, divergingNames_composePair, hnames, if_pos hf]
  · cases hnames : nanNames f with
    | nil => exact absurd ((nanNames_eq_nil_iff f).mp hnames) hf
    | cons name names =>
      simp only [assemble, checkShared, divergingNames_composePair, hnames, if_neg hf]

/-- What the counting statement binds, the page statement binds under the same name. The guard lets
them pass exactly when no bound on what is spent is NaN, and otherwise names the bounds that are. -/
theorem assembled_unless_nan (f : Filters) (p : Paging) (s : Settings) :
    (∀ b ∈ named (composePair f (PageOrder.of p s).1).selection.countStatement.bindings,
      (named (composePair f (PageOrder.of p s).1).page.statement.bindings).lookup b.1 =
        some b.2) ∧
    (assemble f p s).1 =
      if f.NaNFree then .ok (composePair f (PageOrder.of p s).1) else .error (nanNames f) := by
  refine ⟨fun b hb => ?_, assemble_eq f p s⟩
  rw [Selection.bindings_countStatement] at hb
  rw [PageQuery.bindings_statement]
  exact lookup_named_append _ hb

/-- A search for links with a spend of at least NaN. -/
def nanSearch : Filters where
  totalSpendRange := some { min := some Decimal.notANumber }

/-- A request may name NaN, and is then refused although its statements bind the same. -/
theorem nan_bound_refused :
    Filters.read .value (.obj [("totalSpendRange", .obj [("min", .str "nan")])]) =
      .accept nanSearch ∧
    (assemble nanSearch {} {}).1 = .error ["spend_1"] :=
  ⟨rfl, rfl⟩

end TechCatalog.Search
