import Mathlib.Algebra.GroupWithZero.Nat
import TechCatalog.Proofs.JoinedRows
import TechCatalog.Proofs.Ranking

/-!
# What the name of a technology counts for

The names of technologies are read from rows of technologies beside their links: one row for every
link, and one without a link where there is none. All rows of one name together count for the links
among them, so a technology that nobody uses is offered, but counts for nothing.
-/

namespace TechCatalog.Options

open Store Query

/-- Of the rows that an outer join makes, those with something joined count. -/
theorem sum_orNothing {α : Type} (xs : List α) :
    ((orNothing xs).map fun x => if x.isSome then 1 else 0).sum = xs.length := by
  rw [orNothing]
  cases xs with
  | nil => rfl
  | cons x rest =>
    rw [if_neg (by simp), List.map_map]
    simp [Function.comp_def, Nat.add_comm]

section

variable (db : Database)

/-- The rows are of the technologies of the store, and of all of them. -/
theorem exists_usageRow_iff {p : Technology → Prop} :
    (∃ r ∈ usageRows db, p r.1) ↔ ∃ t ∈ db.technologies, p t := by
  simp only [usageRows, List.mem_flatMap, List.mem_map]
  constructor
  · rintro ⟨_, ⟨t, ht, l, -, rfl⟩, hp⟩
    exact ⟨t, ht, hp⟩
  · rintro ⟨t, ht, hp⟩
    obtain ⟨l, hl⟩ := List.exists_mem_of_ne_nil _
      (orNothing_ne_nil (db.links.filter fun l => l.technologyId == t.id))
    exact ⟨(t, l), ⟨t, ht, l, hl, rfl⟩, hp⟩

/-- The rows of some technologies count for the links to them. -/
theorem sum_usageRows (p : Technology → Bool) :
    (((usageRows db).filter fun r => p r.1).map fun r => if r.2.isSome then 1 else 0).sum =
      ((db.technologies.filter p).map fun t =>
        db.links.countP fun l => l.technologyId == t.id).sum := by
  rw [usageRows]
  -- A technology brings in all of its rows or none of them.
  induction db.technologies with
  | nil => rfl
  | cons t rest ih =>
    rw [List.flatMap_cons, List.filter_append, List.map_append, List.sum_append, ih,
      List.filter_map]
    by_cases hp : p t = true
    · have hall (ls : List (Option Link)) : ls.filter ((fun r => p r.1) ∘ fun l => (t, l)) = ls :=
        List.filter_eq_self.mpr fun _ _ => hp
      have hown := sum_orNothing (db.links.filter fun l => l.technologyId == t.id)
      rw [hall, List.filter_cons_of_pos hp, List.map_cons, List.sum_cons, List.map_map,
        List.countP_eq_length_filter, ← hown]
      rfl
    · have hnone (ls : List (Option Link)) : ls.filter ((fun r => p r.1) ∘ fun l => (t, l)) = [] :=
        List.filter_eq_nil_iff.mpr fun _ _ => hp
      rw [hnone, List.filter_cons_of_neg hp]
      simp

/-- The name of a technology counts for the links to all technologies of this name. -/
theorem weightOf_technologyNames {v : String} (hv : v ≠ "") :
    weightOf (Source.technologyNames.offers db) v =
      ((db.technologies.filter fun t => t.name == v).map fun t =>
        db.links.countP fun l => l.technologyId == t.id).sum := by
  have hcell : (usageRows db).filter (fun r => r.1.get .name == some (.text v)) =
      (usageRows db).filter fun r => r.1.name == v := by
    refine List.filter_congr fun r _ => ?_
    rw [Bool.eq_iff_iff, beq_iff_eq, beq_iff_eq]
    simp [Technology.get]
  refine (weightOf_offers (usageRows db) (fun r => r.1.get .name) _ hv).trans ?_
  rw [hcell, ← List.sum_eq_foldl]
  exact sum_usageRows db fun t => t.name == v

/-- The names that are offered are those of the technologies. -/
theorem exists_technologyName_iff {v : String} :
    (∃ o ∈ Source.technologyNames.offers db, o.value = v) ↔
      v ≠ "" ∧ ∃ t ∈ db.technologies, t.name = v := by
  refine (exists_offer_iff (usageRows db) (fun r => r.1.get .name) _).trans ?_
  rw [exists_usageRow_iff db (p := fun t => t.get .name = some (.text v))]
  simp [Technology.get]

end

end TechCatalog.Options
