import Mathlib.Data.List.Forall2
import TechCatalog.Log.Traced
import TechCatalog.Request.Checked

/-!
# Where success and errors come from

Checks, traced work and steps that can fail are put together from parts. Each lemma here says of one
way of putting parts together what the parts gave when the whole succeeds, or when it ends in an
error.
-/

namespace TechCatalog.Request.Checked

variable {α β : Type}

theorem both_eq_accept {f : Checked (α → β)} {x : Checked α} {b : β} :
    f.both x = .accept b ↔ ∃ g a, f = .accept g ∧ x = .accept a ∧ g a = b := by
  cases f <;> cases x <;> simp [both]

theorem within_eq_accept {step : Step} {x : Checked α} {a : α} :
    x.within step = .accept a ↔ x = .accept a := by
  cases x <;> simp [within]

theorem map_eq_accept {f : α → β} {x : Checked α} {b : β} :
    x.map f = .accept b ↔ ∃ a, x = .accept a ∧ f a = b := by
  cases x <;> simp [map]

theorem map_accept {f : α → β} {x : Checked α} {a : α} (h : x = .accept a) :
    x.map f = .accept (f a) :=
  map_eq_accept.mpr ⟨a, h, rfl⟩

theorem both_accept {f : Checked (α → β)} {x : Checked α} {g : α → β} {a : α}
    (hf : f = .accept g) (hx : x = .accept a) : f.both x = .accept (g a) :=
  both_eq_accept.mpr ⟨g, a, hf, hx, rfl⟩

theorem andThen_eq_accept {x : Checked α} {f : α → Checked β} {b : β} :
    x.andThen f = .accept b ↔ ∃ a, x = .accept a ∧ f a = .accept b := by
  cases x <;> simp [andThen]

theorem require_eq_accept {rule : α → Bool} {reason : String} {x : Checked α} {a : α} :
    x.require rule reason = .accept a ↔ x = .accept a ∧ rule a = true := by
  rw [require, andThen_eq_accept]
  constructor
  · rintro ⟨b, rfl, hb⟩
    split at hb
    · rename_i hrule
      cases hb
      exact ⟨rfl, hrule⟩
    · cases hb
  · rintro ⟨rfl, hrule⟩
    exact ⟨a, rfl, if_pos hrule⟩

/-- The items of a list are accepted when each of them is. -/
theorem items_eq_accept {read : Json → Checked α} {i : Nat} {vs : List Json} {as : List α} :
    items read i vs = .accept as ↔ List.Forall₂ (fun v a => read v = .accept a) vs as := by
  induction vs generalizing i as with
  | nil =>
    rw [items, List.forall₂_nil_left_iff, accept.injEq]
    exact eq_comm
  | cons v vs ih =>
    simp only [items, both_eq_accept, map_eq_accept, within_eq_accept, ih,
      List.forall₂_cons_left_iff]
    constructor
    · rintro ⟨_, rest, ⟨a, ha, rfl⟩, hrest, rfl⟩
      exact ⟨a, rest, ha, hrest, rfl⟩
    · rintro ⟨a, rest, ha, hrest, rfl⟩
      exact ⟨_, rest, ⟨a, ha, rfl⟩, hrest, rfl⟩

end TechCatalog.Request.Checked

namespace TechCatalog.Log.Traced

variable {ε δ α β : Type}

/-- Work in two parts succeeds when both do. -/
theorem andThen_result_eq_ok {x : Traced ε α} {next : α → Traced ε β} {b : β} :
    (x.andThen next).result = .ok b ↔ ∃ a, x.result = .ok a ∧ (next a).result = .ok b := by
  cases h : x.result <;> simp [andThen, h]

theorem map_result_eq_ok {f : α → β} {x : Traced ε α} {b : β} :
    (x.map f).result = .ok b ↔ ∃ a, x.result = .ok a ∧ f a = b := by
  cases h : x.result <;> simp [map, Except.map, h]

theorem onError_result_eq_ok {x : Traced ε α} {wrap : ε → δ} {report : ε → List Record} {a : α} :
    (x.onError wrap report).result = .ok a ↔ x.result = .ok a := by
  cases h : x.result <;> simp [onError, h]

/-- Work in two parts ends in the error of the first, or of the second after the first succeeded.
-/
theorem andThen_result_eq_error {x : Traced ε α} {next : α → Traced ε β} {e : ε} :
    (x.andThen next).result = .error e ↔
      x.result = .error e ∨ ∃ a, x.result = .ok a ∧ (next a).result = .error e := by
  cases h : x.result <;> simp [andThen, h]

theorem map_result_eq_error {f : α → β} {x : Traced ε α} {e : ε} :
    (x.map f).result = .error e ↔ x.result = .error e := by
  cases h : x.result <;> simp [map, Except.map, h]

theorem onError_result_eq_error {x : Traced ε α} {wrap : ε → δ} {report : ε → List Record} {e : δ} :
    (x.onError wrap report).result = .error e ↔
      ∃ cause, x.result = .error cause ∧ wrap cause = e := by
  cases h : x.result <;> simp [onError, h]

end TechCatalog.Log.Traced

namespace TechCatalog

variable {ε δ α β : Type}

theorem mapError_eq_ok {f : ε → δ} {x : Except ε α} {a : α} :
    x.mapError f = .ok a ↔ x = .ok a := by
  cases x <;> simp [Except.mapError]

theorem mapError_eq_error {f : ε → δ} {x : Except ε α} {e : δ} :
    x.mapError f = .error e ↔ ∃ cause, x = .error cause ∧ f cause = e := by
  cases x <;> simp [Except.mapError]

theorem bind_eq_ok {x : Except ε α} {next : α → Except ε β} {b : β} :
    x >>= next = .ok b ↔ ∃ a, x = .ok a ∧ next a = .ok b := by
  cases x <;> simp [bind, Except.bind]

theorem bind_eq_error {x : Except ε α} {next : α → Except ε β} {e : ε} :
    x >>= next = .error e ↔ x = .error e ∨ ∃ a, x = .ok a ∧ next a = .error e := by
  cases x <;> simp [bind, Except.bind]

/-- A step that is taken for every item succeeds when it does for each. -/
theorem mapM_eq_ok {step : α → Except ε β} {xs : List α} {ys : List β} :
    xs.mapM step = .ok ys ↔ List.Forall₂ (fun x y => step x = .ok y) xs ys := by
  induction xs generalizing ys with
  | nil =>
    rw [List.mapM_nil, List.forall₂_nil_left_iff]
    exact ⟨fun h => (Except.ok.inj h).symm, fun h => congrArg Except.ok h.symm⟩
  | cons x xs ih =>
    simp only [List.mapM_cons, bind_eq_ok, ih, List.forall₂_cons_left_iff]
    constructor
    · rintro ⟨y, hy, rest, hrest, h⟩
      exact ⟨y, rest, hy, hrest, (Except.ok.inj h).symm⟩
    · rintro ⟨y, rest, hy, hrest, rfl⟩
      exact ⟨y, hy, rest, hrest, rfl⟩

/-- A step that is taken for every item ends in no error but that of an item. -/
theorem exists_of_mapM_eq_error {step : α → Except ε β} {xs : List α} {e : ε}
    (h : xs.mapM step = .error e) : ∃ x ∈ xs, step x = .error e := by
  induction xs with
  | nil =>
    rw [List.mapM_nil] at h
    cases h
  | cons x xs ih =>
    rw [List.mapM_cons, bind_eq_error] at h
    rcases h with hx | ⟨y, -, hrest⟩
    · exact ⟨x, List.mem_cons_self, hx⟩
    · rw [bind_eq_error] at hrest
      rcases hrest with hxs | ⟨ys, -, hys⟩
      · obtain ⟨x', hmem, hx'⟩ := ih hxs
        exact ⟨x', List.mem_cons_of_mem _ hmem, hx'⟩
      · cases hys

end TechCatalog
