import TechCatalog.Proofs.Lists
import TechCatalog.Request.Checked

/-!
# Members of objects

A member is found by its name, or by a key that may be spelled in two ways. Members with other names
make no difference to what is found, and a key that spells one member only finds that member.
-/

namespace TechCatalog.Json

variable {o : Members} {key name : String}

/-- An object without the members of one name. -/
def Members.without (name : String) (o : Members) : Members :=
  o.filter fun m => m.1 != name

theorem Members.get?_cons (m : String × Json) :
    Members.get? key (m :: o) = if key = m.1 then some m.2 else Members.get? key o := by
  rw [Members.get?, List.lookup_cons]
  by_cases h : key = m.1
  · simp [h]
  · simp [h, beq_false_of_ne h, Members.get?]

theorem Members.get?_eq_none_iff : Members.get? key o = none ↔ ∀ m ∈ o, m.1 ≠ key := by
  rw [Members.get?, List.lookup_eq_none_iff]
  simp only [bne_iff_ne, ne_comm]

theorem Members.get?_without (h : key ≠ name) :
    Members.get? key (Members.without name o) = Members.get? key o := by
  induction o with
  | nil => rfl
  | cons m o ih =>
    rw [Members.without] at ih
    by_cases hm : m.1 = name
    · rw [Members.without, List.filter_cons_of_neg (by simp [hm]), ih, get?_cons, hm, if_neg h]
    · rw [Members.without, List.filter_cons_of_pos (by simp [hm]), get?_cons, get?_cons, ih]

theorem Members.mem_of_get? {v : Json} (h : Members.get? key o = some v) : (key, v) ∈ o := by
  obtain ⟨before, after, rfl, -⟩ := List.lookup_eq_some_iff.mp h
  exact List.mem_append_right before List.mem_cons_self

/-- Where no key stands twice, the members of an object are what is found under their keys. -/
theorem Members.get?_eq_some_iff (hkeys : (o.map (·.1)).Nodup) {v : Json} :
    Members.get? key o = some v ↔ (key, v) ∈ o :=
  ⟨mem_of_get?, lookup_of_mem hkeys⟩

/-- A value under a key that is not there yet is put at the end. -/
theorem Members.put_of_not_mem {v : Json} (h : key ∉ o.map (·.1)) :
    Members.put key v o = o ++ [(key, v)] := by
  induction o with
  | nil => rfl
  | cons m o ih =>
    simp only [List.map_cons, List.mem_cons, not_or] at h
    rw [Members.put, if_neg (Ne.symm h.1), ih h.2, List.cons_append]

end TechCatalog.Json

namespace TechCatalog.Request

variable {k : Key} {o : Json.Members} {name : String}

/-- Whether a name is one of the two spellings of a key. -/
def Key.Spells (k : Key) (name : String) : Prop :=
  name = k.wire ∨ name = k.plain
  deriving Decidable

theorem Key.find?_eq_none_iff : k.find? o = none ↔ ∀ m ∈ o, ¬ k.Spells m.1 := by
  simp only [Key.Spells, not_or, forall_and, ← Json.Members.get?_eq_none_iff, Key.find?]
  cases Json.Members.get? k.wire o <;> simp [Json.Members.get?_eq_none_iff]

theorem Key.find?_only :
    (Key.only name).find? o = (Json.Members.get? name o).map fun v => (name, v) := by
  rw [Key.find?, Key.only]
  cases Json.Members.get? name o <;> rfl

theorem Key.get?_of_find? {v : Json} (h : k.find? o = some (name, v)) :
    k.Spells name ∧ Json.Members.get? name o = some v := by
  rw [Key.find?] at h
  cases hwire : Json.Members.get? k.wire o with
  | some w =>
    simp only [hwire, Option.some.injEq, Prod.mk.injEq] at h
    obtain ⟨rfl, rfl⟩ := h
    exact ⟨.inl rfl, hwire⟩
  | none =>
    simp only [hwire, Option.map_eq_some_iff, Prod.mk.injEq] at h
    obtain ⟨v, hplain, rfl, rfl⟩ := h
    exact ⟨.inr rfl, hplain⟩

theorem Key.find?_without (h : ¬ k.Spells name) :
    k.find? (Json.Members.without name o) = k.find? o := by
  rw [Key.Spells, not_or] at h
  rw [Key.find?, Key.find?, Json.Members.get?_without (Ne.symm h.1),
    Json.Members.get?_without (Ne.symm h.2)]

theorem Key.find?_cons_of_not_spells {m : String × Json} (h : ¬ k.Spells m.1) :
    k.find? (m :: o) = k.find? o := by
  rw [Key.Spells, not_or] at h
  rw [Key.find?, Key.find?, Json.Members.get?_cons, Json.Members.get?_cons,
    if_neg (Ne.symm h.1), if_neg (Ne.symm h.2)]

/-- A member is found under its key if no later member bears the other spelling. -/
theorem Key.find?_cons_of_spells {m : String × Json} (h : k.Spells m.1)
    (hrest : ∀ m' ∈ o, ¬ k.Spells m'.1) : k.find? (m :: o) = some m := by
  by_cases hwire : k.wire = m.1
  · rw [Key.find?, Json.Members.get?_cons, if_pos hwire, hwire]
  · have hplain : k.plain = m.1 := (h.resolve_left (Ne.symm hwire)).symm
    have hnone : Json.Members.get? k.wire o = none :=
      Json.Members.get?_eq_none_iff.mpr fun m' hm' heq => hrest m' hm' (.inl heq)
    rw [Key.find?, Json.Members.get?_cons, if_neg hwire, hnone, Json.Members.get?_cons,
      if_pos hplain, hplain]
    rfl

end TechCatalog.Request
