import Mathlib.Data.List.Forall2
import Mathlib.Data.List.Nodup
import Mathlib.Data.List.Perm.Subperm

/-!
# Lists without repetition

Facts about lists that the store and its statements rely on: leaving out repetitions, finding an
item by its key, and cutting a list into pages.
-/

namespace TechCatalog

theorem nodup_eraseDups {α : Type} [DecidableEq α] (xs : List α) : xs.eraseDups.Nodup := by
  induction h : xs.length using Nat.strongRecOn generalizing xs with
  | ind n ih =>
    cases xs with
    | nil => simp
    | cons x xs =>
      have hlen : (xs.filter fun y => !y == x).length < n := by
        have hle := List.length_filter_le (fun y => !y == x) xs
        rw [List.length_cons] at h
        omega
      rw [List.eraseDups_cons, List.nodup_cons, List.mem_eraseDups, List.mem_filter]
      exact ⟨by simp, ih _ hlen _ rfl⟩

/-- Some distinct items are all among others if the others that are among them are as many. -/
theorem length_eraseDups_filter_eq_iff {α : Type} [DecidableEq α] {xs : List α} (hx : xs.Nodup)
    (ys : List α) : (ys.filter xs.contains).eraseDups.length = xs.length ↔ ∀ x ∈ xs, x ∈ ys := by
  have hsub : (ys.filter xs.contains).eraseDups ⊆ xs := by
    intro y hy
    rw [List.mem_eraseDups, List.mem_filter, List.contains_iff_mem] at hy
    exact hy.2
  have hsubperm : (ys.filter xs.contains).eraseDups.Subperm xs :=
    (nodup_eraseDups _).subperm hsub
  constructor
  · intro hlen x hxs
    have hperm := hsubperm.perm_of_length_le (Nat.le_of_eq hlen.symm)
    have hmem := hperm.mem_iff.mpr hxs
    rw [List.mem_eraseDups, List.mem_filter] at hmem
    exact hmem.1
  · intro hall
    have hsub' : xs ⊆ (ys.filter xs.contains).eraseDups := by
      intro x hxs
      rw [List.mem_eraseDups, List.mem_filter, List.contains_iff_mem]
      exact ⟨hall x hxs, hxs⟩
    exact Nat.le_antisymm hsubperm.length_le (hx.subperm hsub').length_le

/-- Where a key tells items apart, an item with the key is what a search for the key finds. -/
theorem find?_key_eq_some_iff {α κ : Type} [BEq κ] [LawfulBEq κ] {key : α → κ} {xs : List α}
    (h : (xs.map key).Nodup) (i : κ) (a : α) :
    xs.find? (fun x => key x == i) = some a ↔ a ∈ xs ∧ key a = i := by
  constructor
  · intro hf
    exact ⟨List.mem_of_find?_eq_some hf, by simpa using List.find?_some hf⟩
  · rintro ⟨ha, hi⟩
    cases hf : xs.find? (fun x => key x == i) with
    | none =>
      have hn := List.find?_eq_none.mp hf a ha
      simp [hi] at hn
    | some b =>
      have hb : b ∈ xs ∧ key b = i :=
        ⟨List.mem_of_find?_eq_some hf, by simpa using List.find?_some hf⟩
      rw [List.inj_on_of_nodup_map h hb.1 ha (hb.2.trans hi.symm)]

/-- Where a key tells items apart, a search for a key finds all items that have it. -/
theorem filter_key_eq {α κ : Type} [BEq κ] [LawfulBEq κ] {key : α → κ} {xs : List α}
    (h : (xs.map key).Nodup) (i : κ) :
    xs.filter (fun x => key x == i) = (xs.find? fun x => key x == i).toList := by
  induction xs with
  | nil => rfl
  | cons x xs ih =>
    rw [List.map_cons, List.nodup_cons] at h
    by_cases hx : key x = i
    · have hrest : xs.filter (fun y => key y == i) = [] := by
        rw [List.filter_eq_nil_iff]
        intro y hy hyi
        exact h.1 (List.mem_map.mpr ⟨y, hy, (beq_iff_eq.mp hyi).trans hx.symm⟩)
      rw [List.filter_cons_of_pos (by simp [hx]), List.find?_cons_of_pos (by simp [hx]), hrest]
      rfl
    · rw [List.filter_cons_of_neg (by simp [hx]), List.find?_cons_of_neg (by simp [hx])]
      exact ih h.2

/-- Lists that agree, cut at the last place of an item, agree before and after it. -/
theorem append_cons_inj_of_last {α : Type} {a : α} {xs xs' ys ys' : List α} (h : a ∉ xs)
    (h' : a ∉ xs') (heq : ys ++ a :: xs = ys' ++ a :: xs') : ys = ys' ∧ xs = xs' := by
  rcases List.append_eq_append_iff.mp heq with ⟨zs, rfl, hzs⟩ | ⟨zs, rfl, hzs⟩
  · cases zs with
    | nil => simpa using hzs
    | cons z zs =>
      rw [List.cons_append, List.cons.injEq] at hzs
      exact absurd (hzs.2 ▸ List.mem_append_right zs List.mem_cons_self) h
  · cases zs with
    | nil => simpa [eq_comm] using hzs
    | cons z zs =>
      rw [List.cons_append, List.cons.injEq] at hzs
      exact absurd (hzs.2 ▸ List.mem_append_right zs List.mem_cons_self) h'

/-- Where keys tell pairs apart, looking up the key of a pair finds it. -/
theorem lookup_of_mem {α β : Type} [BEq α] [LawfulBEq α] {xs : List (α × β)}
    (h : (xs.map (·.1)).Nodup) {x : α × β} (hx : x ∈ xs) : xs.lookup x.1 = some x.2 := by
  obtain ⟨before, after, rfl⟩ := List.append_of_mem hx
  refine List.lookup_eq_some_iff.mpr ⟨before, after, rfl, fun y hy => ?_⟩
  rw [List.map_append, List.nodup_append] at h
  exact bne_iff_ne.mpr (h.2.2 y.1 (List.mem_map_of_mem hy) x.1 List.mem_cons_self).symm

theorem lookup_map_snd {α β γ : Type} [BEq α] (f : β → γ) (a : α) (xs : List (α × β)) :
    (xs.map fun x => (x.1, f x.2)).lookup a = (xs.lookup a).map f := by
  induction xs with
  | nil => rfl
  | cons x xs ih =>
    rw [List.map_cons, List.lookup_cons, List.lookup_cons, ih]
    cases a == x.1 <;> rfl

theorem isEmpty_congr {α β : Type} {xs : List α} {ys : List β} (h : xs.length = ys.length) :
    xs.isEmpty = ys.isEmpty := by
  cases xs <;> cases ys
  · rfl
  · cases h
  · cases h
  · rfl

theorem isEmpty_eraseDups {α : Type} [DecidableEq α] (xs : List α) :
    xs.eraseDups.isEmpty = xs.isEmpty := by
  cases xs with
  | nil => rfl
  | cons x xs => rw [List.eraseDups_cons, List.isEmpty_cons, List.isEmpty_cons]

/-- An item of the first of two related lists is related to an item of the second. -/
theorem exists_of_forall₂ {α β : Type} {R : α → β → Prop} {xs : List α} {ys : List β}
    (h : List.Forall₂ R xs ys) {x : α} (hx : x ∈ xs) : ∃ y ∈ ys, R x y := by
  induction h with
  | nil => exact nomatch hx
  | cons hxy _ ih =>
    rcases List.mem_cons.mp hx with rfl | hrest
    · exact ⟨_, List.mem_cons_self, hxy⟩
    · obtain ⟨y, hy, hr⟩ := ih hrest
      exact ⟨y, List.mem_cons_of_mem _ hy, hr⟩

theorem forall₂_flatMap {α β γ : Type} {R : β → γ → Prop} {xs : List α} {f : α → List β}
    {g : α → List γ} (h : ∀ x ∈ xs, List.Forall₂ R (f x) (g x)) :
    List.Forall₂ R (xs.flatMap f) (xs.flatMap g) := by
  induction xs with
  | nil => exact .nil
  | cons x xs ih =>
    rw [List.forall_mem_cons] at h
    exact List.rel_append h.1 (ih h.2)

/-- The first pages of a list, put end to end, are its beginning. -/
theorem flatMap_pages {α : Type} (xs : List α) (size pages : Nat) :
    ((List.range pages).flatMap fun i => (xs.drop (i * size)).take size) =
      xs.take (pages * size) := by
  induction pages with
  | zero => simp
  | succ n ih =>
    rw [List.range_succ, List.flatMap_append, ih, List.flatMap_singleton, Nat.succ_mul,
      List.take_add]

end TechCatalog
