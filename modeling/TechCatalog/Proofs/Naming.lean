import TechCatalog.Proofs.Lists
import TechCatalog.Search.Assembly

/-!
# Names of what is bound

What a statement binds is named by its label and a number that counts the label from 1 on. No two
bindings of one list share a name, because the number can be read off the end of a name. A list that
goes on where another ends gives the same names to what they have in common.
-/

namespace TechCatalog.Search

variable {β : Type}

theorem isDigit_of_mem_number {n : Nat} {c : Char} (h : c ∈ (toString n).toList) :
    c.isDigit = true := by
  rw [Nat.toString_eq_repr, Nat.toList_repr] at h
  exact Nat.isDigit_of_mem_toDigits (by decide) (by decide) h

theorem number_injective {m n : Nat} (h : toString m = toString n) : m = n := by
  rw [Nat.toString_eq_repr, Nat.toString_eq_repr, ← String.toList_inj, Nat.toList_repr,
    Nat.toList_repr] at h
  have hread := congrArg (fun ds => Nat.ofDigitChars 10 ds 0) h
  simpa using hread

/-- The label and the number can be read off a name, whatever the label is. -/
theorem label_and_number_of_name {label label' : String} {m n : Nat}
    (h : label ++ "_" ++ toString m = label' ++ "_" ++ toString n) : label = label' ∧ m = n := by
  have hlist (l : String) (k : Nat) :
      (l ++ "_" ++ toString k).toList = l.toList ++ '_' :: (toString k).toList := by
    rw [String.toList_append, String.toList_append, List.append_assoc]
    rfl
  have hsplit := congrArg String.toList h
  rw [hlist, hlist] at hsplit
  have hnone (k : Nat) : '_' ∉ (toString k).toList := fun hk =>
    absurd (isDigit_of_mem_number hk) (by decide)
  obtain ⟨hlabel, hnumber⟩ := append_cons_inj_of_last (hnone m) (hnone n) hsplit
  exact ⟨String.toList_inj.mp hlabel, number_injective (String.toList_inj.mp hnumber)⟩

/-- Names go on from the labels that were seen. -/
theorem exists_number_of_mem {seen : List String} {bindings : List (String × β)} {x : String × β}
    (h : x ∈ numberedFrom seen bindings) :
    ∃ label n, x.1 = label ++ "_" ++ toString n ∧ seen.count label < n := by
  induction bindings generalizing seen with
  | nil => cases h
  | cons b rest ih =>
    obtain ⟨label, value⟩ := b
    rcases List.mem_cons.mp h with rfl | hrest
    · exact ⟨label, seen.count label + 1, rfl, Nat.lt_succ_self _⟩
    · obtain ⟨other, n, hname, hlt⟩ := ih hrest
      have hle : seen.count other ≤ (label :: seen).count other :=
        (List.sublist_cons_self label seen).count_le other
      exact ⟨other, n, hname, by omega⟩

theorem nodup_names (seen : List String) (bindings : List (String × β)) :
    ((numberedFrom seen bindings).map (·.1)).Nodup := by
  induction bindings generalizing seen with
  | nil => exact List.nodup_nil
  | cons b rest ih =>
    obtain ⟨label, value⟩ := b
    rw [numberedFrom, List.map_cons, List.nodup_cons]
    refine ⟨?_, ih _⟩
    intro hmem
    obtain ⟨x, hx, hname⟩ := List.mem_map.mp hmem
    obtain ⟨other, n, hother, hlt⟩ := exists_number_of_mem hx
    obtain ⟨rfl, rfl⟩ := label_and_number_of_name (hother.symm.trans hname)
    -- The rest has seen the label once more, so it only gives greater numbers.
    rw [List.count_cons_self] at hlt
    omega

theorem numberedFrom_append (seen : List String) (first rest : List (String × β)) :
    numberedFrom seen (first ++ rest) =
      numberedFrom seen first ++ numberedFrom ((first.map (·.1)).reverse ++ seen) rest := by
  induction first generalizing seen with
  | nil => rfl
  | cons b first ih =>
    obtain ⟨label, value⟩ := b
    simp only [List.cons_append, numberedFrom, ih, List.map_cons, List.reverse_cons,
      List.append_assoc, List.nil_append]

theorem named_append (first rest : List (String × β)) :
    named (first ++ rest) =
      named first ++ numberedFrom (first.map (·.1)).reverse rest := by
  rw [named, numberedFrom_append, List.append_nil]
  rfl

theorem map_snd_numberedFrom (seen : List String) (bindings : List (String × β)) :
    (numberedFrom seen bindings).map (·.2) = bindings.map (·.2) := by
  induction bindings generalizing seen with
  | nil => rfl
  | cons b rest ih => rw [numberedFrom, List.map_cons, List.map_cons, ih]

theorem forall_mem_named {P : β → Prop} (bindings : List (String × β)) :
    (∀ x ∈ named bindings, P x.2) ↔ ∀ b ∈ bindings, P b.2 := by
  rw [← List.forall_mem_map (f := fun x : String × β => x.2), named, map_snd_numberedFrom,
    List.forall_mem_map]

/-- What a list binds is found under its name in every list that goes on from it. -/
theorem lookup_named_append {first : List (String × β)} (rest : List (String × β))
    {x : String × β} (h : x ∈ named first) : (named (first ++ rest)).lookup x.1 = some x.2 := by
  have hfirst : (named first).lookup x.1 = some x.2 := lookup_of_mem (nodup_names [] first) h
  rw [named_append, List.lookup_append, hfirst]
  rfl

/-- The names of some bindings of one label depend on the bindings of this label only. -/
theorem filter_named_of_label (label : String) (keep : β → Bool) (bindings : List (String × β))
    (h : ∀ b ∈ bindings, keep b.2 = true → b.1 = label) :
    (named bindings).filter (fun x => keep x.2) =
      (named (bindings.filter fun b => b.1 == label)).filter fun x => keep x.2 := by
  suffices hgo : ∀ seen seen' : List String, seen.count label = seen'.count label →
      (numberedFrom seen bindings).filter (fun x => keep x.2) =
        (numberedFrom seen' (bindings.filter fun b => b.1 == label)).filter fun x => keep x.2 from
    hgo [] [] rfl
  induction bindings with
  | nil => intro _ _ _; rfl
  | cons b rest ih =>
    obtain ⟨other, value⟩ := b
    rw [List.forall_mem_cons] at h
    intro seen seen' hseen
    by_cases hlabel : other = label
    · subst hlabel
      rw [List.filter_cons_of_pos (by simp), numberedFrom, numberedFrom, hseen, List.filter_cons,
        List.filter_cons, ih h.2 (other :: seen) (other :: seen') (by simp [hseen])]
    · have hkeep : ¬ keep value = true := fun hk => hlabel (h.1 hk)
      rw [List.filter_cons_of_neg (by simp [hlabel]), numberedFrom,
        List.filter_cons_of_neg (by simpa using hkeep)]
      exact ih h.2 (other :: seen) seen' (by rw [List.count_cons_of_ne hlabel, hseen])

end TechCatalog.Search
