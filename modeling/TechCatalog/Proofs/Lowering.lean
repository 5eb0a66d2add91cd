import Mathlib.Data.List.Forall2
import TechCatalog.Proofs.Patterns

/-!
# Two ways to make letters small

`lower` goes by the tables of all letters and `asciiLower` knows the letters A to Z only. What
`lower` gives has none of these letters left, so that `asciiLower` does not change it any more, and
no NUL that was not there before. The two agree on a text exactly when they agree on each of its
characters, which is to say when it has no capital letter beyond Z. So a text becomes a word of the
letters A to Z exactly when it spells the word in small and capital letters, as long as the word has
neither `i` nor `k`, which letters beyond Z become, too.
-/

namespace TechCatalog.Text

/-- Both ways to make letters small do the same to a character. -/
def LowersAlike (c : Char) : Prop :=
  lowerChar c = [asciiLowerChar c]
  deriving Decidable

theorem toNat_ofNat {n : Nat} (h : n.isValidChar) : (Char.ofNat n).toNat = n := by
  rw [Char.ofNat, dif_pos h]
  rfl

theorem asciiLowerChar_of_capital {c : Char} (h : 65 ≤ c.toNat ∧ c.toNat ≤ 90) :
    (asciiLowerChar c).toNat = c.toNat + 32 := by
  have hvalid : (c.toNat + 32).isValidChar := Or.inl (by omega)
  have hcapital : 'A' ≤ c ∧ c ≤ 'Z' := h
  rw [asciiLowerChar, if_pos hcapital, toNat_ofNat hvalid]

theorem asciiLowerChar_of_not_capital {c : Char} (h : ¬(65 ≤ c.toNat ∧ c.toNat ≤ 90)) :
    asciiLowerChar c = c :=
  if_neg h

theorem asciiLowerChar_idem (c : Char) : asciiLowerChar (asciiLowerChar c) = asciiLowerChar c := by
  by_cases h : 65 ≤ c.toNat ∧ c.toNat ≤ 90
  · apply asciiLowerChar_of_not_capital
    rw [asciiLowerChar_of_capital h]
    omega
  · rw [asciiLowerChar_of_not_capital h, asciiLowerChar_of_not_capital h]

theorem toNat_asciiLowerChar_ge (c : Char) : c.toNat ≤ (asciiLowerChar c).toNat := by
  by_cases h : 65 ≤ c.toNat ∧ c.toNat ≤ 90
  · rw [asciiLowerChar_of_capital h]
    omega
  · rw [asciiLowerChar_of_not_capital h]

/-- Only a letter is what the store makes of another character. -/
theorem eq_of_asciiLowerChar_eq {c x : Char} (hx : ¬(97 ≤ x.toNat ∧ x.toNat ≤ 122))
    (h : asciiLowerChar c = x) : c = x := by
  by_cases hc : 65 ≤ c.toNat ∧ c.toNat ≤ 90
  · have hnat := asciiLowerChar_of_capital hc
    rw [h] at hnat
    omega
  · rw [asciiLowerChar_of_not_capital hc] at h
    exact h

/-- The images of a run of lower-case mappings are characters beyond Z. -/
theorem lowerRuns_images : ∀ r ∈ lowerRuns, 90 < r.first + r.shift ∧
    (r.last + r.shift < 0xD800 ∨ 0xDFFF < r.first + r.shift ∧ r.last + r.shift < 0x110000) := by
  decide +kernel

theorem lowerExpansions_images : ∀ e ∈ lowerExpansions, e.2 ≠ [] ∧
    ∀ n ∈ e.2, 90 < (Char.ofNat n).toNat := by
  decide

theorem exists_run_of_find {n m : Nat} (h : CaseRun.find? lowerRuns n = some m) :
    ∃ r ∈ lowerRuns, r.first ≤ n ∧ n ≤ r.last ∧ (m : Int) = n + r.shift ∧
      (Char.ofNat m).toNat = m := by
  obtain ⟨r, hr, hm⟩ := List.exists_of_findSome?_eq_some h
  obtain ⟨hfirst, hlast⟩ := lowerRuns_images r hr
  rw [CaseRun.image?] at hm
  split at hm
  · rename_i hn
    cases hm
    have hvalid : (n + r.shift).toNat.isValidChar := by
      rcases hlast with hlow | hhigh
      · exact Or.inl (by omega)
      · exact Or.inr ⟨by omega, by omega⟩
    exact ⟨r, hr, hn.1, hn.2.1, by omega, toNat_ofNat hvalid⟩
  · cases hm

theorem lowerRuns_find {n m : Nat} (h : CaseRun.find? lowerRuns n = some m) :
    90 < (Char.ofNat m).toNat := by
  obtain ⟨r, hr, hn, -, hm, hvalid⟩ := exists_run_of_find h
  have hfirst := (lowerRuns_images r hr).1
  omega

/-- What the tables make of a character is this character or lies beyond Z. -/
theorem mem_mapCase_lower {c x : Char} (h : x ∈ mapCase lowerRuns lowerExpansions c) :
    x = c ∨ 90 < x.toNat := by
  rw [mapCase] at h
  split at h
  · rename_i code image hfind
    obtain ⟨n, hn, rfl⟩ := List.mem_map.mp h
    exact .inr ((lowerExpansions_images _ (List.mem_of_find?_eq_some hfind)).2 n hn)
  · split at h
    · rename_i n hn
      rw [List.mem_singleton.mp h]
      exact .inr (lowerRuns_find hn)
    · exact .inl (List.mem_singleton.mp h)

theorem mapCase_lower_ne_nil (c : Char) : mapCase lowerRuns lowerExpansions c ≠ [] := by
  rw [mapCase]
  split
  · rename_i code image hfind
    intro hnil
    have hmem := List.mem_of_find?_eq_some hfind
    exact (lowerExpansions_images _ hmem).1 (List.map_eq_nil_iff.mp hnil)
  · split
    · exact List.cons_ne_nil _ _
    · exact List.cons_ne_nil _ _

theorem mem_lowerChar {c x : Char} (h : x ∈ lowerChar c) :
    asciiLowerChar x = x ∧ (x = Char.ofNat 0 → c = Char.ofNat 0) := by
  rw [lowerChar] at h
  split at h
  · rw [List.mem_singleton.mp h]
    refine ⟨asciiLowerChar_idem c, fun hnul => ?_⟩
    have hle := toNat_asciiLowerChar_ge c
    rw [hnul] at hle
    exact Char.toNat_inj.mp (Nat.le_antisymm hle (Nat.zero_le _))
  · rename_i hwide
    rcases mem_mapCase_lower h with rfl | hbeyond
    · exact ⟨asciiLowerChar_of_not_capital (by omega), id⟩
    · refine ⟨asciiLowerChar_of_not_capital (by omega), ?_⟩
      rintro rfl
      exact absurd hbeyond (by decide)

theorem lowerChar_ne_nil (c : Char) : lowerChar c ≠ [] := by
  rw [lowerChar]
  split
  · exact List.cons_ne_nil _ _
  · exact mapCase_lower_ne_nil c

/-- The lower case of a character of a text, where a capital sigma takes one of its two forms. -/
def lowerAt (before : List Char) (c : Char) (rest : List Char) : List Char :=
  if c.toNat = 0x3A3 then
    [if startsCased before && !startsCased rest then Char.ofNat 0x3C2 else Char.ofNat 0x3C3]
  else lowerChar c

theorem lowerAfter_cons (before : List Char) (c : Char) (rest : List Char) :
    lowerAfter before (c :: rest) = lowerAt before c rest ++ lowerAfter (c :: before) rest :=
  rfl

theorem mem_lowerAt {before rest : List Char} {c x : Char} (h : x ∈ lowerAt before c rest) :
    asciiLowerChar x = x ∧ (x = Char.ofNat 0 → c = Char.ofNat 0) := by
  rw [lowerAt] at h
  split at h
  · rw [List.mem_singleton.mp h]
    split
    · exact ⟨by decide, fun hnul => absurd hnul (by decide)⟩
    · exact ⟨by decide, fun hnul => absurd hnul (by decide)⟩
  · exact mem_lowerChar h

theorem lowerAt_ne_nil (before : List Char) (c : Char) (rest : List Char) :
    lowerAt before c rest ≠ [] := by
  rw [lowerAt]
  split
  · exact List.cons_ne_nil _ _
  · exact lowerChar_ne_nil c

/-- Wherever it stands, a character becomes what the store makes of it exactly when both mappings
agree on it; a capital sigma never does. -/
theorem lowerAt_eq_iff (before : List Char) (c : Char) (rest : List Char) :
    lowerAt before c rest = [asciiLowerChar c] ↔ LowersAlike c := by
  rw [lowerAt]
  by_cases hsigma : c.toNat = 0x3A3
  · rw [if_pos hsigma]
    have hc : c = Char.ofNat 0x3A3 := Char.toNat_inj.mp hsigma
    subst hc
    have hforms : ∀ final : Bool, [if final then Char.ofNat 0x3C2 else Char.ofNat 0x3C3] ≠
        [asciiLowerChar (Char.ofNat 0x3A3)] := by
      decide
    exact iff_of_false (hforms _) (by decide)
  · rw [if_neg hsigma]
    rfl

theorem mem_lowerAfter {before s : List Char} {x : Char} (h : x ∈ lowerAfter before s) :
    asciiLowerChar x = x ∧ (x = Char.ofNat 0 → Char.ofNat 0 ∈ s) := by
  induction s generalizing before with
  | nil => cases h
  | cons c s ih =>
    rw [lowerAfter_cons, List.mem_append] at h
    rcases h with hhere | hlater
    · obtain ⟨hsmall, hnul⟩ := mem_lowerAt hhere
      exact ⟨hsmall, fun hx => hnul hx ▸ List.mem_cons_self⟩
    · obtain ⟨hsmall, hnul⟩ := ih hlater
      exact ⟨hsmall, fun hx => List.mem_cons_of_mem c (hnul hx)⟩

/-- No text becomes shorter. -/
theorem length_le_lowerAfter (before s : List Char) : s.length ≤ (lowerAfter before s).length := by
  induction s generalizing before with
  | nil => exact Nat.zero_le _
  | cons c s ih =>
    have hpos := List.length_pos_iff.mpr (lowerAt_ne_nil before c s)
    have hrest := ih (c :: before)
    rw [lowerAfter_cons, List.length_append, List.length_cons]
    omega

theorem lowerAfter_eq_iff (before s : List Char) :
    lowerAfter before s = s.map asciiLowerChar ↔ ∀ c ∈ s, LowersAlike c := by
  induction s generalizing before with
  | nil => exact iff_of_true rfl (List.forall_mem_nil _)
  | cons c s ih =>
    rw [lowerAfter_cons, List.map_cons, List.forall_mem_cons, ← ih (c :: before),
      ← lowerAt_eq_iff before c s]
    constructor
    · intro h
      -- Every character gives at least one, so each gives one and they stand at the same places.
      have hone : (lowerAt before c s).length = [asciiLowerChar c].length := by
        have hpos := List.length_pos_iff.mpr (lowerAt_ne_nil before c s)
        have hrest := length_le_lowerAfter (c :: before) s
        have hlength := congrArg List.length h
        rw [List.length_append, List.length_cons, List.length_map] at hlength
        rw [List.length_singleton]
        omega
      exact List.append_inj (h.trans (List.singleton_append).symm) hone
    · rintro ⟨hc, hs⟩
      rw [hc, hs]
      rfl

/-- What all letters are made small in stays the same in the eyes of the store. -/
theorem asciiLower_lower (s : String) : asciiLower (lower s) = lower s := by
  have hmap : (lowerAfter [] s.toList).map asciiLowerChar = lowerAfter [] s.toList :=
    (List.map_congr_left fun x hx => (mem_lowerAfter hx).1).trans (List.map_id _)
  rw [asciiLower, lower, String.toList_ofList, hmap]

theorem asciiLower_idem (s : String) : asciiLower (asciiLower s) = asciiLower s := by
  rw [asciiLower, asciiLower, String.toList_ofList, List.map_map]
  exact congrArg String.ofList (List.map_congr_left fun c _ => asciiLowerChar_idem c)

theorem NulFree.lower {s : String} (h : NulFree s) : NulFree (lower s) := by
  intro hmem
  rw [Text.lower, String.toList_ofList] at hmem
  exact h ((mem_lowerAfter hmem).2 rfl)

theorem NulFree.asciiLower {s : String} (h : NulFree s) : NulFree (asciiLower s) := by
  intro hmem
  rw [toList_asciiLower] at hmem
  obtain ⟨c, hc, hnul⟩ := List.mem_map.mp hmem
  have hle := toNat_asciiLowerChar_ge c
  rw [hnul] at hle
  exact h (Char.toNat_inj.mp (Nat.le_antisymm hle (Nat.zero_le _)) ▸ hc)

/-- The two ways to make letters small agree on a text exactly when they do on its characters. -/
theorem lower_eq_asciiLower_iff (s : String) :
    lower s = asciiLower s ↔ ∀ c ∈ s.toList, LowersAlike c := by
  rw [lower, asciiLower, String.ofList_inj, lowerAfter_eq_iff]

/-- Small letters from A to Z that no letter beyond Z becomes. The Kelvin sign becomes `k`, and the
capital `İ` becomes `i` with a dot. -/
def IsPlainSmall (w : Char) : Prop :=
  97 ≤ w.toNat ∧ w.toNat ≤ 122 ∧ w ≠ 'i' ∧ w ≠ 'k'
  deriving Decidable

/-- A text spells a word, in small or in capital letters. -/
def Spells (text word : String) : Prop :=
  List.Forall₂ (fun w c => c = w ∨ c = asciiUpperChar w) word.toList text.toList

theorem lowerRuns_beyond : ∀ r ∈ lowerRuns, r.last < 0x80 ∨ 122 < r.first + r.shift ∨
    r.first = r.last ∧ r.first + r.shift = 107 := by
  decide +kernel

theorem lowerExpansions_beyond : ∀ e ∈ lowerExpansions, ∀ n ∈ e.2,
    ¬ IsPlainSmall (Char.ofNat n) := by
  decide

/-- No character beyond ASCII becomes a plain small letter. -/
theorem not_isPlainSmall_of_mem_lowerChar {c x : Char} (hc : 0x80 ≤ c.toNat)
    (h : x ∈ lowerChar c) : ¬ IsPlainSmall x := by
  rw [lowerChar, if_neg (by omega), mapCase] at h
  split at h
  · rename_i code image hfind
    obtain ⟨n, hn, rfl⟩ := List.mem_map.mp h
    exact lowerExpansions_beyond _ (List.mem_of_find?_eq_some hfind) n hn
  · rintro ⟨-, hlast, -, hk⟩
    split at h
    · rename_i n hn
      rw [List.mem_singleton.mp h] at hlast hk
      obtain ⟨r, hr, hfirst, hrun, hm, hvalid⟩ := exists_run_of_find hn
      rcases lowerRuns_beyond r hr with hascii | hbeyond | ⟨hone, hkelvin⟩
      · omega
      · omega
      · have hn107 : n = 107 := by omega
        subst hn107
        exact hk rfl
    · rw [List.mem_singleton.mp h] at hlast
      omega

theorem not_isPlainSmall_of_mem_lowerAt {before rest : List Char} {c x : Char}
    (hc : 0x80 ≤ c.toNat) (h : x ∈ lowerAt before c rest) : ¬ IsPlainSmall x := by
  rw [lowerAt] at h
  split at h
  · rw [List.mem_singleton.mp h]
    split <;> decide
  · exact not_isPlainSmall_of_mem_lowerChar hc h

theorem exists_mem_lowerAfter (before : List Char) {s : List Char} {c : Char} (h : c ∈ s) :
    ∃ before' rest, ∀ x ∈ lowerAt before' c rest, x ∈ lowerAfter before s := by
  induction s generalizing before with
  | nil => cases h
  | cons d s ih =>
    rw [lowerAfter_cons]
    rcases List.mem_cons.mp h with rfl | hs
    · exact ⟨before, s, fun x hx => List.mem_append_left _ hx⟩
    · obtain ⟨before', rest, hmem⟩ := ih (d :: before) hs
      exact ⟨before', rest, fun x hx => List.mem_append_right _ (hmem x hx)⟩

theorem lowersAlike_of_ascii {c : Char} (h : c.toNat < 0x80) : LowersAlike c :=
  if_pos h

section

variable {s word : String}

/-- A text becomes a word of plain small letters exactly if the store makes this word of it. -/
theorem lower_eq_iff_asciiLower_eq (hword : ∀ w ∈ word.toList, IsPlainSmall w) :
    lower s = word ↔ asciiLower s = word := by
  constructor
  · intro h
    have halike : ∀ c ∈ s.toList, LowersAlike c := by
      intro c hc
      by_cases hwide : 0x80 ≤ c.toNat
      · -- Such a character leaves something behind, which cannot be a letter of the word.
        obtain ⟨before, rest, hmem⟩ := exists_mem_lowerAfter [] hc
        obtain ⟨x, hx⟩ := List.exists_mem_of_ne_nil _ (lowerAt_ne_nil before c rest)
        have hplain : IsPlainSmall x := by
          refine hword x ?_
          rw [← h, lower, String.toList_ofList]
          exact hmem x hx
        exact absurd hplain (not_isPlainSmall_of_mem_lowerAt hwide hx)
      · exact lowersAlike_of_ascii (by omega)
    rw [← (lower_eq_asciiLower_iff s).mpr halike, h]
  · intro h
    have halike : ∀ c ∈ s.toList, LowersAlike c := by
      intro c hc
      have hmem : asciiLowerChar c ∈ word.toList := by
        rw [← h, toList_asciiLower]
        exact List.mem_map_of_mem hc
      have hle := toNat_asciiLowerChar_ge c
      have hlast := (hword _ hmem).2.1
      exact lowersAlike_of_ascii (by omega)
    rw [(lower_eq_asciiLower_iff s).mpr halike, h]

theorem asciiLowerChar_eq_iff {c w : Char} (hw : IsPlainSmall w) :
    asciiLowerChar c = w ↔ c = w ∨ c = asciiUpperChar w := by
  obtain ⟨hfirst, hlast, -⟩ := hw
  have hupper : (asciiUpperChar w).toNat = w.toNat - 32 := by
    have hsmall : 'a' ≤ w ∧ w ≤ 'z' := ⟨hfirst, hlast⟩
    rw [asciiUpperChar, if_pos hsmall, toNat_ofNat (Or.inl (by omega))]
  rw [← Char.toNat_inj, ← Char.toNat_inj, ← Char.toNat_inj, hupper]
  by_cases hc : 65 ≤ c.toNat ∧ c.toNat ≤ 90
  · rw [asciiLowerChar_of_capital hc]
    omega
  · rw [asciiLowerChar_of_not_capital hc]
    omega

/-- A text becomes a word of plain small letters exactly if it spells the word. -/
theorem lower_eq_iff_spells (hword : ∀ w ∈ word.toList, IsPlainSmall w) :
    lower s = word ↔ Spells s word := by
  have hsame : asciiLower s = word ↔
      List.Forall₂ (fun w c => w = asciiLowerChar c) word.toList s.toList := by
    rw [← List.forall₂_map_right_iff, List.forall₂_eq_eq_eq, ← toList_asciiLower,
      String.toList_inj, eq_comm]
  rw [lower_eq_iff_asciiLower_eq hword, hsame, Spells]
  constructor
  · intro h
    refine ((List.forall₂_and_left _ _).mpr ⟨hword, h⟩).imp ?_
    rintro w c ⟨hw, hcw⟩
    exact (asciiLowerChar_eq_iff hw).mp hcw.symm
  · intro h
    refine ((List.forall₂_and_left _ _).mpr ⟨hword, h⟩).imp ?_
    rintro w c ⟨hw, hcw⟩
    exact ((asciiLowerChar_eq_iff hw).mpr hcw).symm

end

end TechCatalog.Text
