import TechCatalog.Proofs.Finding
import TechCatalog.Proofs.Lowering

/-!
# What a text filter finds

A text filter without regard to letter case finds the texts that, in the eyes of the store, have its
value as `lower` makes it for the whole, a part, the beginning or the end. With regard to letter
case it finds the whole text only as it is; but a pattern is matched without regard to the case of
the letters A to Z even then. And a text that is copied from the store is found again where the two
ways to make letters small agree on it, but not always where they do not.
-/

namespace TechCatalog.Text

/-- A wildcard or an escape mark that is taken literally is met by itself only. -/
theorem accepts_only_mark {x : Char} (hx : x ∈ [escapeMark, '%', '_']) (s : List Char) :
    accepts [.only x] s = true ↔ s = [x] := by
  have hmark : asciiLowerChar x = x ∧ ¬(97 ≤ x.toNat ∧ x.toNat ≤ 122) := by
    simp only [List.mem_cons, List.not_mem_nil, or_false] at hx
    rcases hx with rfl | rfl | rfl <;> decide
  rw [← List.map_singleton, accepts_only [x] s, List.map_singleton, hmark.1]
  constructor
  · intro h
    obtain ⟨y, rfl, hy⟩ := List.map_eq_singleton_iff.mp h.symm
    rw [eq_of_asciiLowerChar_eq hmark.2 hy]
  · rintro rfl
    rw [List.map_singleton, hmark.1]

end TechCatalog.Text

namespace TechCatalog.Request

open Text

/-- The store evaluates the pattern of a text filter. A comparison of whole texts has none. -/
def TextFilter.WithinLimit (f : TextFilter) : Prop :=
  ∀ pattern ∈ Search.patternFor f.matchType f.wanted, patternTooLong pattern = false
  deriving Decidable

section

variable {m : MatchType} {value text : String} {f : TextFilter}

theorem MatchType.OccursIn.asciiLower (h : m.OccursIn value text) :
    m.OccursIn (asciiLower value) (asciiLower text) := by
  cases m with
  | exact => exact congrArg Text.asciiLower h
  | contains =>
    show (Text.asciiLower value).toList <:+: (Text.asciiLower text).toList
    rw [toList_asciiLower, toList_asciiLower]
    exact List.IsInfix.map asciiLowerChar h
  | startsWith =>
    show (Text.asciiLower value).toList <+: (Text.asciiLower text).toList
    rw [toList_asciiLower, toList_asciiLower]
    exact List.IsPrefix.map asciiLowerChar h
  | endsWith =>
    show (Text.asciiLower value).toList <:+ (Text.asciiLower text).toList
    rw [toList_asciiLower, toList_asciiLower]
    exact List.IsSuffix.map asciiLowerChar h

/-- A value that occurs in a text in any way is a part of it. -/
theorem MatchType.OccursIn.isInfix (h : m.OccursIn value text) :
    value.toList <:+: text.toList := by
  cases m with
  | exact => exact h ▸ List.infix_rfl
  | contains => exact h
  | startsWith => exact List.IsPrefix.isInfix h
  | endsWith => exact List.IsSuffix.isInfix h

theorem MatchType.occursIn_self (m : MatchType) (text : String) : m.OccursIn text text := by
  cases m with
  | exact => rfl
  | contains => exact List.infix_rfl
  | startsWith => exact List.prefix_rfl
  | endsWith => exact List.suffix_rfl

theorem MatchType.OccursIn.nulFree (h : m.OccursIn value text) (ht : NulFree text) :
    NulFree value :=
  fun hnul => ht (h.isInfix.mem hnul)

/-- A whole text, made small by the rules of all letters, occurs in what the store makes of it
exactly if the two agree on its characters. -/
theorem MatchType.occursIn_lower_iff (m : MatchType) (text : String) :
    m.OccursIn (lower text) (Text.asciiLower text) ↔ ∀ x ∈ text.toList, LowersAlike x := by
  rw [← lower_eq_asciiLower_iff]
  constructor
  · intro h
    -- What `lower` makes is not the shorter one, so the part that it is can only be the whole.
    have hlength : (Text.asciiLower text).toList.length ≤ (lower text).toList.length := by
      rw [toList_asciiLower, List.length_map, lower, String.toList_ofList]
      exact length_le_lowerAfter [] text.toList
    exact String.toList_inj.mp (h.isInfix.eq_of_length_le hlength)
  · intro h
    rw [h]
    exact m.occursIn_self _

theorem TextFilter.wanted_nulFree (hv : NulFree f.value) : NulFree f.wanted := by
  rw [TextFilter.wanted]
  split
  · exact hv
  · exact hv.lower

theorem TextFilter.seen_nulFree (ht : NulFree text) : NulFree (f.seen text) := by
  rw [TextFilter.seen]
  split
  · exact ht
  · exact ht.asciiLower

/-- Whole texts are compared as they are, and patterns without regard to the letters A to Z. -/
theorem TextFilter.suits_iff (hv : NulFree f.value) (ht : NulFree text) :
    f.suits text = true ↔
      if f.matchType = .exact then f.wanted = f.seen text
      else f.matchType.OccursIn (Text.asciiLower f.wanted) (Text.asciiLower (f.seen text)) := by
  rw [TextFilter.suits]
  by_cases hexact : f.matchType = .exact
  · rw [if_pos hexact, hexact]
    show (f.seen text == f.wanted) = true ↔ _
    rw [beq_iff_eq]
    exact eq_comm
  · rw [if_neg hexact]
    cases hp : Search.patternFor f.matchType f.wanted with
    | none =>
      -- Only a comparison of whole texts goes without a pattern.
      refine absurd ?_ hexact
      cases hm : f.matchType with
      | exact => rfl
      | _ => rw [hm] at hp; cases hp
    | some pattern =>
      exact Search.like_patternFor hp (TextFilter.wanted_nulFree hv) (TextFilter.seen_nulFree ht)

theorem TextFilter.suits_insensitive (hf : f.caseSensitive = false) (hv : NulFree f.value)
    (ht : NulFree text) :
    f.suits text = true ↔
      f.matchType.OccursIn (Text.lower f.value) (Text.asciiLower text) := by
  have hwanted : f.wanted = Text.lower f.value := by
    rw [TextFilter.wanted, hf]
    rfl
  have hseen : f.seen text = Text.asciiLower text := by
    rw [TextFilter.seen, hf]
    rfl
  -- Both sides are small already, so that a pattern makes no difference of its own.
  rw [TextFilter.suits_iff hv ht, hwanted, hseen, asciiLower_lower, asciiLower_idem]
  split
  · rename_i hexact
    rw [hexact]
    rfl
  · rfl

theorem TextFilter.suits_sensitive (hf : f.caseSensitive = true) (hv : NulFree f.value)
    (ht : NulFree text) :
    f.suits text = true ↔
      if f.matchType = .exact then f.value = text
      else f.matchType.OccursIn (Text.asciiLower f.value) (Text.asciiLower text) := by
  have hwanted : f.wanted = f.value := by
    rw [TextFilter.wanted, hf]
    rfl
  have hseen : f.seen text = text := by
    rw [TextFilter.seen, hf]
    rfl
  rw [TextFilter.suits_iff hv ht, hwanted, hseen]

end

end TechCatalog.Request

namespace TechCatalog.Search

open Request Store Query Text

theorem tooLong_textClause {f : TextFilter} (h : f.WithinLimit) (c : Column) :
    (textClause c f).tests.any Test.tooLong = false := by
  show ((textTest c f).tooLong || false) = false
  rw [Bool.or_false, textTest]
  cases hp : patternFor f.matchType f.wanted with
  | none =>
    rw [TextFilter.wanted] at hp
    simp only [hp]
    rfl
  | some pattern =>
    have hshort := h pattern hp
    rw [TextFilter.wanted] at hp
    simp only [hp]
    exact hshort

/-- The search with a text filter on one column of the domains. -/
def textSearch (c : DomainColumn) (f : TextFilter) : Filters where
  domain := if c = .domain then some f else none
  companyName := if c = .companyName then some f else none

section

variable {db : Database} {d : Domain} {c : DomainColumn} {f : TextFilter} {t : String}

theorem clausesOf_textSearch (hc : c = .domain ∨ c = .companyName) :
    clausesOf (textSearch c f) = [textClause (.ofDomain c) f] := by
  rcases hc with rfl | rfl
  · rfl
  · rfl

theorem textSearch_nanFree : (textSearch c f).NaNFree :=
  (attributes_plain _ _ none none).1

theorem matches_textSearch (hc : c = .domain ∨ c = .companyName) :
    Matches db (textSearch c f) d ↔ ∃ t, d.get c = some (.text t) ∧ f.suits t = true := by
  rw [textSearch, matches_attributes]
  rcases hc with rfl | rfl
  · simp [TextFilter.Accepts, Domain.get]
  · simp [TextFilter.Accepts, Domain.get]

theorem not_matches_textSearch_of_empty (hc : c = .domain ∨ c = .companyName)
    (hcell : d.get c = none) : ¬ Matches db (textSearch c f) d := by
  rw [matches_textSearch hc]
  rintro ⟨t, ht, -⟩
  rw [hcell] at ht
  cases ht

theorem matches_textSearch_of_text (hc : c = .domain ∨ c = .companyName)
    (hcell : d.get c = some (.text t)) :
    Matches db (textSearch c f) d ↔ f.suits t = true := by
  rw [matches_textSearch hc]
  constructor
  · rintro ⟨u, hu, hsuits⟩
    rw [hcell] at hu
    cases hu
    exact hsuits
  · intro hsuits
    exact ⟨t, hcell, hsuits⟩

theorem selects_textSearch (h : db.Sound) (hc : c = .domain ∨ c = .companyName)
    (hd : d ∈ db.domains) (hcell : d.get c = some (.text t)) :
    (Selects db (textSearch c f) d ↔ f.suits t = true) ∧
    (PassesOver db (textSearch c f) d ↔ ¬ f.suits t = true) := by
  have hmatches : Matches db (textSearch c f) d ↔ f.suits t = true :=
    matches_textSearch_of_text hc hcell
  exact ⟨(selects_iff_matches h textSearch_nanFree hd).trans hmatches,
    (passesOver_iff_not_matches h textSearch_nanFree hd).trans (not_congr hmatches)⟩

theorem finds_textSearch (h : db.Sound) (htables : db.droppedTables = [])
    (hcolumns : db.droppedColumns = []) (hc : c = .domain ∨ c = .companyName)
    (hlimit : f.WithinLimit) :
    Finds db (textSearch c f) (found db (textSearch c f)) := by
  obtain ⟨hnan, hfits⟩ := attributes_plain _ _ none none
  refine finds_found h htables hcolumns hnan hfits ?_
  rw [clausesOf_textSearch hc]
  exact List.forall_mem_singleton.mpr (tooLong_textClause hlimit _)

end

/-- A domain of a company with a capital letter beyond Z in its name. -/
def schoolDomain : Domain where
  id := 1
  domain := "ecole.com"
  companyName := some "École"

/-- A domain of a company with wildcards and an escape mark in its name. -/
def halfDomain : Domain where
  id := 2
  domain := "half.com"
  companyName := some "50%_\\ Shop"

/-- A domain without a company. -/
def plainDomain : Domain where
  id := 3
  domain := "plain.com"

/-- The store of these three domains. -/
def shops : Database where
  domains := [schoolDomain, halfDomain, plainDomain]

theorem shops_sound : shops.Sound where
  keys t := by cases t <;> decide
  uniques t := by cases t <;> decide

/-- A filter for wildcards and an escape mark before a capital letter. -/
def markedFilter : TextFilter where
  value := "%_\\ S"

section

variable {db : Database} {c : DomainColumn} {f : TextFilter}

/-- A filter with regard to letter case for a word that is written small. -/
def smallWord : TextFilter where
  value := "shop"
  caseSensitive := true

/-- The filter without regard to letter case for a value. -/
def copied (v : String) (m : MatchType) : TextFilter where
  value := v
  matchType := m

end

end TechCatalog.Search
