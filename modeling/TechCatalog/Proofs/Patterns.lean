import Mathlib.Data.List.Infix
import Mathlib.Data.List.TakeWhile
import TechCatalog.Search.Conditions

/-!
# What a pattern made of a text matches

A text that is made literal asks, as a pattern, for its own characters one after the other: the two
wildcards and the escape mark stand for themselves. With a percent sign before it, after it or on
both sides it asks for a text that ends with it, starts with it or has it as a part. The store
compares without regard to the case of the letters A to Z, so both texts count as `asciiLower`
makes them.
-/

namespace TechCatalog.Text

/-- A text without NUL. The store looks at a text only up to its first NUL. -/
def NulFree (s : String) : Prop :=
  Char.ofNat 0 ∉ s.toList
  deriving Decidable

theorem toList_asciiLower (s : String) :
    (asciiLower s).toList = s.toList.map asciiLowerChar :=
  String.toList_ofList

theorem markAll_append (c : Char) (s t : List Char) :
    markAll c (s ++ t) = markAll c s ++ markAll c t :=
  List.flatMap_append

/-- Three replacements in turn write every character as one replacement at a time would: no mark
that one of them puts in is taken for a character by the next. -/
theorem markAll_three (s : List Char) :
    markAll '_' (markAll '%' (markAll escapeMark s)) = escape s := by
  induction s with
  | nil => rfl
  | cons c s ih =>
    -- Each replacement goes through `++`, so a text of one character is all there is to look at.
    have hone : markAll '_' (markAll '%' (markAll escapeMark [c])) = escapeChar c := by
      by_cases hmark : c = escapeMark
      · subst hmark
        rfl
      · by_cases hpercent : c = '%'
        · subst hpercent
          rfl
        · by_cases hline : c = '_'
          · subst hline
            rfl
          · simp [markAll, escapeChar, hmark, hpercent, hline]
    rw [← List.singleton_append, markAll_append, markAll_append, markAll_append, ih, hone]
    rfl

theorem toList_escapeLike (s : String) : (escapeLike s).toList = escape s.toList := by
  rw [escapeLike, String.toList_ofList, markAll_three]

theorem mem_escape {s : List Char} {x : Char} (h : x ∈ escape s) : x = escapeMark ∨ x ∈ s := by
  obtain ⟨c, hc, hx⟩ := List.mem_flatMap.mp h
  rw [escapeChar] at hx
  split at hx
  · rcases List.mem_cons.mp hx with hmark | hself
    · exact .inl hmark
    · exact .inr (List.mem_singleton.mp hself ▸ hc)
  · exact .inr (List.mem_singleton.mp hx ▸ hc)

theorem escape_nulFree {s : List Char} (h : Char.ofNat 0 ∉ s) : Char.ofNat 0 ∉ escape s := by
  intro hmem
  rcases mem_escape hmem with hmark | hself
  · exact absurd hmark (by decide)
  · exact h hself

theorem patternSteps_cons {c : Char} (h : c ≠ escapeMark) (rest : List Char) :
    patternSteps (c :: rest) =
      (if c = '%' then .anyText else if c = '_' then .anyChar else .only c) ::
        patternSteps rest := by
  -- The steps of a character are read off only where it is known whether another one follows.
  have hstep : patternSteps (c :: rest) =
      if c = '%' then .anyText :: patternSteps rest
      else if c = '_' then .anyChar :: patternSteps rest
      else .only c :: patternSteps rest := by
    cases rest <;> exact if_neg h
  rw [hstep]
  by_cases hpercent : c = '%'
  · rw [if_pos hpercent, if_pos hpercent]
  · by_cases hline : c = '_'
    · rw [if_neg hpercent, if_neg hpercent, if_pos hline, if_pos hline]
    · rw [if_neg hpercent, if_neg hpercent, if_neg hline, if_neg hline]

/-- A character that is written into a pattern asks for itself. -/
theorem patternSteps_escapeChar (c : Char) (rest : List Char) :
    patternSteps (escapeChar c ++ rest) = .only c :: patternSteps rest := by
  by_cases hspecial : c = escapeMark ∨ c = '%' ∨ c = '_'
  · rw [escapeChar, if_pos hspecial]
    show patternSteps (escapeMark :: c :: rest) = .only c :: patternSteps rest
    rw [patternSteps, if_pos rfl]
  · rw [escapeChar, if_neg hspecial]
    rw [not_or, not_or] at hspecial
    obtain ⟨hmark, hpercent, hline⟩ := hspecial
    show patternSteps (c :: rest) = .only c :: patternSteps rest
    rw [patternSteps_cons hmark, if_neg hpercent, if_neg hline]

/-- A text that is written into a pattern asks for its characters, one after the other. -/
theorem patternSteps_escape (w rest : List Char) :
    patternSteps (escape w ++ rest) = w.map .only ++ patternSteps rest := by
  induction w with
  | nil => rfl
  | cons c w ih =>
    have hcons : escape (c :: w) ++ rest = escapeChar c ++ (escape w ++ rest) := by
      rw [escape, List.flatMap_cons, List.append_assoc]
      rfl
    rw [hcons, patternSteps_escapeChar, ih]
    rfl

theorem patternSteps_percent (rest : List Char) :
    patternSteps ('%' :: rest) = .anyText :: patternSteps rest := by
  rw [patternSteps_cons (by decide), if_pos rfl]

theorem anySuffix_eq_true {p : List Char → Bool} {s : List Char} :
    anySuffix p s = true ↔ ∃ t, t <:+ s ∧ p t = true := by
  induction s with
  | nil =>
    rw [anySuffix]
    constructor
    · intro h
      exact ⟨[], List.suffix_rfl, h⟩
    · rintro ⟨t, ht, h⟩
      rw [List.suffix_nil.mp ht] at h
      exact h
  | cons c s ih =>
    rw [anySuffix, Bool.or_eq_true, ih]
    constructor
    · rintro (h | ⟨t, ht, h⟩)
      · exact ⟨c :: s, List.suffix_rfl, h⟩
      · exact ⟨t, ht.trans (List.suffix_cons c s), h⟩
    · rintro ⟨t, ht, h⟩
      rcases List.suffix_cons_iff.mp ht with rfl | ht
      · exact .inl h
      · exact .inr ⟨t, ht, h⟩

/-- Steps that ask for characters take as many from the beginning of a text, and leave the rest to
the steps after them. -/
theorem accepts_only_append (w : List Char) (steps : List PatternStep) (s : List Char) :
    accepts (w.map .only ++ steps) s = true ↔
      ∃ u t, s = u ++ t ∧ u.map asciiLowerChar = w.map asciiLowerChar ∧
        accepts steps t = true := by
  -- Every literal step takes one character off, and the text is split one character further on.
  induction w generalizing s with
  | nil =>
    constructor
    · intro h
      exact ⟨[], s, rfl, rfl, h⟩
    · rintro ⟨u, t, rfl, hu, h⟩
      rw [List.map_nil, List.map_eq_nil_iff] at hu
      subst hu
      exact h
  | cons c w ih =>
    cases s with
    | nil =>
      refine iff_of_false Bool.false_ne_true ?_
      rintro ⟨u, t, hs, hu, -⟩
      rw [(List.append_eq_nil_iff.mp hs.symm).1] at hu
      cases hu
    | cons d s =>
      show (asciiLowerChar c == asciiLowerChar d && accepts (w.map .only ++ steps) s) = true ↔ _
      rw [Bool.and_eq_true, beq_iff_eq, ih s]
      constructor
      · rintro ⟨hcd, u, t, rfl, hu, h⟩
        refine ⟨d :: u, t, rfl, ?_, h⟩
        rw [List.map_cons, List.map_cons, hcd, hu]
      · rintro ⟨u, t, hs, hu, h⟩
        cases u with
        | nil => cases hu
        | cons e u =>
          rw [List.cons_append, List.cons.injEq] at hs
          rw [List.map_cons, List.map_cons, List.cons.injEq] at hu
          exact ⟨hs.1 ▸ hu.1.symm, u, t, hs.2, hu.2, h⟩

theorem accepts_nil (s : List Char) : accepts [] s = true ↔ s = [] := by
  rw [accepts, List.isEmpty_iff]

theorem accepts_anyText_last (s : List Char) : accepts [.anyText] s = true := by
  show anySuffix (accepts []) s = true
  exact anySuffix_eq_true.mpr ⟨[], List.nil_suffix, rfl⟩

theorem accepts_anyText (steps : List PatternStep) (s : List Char) :
    accepts (.anyText :: steps) s = true ↔ ∃ t, t <:+ s ∧ accepts steps t = true := by
  show anySuffix (accepts steps) s = true ↔ _
  exact anySuffix_eq_true

theorem accepts_only (w s : List Char) :
    accepts (w.map .only) s = true ↔ w.map asciiLowerChar = s.map asciiLowerChar := by
  have h := accepts_only_append w [] s
  rw [List.append_nil] at h
  rw [h]
  constructor
  · rintro ⟨u, t, rfl, hu, ht⟩
    rw [(accepts_nil t).mp ht, List.append_nil, hu]
  · intro hw
    exact ⟨s, [], (List.append_nil s).symm, hw.symm, rfl⟩

theorem accepts_only_anyText (w s : List Char) :
    accepts (w.map .only ++ [.anyText]) s = true ↔
      w.map asciiLowerChar <+: s.map asciiLowerChar := by
  rw [accepts_only_append]
  constructor
  · rintro ⟨u, t, rfl, hu, -⟩
    rw [List.map_append, hu]
    exact List.prefix_append _ _
  · intro h
    obtain ⟨rest, hrest⟩ := h
    obtain ⟨u, t, rfl, hu, -⟩ := List.append_eq_map_iff.mp hrest
    exact ⟨u, t, rfl, hu, accepts_anyText_last t⟩

theorem accepts_anyText_only (w s : List Char) :
    accepts (.anyText :: w.map .only) s = true ↔
      w.map asciiLowerChar <:+ s.map asciiLowerChar := by
  rw [accepts_anyText]
  constructor
  · rintro ⟨t, ht, h⟩
    rw [(accepts_only w t).mp h]
    exact ht.map asciiLowerChar
  · intro h
    obtain ⟨rest, hrest⟩ := h
    obtain ⟨u, t, rfl, -, ht⟩ := List.append_eq_map_iff.mp hrest
    exact ⟨t, List.suffix_append u t, (accepts_only w t).mpr ht.symm⟩

theorem accepts_anyText_only_anyText (w s : List Char) :
    accepts (.anyText :: (w.map .only ++ [.anyText])) s = true ↔
      w.map asciiLowerChar <:+: s.map asciiLowerChar := by
  rw [accepts_anyText]
  constructor
  · rintro ⟨t, ht, h⟩
    have hprefix := (accepts_only_anyText w t).mp h
    exact hprefix.isInfix.trans (ht.map asciiLowerChar).isInfix
  · intro h
    -- A part is the beginning of an end, and an end of the text made small comes from one of it.
    obtain ⟨t, hprefix, ht⟩ := List.infix_iff_prefix_suffix.mp h
    obtain ⟨rest, hrest⟩ := ht
    obtain ⟨u, v, rfl, -, rfl⟩ := List.append_eq_map_iff.mp hrest
    exact ⟨v, List.suffix_append u v, (accepts_only_anyText w v).mpr hprefix⟩

theorem beforeNul_eq_self {s : List Char} (h : Char.ofNat 0 ∉ s) : beforeNul s = s := by
  refine List.takeWhile_eq_self_iff.mpr fun c hc => ?_
  rw [decide_eq_true_eq]
  rintro rfl
  exact h hc

/-- Where there is no NUL, a pattern and a text are compared as they are. -/
theorem like_eq_accepts {pattern text : String} (hp : NulFree pattern) (ht : NulFree text) :
    like pattern text = accepts (patternSteps pattern.toList) text.toList := by
  rw [like, beforeNul_eq_self hp, beforeNul_eq_self ht]

end TechCatalog.Text

namespace TechCatalog.Request

/-- How a value occurs in a text: as the whole of it, as a part, as its beginning or as its end. -/
def MatchType.OccursIn (m : MatchType) (value text : String) : Prop :=
  match m with
  | .exact => value = text
  | .contains => value.toList <:+: text.toList
  | .startsWith => value.toList <+: text.toList
  | .endsWith => value.toList <:+ text.toList

instance (m : MatchType) (value text : String) : Decidable (m.OccursIn value text) := by
  cases m <;> unfold MatchType.OccursIn <;> infer_instance

/-- What a pattern begins with before the value: a percent sign where any text may come first. -/
def MatchType.opening : MatchType → List Char
  | .contains | .endsWith => ['%']
  | .exact | .startsWith => []

/-- What a pattern ends with after the value. -/
def MatchType.closing : MatchType → List Char
  | .contains | .startsWith => ['%']
  | .exact | .endsWith => []

end TechCatalog.Request

namespace TechCatalog.Search

open Request Text

variable {m : MatchType} {value text pattern : String}

theorem toList_patternFor (hp : pattern ∈ patternFor m value) :
    pattern.toList = m.opening ++ (escape value.toList ++ m.closing) := by
  cases m with
  | exact => exact nomatch hp
  | contains =>
    rw [← Option.some.inj hp, String.toList_append, String.toList_append, toList_escapeLike]
    rfl
  | startsWith =>
    rw [← Option.some.inj hp, String.toList_append, toList_escapeLike]
    rfl
  | endsWith =>
    rw [← Option.some.inj hp, String.toList_append, toList_escapeLike, MatchType.closing,
      List.append_nil]
    rfl

theorem patternFor_nulFree (hp : pattern ∈ patternFor m value) (hv : NulFree value) :
    NulFree pattern := by
  have hliteral : Char.ofNat 0 ∉ escape value.toList := escape_nulFree hv
  have hopening : Char.ofNat 0 ∉ m.opening := by
    cases m <;> decide
  have hclosing : Char.ofNat 0 ∉ m.closing := by
    cases m <;> decide
  rw [NulFree, toList_patternFor hp]
  simp [hopening, hliteral, hclosing]

/-- The pattern of a value asks for the characters of the value between what it begins and ends
with. -/
theorem patternSteps_patternFor (hp : pattern ∈ patternFor m value) :
    patternSteps pattern.toList =
      patternSteps m.opening ++ (value.toList.map .only ++ patternSteps m.closing) := by
  rw [toList_patternFor hp]
  cases m with
  | exact => exact patternSteps_escape value.toList []
  | startsWith => exact patternSteps_escape value.toList ['%']
  | contains =>
    show patternSteps ('%' :: (escape value.toList ++ ['%'])) = _
    rw [patternSteps_percent, patternSteps_escape]
    rfl
  | endsWith =>
    show patternSteps ('%' :: (escape value.toList ++ [])) = _
    rw [patternSteps_percent, patternSteps_escape]
    rfl

/-- The pattern of a value matches a text in which the value occurs in the way that is asked for,
the case of the letters A to Z apart. -/
theorem like_patternFor (hp : pattern ∈ patternFor m value) (hv : NulFree value)
    (ht : NulFree text) :
    like pattern text = true ↔ m.OccursIn (asciiLower value) (asciiLower text) := by
  rw [like_eq_accepts (patternFor_nulFree hp hv) ht, patternSteps_patternFor hp]
  cases m with
  | exact => cases hp
  | contains =>
    show _ ↔ (asciiLower value).toList <:+: (asciiLower text).toList
    rw [toList_asciiLower, toList_asciiLower]
    exact accepts_anyText_only_anyText value.toList text.toList
  | startsWith =>
    show _ ↔ (asciiLower value).toList <+: (asciiLower text).toList
    rw [toList_asciiLower, toList_asciiLower]
    exact accepts_only_anyText value.toList text.toList
  | endsWith =>
    show accepts (.anyText :: (value.toList.map .only ++ [])) text.toList = true ↔
      (asciiLower value).toList <:+ (asciiLower text).toList
    rw [List.append_nil, toList_asciiLower, toList_asciiLower]
    exact accepts_anyText_only value.toList text.toList

end TechCatalog.Search
