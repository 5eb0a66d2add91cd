import TechCatalog.Proofs.Lowering
import TechCatalog.Proofs.Trimming
import TechCatalog.Service.App

/-!
# Origins that are named

A setting names origins by its parts between commas: those that are not blank, in order and without
the blanks around them. In production only they may call the service, and it does not start where
there is none. Elsewhere every origin may call it if the settings say so or if the setting is left
out or empty, and otherwise the named ones may. But a setting that is not empty and names no origin,
because it has commas and blanks only, leaves the service to nobody.
-/

namespace TechCatalog.Service

open Text

/-- The parts of a text between its commas. -/
def commaParts (raw : String) : List String :=
  (partsBetween ',' raw.toList).map String.ofList

/-- A text is taken apart at its commas: the parts have no commas of their own and, joined by
commas, make up the text. -/
structure PartedAtCommas (raw : String) (parts : List String) : Prop where
  some_part : parts ≠ []
  joined : raw = ",".intercalate parts
  comma_free : ∀ part ∈ parts, ',' ∉ part.toList

/-- The origins that a text names: its parts between commas that are not blank, each without the
blanks around it. -/
def NamedBy (raw : String) (origins : List String) : Prop :=
  ∃ parts, PartedAtCommas raw parts ∧
    List.Forall₂ Stripped (parts.filter fun part => !allBlank part) origins

/-- The text in which origins are named; it is empty where the setting is left out. -/
def Settings.originText (s : Settings) : String :=
  s.frontendOrigin.getD ""

/-- The environment is `prod`, in any letter case. -/
def Settings.InProduction (s : Settings) : Prop :=
  Spells s.env "prod"

/-- Who may call the service is answered as it ought to be where some origins are named: in
production with these and not at all if there is none, elsewhere with every origin if the settings
say so or none is named, and with the named ones otherwise. -/
structure Appropriate (s : Settings) (named : List String) (answer : Option (List String)) :
    Prop where
  refused : answer = none ↔ s.InProduction ∧ named = []
  production : s.InProduction → named ≠ [] → answer = some named
  everyone : ¬ s.InProduction → s.corsAllowAllOrigins = true ∨ named = [] →
    answer = some [everyOrigin]
  pinned : ¬ s.InProduction → s.corsAllowAllOrigins = false → named ≠ [] → answer = some named

/-- Something is written where origins are named, and it names none, although the service is not in
production and not every origin may call it. -/
def PinnedToNobody (s : Settings) (named : List String) : Prop :=
  ¬ s.InProduction ∧ s.corsAllowAllOrigins = false ∧ s.originText ≠ "" ∧ named = []

theorem partsBetween_eq_splitOn (mark : Char) (cs : List Char) :
    partsBetween mark cs = cs.splitOn mark := by
  induction cs with
  | nil => rfl
  | cons c cs ih =>
    rw [partsBetween, ih, List.splitOn_cons_eq_if_modifyHead]
    by_cases hc : c = mark
    · rw [if_pos hc, if_pos (beq_iff_eq.mpr hc)]
    · rw [if_neg hc, if_neg (fun h => hc (beq_iff_eq.mp h))]
      obtain ⟨part, parts, hparts⟩ := List.exists_cons_of_ne_nil (List.splitOn_ne_nil mark cs)
      rw [hparts]
      rfl

theorem partsBetween_ne_nil (mark : Char) (cs : List Char) : partsBetween mark cs ≠ [] := by
  rw [partsBetween_eq_splitOn]
  exact List.splitOn_ne_nil mark cs

/-- What stands between the marks of a text is all of it apart from the marks. -/
theorem forall_partsBetween_iff {mark : Char} {P : Char → Prop} {cs : List Char} :
    (∀ part ∈ partsBetween mark cs, ∀ c ∈ part, P c) ↔ ∀ c ∈ cs, c = mark ∨ P c := by
  induction cs with
  | nil => simp [partsBetween]
  | cons c cs ih =>
    rw [List.forall_mem_cons, ← ih, partsBetween]
    by_cases hc : c = mark
    · rw [if_pos hc, List.forall_mem_cons]
      simp [hc]
    · obtain ⟨part, parts, hparts⟩ := List.exists_cons_of_ne_nil (partsBetween_ne_nil mark cs)
      rw [if_neg hc, hparts]
      simp [hc, and_assoc]

/-- No mark is left in a part between the marks. -/
theorem not_mem_partsBetween {mark : Char} {cs part : List Char} (h : part ∈ partsBetween mark cs) :
    mark ∉ part := by
  have hother : ∀ part ∈ partsBetween mark cs, ∀ c ∈ part, c ≠ mark :=
    forall_partsBetween_iff.mpr fun c _ => em (c = mark)
  exact fun hmark => hother part h mark hmark rfl

theorem map_toList_commaParts (raw : String) :
    (commaParts raw).map String.toList = partsBetween ',' raw.toList := by
  rw [commaParts, List.map_map]
  exact (List.map_congr_left fun t _ => String.toList_ofList).trans (List.map_id _)

theorem eq_commaParts_iff {raw : String} {parts : List String} :
    parts = commaParts raw ↔ parts.map String.toList = partsBetween ',' raw.toList := by
  rw [← map_toList_commaParts]
  exact (List.map_inj_right fun _ _ => String.toList_inj.mp).symm

theorem joined_iff {raw : String} {parts : List String} :
    raw = ",".intercalate parts ↔ raw.toList = [','].intercalate (parts.map String.toList) := by
  rw [← String.toList_inj, String.toList_intercalate]
  rfl

/-- There is one way to take a text apart at its commas. -/
theorem partedAtCommas_iff {raw : String} {parts : List String} :
    PartedAtCommas raw parts ↔ parts = commaParts raw := by
  rw [eq_commaParts_iff]
  constructor
  · rintro ⟨hsome, hjoined, hfree⟩
    rw [partsBetween_eq_splitOn, joined_iff.mp hjoined]
    refine (List.splitOn_intercalate ',' ?_ ?_).symm
    · intro part hpart
      obtain ⟨t, ht, rfl⟩ := List.mem_map.mp hpart
      exact hfree t ht
    · exact fun hnil => hsome (List.map_eq_nil_iff.mp hnil)
  · intro hparts
    refine ⟨?_, ?_, ?_⟩
    · rintro rfl
      exact partsBetween_ne_nil ',' raw.toList hparts.symm
    · rw [joined_iff, hparts, partsBetween_eq_splitOn, List.intercalate_splitOn]
    · intro part hpart
      have hchars : part.toList ∈ partsBetween ',' raw.toList := by
        rw [← hparts]
        exact List.mem_map_of_mem hpart
      exact not_mem_partsBetween hchars

/-- A text is split into its parts between commas that are not blank, stripped. -/
theorem splitOrigins_eq (raw : String) :
    splitOrigins raw = ((commaParts raw).filter fun part => !allBlank part).map strip := by
  have hmap : ((partsBetween ',' raw.toList).map fun part => strip (String.ofList part)) =
      (commaParts raw).map strip := by
    rw [commaParts, List.map_map]
    rfl
  rw [splitOrigins, hmap, List.filter_map]
  refine congrArg (List.map strip) (List.filter_congr fun part _ => ?_)
  show decide (strip part ≠ "") = !allBlank part
  by_cases hblank : allBlank part = true
  · rw [hblank, strip_of_allBlank hblank]
    rfl
  · rw [decide_eq_true (mt strip_eq_empty_iff.mp hblank), Bool.eq_false_iff.mpr hblank]
    rfl

/-- The origins that a text names are those that it is split into. -/
theorem namedBy_iff {raw : String} {origins : List String} :
    NamedBy raw origins ↔ origins = splitOrigins raw := by
  have hstripped (parts : List String) :
      List.Forall₂ Stripped parts origins ↔ origins = parts.map strip := by
    rw [eq_comm, ← List.forall₂_eq_eq_eq, List.forall₂_map_left_iff]
    exact ⟨fun h => h.imp fun _ _ => stripped_iff.mp, fun h => h.imp fun _ _ => stripped_iff.mpr⟩
  rw [splitOrigins_eq, ← hstripped]
  constructor
  · rintro ⟨parts, hparts, horigins⟩
    rw [← partedAtCommas_iff.mp hparts]
    exact horigins
  · intro horigins
    exact ⟨commaParts raw, partedAtCommas_iff.mpr rfl, horigins⟩

/-- A text of commas and blanks names no origin, and only such a text names none. -/
theorem splitOrigins_eq_nil_iff {raw : String} :
    splitOrigins raw = [] ↔ ∀ c ∈ raw.toList, c = ',' ∨ isBlank c = true := by
  rw [← forall_partsBetween_iff, splitOrigins_eq, List.map_eq_nil_iff, List.filter_eq_nil_iff,
    commaParts, List.forall_mem_map]
  refine forall₂_congr fun part _ => ?_
  rw [allBlank, String.toList_ofList, Bool.not_eq_true, Bool.not_eq_false', List.all_eq_true]

theorem inProduction_iff {s : Settings} : s.InProduction ↔ s.isProduction = true := by
  have hletters : ∀ w ∈ "prod".toList, IsPlainSmall w := by
    show ∀ w ∈ ['p', 'r', 'o', 'd'], IsPlainSmall w
    simp only [List.forall_mem_cons]
    exact ⟨by decide, by decide, by decide, by decide, List.forall_mem_nil _⟩
  rw [Settings.isProduction, beq_iff_eq, Settings.InProduction]
  exact (lower_eq_iff_spells hletters).symm

section

variable {s : Settings}

theorem allowedOrigins_production (h : s.InProduction) : allowedOrigins s =
    if splitOrigins s.originText = [] then none else some (splitOrigins s.originText) := by
  rw [Settings.originText, allowedOrigins, if_pos (inProduction_iff.mp h)]
  cases splitOrigins (s.frontendOrigin.getD "") with
  | nil => rfl
  | cons origin origins => rfl

theorem allowedOrigins_open (h : ¬ s.InProduction)
    (hopen : s.corsAllowAllOrigins = true ∨ s.originText = "") :
    allowedOrigins s = some [everyOrigin] := by
  have hcondition : (s.corsAllowAllOrigins || s.originText == "") = true := by
    rw [Bool.or_eq_true, beq_iff_eq]
    exact hopen
  exact (if_neg (mt inProduction_iff.mpr h)).trans (if_pos hcondition)

theorem allowedOrigins_pinned (h : ¬ s.InProduction) (hclosed : s.corsAllowAllOrigins = false)
    (htext : s.originText ≠ "") : allowedOrigins s = some (splitOrigins s.originText) := by
  have hcondition : ¬ (s.corsAllowAllOrigins || s.originText == "") = true := by
    rw [Bool.or_eq_true, beq_iff_eq, hclosed]
    exact fun hor => hor.elim Bool.false_ne_true htext
  exact (if_neg (mt inProduction_iff.mpr h)).trans (if_neg hcondition)

theorem PinnedToNobody.answer (h : PinnedToNobody s (splitOrigins s.originText)) :
    allowedOrigins s = some [] := by
  obtain ⟨hproduction, hclosed, htext, hnone⟩ := h
  rw [allowedOrigins_pinned hproduction hclosed htext, hnone]

theorem appropriate_of_not_pinnedToNobody
    (h : ¬ PinnedToNobody s (splitOrigins s.originText)) :
    Appropriate s (splitOrigins s.originText) (allowedOrigins s) := by
  by_cases hproduction : s.InProduction
  · rw [allowedOrigins_production hproduction]
    refine ⟨?_, ?_, fun hnot => absurd hproduction hnot, fun hnot => absurd hproduction hnot⟩
    · by_cases hnone : splitOrigins s.originText = []
      · exact iff_of_true (if_pos hnone) ⟨hproduction, hnone⟩
      · rw [if_neg hnone]
        exact iff_of_false (Option.some_ne_none _) fun hrefused => hnone hrefused.2
    · intro _ hnamed
      exact if_neg hnamed
  · by_cases hopen : s.corsAllowAllOrigins = true ∨ s.originText = ""
    · rw [allowedOrigins_open hproduction hopen]
      refine ⟨iff_of_false (Option.some_ne_none _) fun hrefused => hproduction hrefused.1,
        fun hnot => absurd hnot hproduction, fun _ _ => rfl, fun _ hclosed hnamed => ?_⟩
      -- With no permission for every origin, the text is empty and cannot have named one.
      have htext : s.originText = "" := hopen.resolve_left (Bool.eq_false_iff.mp hclosed)
      rw [htext] at hnamed
      exact absurd (by decide) hnamed
    · rw [not_or, Bool.not_eq_true] at hopen
      obtain ⟨hclosed, htext⟩ := hopen
      have hnamed : splitOrigins s.originText ≠ [] :=
        fun hnone => h ⟨hproduction, hclosed, htext, hnone⟩
      rw [allowedOrigins_pinned hproduction hclosed htext]
      refine ⟨iff_of_false (Option.some_ne_none _) fun hrefused => hproduction hrefused.1,
        fun hnot => absurd hnot hproduction, fun _ hopen => ?_, fun _ _ _ => rfl⟩
      rcases hopen with hall | hnone
      · rw [hclosed] at hall
        cases hall
      · exact absurd hnone hnamed

/-- There is no appropriate answer that allows nobody. -/
theorem Appropriate.ne_nil {named : List String} {answer : Option (List String)}
    (h : Appropriate s named answer) : answer ≠ some [] := by
  intro hnil
  subst hnil
  by_cases hproduction : s.InProduction
  · by_cases hnone : named = []
    · cases h.refused.mpr ⟨hproduction, hnone⟩
    · exact hnone (Option.some.inj (h.production hproduction hnone)).symm
  · by_cases hopen : s.corsAllowAllOrigins = true ∨ named = []
    · cases h.everyone hproduction hopen
    · rw [not_or, Bool.not_eq_true] at hopen
      exact hopen.2 (Option.some.inj (h.pinned hproduction hopen.1 hopen.2)).symm

/-- The origins that may call the service are those that ought to, where some are named, unless the
service is pinned to nobody. Then, and only then, the answer is a list without any origin. -/
theorem allowedOrigins_appropriate_iff (s : Settings) : ∃ named,
    (∀ origins, NamedBy s.originText origins ↔ origins = named) ∧
    (named = [] ↔ ∀ c ∈ s.originText.toList, c = ',' ∨ isBlank c = true) ∧
    (Appropriate s named (allowedOrigins s) ↔ ¬ PinnedToNobody s named) ∧
    (allowedOrigins s = some [] ↔ PinnedToNobody s named) := by
  refine ⟨splitOrigins s.originText, fun _ => namedBy_iff, splitOrigins_eq_nil_iff,
    ⟨fun happropriate hpinned => happropriate.ne_nil hpinned.answer,
      appropriate_of_not_pinnedToNobody⟩, ⟨fun hnil => ?_, PinnedToNobody.answer⟩⟩
  by_contra hpinned
  exact (appropriate_of_not_pinnedToNobody hpinned).ne_nil hnil

end

/-- Settings outside production that name origins by commas and blanks only. -/
def blankOrigins : Settings where
  frontendOrigin := some " , ,"

/-- No origin is named, and still not every origin may call the service: none may. -/
theorem blank_origins_shut_out :
    NamedBy blankOrigins.originText [] ∧ ¬ blankOrigins.InProduction ∧
    allowedOrigins blankOrigins = some [] ∧
    ¬ Appropriate blankOrigins [] (allowedOrigins blankOrigins) ∧
    ∃ a, App.start blankOrigins = .ok a ∧ ∀ origin, a.policy.headers origin = [] := by
  have hnamed : NamedBy blankOrigins.originText [] := namedBy_iff.mpr (by decide)
  have hproduction : ¬ blankOrigins.InProduction := mt inProduction_iff.mp (by decide)
  have hanswer : allowedOrigins blankOrigins = some [] := by decide
  refine ⟨hnamed, hproduction, hanswer, fun h => ?_, ⟨"/api", ⟨[]⟩⟩, by decide, fun _ => rfl⟩
  have heveryone := h.everyone hproduction (.inr rfl)
  rw [hanswer] at heveryone
  cases heveryone

end TechCatalog.Service
