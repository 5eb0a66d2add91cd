import TechCatalog.Proofs.Patterns

/-!
# A text in a pattern is read back

Three replacements in turn make a text literal for a pattern, the escape mark first, so that none of
them meets a mark that an earlier one put in. The result is the one of a single pass over the text.
A reader that goes from left to right and takes every mark together with the character after it
finds the characters of the text again, each wildcard behind a mark, and no mark at the end with
nothing after it. So different texts are written differently, and a text is written part by part.
-/

namespace TechCatalog.Text

/-- A character of a pattern, and whether an escape mark stands before it. -/
structure PatternChar where
  char : Char
  marked : Bool
  deriving DecidableEq, Repr

/-- Reads a pattern from left to right. An escape mark goes with the character after it; a pattern
that ends in a lone mark cannot be read. -/
def readMarks : List Char → Option (List PatternChar)
  | [] => some []
  | c :: rest =>
    if c = escapeMark then
      match rest with
      | [] => none
      | d :: rest => (readMarks rest).map (⟨d, true⟩ :: ·)
    else (readMarks rest).map (⟨c, false⟩ :: ·)

/-- A character as it is written into a pattern: behind a mark if it is special. -/
def literalChar (c : Char) : PatternChar :=
  ⟨c, decide (c = escapeMark ∨ c = '%' ∨ c = '_')⟩

theorem readMarks_cons {c : Char} (h : c ≠ escapeMark) (rest : List Char) :
    readMarks (c :: rest) = (readMarks rest).map (⟨c, false⟩ :: ·) := by
  cases rest <;> exact if_neg h

theorem readMarks_escapeChar (c : Char) (rest : List Char) :
    readMarks (escapeChar c ++ rest) = (readMarks rest).map (literalChar c :: ·) := by
  by_cases hspecial : c = escapeMark ∨ c = '%' ∨ c = '_'
  · rw [escapeChar, if_pos hspecial, literalChar, decide_eq_true hspecial]
    exact if_pos rfl
  · rw [escapeChar, if_neg hspecial, literalChar, decide_eq_false hspecial]
    exact readMarks_cons (fun hmark => hspecial (.inl hmark)) rest

/-- Whatever comes after it, a text that is written into a pattern is read off first. -/
theorem readMarks_escape (s rest : List Char) :
    readMarks (escape s ++ rest) = (readMarks rest).map (s.map literalChar ++ ·) := by
  induction s with
  | nil =>
    show readMarks rest = (readMarks rest).map id
    rw [Option.map_id_fun, id]
  | cons c s ih =>
    have hcons : escape (c :: s) ++ rest = escapeChar c ++ (escape s ++ rest) := by
      rw [escape, List.flatMap_cons, List.append_assoc]
      rfl
    rw [hcons, readMarks_escapeChar, ih, Option.map_map]
    rfl

theorem readMarks_escapeLike (v : String) :
    readMarks (escapeLike v).toList = some (v.toList.map literalChar) := by
  have hread := readMarks_escape v.toList []
  rw [List.append_nil, readMarks, Option.map_some, List.append_nil] at hread
  rw [toList_escapeLike, hread]

theorem map_char_literalChar (s : List Char) : (s.map literalChar).map (·.char) = s := by
  rw [List.map_map]
  exact List.map_id s

theorem escapeLike_append (v w : String) : escapeLike (v ++ w) = escapeLike v ++ escapeLike w := by
  rw [← String.toList_inj, String.toList_append, toList_escapeLike, toList_escapeLike,
    toList_escapeLike, String.toList_append]
  exact List.flatMap_append

theorem escapeLike_inj {v w : String} : escapeLike v = escapeLike w ↔ v = w := by
  refine ⟨fun h => ?_, congrArg escapeLike⟩
  have hread := readMarks_escapeLike v
  rw [h, readMarks_escapeLike w, Option.some.injEq] at hread
  have hchars := congrArg (List.map (·.char)) hread
  rw [map_char_literalChar, map_char_literalChar] at hchars
  exact String.toList_inj.mp hchars.symm

/-- A text that is made literal by the three replacements is the text with each of its special
characters behind a mark. It is read back as the text, all its wildcards and marks are behind a
mark, the store asks for the characters of the text and for nothing else, no other text is written
in this way, and two texts one after the other are written one after the other. -/
theorem escapeLike_reads_back (v w : String) :
    escapeLike v = String.ofList (v.toList.flatMap escapeChar) ∧
    (∃ xs, readMarks (escapeLike v).toList = some xs ∧ xs.map (·.char) = v.toList ∧
      ∀ x ∈ xs, x.marked = true ↔ x.char = escapeMark ∨ x.char = '%' ∨ x.char = '_') ∧
    patternSteps (escapeLike v).toList = v.toList.map .only ∧
    (escapeLike v = escapeLike w ↔ v = w) ∧
    escapeLike (v ++ w) = escapeLike v ++ escapeLike w := by
  have hsteps := patternSteps_escape v.toList []
  rw [List.append_nil, patternSteps, List.append_nil, ← toList_escapeLike] at hsteps
  refine ⟨?_, ⟨v.toList.map literalChar, readMarks_escapeLike v, map_char_literalChar _, ?_⟩,
    hsteps, escapeLike_inj, escapeLike_append v w⟩
  · rw [escapeLike, markAll_three, escape]
  · intro x hx
    obtain ⟨c, -, rfl⟩ := List.mem_map.mp hx
    exact decide_eq_true_iff

/-- With the marks last, a mark that stands before a wildcard would be doubled. -/
example : markAll escapeMark (markAll '_' (markAll '%' "50%".toList)) ≠ escape "50%".toList := by
  decide

end TechCatalog.Text
