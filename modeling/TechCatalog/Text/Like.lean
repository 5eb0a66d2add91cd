import TechCatalog.Text.Case

/-!
# Patterns

A pattern is text in which a percent sign stands for any text and an underscore for any single
character, and in which a backslash makes the character after it stand for itself. `escape` writes
a text as a pattern that matches only that text; `Pattern.read` takes a pattern apart and
`Pattern.accepts` decides a match. The store compares letters without regard to ASCII case, and it
sees both pattern and text only up to their first NUL.
-/

namespace TechCatalog.Text

/-- The character that makes the next one of a pattern stand for itself. -/
def escapeMark : Char := '\\'

/-- The form in which a character of a text is written into a pattern. -/
def escapeChar (c : Char) : List Char :=
  if c = escapeMark ∨ c = '%' ∨ c = '_' then [escapeMark, c] else [c]

/-- A text written as a pattern, character by character. -/
def escape (s : List Char) : List Char :=
  s.flatMap escapeChar

/-- Puts the escape mark before every occurrence of one character. -/
def markAll (c : Char) (s : List Char) : List Char :=
  s.flatMap fun x => if x = c then [escapeMark, c] else [x]

/-- A text made literal for a pattern by three replacements in turn: the mark itself first, then
the two wildcards. -/
def escapeLike (s : String) : String :=
  String.ofList (markAll '_' (markAll '%' (markAll escapeMark s.toList)))

/-- What one step of a pattern asks for. -/
inductive PatternStep where
  /-- Any text, empty text included. -/
  | anyText
  /-- Any single character. -/
  | anyChar
  /-- This character, in either ASCII case. -/
  | only (c : Char)
  /-- Nothing at all: the pattern ends in a lone escape mark. -/
  | never
  deriving DecidableEq, Repr

/-- Takes a pattern apart into its steps. -/
def patternSteps : List Char → List PatternStep
  | [] => []
  | c :: rest =>
    if c = escapeMark then
      match rest with
      | [] => [.never]
      | d :: rest => .only d :: patternSteps rest
    else if c = '%' then .anyText :: patternSteps rest
    else if c = '_' then .anyChar :: patternSteps rest
    else .only c :: patternSteps rest

/-- Whether some suffix of a text satisfies a test, the whole text and the empty one included. -/
def anySuffix (p : List Char → Bool) : List Char → Bool
  | [] => p []
  | c :: rest => p (c :: rest) || anySuffix p rest

/-- Whether the steps accept a text. -/
def accepts : List PatternStep → List Char → Bool
  | [], s => s.isEmpty
  | .anyText :: steps, s => anySuffix (accepts steps) s
  | .anyChar :: steps, _ :: s => accepts steps s
  | .only c :: steps, d :: s => asciiLowerChar c == asciiLowerChar d && accepts steps s
  | _ :: _, _ => false

/-- The part of a text before its first NUL. -/
def beforeNul (s : List Char) : List Char :=
  s.takeWhile (· ≠ Char.ofNat 0)

/-- Whether a text matches a pattern. -/
def like (pattern text : String) : Bool :=
  accepts (patternSteps (beforeNul pattern.toList)) (beforeNul text.toList)

/-- The longest pattern the store evaluates, in bytes. -/
def patternLimit : Nat := 50000

/-- A pattern that is too long for the store to evaluate. -/
def patternTooLong (pattern : String) : Bool :=
  patternLimit < pattern.utf8ByteSize

end TechCatalog.Text
