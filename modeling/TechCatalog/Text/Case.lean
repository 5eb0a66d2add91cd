import TechCatalog.Text.CaseTable

/-!
# Letter case

`lower` and `upper` are the full, locale-independent case mappings of Unicode: one character may
become several (`İ` becomes `i` and a combining dot, `ß` becomes `SS`), and a capital sigma at the
end of a word becomes the final form. `asciiLower` is the mapping of the store, which knows the
letters A to Z only.
-/

namespace TechCatalog.Text

/-- The mapping of one character: ASCII letters at once, the rest by the tables. -/
def mapCase (runs : List CaseRun) (expansions : List (Nat × List Nat)) (c : Char) : List Char :=
  match expansions.find? fun e => e.1 == c.toNat with
  | some (_, image) => image.map Char.ofNat
  | none =>
    match CaseRun.find? runs c.toNat with
    | some n => [Char.ofNat n]
    | none => [c]

/-- The letters A to Z become a to z; every other character stays. -/
def asciiLowerChar (c : Char) : Char :=
  if 'A' ≤ c ∧ c ≤ 'Z' then Char.ofNat (c.toNat + 32) else c

/-- The letters a to z become A to Z; every other character stays. -/
def asciiUpperChar (c : Char) : Char :=
  if 'a' ≤ c ∧ c ≤ 'z' then Char.ofNat (c.toNat - 32) else c

/-- The lower case of one character, wherever it stands. -/
def lowerChar (c : Char) : List Char :=
  if c.toNat < 0x80 then [asciiLowerChar c] else mapCase lowerRuns lowerExpansions c

/-- The upper case of one character. -/
def upperChar (c : Char) : List Char :=
  if c.toNat < 0x80 then [asciiUpperChar c] else mapCase upperRuns upperExpansions c

/-- Whether the first character that is not ignorable exists and has case. -/
def startsCased (s : List Char) : Bool :=
  match s.dropWhile fun c => inRanges ignorableRanges c.toNat with
  | [] => false
  | c :: _ => inRanges casedRanges c.toNat

/-- The lower case of a text whose part already read is `before`, nearest character first. A
capital sigma takes its final form after a cased letter and before none. -/
def lowerAfter (before : List Char) : List Char → List Char
  | [] => []
  | c :: rest =>
    (if c.toNat = 0x3A3 then
      [if startsCased before && !startsCased rest then Char.ofNat 0x3C2 else Char.ofNat 0x3C3]
    else lowerChar c) ++ lowerAfter (c :: before) rest

/-- The lower case of a text. -/
def lower (s : String) : String :=
  String.ofList (lowerAfter [] s.toList)

/-- The upper case of a text. -/
def upper (s : String) : String :=
  String.ofList (s.toList.flatMap upperChar)

/-- The lower case of a text as the store computes it. -/
def asciiLower (s : String) : String :=
  String.ofList (s.toList.map asciiLowerChar)

end TechCatalog.Text
