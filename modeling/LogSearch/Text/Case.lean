import LogSearch.Text.CaseTables

/-!
# Letter case

Two ways to forget letter case.

* `lowercase` is the full lowercase mapping of a text. A character may become two (`İ`), and a
  capital sigma depends on its neighbours: it is `ς` at the end of a word and `σ` elsewhere.
* `foldCase` is simple case folding, one character to one character and without context, under which
  `ς`, `σ` and `Σ` are the same letter.
-/

namespace LogSearch.Text

/-! ## Context of a capital sigma -/

/-- A letter that has case. -/
def isCased (c : Char) : Bool :=
  if c.toNat < 128 then c.isAlpha else casedRanges.has c

/-- A character that stands inside words without being a letter of its own, such as an apostrophe
or a combining mark. -/
def isCaseIgnorable (c : Char) : Bool :=
  if c.toNat < 128 then c ∈ ['\'', '.', ':', '^', '\x60'] else caseIgnorableRanges.has c

/-- Whether the first character that is not case-ignorable is a cased letter. -/
def meetsCased (text : List Char) : Bool :=
  match text.dropWhile isCaseIgnorable with
  | [] => false
  | c :: _ => isCased c

/-- Whether a capital sigma ends a word: a cased letter comes before it and none after it.
`before` holds the characters before it, nearest first. -/
def endsWord (before after : List Char) : Bool :=
  meetsCased before && !meetsCased after

/-! ## Lowercase -/

/-- The lowercase of a character, whatever its neighbours are. -/
def lowercaseChar (c : Char) : List Char :=
  if c.toNat < 128 then [c.toLower]
  else if c = 'İ' then ['i', '\u0307']
  else [(lowercaseRuns.image? c).getD c]

/-- The lowercase of `text`, where `before` holds the characters before it, nearest first. -/
def lowercaseAfter (before : List Char) : List Char → List Char
  | [] => []
  | c :: rest =>
    (if c = 'Σ' ∧ endsWord before rest then ['ς'] else lowercaseChar c)
      ++ lowercaseAfter (c :: before) rest

/-- The lowercase of a text. -/
def lowercase (text : List Char) : List Char :=
  lowercaseAfter [] text

example : lowercase "ΟΔΟΣ ΟΣΑ Σ".toList = "οδος οσα σ".toList := by decide +kernel
example : lowercase "İ".toList = ['i', '\u0307'] := by decide +kernel

/-! ## Simple case folding -/

/-- The character that stands for all case variants of `c`. -/
def foldCase (c : Char) : Char :=
  if c.toNat < 128 then c.toLower
  else (foldExceptionRuns.image? c).getD ((lowercaseRuns.image? c).getD c)

example : [('K', 'k'), ('ſ', 'S'), ('ẞ', 'ß'), ('ς', 'Σ')].all
    (fun (a, b) => foldCase a = foldCase b) := by decide +kernel
example : foldCase 'İ' = 'İ' ∧ foldCase 'ı' = 'ı' := by decide +kernel

end LogSearch.Text
