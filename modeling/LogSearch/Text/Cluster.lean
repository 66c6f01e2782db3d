import LogSearch.Text.ClusterTables

/-!
# Clusters

A cluster is what a reader takes for one character: a letter with its marks, a Hangul syllable, a
flag, a joined pictograph, a conjunct of consonants.

* `continues last before c` is the rule: `c` goes on the cluster `last :: before` (nearest first).
* `clusters` cuts a text. Nothing is lost (`flatten_clusters`) and no cluster is empty
  (`ne_nil_of_mem_clusters`).

The rules look back no further than the current cluster. That suffices: a flag letter, a joiner or a
linker that matters to `c` is never cut off from what comes before it.
-/

namespace LogSearch.Text

/-! ## Classes -/

/-- A control, a format character or a line end. -/
def isControl (c : Char) : Bool :=
  if c.toNat < 128 then c.toNat < 32 || c.toNat == 127 else controlRanges.has c

/-- The zero-width joiner. -/
def joiner : Char := '\u200D'

/-- The zero-width non-joiner. -/
def nonJoiner : Char := '\u200C'

/-- A mark that goes on the character before it, the joiner apart. -/
def isExtending (c : Char) : Bool :=
  if c.toNat < 128 then false else extendingRanges.has c

/-- A mark of any kind. -/
def isMark (c : Char) : Bool :=
  if c.toNat < 128 then false else c == joiner || isExtending c || spacingRanges.has c

/-- A sign that belongs to the character after it. -/
def isPrepended (c : Char) : Bool :=
  if c.toNat < 128 then false else prependedRanges.has c

/-- A pictograph. -/
def isPictograph (c : Char) : Bool :=
  if c.toNat < 128 then false else pictographRanges.has c

/-- One of the letters that are written in pairs for a flag. -/
def isFlagLetter (c : Char) : Bool :=
  0x1F1E6 ≤ c.toNat && c.toNat ≤ 0x1F1FF

/-- A consonant of a script with conjuncts. -/
def isConsonant (c : Char) : Bool :=
  if c.toNat < 128 then false else consonantRanges.has c

/-- A sign that links two consonants. -/
def isLinker (c : Char) : Bool :=
  linkerRanges.has c

/-- A mark that may stand between the consonants of a conjunct. -/
def isConjunctMark (c : Char) : Bool :=
  (isExtending c || c == joiner) && c != nonJoiner

/-! ## Hangul -/

/-- The parts of a Hangul syllable, and the syllables that are one character. -/
inductive Hangul where
  | leading
  | vowel
  | trailing
  /-- A syllable without a trailing consonant. -/
  | openSyllable
  /-- A syllable with a trailing consonant. -/
  | closedSyllable
deriving DecidableEq, Repr

/-- The part of a syllable that a character is. The syllables stand in order, 28 for each pair of a
leading consonant and a vowel, and the first of each 28 has no trailing consonant. -/
def Hangul.ofChar? (c : Char) : Option Hangul :=
  if Ranges.has [(0x1100, 0x115F), (0xA960, 0xA97C)] c then some .leading
  else if Ranges.has [(0x1160, 0x11A7), (0xD7B0, 0xD7C6), (0x16D63, 0x16D63), (0x16D67, 0x16D6A)] c
    then some .vowel
  else if Ranges.has [(0x11A8, 0x11FF), (0xD7CB, 0xD7FB)] c then some .trailing
  else if Ranges.has [(0xAC00, 0xD7A3)] c then
    some (if (c.toNat - 0xAC00) % 28 = 0 then .openSyllable else .closedSyllable)
  else none

/-- Whether two parts belong to one syllable. -/
def Hangul.joins : Hangul → Hangul → Bool
  | .leading, next => next != .trailing
  | .vowel, next | .openSyllable, next => next == .vowel || next == .trailing
  | .trailing, next | .closedSyllable, next => next == .trailing

/-- Whether two characters belong to one syllable. -/
def joinsHangul (last c : Char) : Bool :=
  match Hangul.ofChar? last, Hangul.ofChar? c with
  | some last, some next => last.joins next
  | _, _ => false

/-! ## What comes before -/

/-- Whether a text ends in a pictograph, marks and a joiner. The text is given nearest first. -/
def endsJoinedPictograph : List Char → Bool
  | [] => false
  | last :: before => last == joiner && ((before.dropWhile isExtending).head?.any isPictograph)

/-- Whether a text ends in a flag letter without its partner. The text is given nearest first. -/
def endsHalfFlag (before : List Char) : Bool :=
  (before.takeWhile isFlagLetter).length % 2 == 1

/-- Whether a text ends in a consonant and marks, one of them a linker. The text is given nearest
first. -/
def endsLinkedConsonant (before : List Char) : Bool :=
  (before.takeWhile isConjunctMark).any isLinker
    && (before.dropWhile isConjunctMark).head?.any isConsonant

/-! ## Clusters -/

/-- Whether `c` goes on the cluster `last :: before`, which is given nearest first. -/
def continues (last : Char) (before : List Char) (c : Char) : Bool :=
  if isControl last || isControl c then last == '\r' && c == '\n'
  else
    isMark c || isPrepended last || joinsHangul last c
      || (isConsonant c && endsLinkedConsonant (last :: before))
      || (isPictograph c && endsJoinedPictograph (last :: before))
      || (isFlagLetter c && endsHalfFlag (last :: before))

/-- The clusters of a text, where `last :: before` is the cluster so far, nearest first. -/
def clustersAfter (last : Char) (before : List Char) : List Char → List (List Char)
  | [] => [(last :: before).reverse]
  | c :: rest =>
    if continues last before c then clustersAfter c (last :: before) rest
    else (last :: before).reverse :: clustersAfter c [] rest

/-- The clusters of a text, in order. -/
def clusters : List Char → List (List Char)
  | [] => []
  | c :: rest => clustersAfter c [] rest

theorem flatten_clustersAfter (last : Char) (before text : List Char) :
    (clustersAfter last before text).flatten = (last :: before).reverse ++ text := by
  induction text generalizing last before with
  | nil => simp [clustersAfter]
  | cons c rest ih =>
    unfold clustersAfter
    split <;> simp [ih]

/-- Cutting a text loses nothing. -/
@[simp] theorem flatten_clusters (text : List Char) : (clusters text).flatten = text := by
  cases text with
  | nil => rfl
  | cons c rest => simp [clusters, flatten_clustersAfter]

theorem ne_nil_of_mem_clustersAfter {last : Char} {before text cluster : List Char}
    (h : cluster ∈ clustersAfter last before text) : cluster ≠ [] := by
  induction text generalizing last before with
  | nil => simp_all [clustersAfter]
  | cons c rest ih =>
    unfold clustersAfter at h
    split at h
    · exact ih h
    · rcases List.mem_cons.1 h with rfl | h
      · simp
      · exact ih h

/-- No cluster is empty. -/
theorem ne_nil_of_mem_clusters {text cluster : List Char} (h : cluster ∈ clusters text) :
    cluster ≠ [] := by
  cases text with
  | nil => simp [clusters] at h
  | cons c rest => exact ne_nil_of_mem_clustersAfter h

example : clusters "e\u0301a\r\n".toList = ["e\u0301".toList, ['a'], ['\r', '\n']] := by
  decide +kernel
example : (clusters "각한글".toList).length = 3 := by decide +kernel
example : (clusters "क्षक🇩🇪🇫🇷👩\u200D🔬".toList).map List.length = [3, 1, 2, 2, 3] := by
  decide +kernel

end LogSearch.Text
