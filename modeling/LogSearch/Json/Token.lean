import LogSearch.Json.Numeral

/-!
# JSON tokens

The lexical grammar of JSON, over the characters of a text.

* White space is a space, a tab, a line feed or a carriage return, and nothing else.
* A string is kept as its parts, so that an escape for half a character can be told from one for a
  whole character. A string with such a half is well formed as a token; `decode?` refuses it.
* `nestingWithin` bounds how deep brackets are nested.
-/

namespace LogSearch.Json

open Text

/-! ## Strings -/

/-- A part of a string: a character, or the 16-bit unit of an escape `\uXXXX`. -/
inductive StringPart where
  | char (c : Char)
  | unit (n : Nat)
deriving DecidableEq, Repr

/-- The character of an escape of one letter. -/
def escaped? : Char → Option Char
  | '"' => some '"'
  | '\\' => some '\\'
  | '/' => some '/'
  | 'b' => some '\x08'
  | 'f' => some '\x0C'
  | 'n' => some '\n'
  | 'r' => some '\r'
  | 't' => some '\t'
  | _ => none

/-- The value of a hexadecimal digit. -/
def hexValue? (c : Char) : Option Nat :=
  if '0' ≤ c ∧ c ≤ '9' then some (c.toNat - '0'.toNat)
  else if 'a' ≤ c ∧ c ≤ 'f' then some (c.toNat - 'a'.toNat + 10)
  else if 'A' ≤ c ∧ c ≤ 'F' then some (c.toNat - 'A'.toNat + 10)
  else none

/-- The value of four hexadecimal digits. -/
def hexUnit? (a b c d : Char) : Option Nat := do
  return (((← hexValue? a) * 16 + (← hexValue? b)) * 16 + (← hexValue? c)) * 16 + (← hexValue? d)

/-- Reads a string up to its closing quotation mark, which it takes too. Control characters must be
escaped. -/
def readString? : List Char → Option (List StringPart × List Char)
  | [] => none
  | '"' :: text => some ([], text)
  | '\\' :: 'u' :: a :: b :: c :: d :: text => do
    let unit ← hexUnit? a b c d
    let (parts, text) ← readString? text
    return (.unit unit :: parts, text)
  | '\\' :: letter :: text => do
    let c ← escaped? letter
    let (parts, text) ← readString? text
    return (.char c :: parts, text)
  | c :: text =>
    if c.toNat < 0x20 then none
    else do
      let (parts, text) ← readString? text
      return (.char c :: parts, text)

/-- A string takes at least its closing quotation mark. -/
theorem length_lt_of_readString? {text rest : List Char} {parts : List StringPart}
    (read : readString? text = some (parts, rest)) : rest.length < text.length := by
  fun_induction readString? text generalizing parts with
  | case1 => simp at read
  | case2 text =>
    cases read
    exact Nat.lt_succ_self _
  | case3 a b c d text ih =>
    simp only [Option.bind_eq_bind, Option.bind_eq_some_iff, Prod.exists, Option.pure_def,
      Option.some.injEq, Prod.mk.injEq] at read
    obtain ⟨_, _, parts, text, inner, _, rfl⟩ := read
    have := ih inner
    simp only [List.length_cons]
    omega
  | case4 letter text _ ih =>
    simp only [Option.bind_eq_bind, Option.bind_eq_some_iff, Prod.exists, Option.pure_def,
      Option.some.injEq, Prod.mk.injEq] at read
    obtain ⟨_, _, parts, text, inner, _, rfl⟩ := read
    have := ih inner
    simp only [List.length_cons]
    omega
  | case5 => simp at read
  | case6 c text _ _ _ _ ih =>
    simp only [Option.bind_eq_bind, Option.bind_eq_some_iff, Prod.exists, Option.pure_def,
      Option.some.injEq, Prod.mk.injEq] at read
    obtain ⟨parts, text, inner, _, rfl⟩ := read
    have := ih inner
    simp only [List.length_cons]
    omega

/-- The first half of a character above `U+FFFF`. -/
def isHighHalf (n : Nat) : Bool :=
  0xD800 ≤ n && n ≤ 0xDBFF

/-- The second half of a character above `U+FFFF`. -/
def isLowHalf (n : Nat) : Bool :=
  0xDC00 ≤ n && n ≤ 0xDFFF

/-- The text of a string. Two halves that stand together make one character; a half by itself makes
none. -/
def decode? : List StringPart → Option (List Char)
  | [] => some []
  | .char c :: parts => (c :: ·) <$> decode? parts
  | .unit high :: .unit low :: parts =>
    if isHighHalf high then
      if isLowHalf low then
        (Char.ofNat (0x10000 + (high - 0xD800) * 0x400 + (low - 0xDC00)) :: ·) <$> decode? parts
      else none
    else if isLowHalf high then none
    else (Char.ofNat high :: ·) <$> decode? (.unit low :: parts)
  | .unit n :: parts =>
    if isHighHalf n || isLowHalf n then none else (Char.ofNat n :: ·) <$> decode? parts

/-! ## Tokens -/

/-- The words and marks of which a text is made. -/
inductive Token where
  | openArray
  | closeArray
  | openObject
  | closeObject
  | comma
  | colon
  | null
  | bool (b : Bool)
  | number (n : Numeral)
  | string (parts : List StringPart)
deriving DecidableEq, Repr

/-- White space between tokens. -/
def isSpace (c : Char) : Bool :=
  c == ' ' || c == '\t' || c == '\n' || c == '\r'

/-- Reads the token at the front of the text. -/
def readToken? : List Char → Option (Token × List Char)
  | '[' :: text => some (.openArray, text)
  | ']' :: text => some (.closeArray, text)
  | '\x7b' :: text => some (.openObject, text)
  | '\x7d' :: text => some (.closeObject, text)
  | ',' :: text => some (.comma, text)
  | ':' :: text => some (.colon, text)
  | '"' :: text => (readString? text).map fun (parts, text) => (.string parts, text)
  | 'n' :: 'u' :: 'l' :: 'l' :: text => some (.null, text)
  | 't' :: 'r' :: 'u' :: 'e' :: text => some (.bool true, text)
  | 'f' :: 'a' :: 'l' :: 's' :: 'e' :: text => some (.bool false, text)
  | text => (Numeral.read? text).map fun (numeral, text) => (.number numeral, text)

/-- A token takes at least one character. -/
theorem length_lt_of_readToken? {text rest : List Char} {token : Token}
    (read : readToken? text = some (token, rest)) : rest.length < text.length := by
  unfold readToken? at read
  split at read
  case h_7 =>
    obtain ⟨_, string, -⟩ := exists_of_map_eq_some (fun _ _ => rfl) read
    exact Nat.lt_succ_of_lt (length_lt_of_readString? string)
  case h_11 =>
    obtain ⟨_, numeral, -⟩ := exists_of_map_eq_some (fun _ _ => rfl) read
    exact Numeral.length_lt_of_read? numeral
  all_goals
    simp only [Option.some.injEq, Prod.mk.injEq] at read
    obtain ⟨-, rfl⟩ := read
    simp only [List.length_cons]
    omega

/-- The tokens of a text. -/
def tokens? : List Char → Option (List Token)
  | [] => some []
  | c :: text =>
    if isSpace c then tokens? text
    else
      match _read : readToken? (c :: text) with
      | none => none
      | some (token, text) => (token :: ·) <$> tokens? text
termination_by text => text.length
decreasing_by
  · simp
  · exact length_lt_of_readToken? _read

/-- Whether at most `limit` brackets are open at any place, where `depth` are open at the start. -/
def nestingWithin (limit depth : Nat) : List Token → Bool
  | [] => true
  | .openArray :: tokens | .openObject :: tokens =>
    depth < limit && nestingWithin limit (depth + 1) tokens
  | .closeArray :: tokens | .closeObject :: tokens => nestingWithin limit (depth - 1) tokens
  | _ :: tokens => nestingWithin limit depth tokens

end LogSearch.Json
