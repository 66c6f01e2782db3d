import LogSearch.Corpus.Loading

/-!
# Texts as bytes

`decodeUtf8?_eq_some_iff` says what decoding is: the undoing of the encoding of characters. An ASCII
character is one byte, and that byte is no part of any other character
(`eq_singleton_of_mem_utf8EncodeChar`).

* A carriage return may be taken from the end of the bytes or of the text, and bytes that encode no
  text encode none with it.
* The line feeds of a text are those of its bytes.
-/

namespace LogSearch.Text

variable {bytes : List UInt8} {text : String}

/-- The bytes of a text. -/
def encodeUtf8 (text : String) : List UInt8 :=
  text.toList.flatMap String.utf8EncodeChar

theorem decodeUtf8?_eq_some_iff : decodeUtf8? bytes = some text ↔ encodeUtf8 text = bytes := by
  have encoded : text.toByteArray = ⟨bytes.toArray⟩ ↔ encodeUtf8 text = bytes := by
    rw [encodeUtf8, ← String.utf8Encode_toList, List.utf8Encode, ByteArray.ext_iff,
      List.data_toByteArray]
    exact ⟨fun same => by simpa using congrArg Array.toList same, fun same => by rw [same]⟩
  rw [← encoded, decodeUtf8?, String.fromUTF8?]
  split
  · rename_i valid
    rw [Option.some.injEq, ← String.toByteArray_inj]
    exact eq_comm
  · rename_i invalid
    constructor
    · intro none
      cases none
    · intro same
      exact absurd (same ▸ text.isValidUTF8) invalid

/-- A character beyond ASCII has no byte of an ASCII character. -/
theorem le_of_mem_utf8EncodeChar {c : Char} {byte : UInt8} (large : ¬ c.val.toNat ≤ 127)
    (member : byte ∈ String.utf8EncodeChar c) : 128 ≤ byte.toNat := by
  have wide (n : Nat) (low : 128 ≤ n) (high : n < 256) : 128 ≤ (UInt8.ofNat n).toNat := by
    rw [UInt8.toNat_ofNat', Nat.mod_eq_of_lt high]
    exact low
  simp only [String.utf8EncodeChar, if_neg large] at member
  split at member
  · simp only [List.mem_cons, List.not_mem_nil, or_false] at member
    rcases member with rfl | rfl <;> exact wide _ (by omega) (by omega)
  split at member
  · simp only [List.mem_cons, List.not_mem_nil, or_false] at member
    rcases member with rfl | rfl | rfl <;> exact wide _ (by omega) (by omega)
  · simp only [List.mem_cons, List.not_mem_nil, or_false] at member
    rcases member with rfl | rfl | rfl | rfl <;> exact wide _ (by omega) (by omega)

theorem eq_singleton_of_mem_utf8EncodeChar {c : Char} {byte : UInt8} (ascii : byte.toNat < 128)
    (member : byte ∈ String.utf8EncodeChar c) :
    String.utf8EncodeChar c = [byte] ∧ c.toNat = byte.toNat := by
  by_cases small : c.val.toNat ≤ 127
  · have single := String.utf8EncodeChar_eq_singleton (Char.utf8Size_eq_one_iff.mpr small)
    rw [single, List.mem_singleton] at member
    subst member
    exact ⟨single, (Nat.mod_eq_of_lt (show c.val.toNat < 256 by omega)).symm⟩
  · have := le_of_mem_utf8EncodeChar small member
    omega

theorem eq_return_of_utf8EncodeChar {c : Char} {before : List UInt8}
    (ends : String.utf8EncodeChar c = before ++ [carriageReturn]) : before = [] ∧ c = '\r' := by
  have member : carriageReturn ∈ String.utf8EncodeChar c := by simp [ends]
  obtain ⟨single, value⟩ := eq_singleton_of_mem_utf8EncodeChar (by decide) member
  rw [single] at ends
  exact ⟨by simpa using ends.symm, Char.ext (UInt32.toNat_inj.mp value)⟩

theorem encodeUtf8_append (first second : List Char) :
    encodeUtf8 (.ofList (first ++ second)) =
      encodeUtf8 (.ofList first) ++ encodeUtf8 (.ofList second) := by
  simp only [encodeUtf8, String.toList_ofList, List.flatMap_append]

theorem lineFeed_not_mem_encodeUtf8 {line : List Char} (whole : '\n' ∉ line) :
    lineFeed ∉ encodeUtf8 (.ofList line) := by
  rw [encodeUtf8, String.toList_ofList, List.mem_flatMap]
  rintro ⟨c, inside, member⟩
  obtain ⟨-, value⟩ := eq_singleton_of_mem_utf8EncodeChar (by decide) member
  have same : c = '\n' := Char.ext (UInt32.toNat_inj.mp value)
  exact whole (same ▸ inside)

theorem decodeUtf8?_append_return (bytes : List UInt8) :
    decodeUtf8? (bytes ++ [carriageReturn]) =
      (decodeUtf8? bytes).map fun text => .ofList (text.toList ++ ['\r']) := by
  refine Option.ext fun text => ?_
  rw [Option.map_eq_some_iff, decodeUtf8?_eq_some_iff]
  constructor
  · intro encoded
    rcases List.eq_nil_or_concat text.toList with none | ⟨shorter, c, parts⟩
    · rw [encodeUtf8, none] at encoded
      cases bytes <;> cases encoded
    rw [List.concat_eq_append] at parts
    rw [encodeUtf8, parts, List.flatMap_append, List.flatMap_singleton] at encoded
    -- The last byte is the last one of the last character.
    rcases List.eq_nil_or_concat (String.utf8EncodeChar c) with empty | ⟨before, byte, ends⟩
    · exact absurd empty String.utf8EncodeChar_ne_nil
    rw [List.concat_eq_append] at ends
    rw [ends, ← List.append_assoc] at encoded
    obtain ⟨others, last⟩ := List.append_inj' encoded rfl
    rw [last] at ends
    obtain ⟨rfl, rfl⟩ := eq_return_of_utf8EncodeChar ends
    rw [List.append_nil] at others
    refine ⟨.ofList shorter, ?_, ?_⟩
    · rw [decodeUtf8?_eq_some_iff, encodeUtf8, String.toList_ofList, others]
    · rw [String.toList_ofList, ← parts, String.ofList_toList]
  · rintro ⟨shorter, decoded, rfl⟩
    rw [← decodeUtf8?_eq_some_iff.mp decoded, encodeUtf8, String.toList_ofList,
      List.flatMap_append]
    rfl

end LogSearch.Text
