import LogSearch.Corpus.Loading
import LogSearch.Proofs.Checked
import LogSearch.Proofs.DistinctKeys
import LogSearch.Proofs.Printing

/-!
# What an array loads

An array is loaded if each of its items can be a record. Then nothing is lost or changed: there is
one record for each item and one field for each member, in the same order. Otherwise nothing is
loaded, and the error tells of the first item that can be no record.

* `StandsFor json value`: what a member says.
* `IsRecord json`, `Describes json record`: what an item says.
* `Fault number json error`: what is wrong with an item.
* `Rejects json error`: what is wrong with a source.

Results:
1. `firstBad_iff`: the first bad element of a list.
2. `ofJson?_eq_some_iff`, `readFields_eq_ok_iff`, `readFields_eq_error_iff`: members.
3. `Record.ofJson_eq_ok_iff`, `Record.ofJson_eq_error_iff`: items.
4. `readItems_eq_ok_iff`, `readItems_eq_error_iff`: arrays.
5. `Corpus.ofJson_toJson`: a corpus is loaded from its JSON form.
6. `Corpus.ofJson_exact`: all that can come of loading.
-/

namespace LogSearch

/-! ## Specification -/

/-- The JSON value says the field value: a string its text, and a number the 64-bit integer that it
denotes. -/
inductive StandsFor : Json → Value → Prop
  | text {s : String} : StandsFor (.string s) (.text s)
  | int {numeral : Json.Numeral} {n : Int64} :
      numeral.integer? = some n.toInt → StandsFor (.number numeral) (.int n)

/-- The JSON value says some field value. -/
def HasValue (json : Json) : Prop :=
  ∃ value, StandsFor json value

/-- The member has the name of the field, and says its value. -/
def SameField (member : String × Json) (field : String × Value) : Prop :=
  member.1 = field.1 ∧ StandsFor member.2 field.2

/-- The item can be a record: it is an object, and each of its members has a value. -/
def IsRecord (item : Json) : Prop :=
  ∃ members, item = .object members ∧ ∀ member ∈ members, HasValue member.2

/-- The item is an object, whose members are the fields of the record, one by one. -/
def Describes (item : Json) (record : Record) : Prop :=
  ∃ members, item = .object members ∧ List.Forall₂ SameField members record.fields

/-- What is wrong with an item that has this number: it is no object, or its first member without a
value has this name. -/
inductive Fault (number : Nat) : Json → LoadError → Prop
  | notAnObject {item : Json} :
      (∀ members, item ≠ .object members) → Fault number item (.notAnObject number)
  | unsupportedValue {before after : List (String × Json)} {name : String} {json : Json} :
      (∀ member ∈ before, HasValue member.2) → ¬ HasValue json →
      Fault number (.object (before ++ (name, json) :: after)) (.unsupportedValue number name)

/-- What is wrong with a source: it is no array, or the first of its items that can be no record has
this fault. Items are numbered from zero. -/
inductive Rejects : Json → LoadError → Prop
  | notAnArray {json : Json} : (∀ items, json ≠ .array items) → Rejects json .notAnArray
  | item {before after : List Json} {item : Json} {error : LoadError} :
      (∀ other ∈ before, IsRecord other) → Fault before.length item error →
      Rejects (.array (before ++ item :: after)) error

/-! ## 1. Lists -/

section Lists

variable {α β : Type}

/-- The first element that is not good is bad, where the first element of all has this number. -/
inductive FirstBad (good : α → Prop) (bad : Nat → α → Prop) : Nat → List α → Prop
  | here {number : Nat} {item : α} {items : List α} :
      bad number item → FirstBad good bad number (item :: items)
  | later {number : Nat} {item : α} {items : List α} :
      good item → FirstBad good bad (number + 1) items → FirstBad good bad number (item :: items)

theorem firstBad_iff {good : α → Prop} {bad : Nat → α → Prop} {number : Nat} {items : List α} :
    FirstBad good bad number items ↔ ∃ before item after, items = before ++ item :: after ∧
      (∀ other ∈ before, good other) ∧ bad (number + before.length) item := by
  constructor
  · intro first
    induction first with
    | here bad => exact ⟨[], _, _, rfl, fun _ member => absurd member List.not_mem_nil, bad⟩
    | later good _ ih =>
      obtain ⟨before, item, after, rfl, allGood, bad⟩ := ih
      refine ⟨_ :: before, item, after, rfl, List.forall_mem_cons.mpr ⟨good, allGood⟩, ?_⟩
      rwa [List.length_cons, Nat.add_comm before.length, ← Nat.add_assoc]
  · rintro ⟨before, item, after, rfl, allGood, bad⟩
    induction before generalizing number with
    | nil => exact .here bad
    | cons other before ih =>
      obtain ⟨good, allGood⟩ := List.forall_mem_cons.mp allGood
      refine .later good (ih allGood ?_)
      rwa [List.length_cons, Nat.add_comm before.length, ← Nat.add_assoc] at bad

theorem exists_forall₂_iff {related : α → β → Prop} {items : List α} :
    (∃ results, List.Forall₂ related items results) ↔
      ∀ item ∈ items, ∃ result, related item result := by
  induction items with
  | nil => exact ⟨fun _ _ member => absurd member List.not_mem_nil, fun _ => ⟨[], .nil⟩⟩
  | cons item items ih =>
    rw [List.forall_mem_cons, ← ih]
    constructor
    · rintro ⟨_, first | ⟨first, rest⟩⟩
      exact ⟨⟨_, first⟩, _, rest⟩
    · rintro ⟨⟨result, first⟩, results, rest⟩
      exact ⟨result :: results, .cons first rest⟩

end Lists

/-! ## 2. Members -/

theorem Json.Numeral.int64?_eq_some_iff {numeral : Json.Numeral} {n : Int64} :
    numeral.int64? = some n ↔ numeral.integer? = some n.toInt := by
  have low : Int64.minValue.toInt ≤ n.toInt := Int64.le_iff_toInt_le.mp (Int64.minValue_le n)
  have high : n.toInt ≤ Int64.maxValue.toInt := Int64.le_iff_toInt_le.mp (Int64.le_maxValue n)
  rw [int64?]
  constructor
  · intro read
    obtain ⟨m, denoted, read⟩ := Option.bind_eq_some_iff.mp read
    split at read
    · rename_i within
      have kept : (Int64.ofInt m).toInt = m :=
        Int64.toInt_ofInt_of_le within.1 (Int.lt_of_le_of_lt within.2 (by decide))
      rw [denoted, ← Option.some.inj read, kept]
    · cases read
  · intro denoted
    rw [denoted, Option.bind_eq_bind, Option.bind_some, if_pos ⟨low, high⟩, Int64.ofInt_toInt]

theorem Value.ofJson?_eq_some_iff {json : Json} {value : Value} :
    Value.ofJson? json = some value ↔ StandsFor json value := by
  constructor
  · intro read
    cases json with
    | string s =>
      cases read
      exact .text
    | number numeral =>
      obtain ⟨n, denoted, rfl⟩ := Option.map_eq_some_iff.mp read
      exact .int (Json.Numeral.int64?_eq_some_iff.mp denoted)
    | null | bool | array | object => cases read
  · intro stands
    cases stands with
    | text => rfl
    | int denoted =>
      rw [Value.ofJson?, Json.Numeral.int64?_eq_some_iff.mpr denoted, Option.map_some]

theorem Value.ofJson?_eq_none_iff {json : Json} : Value.ofJson? json = none ↔ ¬ HasValue json := by
  rw [HasValue, not_exists, Option.eq_none_iff_forall_ne_some]
  exact forall_congr' fun _ => not_congr Value.ofJson?_eq_some_iff

namespace Record

variable {members : List (String × Json)}

theorem readFields_eq_ok_iff {fields : List (String × Value)} :
    readFields members = .ok fields ↔ List.Forall₂ SameField members fields := by
  induction members generalizing fields with
  | nil =>
    rw [readFields, List.forall₂_nil_left_iff, Except.ok.injEq]
    exact eq_comm
  | cons member members ih =>
    obtain ⟨name, json⟩ := member
    rw [readFields, List.forall₂_cons_left_iff]
    cases read : Value.ofJson? json with
    | none =>
      constructor
      · intro done
        cases done
      · rintro ⟨field, _, ⟨-, stands⟩, -⟩
        exact absurd ⟨_, stands⟩ (Value.ofJson?_eq_none_iff.mp read)
    | some value =>
      rw [Checked.map_eq_ok_iff]
      constructor
      · rintro ⟨rest, done, rfl⟩
        exact ⟨(name, value), rest, ⟨rfl, Value.ofJson?_eq_some_iff.mp read⟩, ih.mp done, rfl⟩
      · rintro ⟨⟨name', value'⟩, rest, ⟨rfl, stands⟩, done, rfl⟩
        have same := Value.ofJson?_eq_some_iff.mpr stands
        rw [read, Option.some.injEq] at same
        exact ⟨rest, ih.mpr done, by rw [same]⟩

/-- The first member without a value is the error. -/
theorem readFields_eq_error_iff {name : String} (number : Nat) :
    readFields members = .error name ↔
      FirstBad (fun member => HasValue member.2)
        (fun _ member => member.1 = name ∧ ¬ HasValue member.2) number members := by
  induction members generalizing number with
  | nil =>
    constructor
    · intro failed
      cases failed
    · intro first
      cases first
  | cons member members ih =>
    obtain ⟨key, json⟩ := member
    rw [readFields]
    cases read : Value.ofJson? json with
    | none =>
      have noValue := Value.ofJson?_eq_none_iff.mp read
      rw [Except.error.injEq]
      constructor
      · rintro rfl
        exact .here ⟨rfl, noValue⟩
      · rintro (⟨same, -⟩ | ⟨hasValue, -⟩)
        · exact same
        · exact absurd hasValue noValue
    | some value =>
      have hasValue : HasValue json := ⟨value, Value.ofJson?_eq_some_iff.mp read⟩
      rw [Checked.map_eq_error_iff, ih (number + 1)]
      constructor
      · exact .later hasValue
      · rintro (⟨-, noValue⟩ | ⟨-, later⟩)
        · exact absurd hasValue noValue
        · exact later

/-! ## 3. Items -/

theorem exists_readFields_iff :
    (∃ fields, readFields members = .ok fields) ↔ ∀ member ∈ members, HasValue member.2 := by
  simp only [readFields_eq_ok_iff, exists_forall₂_iff]
  refine forall₂_congr fun member _ => ?_
  constructor
  · rintro ⟨field, -, stands⟩
    exact ⟨_, stands⟩
  · rintro ⟨value, stands⟩
    exact ⟨(member.1, value), rfl, stands⟩

theorem map_fst_eq_of_forall₂ {fields : List (String × Value)}
    (same : List.Forall₂ SameField members fields) :
    members.map Prod.fst = fields.map Prod.fst := by
  induction same with
  | nil => rfl
  | cons both _ ih => rw [List.map_cons, List.map_cons, both.1, ih]

variable {number : Nat} {item : Json}

/-- The members of an object become the fields of its record, and none is dropped as the second one
of its name. -/
theorem ofJson_object_eq_ok_iff {record : Record} (names : (members.map Prod.fst).Nodup) :
    Record.ofJson number (.object members) = .ok record ↔
      List.Forall₂ SameField members record.fields := by
  rw [Record.ofJson, ← readFields_eq_ok_iff]
  constructor
  · intro done
    split at done
    · rename_i fields read
      -- The fields have the names of the members, so none of them repeats another.
      have kept : (fields.map Prod.fst).Nodup := by
        rwa [← map_fst_eq_of_forall₂ (readFields_eq_ok_iff.mp read)]
      cases done
      rw [read]
      exact congrArg Except.ok (keepFirst_eq_self kept).symm
    · cases done
  · intro read
    simp only [read, ofList_fields]

theorem ofJson_eq_ok_iff {record : Record} (distinct : item.DistinctKeys) :
    Record.ofJson number item = .ok record ↔ Describes item record := by
  cases distinct with
  | @object members names _ =>
    rw [ofJson_object_eq_ok_iff names]
    constructor
    · exact fun same => ⟨members, rfl, same⟩
    · rintro ⟨_, ⟨⟩, same⟩
      exact same
  | null | bool | number | string | array =>
    constructor
    · intro done
      cases done
    · rintro ⟨_, ⟨⟩, -⟩

theorem exists_ofJson_iff (number : Nat) :
    (∃ record, Record.ofJson number item = .ok record) ↔ IsRecord item := by
  cases item with
  | object members =>
    have read : (∃ record, Record.ofJson number (.object members) = .ok record) ↔
        ∃ fields, readFields members = .ok fields := by
      rw [Record.ofJson]
      cases readFields members <;> simp
    rw [read, exists_readFields_iff]
    constructor
    · exact fun values => ⟨members, rfl, values⟩
    · rintro ⟨_, ⟨⟩, values⟩
      exact values
  | null | bool | number | string | array =>
    constructor
    · rintro ⟨_, ⟨⟩⟩
    · rintro ⟨_, ⟨⟩, -⟩

theorem ofJson_eq_error_iff {error : LoadError} :
    Record.ofJson number item = .error error ↔ Fault number item error := by
  constructor
  · intro failed
    cases item with
    | object members =>
      rw [Record.ofJson] at failed
      split at failed
      · cases failed
      · rename_i name read
        cases failed
        obtain ⟨before, ⟨_, json⟩, after, rfl, values, rfl, noValue⟩ :=
          firstBad_iff.mp ((readFields_eq_error_iff 0).mp read)
        exact .unsupportedValue values noValue
    | null | bool | number | string | array =>
      cases failed
      exact .notAnObject fun members same => by cases same
  · intro fault
    cases fault with
    | notAnObject noObject =>
      cases item with
      | object members => exact absurd rfl (noObject members)
      | null | bool | number | string | array => rfl
    | @unsupportedValue before after name json values noValue =>
      have read : readFields (before ++ (name, json) :: after) = .error name :=
        (readFields_eq_error_iff 0).mpr
          (firstBad_iff.mpr ⟨before, (name, json), after, rfl, values, rfl, noValue⟩)
      simp only [Record.ofJson, read]

end Record

/-! ## 4. Arrays -/

namespace Corpus

variable {number : Nat} {item : Json} {items : List Json}

theorem readItems_cons_of_ok {record : Record} (read : Record.ofJson number item = .ok record) :
    readItems number (item :: items) = (record :: ·) <$> readItems (number + 1) items := by
  rw [readItems, read]
  cases readItems (number + 1) items <;> rfl

theorem readItems_cons_of_error {error : LoadError}
    (read : Record.ofJson number item = .error error) :
    readItems number (item :: items) = .error error := by
  rw [readItems, read]
  rfl

theorem readItems_eq_ok_iff {records : List Record} (distinct : ∀ item ∈ items, item.DistinctKeys) :
    readItems number items = .ok records ↔ List.Forall₂ Describes items records := by
  induction items generalizing number records with
  | nil =>
    rw [readItems, List.forall₂_nil_left_iff, Except.ok.injEq]
    exact eq_comm
  | cons item items ih =>
    obtain ⟨distinctItem, distinctItems⟩ := List.forall_mem_cons.mp distinct
    rw [List.forall₂_cons_left_iff]
    cases read : Record.ofJson number item with
    | error error =>
      rw [readItems_cons_of_error read]
      constructor
      · intro done
        cases done
      · rintro ⟨record, _, describes, -⟩
        rw [(Record.ofJson_eq_ok_iff distinctItem).mpr describes] at read
        cases read
    | ok record =>
      rw [readItems_cons_of_ok read, Checked.map_eq_ok_iff]
      constructor
      · rintro ⟨rest, done, rfl⟩
        exact ⟨record, rest, (Record.ofJson_eq_ok_iff distinctItem).mp read,
          (ih distinctItems).mp done, rfl⟩
      · rintro ⟨other, rest, describes, done, rfl⟩
        rw [(Record.ofJson_eq_ok_iff distinctItem).mpr describes, Except.ok.injEq] at read
        exact ⟨rest, (ih distinctItems).mpr done, by rw [read]⟩

theorem exists_readItems_iff (number : Nat) :
    (∃ records, readItems number items = .ok records) ↔ ∀ item ∈ items, IsRecord item := by
  induction items generalizing number with
  | nil => exact ⟨fun _ _ member => absurd member List.not_mem_nil, fun _ => ⟨[], rfl⟩⟩
  | cons item items ih =>
    rw [List.forall_mem_cons, ← Record.exists_ofJson_iff number, ← ih (number + 1)]
    cases read : Record.ofJson number item with
    | error error =>
      rw [readItems_cons_of_error read]
      constructor
      · rintro ⟨_, ⟨⟩⟩
      · rintro ⟨⟨_, ⟨⟩⟩, -⟩
    | ok record =>
      rw [readItems_cons_of_ok read]
      simp only [Checked.map_eq_ok_iff]
      constructor
      · rintro ⟨_, rest, done, -⟩
        exact ⟨⟨record, rfl⟩, rest, done⟩
      · rintro ⟨-, rest, done⟩
        exact ⟨record :: rest, rest, done, rfl⟩

/-- The fault of the first item that can be no record is the error. -/
theorem readItems_eq_error_iff {error : LoadError} :
    readItems number items = .error error ↔
      FirstBad IsRecord (fun number item => Fault number item error) number items := by
  induction items generalizing number with
  | nil =>
    constructor
    · intro failed
      cases failed
    · intro first
      cases first
  | cons item items ih =>
    cases read : Record.ofJson number item with
    | error fault =>
      rw [readItems_cons_of_error read]
      constructor
      · rintro ⟨⟩
        exact .here (Record.ofJson_eq_error_iff.mp read)
      · rintro (wrong | ⟨isRecord, -⟩)
        · rw [Record.ofJson_eq_error_iff.mpr wrong, Except.error.injEq] at read
          rw [read]
        · obtain ⟨record, done⟩ := (Record.exists_ofJson_iff number).mpr isRecord
          rw [read] at done
          cases done
    | ok record =>
      rw [readItems_cons_of_ok read, Checked.map_eq_error_iff, ih]
      constructor
      · exact .later ((Record.exists_ofJson_iff number).mp ⟨record, read⟩)
      · rintro (wrong | ⟨-, later⟩)
        · rw [Record.ofJson_eq_error_iff.mpr wrong] at read
          cases read
        · exact later

end Corpus

/-! ## 5. The JSON form of a corpus -/

/-- The JSON value that says the field value. -/
def Value.toJson : Value → Json
  | .int n => .number (.ofInt n.toInt)
  | .text s => .string s

/-- An object with a member for each field. -/
def Record.toJson (record : Record) : Json :=
  .object (record.fields.map fun (name, value) => (name, value.toJson))

/-- An array with an item for each record. -/
def Corpus.toJson (corpus : Corpus) : Json :=
  .array (corpus.records.map Record.toJson)

theorem Value.standsFor_toJson (value : Value) : StandsFor value.toJson value := by
  cases value with
  | int n => exact .int (Json.Numeral.integer?_ofInt n.toInt)
  | text s => exact .text

theorem Value.printable_toJson (limit : Nat) (value : Value) :
    Json.Printable limit value.toJson := by
  cases value with
  | int n =>
    have low := n.le_toInt
    have high := n.toInt_lt
    exact .integer (by rw [UInt64.size]; omega)
  | text s => exact .string

namespace Record

theorem describes_toJson (record : Record) : Describes record.toJson record := by
  refine ⟨_, rfl, List.forall₂_map_left_iff.mpr (List.forall₂_same.mpr fun field _ => ?_)⟩
  exact ⟨rfl, field.2.standsFor_toJson⟩

theorem printable_toJson (limit : Nat) (record : Record) :
    Json.Printable (limit + 1) record.toJson := by
  refine .object ?_ fun member inside => ?_
  · rw [List.map_map]
    exact record.distinct
  · obtain ⟨field, -, rfl⟩ := List.mem_map.mp inside
    exact field.2.printable_toJson limit

end Record

namespace Corpus

theorem printable_toJson (limit : Nat) (corpus : Corpus) :
    Json.Printable (limit + 2) corpus.toJson := by
  refine .array fun item inside => ?_
  obtain ⟨record, -, rfl⟩ := List.mem_map.mp inside
  exact record.printable_toJson limit

/-- The JSON form is read back from its text. -/
theorem parse?_print_toJson (corpus : Corpus) :
    Json.parse? corpus.toJson.print = some corpus.toJson :=
  Json.parse?_print (corpus.printable_toJson 125)

theorem distinctKeys_toJson (corpus : Corpus) : corpus.toJson.DistinctKeys :=
  .of_parse? corpus.parse?_print_toJson

/-! ## 6. What can come of loading -/

theorem ofJson_eq_ok_iff {json : Json} {corpus : Corpus} (distinct : json.DistinctKeys) :
    ofJson json = .ok corpus ↔
      ∃ items, json = .array items ∧ List.Forall₂ Describes items corpus.records := by
  cases distinct with
  | @array items each =>
    rw [ofJson, Checked.map_eq_ok_iff]
    simp only [readItems_eq_ok_iff each]
    constructor
    · rintro ⟨records, describes, rfl⟩
      exact ⟨items, rfl, describes⟩
    · rintro ⟨_, ⟨⟩, describes⟩
      exact ⟨corpus.records, describes, rfl⟩
  | null | bool | number | string | object =>
    constructor
    · intro done
      cases done
    · rintro ⟨_, ⟨⟩, -⟩

theorem ofJson_eq_error_iff {json : Json} {error : LoadError} :
    ofJson json = .error error ↔ Rejects json error := by
  cases json with
  | array items =>
    rw [ofJson, Checked.map_eq_error_iff, readItems_eq_error_iff, firstBad_iff]
    constructor
    · rintro ⟨before, item, after, rfl, good, fault⟩
      rw [Nat.zero_add] at fault
      exact .item good fault
    · rintro (noArray | @⟨before, after, item, _, good, fault⟩)
      · exact absurd rfl (noArray items)
      · exact ⟨before, item, after, rfl, good, by rwa [Nat.zero_add]⟩
  | null | bool | number | string | object =>
    constructor
    · intro failed
      cases failed
      exact .notAnArray fun items same => by cases same
    · rintro ⟨-⟩
      rfl

theorem exists_ofJson_iff {json : Json} :
    (∃ corpus, ofJson json = .ok corpus) ↔
      ∃ items, json = .array items ∧ ∀ item ∈ items, IsRecord item := by
  cases json with
  | array items =>
    simp only [ofJson, Checked.map_eq_ok_iff]
    constructor
    · rintro ⟨_, records, done, -⟩
      exact ⟨items, rfl, (exists_readItems_iff 0).mp ⟨records, done⟩⟩
    · rintro ⟨_, ⟨⟩, good⟩
      obtain ⟨records, done⟩ := (exists_readItems_iff 0).mpr good
      exact ⟨⟨records⟩, records, done, rfl⟩
  | null | bool | number | string | object =>
    constructor
    · rintro ⟨_, ⟨⟩⟩
    · rintro ⟨_, ⟨⟩, -⟩

theorem ofJson_toJson (corpus : Corpus) : ofJson corpus.toJson = .ok corpus := by
  refine (ofJson_eq_ok_iff corpus.distinctKeys_toJson).mpr ⟨_, rfl, ?_⟩
  exact List.forall₂_map_left_iff.mpr
    (List.forall₂_same.mpr fun record _ => record.describes_toJson)

/-- A value is loaded if and only if it is an array of items that can be records. The corpus then
has the records that the items describe, one by one. Otherwise the error is that of the first item
that can be no record, or says that there is no array. So every corpus is loaded from its JSON form.
Values have distinct keys by `Json.DistinctKeys.of_parse?`. -/
theorem ofJson_exact {json : Json} (distinct : json.DistinctKeys) :
    ((∃ corpus, ofJson json = .ok corpus) ↔
      ∃ items, json = .array items ∧ ∀ item ∈ items, IsRecord item) ∧
    (∀ corpus, ofJson json = .ok corpus ↔
      ∃ items, json = .array items ∧ List.Forall₂ Describes items corpus.records) ∧
    (∀ error, ofJson json = .error error ↔ Rejects json error) ∧
    ∀ corpus : Corpus, ofJson corpus.toJson = .ok corpus :=
  ⟨exists_ofJson_iff, fun _ => ofJson_eq_ok_iff distinct, fun _ => ofJson_eq_error_iff,
    ofJson_toJson⟩

/-- The least integer is loaded, and digits in quotes stay a text. An integer just beyond the range
is the error, whatever comes later. -/
theorem ofJson_exact_range :
    let high := Int64.maxValue.toInt + 1
    let lowest := Json.object [("n", .number (.ofInt Int64.minValue.toInt)), ("s", .string "7")]
    let beyond := Json.object [("s", .string "7"), ("n", .number (.ofInt high)), ("m", .null)]
    ofJson (.array [lowest, .object []]) =
      .ok ⟨[.ofList [("n", .int Int64.minValue), ("s", .text "7")], .ofList []]⟩ ∧
    ofJson (.array [lowest, beyond, .null]) = .error (.unsupportedValue 1 "n") := by
  intro high lowest beyond
  have lowestKeys : lowest.DistinctKeys :=
    .object (by decide) (List.forall_mem_cons.mpr ⟨.number, List.forall_mem_singleton.mpr .string⟩)
  have beyondKeys : beyond.DistinctKeys :=
    .object (by decide) (List.forall_mem_cons.mpr ⟨.string,
      List.forall_mem_cons.mpr ⟨.number, List.forall_mem_singleton.mpr .null⟩⟩)
  have noKeys : (Json.object []).DistinctKeys := .object .nil fun _ inside => nomatch inside
  constructor
  · refine ((ofJson_exact (.array ?_)).2.1 _).mpr ⟨_, rfl, .cons ?_ (.cons ?_ .nil)⟩
    · exact List.forall_mem_cons.mpr ⟨lowestKeys, List.forall_mem_singleton.mpr noKeys⟩
    · exact ⟨_, rfl, .cons ⟨rfl, .int (by decide)⟩ (.cons ⟨rfl, .text⟩ .nil)⟩
    · exact ⟨_, rfl, .nil⟩
  · have good : IsRecord lowest := by
      refine ⟨_, rfl, List.forall_mem_cons.mpr ⟨⟨.int Int64.minValue, .int (by decide)⟩, ?_⟩⟩
      exact List.forall_mem_singleton.mpr ⟨_, .text⟩
    have noValue : ¬ HasValue (.number (.ofInt high)) := by
      rintro ⟨_, _ | @⟨_, n, denoted⟩⟩
      rw [Json.Numeral.integer?_ofInt, Option.some.injEq] at denoted
      exact absurd (Int64.le_iff_toInt_le.mp (Int64.le_maxValue n)) (by omega)
    have fault : Fault 1 beyond (.unsupportedValue 1 "n") :=
      @Fault.unsupportedValue 1 [("s", .string "7")] [("m", .null)] _ _
        (List.forall_mem_singleton.mpr ⟨_, .text⟩) noValue
    refine ((ofJson_exact (.array ?_)).2.2.1 _).mpr
      (@Rejects.item [lowest] [.null] _ _ (List.forall_mem_singleton.mpr good) fault)
    exact List.forall_mem_cons.mpr ⟨lowestKeys,
      List.forall_mem_cons.mpr ⟨beyondKeys, List.forall_mem_singleton.mpr .null⟩⟩

end Corpus

end LogSearch
