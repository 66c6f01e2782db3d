import LogSearch.Proofs.Layout
import LogSearch.Settings
import Mathlib.Data.List.Forall2

/-!
# Settings in any layout

Which settings a text gives is said without a reader: by the members of the object that it writes,
or by the items of the array.

* `Gives` relates a text to its members. An array gives the known keys in their order.
* `Fitting` says that the members can be read: no known key is repeated, and each known key has a
  value of its kind. `Configures` says which settings they make.
* `Filled` says what a field holds after some members were read.

Results:
1. `readCount?_eq_some_iff`, `readPath?_eq_some_iff`, `readNames?_eq_some_iff`: values and names.
2. `foldlM_fill?_none`: a field is filled by the members of its name.
3. `Draft.add?_eq_some_iff`, `foldlM_add?_eq_some_iff`: one member, and a list of members. The
   fields are filled independently of each other.
4. `exists_ofMembers?`, `ofMembers?_eq_none`: members are read exactly if they fit.
5. `ofMembers?_eq_of_known`: only the known keys matter, in any order.
6. `ofItems?_eq_ofMembers?`: an array is read as members with the first keys.
7. `parse_any_layout`: the settings of a text.
-/

namespace LogSearch.Settings

open Json (Document StringPart Layout)
open Text (digitsValue)

/-! ## 1. Texts and their members -/

/-- The known keys, in the order of the items of an array. -/
def keys : List String :=
  ["max_results_ceiling", "default_max_results", "max_query_chars", "corpus_path"]

/-- The members with the names that their keys spell. -/
def Named (members : List (List StringPart × Document)) (named : List (String × Document)) : Prop :=
  List.Forall₂ (fun member given => Json.decode? member.1 = some given.1.toList ∧
    member.2 = given.2) members named

/-- What a text gives: the members of an object, or the items of an array under the first keys.
There may be any white space around the tokens, and any document under a key. A key that holds half
a character spells no name, so that nothing is given. -/
inductive Gives : List (String × Document) → String → Prop
  | object {members : List (List StringPart × Document)} {named : List (String × Document)}
      {text : String} :
      Layout (Document.tokens (.object members)) text.toList → Named members named →
      Gives named text
  | array {items : List Document} {text : String} :
      Layout (Document.tokens (.array items)) text.toList → items.length ≤ keys.length →
      Gives (keys.zip items) text

/-- A count: digits without sign, fraction and exponent, for a number of 64 bits. -/
inductive IsCount : Document → Nat → Prop
  | digits {digits : List Char} : digitsValue digits < UInt64.size →
      IsCount (.number ⟨false, digits, none, none⟩) (digitsValue digits)

/-- A path: a string, or null for none. -/
inductive IsPath : Document → Option String → Prop
  | null : IsPath .null none
  | string {parts : List StringPart} {path : List Char} : Json.decode? parts = some path →
      IsPath (.string parts) (some (.ofList path))

variable {α : Type} {Kind : Document → α → Prop} {members others : List (String × Document)}

/-- The key occurs at most once, and with a value of this kind. -/
structure Fits (Kind : Document → α → Prop) (members : List (String × Document)) (key : String) :
    Prop where
  once : (members.map Prod.fst).count key ≤ 1
  kind : ∀ given, (key, given) ∈ members → ∃ value, Kind given value

/-- The members have no known key twice, and the known keys have values of their kinds. -/
structure Fitting (members : List (String × Document)) : Prop where
  maxResultsCeiling : Fits IsCount members "max_results_ceiling"
  defaultMaxResults : Fits IsCount members "default_max_results"
  maxQueryLength : Fits IsCount members "max_query_chars"
  corpusPath : Fits IsPath members "corpus_path"

/-- The value that is given for the key, or the default if the key is absent. -/
def Sets (Kind : Document → α → Prop) (members : List (String × Document)) (key : String)
    (default value : α) : Prop :=
  (∃ given, (key, given) ∈ members ∧ Kind given value) ∨
    (key ∉ members.map Prod.fst ∧ value = default)

/-- The settings that the members make. -/
structure Configures (members : List (String × Document)) (settings : Settings) : Prop where
  maxResultsCeiling : Sets IsCount members "max_results_ceiling" 100 settings.maxResultsCeiling
  defaultMaxResults : Sets IsCount members "default_max_results" 100 settings.defaultMaxResults
  maxQueryLength : Sets IsCount members "max_query_chars" 1000 settings.maxQueryLength
  corpusPath : Sets IsPath members "corpus_path" none settings.corpusPath

/-! ## 2. Values -/

theorem count?_eq_some_iff {numeral : Json.Numeral} {n : Nat} :
    numeral.count? = some n ↔ numeral.integer? = some (n : Int) ∧ n < UInt64.size := by
  rw [Json.Numeral.count?, Option.bind_eq_bind, Option.bind_eq_some_iff]
  constructor
  · rintro ⟨value, integer, read⟩
    rw [Option.ite_none_right_eq_some, Option.some.injEq] at read
    obtain ⟨⟨nonneg, small⟩, rfl⟩ := read
    rw [Int.toNat_of_nonneg nonneg]
    exact ⟨integer, by omega⟩
  · rintro ⟨integer, small⟩
    refine ⟨n, integer, ?_⟩
    rw [if_pos ⟨Int.natCast_nonneg n, Int.ofNat_lt.mpr small⟩, Int.toNat_natCast]

/-- A natural number is written without a sign. A zero with one is no integer at all. -/
theorem integer?_eq_natCast_iff {numeral : Json.Numeral} {n : Nat} :
    numeral.integer? = some (n : Int) ↔
      numeral = ⟨false, numeral.whole, none, none⟩ ∧ digitsValue numeral.whole = n := by
  obtain ⟨negative, digits, fraction, exponent⟩ := numeral
  rcases negative, fraction, exponent with ⟨_ | _, _ | _, _ | _⟩
  case false.none.none =>
    simp only [Json.Numeral.integer?, Option.some.injEq, true_and]
    omega
  case true.none.none =>
    simp only [Json.Numeral.integer?]
    split
    · simp
    · rename_i positive
      simp
      omega
  all_goals simp [Json.Numeral.integer?]

theorem readCount?_eq_some_iff {given : Document} {n : Nat} :
    readCount? given = some n ↔ IsCount given n := by
  constructor
  · intro read
    cases given with
    | number numeral =>
      obtain ⟨integer, small⟩ := count?_eq_some_iff.mp read
      obtain ⟨shape, rfl⟩ := integer?_eq_natCast_iff.mp integer
      rw [shape]
      exact .digits small
    | _ => cases read
  · rintro ⟨small⟩
    exact count?_eq_some_iff.mpr ⟨rfl, small⟩

theorem readPath?_eq_some_iff {given : Document} {path : Option String} :
    readPath? given = some path ↔ IsPath given path := by
  constructor
  · intro read
    cases given with
    | null =>
      cases read
      exact .null
    | string parts =>
      obtain ⟨path, decoded, rfl⟩ := Option.map_eq_some_iff.mp read
      exact .string decoded
    | _ => cases read
  · rintro (_ | decoded)
    · rfl
    · rw [readPath?, decoded, Option.map_some, Function.comp_apply]

theorem readNames?_eq_some_iff {members : List (List StringPart × Document)}
    {named : List (String × Document)} :
    readNames? members = some named ↔ Named members named := by
  rw [Named]
  induction members generalizing named with
  | nil =>
    rw [readNames?, List.forall₂_nil_left_iff, Option.some.injEq, eq_comm]
  | cons member members ih =>
    simp only [readNames?, Option.bind_eq_bind, Option.bind_eq_some_iff, Option.pure_def,
      Option.some.injEq, List.forall₂_cons_left_iff, ih]
    constructor
    · rintro ⟨name, decoded, named, rest, rfl⟩
      exact ⟨_, _, ⟨by rw [decoded, String.toList_ofList], rfl⟩, rest, rfl⟩
    · rintro ⟨⟨name, value⟩, named, ⟨decoded, rfl⟩, rest, rfl⟩
      exact ⟨_, decoded, _, rest, by rw [String.ofList_toList]⟩

/-! ## 3. One field -/

variable {name : String} {read? : Document → Option α} {field : Option α}

/-- A field after these members: it is not given, or given once. -/
def Filled (name : String) (read? : Document → Option α) (members : List (String × Document)) :
    Option α → Prop
  | none => name ∉ members.map Prod.fst
  | some value => (members.map Prod.fst).count name = 1 ∧
      ∃ given, (name, given) ∈ members ∧ read? given = some value

theorem fill?_other {member : String × Document} (other : member.1 ≠ name) (field : Option α) :
    fill? name read? field member = some field :=
  if_neg other

theorem fill?_none (given : Document) :
    fill? name read? none (name, given) = some <$> read? given :=
  if_pos rfl

theorem fill?_some (value : α) (given : Document) :
    fill? name read? (some value) (name, given) = none :=
  if_pos rfl

/-- A field that was given must not be given again. -/
theorem foldlM_fill?_some {value : α} :
    members.foldlM (fill? name read?) (some value) = some field ↔
      name ∉ members.map Prod.fst ∧ field = some value := by
  induction members with
  | nil =>
    rw [List.foldlM_nil, Option.pure_def, Option.some.injEq, eq_comm]
    simp only [List.map_nil, List.not_mem_nil, not_false_eq_true, true_and]
  | cons member members ih =>
    obtain ⟨key, given⟩ := member
    rw [List.foldlM_cons, List.map_cons, List.mem_cons, not_or]
    by_cases same : key = name
    · subst same
      rw [fill?_some]
      simp
    · rw [fill?_other same, Option.bind_eq_bind, Option.bind_some, ih]
      simp [Ne.symm same]

theorem filled_cons_self {given : Document} :
    Filled name read? ((name, given) :: members) field ↔
      ∃ value, read? given = some value ∧ name ∉ members.map Prod.fst ∧ field = some value := by
  cases field with
  | none => simp [Filled]
  | some value =>
    rw [Filled, List.map_cons, List.count_cons_self, Nat.add_eq_right, List.count_eq_zero]
    constructor
    · rintro ⟨absent, other, member, read⟩
      rcases List.mem_cons.mp member with same | later
      · cases same
        exact ⟨value, read, absent, rfl⟩
      · exact absurd (List.mem_map_of_mem later) absent
    · rintro ⟨_, read, absent, ⟨⟩⟩
      exact ⟨absent, given, List.mem_cons_self, read⟩

theorem filled_cons_other {member : String × Document} (other : member.1 ≠ name) :
    Filled name read? (member :: members) field ↔ Filled name read? members field := by
  obtain ⟨key, given⟩ := member
  cases field with
  | none => simp [Filled, Ne.symm other]
  | some value => simp [Filled, other, Ne.symm other]

/-- After all members, a field that was not given before them is filled by them. -/
theorem foldlM_fill?_none :
    members.foldlM (fill? name read?) none = some field ↔ Filled name read? members field := by
  induction members with
  | nil =>
    rw [List.foldlM_nil, Option.pure_def, Option.some.injEq, eq_comm]
    cases field with
    | none | some => simp [Filled]
  | cons member members ih =>
    obtain ⟨key, given⟩ := member
    rw [List.foldlM_cons]
    by_cases same : key = name
    · subst same
      rw [fill?_none, filled_cons_self]
      simp only [Option.map_eq_map, Option.bind_eq_bind, Option.bind_map, Function.comp_def,
        Option.bind_eq_some_iff, foldlM_fill?_some]
    · rw [fill?_other same, Option.bind_eq_bind, Option.bind_some, ih, filled_cons_other same]

/-! ## 4. All fields -/

/-- Each field takes the member for itself. -/
theorem Draft.add?_eq_some_iff {draft next : Draft} {member : String × Document} :
    draft.add? member = some next ↔
      fill? "max_results_ceiling" readCount? draft.maxResultsCeiling member =
        some next.maxResultsCeiling ∧
      fill? "default_max_results" readCount? draft.defaultMaxResults member =
        some next.defaultMaxResults ∧
      fill? "max_query_chars" readCount? draft.maxQueryLength member = some next.maxQueryLength ∧
      fill? "corpus_path" readPath? draft.corpusPath member = some next.corpusPath := by
  obtain ⟨ceiling, results, length, path⟩ := next
  simp only [Draft.add?, Option.bind_eq_bind, Option.bind_eq_some_iff, Option.pure_def,
    Option.some.injEq, Draft.mk.injEq]
  constructor
  · rintro ⟨_, ceiling, _, results, _, length, _, path, rfl, rfl, rfl, rfl⟩
    exact ⟨ceiling, results, length, path⟩
  · rintro ⟨ceiling, results, length, path⟩
    exact ⟨_, ceiling, _, results, _, length, _, path, rfl, rfl, rfl, rfl⟩

/-- The fields are filled independently of each other. -/
theorem foldlM_add?_eq_some_iff {draft last : Draft} :
    members.foldlM Draft.add? draft = some last ↔
      members.foldlM (fill? "max_results_ceiling" readCount?) draft.maxResultsCeiling =
        some last.maxResultsCeiling ∧
      members.foldlM (fill? "default_max_results" readCount?) draft.defaultMaxResults =
        some last.defaultMaxResults ∧
      members.foldlM (fill? "max_query_chars" readCount?) draft.maxQueryLength =
        some last.maxQueryLength ∧
      members.foldlM (fill? "corpus_path" readPath?) draft.corpusPath = some last.corpusPath := by
  induction members generalizing draft with
  | nil =>
    obtain ⟨ceiling, results, length, path⟩ := last
    obtain ⟨ceiling', results', length', path'⟩ := draft
    simp only [List.foldlM_nil, Option.pure_def, Option.some.injEq, Draft.mk.injEq]
  | cons member members ih =>
    simp only [List.foldlM_cons, Option.bind_eq_bind, Option.bind_eq_some_iff, ih,
      Draft.add?_eq_some_iff]
    constructor
    · rintro ⟨next, ⟨ceiling, results, length, path⟩, ceiling', results', length', path'⟩
      exact ⟨⟨_, ceiling, ceiling'⟩, ⟨_, results, results'⟩, ⟨_, length, length'⟩, ⟨_, path, path'⟩⟩
    · rintro ⟨⟨_, ceiling, ceiling'⟩, ⟨_, results, results'⟩, ⟨_, length, length'⟩, _, path, path'⟩
      exact ⟨⟨_, _, _, _⟩, ⟨ceiling, results, length, path⟩, ceiling', results', length', path'⟩

/-- The settings of an object: each field that the members fill, and the default for each other. -/
theorem ofMembers?_eq_some_iff {settings : Settings} :
    ofMembers? members = some settings ↔
      ∃ draft : Draft, draft.settings = settings ∧
        Filled "max_results_ceiling" readCount? members draft.maxResultsCeiling ∧
        Filled "default_max_results" readCount? members draft.defaultMaxResults ∧
        Filled "max_query_chars" readCount? members draft.maxQueryLength ∧
        Filled "corpus_path" readPath? members draft.corpusPath := by
  simp only [ofMembers?, Option.bind_eq_bind, Option.bind_eq_some_iff, Option.pure_def,
    Option.some.injEq, foldlM_add?_eq_some_iff, foldlM_fill?_none]
  constructor
  · rintro ⟨draft, filled, same⟩
    exact ⟨draft, same, filled⟩
  · rintro ⟨draft, same, filled⟩
    exact ⟨draft, filled, same⟩

/-- A reader of values of a kind. -/
def Reads (read? : Document → Option α) (Kind : Document → α → Prop) : Prop :=
  ∀ {given : Document} {value : α}, read? given = some value ↔ Kind given value

/-- A key that occurs once has one value. -/
theorem eq_of_count_eq_one {given other : Document}
    (once : (members.map Prod.fst).count name = 1) (member : (name, given) ∈ members)
    (also : (name, other) ∈ members) : other = given := by
  have single : (members.filter (·.1 == name)).length = 1 := by
    rwa [← List.countP_eq_length_filter, ← Function.comp_def (· == name) Prod.fst,
      ← List.countP_map]
  obtain ⟨only, alone⟩ := List.length_eq_one_iff.mp single
  have this (given : Document) (member : (name, given) ∈ members) : (name, given) = only := by
    rw [← List.mem_singleton, ← alone, List.mem_filter]
    exact ⟨member, beq_self_eq_true name⟩
  exact (Prod.mk.inj ((this other also).trans (this given member).symm)).2

theorem exists_filled_iff (reads : Reads read? Kind) :
    (∃ field, Filled name read? members field) ↔ Fits Kind members name := by
  constructor
  · rintro ⟨_ | value, filled⟩
    · refine ⟨by rw [List.count_eq_zero.mpr filled]; exact Nat.zero_le 1, fun given member => ?_⟩
      exact absurd (List.mem_map_of_mem member) filled
    · obtain ⟨once, given, member, read⟩ := filled
      refine ⟨Nat.le_of_eq once, fun other also => ?_⟩
      rw [eq_of_count_eq_one once member also]
      exact ⟨value, reads.mp read⟩
  · intro fits
    by_cases absent : name ∈ members.map Prod.fst
    · obtain ⟨⟨_, given⟩, member, rfl⟩ := List.mem_map.mp absent
      obtain ⟨value, kind⟩ := fits.kind given member
      have once := Nat.le_antisymm fits.once (List.count_pos_iff.mpr absent)
      exact ⟨some value, once, given, member, reads.mpr kind⟩
    · exact ⟨none, absent⟩

theorem Filled.sets (reads : Reads read? Kind) (filled : Filled name read? members field)
    (default : α) : Sets Kind members name default (field.getD default) := by
  cases field with
  | none => exact .inr ⟨filled, rfl⟩
  | some value =>
    obtain ⟨-, given, member, read⟩ := filled
    exact .inl ⟨given, member, reads.mp read⟩

theorem exists_ofMembers? (fitting : Fitting members) :
    ∃ settings, ofMembers? members = some settings ∧ Configures members settings := by
  obtain ⟨ceiling, isCeiling⟩ :=
    (exists_filled_iff readCount?_eq_some_iff).mpr fitting.maxResultsCeiling
  obtain ⟨results, isResults⟩ :=
    (exists_filled_iff readCount?_eq_some_iff).mpr fitting.defaultMaxResults
  obtain ⟨length, isLength⟩ := (exists_filled_iff readCount?_eq_some_iff).mpr fitting.maxQueryLength
  obtain ⟨path, isPath⟩ := (exists_filled_iff readPath?_eq_some_iff).mpr fitting.corpusPath
  refine ⟨Draft.settings ⟨ceiling, results, length, path⟩,
    ofMembers?_eq_some_iff.mpr ⟨_, rfl, isCeiling, isResults, isLength, isPath⟩, ?_⟩
  exact ⟨isCeiling.sets readCount?_eq_some_iff 100, isResults.sets readCount?_eq_some_iff 100,
    isLength.sets readCount?_eq_some_iff 1000, isPath.sets readPath?_eq_some_iff none⟩

theorem ofMembers?_eq_none (misfit : ¬ Fitting members) : ofMembers? members = none := by
  refine Option.eq_none_iff_forall_ne_some.mpr fun settings read => misfit ?_
  obtain ⟨draft, -, ceiling, results, length, path⟩ := ofMembers?_eq_some_iff.mp read
  exact ⟨(exists_filled_iff readCount?_eq_some_iff).mp ⟨_, ceiling⟩,
    (exists_filled_iff readCount?_eq_some_iff).mp ⟨_, results⟩,
    (exists_filled_iff readCount?_eq_some_iff).mp ⟨_, length⟩,
    (exists_filled_iff readPath?_eq_some_iff).mp ⟨_, path⟩⟩

/-! ## 5. Known keys -/

/-- The members with a known key. -/
def known (members : List (String × Document)) : List (String × Document) :=
  members.filter (·.1 ∈ keys)

theorem filled_perm (same : members.Perm others) :
    Filled name read? members field ↔ Filled name read? others field := by
  have names := same.map Prod.fst
  cases field with
  | none => rw [Filled, Filled, names.mem_iff]
  | some value => simp only [Filled, names.count_eq, same.mem_iff]

theorem filled_known (isKey : name ∈ keys) :
    Filled name read? (known members) field ↔ Filled name read? members field := by
  induction members generalizing field with
  | nil => rfl
  | cons member members ih =>
    by_cases same : member.1 = name
    · obtain ⟨key, given⟩ := member
      have kept : known ((key, given) :: members) = (key, given) :: known members :=
        List.filter_cons_of_pos (decide_eq_true (same ▸ isKey))
      have absent : name ∉ (known members).map Prod.fst ↔ name ∉ members.map Prod.fst :=
        @ih none
      subst same
      rw [kept, filled_cons_self, filled_cons_self, absent]
    · rw [filled_cons_other same, ← ih, known, List.filter_cons]
      split
      · rw [filled_cons_other same, known]
      · rw [known]

theorem ofMembers?_eq_of_known (same : (known members).Perm (known others)) :
    ofMembers? members = ofMembers? others := by
  have filled {α : Type} {name : String} {read? : Document → Option α} {field : Option α}
      (isKey : name ∈ keys) :
      Filled name read? members field ↔ Filled name read? others field := by
    rw [← filled_known isKey, filled_perm same, filled_known isKey]
  refine Option.ext fun settings => ?_
  rw [ofMembers?_eq_some_iff, ofMembers?_eq_some_iff]
  refine exists_congr fun draft => ?_
  rw [filled (by decide), filled (by decide), filled (by decide), filled (by decide)]

/-! ## 6. Arrays -/

/-- An item fills the field of the name in its place. -/
theorem filled_zip {names : List String} {items : List Document} {place : Nat}
    (distinct : names.Nodup) (isName : names[place]? = some name) :
    Filled name read? (names.zip items) field ↔ item? items place read? = some field := by
  induction names generalizing items place with
  | nil => cases isName
  | cons first names ih =>
    obtain ⟨absent, distinct⟩ := List.nodup_cons.mp distinct
    cases items with
    | nil => cases field <;> simp [Filled, item?]
    | cons given items =>
      rw [List.zip_cons_cons]
      cases place with
      | zero =>
        obtain rfl : first = name := Option.some.inj isName
        have later : first ∉ (names.zip items).map Prod.fst := fun member => by
          obtain ⟨entry, inside, same⟩ := List.mem_map.mp member
          exact absent (same ▸ (List.of_mem_zip inside).1)
        rw [filled_cons_self]
        simp [item?, later, eq_comm]
      | succ place =>
        have isName : names[place]? = some name := isName
        have other : first ≠ name := by
          rintro rfl
          exact absent (List.mem_of_getElem? isName)
        rw [filled_cons_other other, ih distinct isName]
        rfl

theorem ofItems?_eq_some_iff {items : List Document} (short : items.length ≤ keys.length)
    {settings : Settings} :
    ofItems? items = some settings ↔
      ∃ draft : Draft, draft.settings = settings ∧
        item? items 0 readCount? = some draft.maxResultsCeiling ∧
        item? items 1 readCount? = some draft.defaultMaxResults ∧
        item? items 2 readCount? = some draft.maxQueryLength ∧
        item? items 3 readPath? = some draft.corpusPath := by
  have short : items.length ≤ 4 := short
  simp only [ofItems?, guard, short, if_true, Option.bind_eq_bind, Option.bind_eq_some_iff,
    Option.pure_def, Option.some.injEq]
  constructor
  · rintro ⟨_, _, _, ceiling, _, results, _, length, _, path, rfl⟩
    exact ⟨⟨_, _, _, _⟩, rfl, ceiling, results, length, path⟩
  · rintro ⟨draft, rfl, ceiling, results, length, path⟩
    exact ⟨(), trivial, _, ceiling, _, results, _, length, _, path, rfl⟩

/-- The items of an array stand for members with the first keys. -/
theorem ofItems?_eq_ofMembers? {items : List Document} (short : items.length ≤ keys.length) :
    ofItems? items = ofMembers? (keys.zip items) := by
  have distinct : keys.Nodup := by decide
  refine Option.ext fun settings => ?_
  rw [ofItems?_eq_some_iff short, ofMembers?_eq_some_iff]
  refine exists_congr fun draft => ?_
  rw [filled_zip distinct (rfl : keys[0]? = _), filled_zip distinct (rfl : keys[1]? = _),
    filled_zip distinct (rfl : keys[2]? = _), filled_zip distinct (rfl : keys[3]? = _)]

theorem ofItems?_eq_none {items : List Document} (long : ¬ items.length ≤ keys.length) :
    ofItems? items = none := by
  have long : ¬ items.length ≤ 4 := long
  rw [ofItems?, guard, if_neg long]
  rfl

/-! ## 7. Texts -/

variable {text other : String}

/-- A text gives its members in one way. -/
theorem Gives.unique (gives : Gives members text) (also : Gives others text) :
    members = others := by
  cases gives with
  | object layout named =>
    have read := Json.Document.parse?_eq_some_iff.mpr layout
    cases also with
    | object layout named' =>
      rw [Json.Document.parse?_eq_some_iff.mpr layout] at read
      cases read
      exact Option.some.inj ((readNames?_eq_some_iff.mpr named).symm.trans
        (readNames?_eq_some_iff.mpr named'))
    | array layout =>
      rw [Json.Document.parse?_eq_some_iff.mpr layout] at read
      cases read
  | array layout short =>
    have read := Json.Document.parse?_eq_some_iff.mpr layout
    cases also with
    | object layout named' =>
      rw [Json.Document.parse?_eq_some_iff.mpr layout] at read
      cases read
    | array layout =>
      rw [Json.Document.parse?_eq_some_iff.mpr layout] at read
      cases read
      rfl

theorem read_of_gives (gives : Gives members text) :
    (Json.Document.parse? text.toList).bind ofDocument? = ofMembers? members := by
  cases gives with
  | object layout named =>
    rw [Json.Document.parse?_eq_some_iff.mpr layout, Option.bind_some, ofDocument?,
      readNames?_eq_some_iff.mpr named, Option.bind_eq_bind, Option.bind_some]
  | array layout short =>
    rw [Json.Document.parse?_eq_some_iff.mpr layout, Option.bind_some, ofDocument?,
      ofItems?_eq_ofMembers? short]

/-- Whatever gives settings gives members. -/
theorem exists_gives {document : Document} {settings : Settings}
    (layout : Layout document.tokens text.toList) (read : ofDocument? document = some settings) :
    ∃ members, Gives members text := by
  cases document with
  | object members =>
    rw [ofDocument?, Option.bind_eq_bind, Option.bind_eq_some_iff] at read
    obtain ⟨named, names, -⟩ := read
    exact ⟨named, .object layout (readNames?_eq_some_iff.mp names)⟩
  | array items =>
    refine ⟨_, .array layout (Decidable.byContradiction fun long => ?_)⟩
    rw [ofDocument?, ofItems?_eq_none long] at read
    cases read
  | _ => cases read

theorem parse_of_not_gives (nothing : ∀ members, ¬ Gives members text) :
    parse text = .error .invalidData := by
  have unread : (Json.Document.parse? text.toList).bind ofDocument? = none := by
    refine Option.eq_none_iff_forall_ne_some.mpr fun settings read => ?_
    obtain ⟨document, parsed, read⟩ := Option.bind_eq_some_iff.mp read
    obtain ⟨members, gives⟩ := exists_gives (Json.Document.parse?_eq_some_iff.mp parsed) read
    exact nothing members gives
  rw [parse, unread]

/-- Settings are read from what a text gives, in any layout.
* Members that fit are read, and each setting is the value of its key or its default.
* Members that do not fit are refused.
* A text that gives no members is refused.
* Texts that give the same for the known keys are read alike. The order of the keys does not matter,
  nor do other keys, and an array is read like an object with the first keys. -/
theorem parse_any_layout :
    (∀ text members, Gives members text → Fitting members →
      ∃ settings, parse text = .ok settings ∧ Configures members settings) ∧
    (∀ text members, Gives members text → ¬ Fitting members →
      parse text = .error .invalidData) ∧
    (∀ text, (∀ members, ¬ Gives members text) → parse text = .error .invalidData) ∧
    (∀ text other members others, Gives members text → Gives others other →
      (known members).Perm (known others) → parse text = parse other) := by
  refine ⟨fun text members gives fitting => ?fits, fun text members gives misfit => ?refused,
    fun text => parse_of_not_gives, fun text other members others gives also same => ?alike⟩
  case fits =>
    obtain ⟨settings, read, configures⟩ := exists_ofMembers? fitting
    exact ⟨settings, by rw [parse, read_of_gives gives, read], configures⟩
  case refused => rw [parse, read_of_gives gives, ofMembers?_eq_none misfit]
  case alike =>
    rw [parse, parse, read_of_gives gives, read_of_gives also, ofMembers?_eq_of_known same]

/-- An object in an odd layout, with a key that is spelled by an escape and an unknown one that is
repeated, is read like an array. A known key must not be repeated, and a string is refused. -/
theorem parse_any_layout_scattered :
    let count (digits : List Char) : Document := .number ⟨false, digits, none, none⟩
    let scattered :=
      "\x7b\"default_max_results\":7,\"x\":[1e999] ,\"x\":0,\"max\\u005fresults_ceiling\" :25\x7d\n"
    let members := [("default_max_results", count ['7']),
      ("x", .array [.number ⟨false, ['1'], none, some 999⟩]), ("x", count ['0']),
      ("max_results_ceiling", count ['2', '5'])]
    let repeated := "\x7b\"max_query_chars\":1,\"max_query_chars\":1\x7d"
    let repeating := [("max_query_chars", count ['1']), ("max_query_chars", count ['1'])]
    (Gives members scattered ∧ Fitting members ∧
      ∃ settings, parse scattered = .ok settings ∧ Configures members settings) ∧
    (Gives repeating repeated ∧ ¬ Fitting repeating ∧ parse repeated = .error .invalidData) ∧
    ((∀ members, ¬ Gives members "\"[]\"") ∧ parse "\"[]\"" = .error .invalidData) ∧
    (Gives (keys.zip [count ['2', '5'], count ['7']]) "[25, 7]" ∧
      parse scattered = parse "[25, 7]") := by
  intro count scattered members repeated repeating
  obtain ⟨fits, refused, nothing, alike⟩ := parse_any_layout
  let key (name : String) := name.toList.map StringPart.char
  have gives : Gives members scattered := by
    let written := [(key "default_max_results", count ['7']),
      (key "x", .array [.number ⟨false, ['1'], none, some 999⟩]), (key "x", count ['0']),
      (key "max" ++ .unit 0x5F :: key "results_ceiling", count ['2', '5'])]
    have read : Json.tokens? scattered.toList = some (Document.tokens (.object written)) := by
      decide +kernel
    refine .object (Json.layout_of_tokens? read) ?_
    exact .cons ⟨by decide +kernel, rfl⟩ (.cons ⟨by decide +kernel, rfl⟩
      (.cons ⟨by decide +kernel, rfl⟩ (.cons ⟨by decide +kernel, rfl⟩ .nil)))
  have isCount (digits : List Char) (small : digitsValue digits < UInt64.size) {given : Document}
      (same : given = count digits) : ∃ n, IsCount given n := by
    rw [same]
    exact ⟨_, .digits small⟩
  have fitting : Fitting members := by
    refine ⟨⟨by decide, fun given member => ?_⟩, ⟨by decide, fun given member => ?_⟩,
      ⟨by decide, fun given member => ?_⟩, ⟨by decide, fun given member => ?_⟩⟩
    · exact isCount ['2', '5'] (by decide) (by simpa [members] using member)
    · exact isCount ['7'] (by decide) (by simpa [members] using member)
    · simp [members] at member
    · simp [members] at member
  have givesRepeated : Gives repeating repeated := by
    let written := [(key "max_query_chars", count ['1']), (key "max_query_chars", count ['1'])]
    have read : Json.tokens? repeated.toList = some (Document.tokens (.object written)) := by
      decide +kernel
    refine .object (Json.layout_of_tokens? read) ?_
    exact .cons ⟨by decide +kernel, rfl⟩ (.cons ⟨by decide +kernel, rfl⟩ .nil)
  have misfit : ¬ Fitting repeating := fun fitting => absurd fitting.maxQueryLength.once (by decide)
  have string : ∀ members, ¬ Gives members "\"[]\"" := by
    have read : Json.tokens? "\"[]\"".toList = some (Document.tokens (.string (key "[]"))) := by
      decide +kernel
    have document := Json.Document.parse?_eq_some_iff.mpr (Json.layout_of_tokens? read)
    rintro _ (⟨layout, -⟩ | ⟨layout, -⟩)
    all_goals
      rw [Json.Document.parse?_eq_some_iff.mpr layout] at document
      cases document
  have array : Gives (keys.zip [count ['2', '5'], count ['7']]) "[25, 7]" := by
    have read : Json.tokens? "[25, 7]".toList =
        some (Document.tokens (.array [count ['2', '5'], count ['7']])) := by decide +kernel
    exact .array (Json.layout_of_tokens? read) (by decide)
  refine ⟨⟨gives, fitting, fits _ _ gives fitting⟩,
    ⟨givesRepeated, misfit, refused _ _ givesRepeated misfit⟩, ⟨string, nothing _ string⟩, array,
    alike _ _ _ _ gives array ?_⟩
  exact .swap _ _ _

end LogSearch.Settings
