import LogSearch.Proofs.FirstSeen

/-!
# Field lists

The fields of a record and the field names of a corpus are put together one by one: a name that is
there already adds nothing. So both are lists of first occurrences.

* `FirstValue pairs name value`: the first of the pairs with this name has this value.
* `FirstFields pairs fields`: the fields are the first pair of each name.

Results:
1. `map_fst_keepFirst`, `lookup_keepFirst`: names are kept where they are seen first, and a look-up
   does not find what is left out.
2. `firstFields_iff`: the fields that are kept are the first of each name, and no others are.
3. `fieldLists_exact`: records and the field names of a corpus.
-/

namespace LogSearch

/-! ## Specification -/

section Specification

variable {α : Type}

/-- The first of the pairs with this name has this value. -/
def FirstValue (pairs : List (String × α)) (name : String) (value : α) : Prop :=
  ∃ before after, pairs = before ++ (name, value) :: after ∧ ∀ pair ∈ before, pair.1 ≠ name

/-- The fields are the first pair of each name: their names are those of the pairs, each once and by
first occurrence, and each name has its first value. -/
structure FirstFields (pairs fields : List (String × α)) : Prop where
  names : FirstSeen (pairs.map Prod.fst) (fields.map Prod.fst)
  values : ∀ name value, (name, value) ∈ fields ↔ FirstValue pairs name value

end Specification

/-! ## 1. One field after another -/

section Fields

variable {α : Type} {fields others pairs : List (String × α)} {name : String} {value : α}

theorem map_fst_addField (fields : List (String × α)) (field : String × α) :
    (addField fields field).map Prod.fst = addNew (fields.map Prod.fst) field.1 := by
  rw [addField, addNew]
  split
  · rfl
  · rw [List.map_append, List.map_singleton]

theorem map_fst_keepFirst (pairs : List (String × α)) :
    (keepFirst pairs).map Prod.fst = (pairs.map Prod.fst).foldl addNew [] := by
  rw [List.foldl_map]
  exact (List.foldl_hom (List.map Prod.fst) fun fields field =>
    (map_fst_addField fields field).symm).symm

theorem isSome_lookup_iff : (fields.lookup name).isSome ↔ name ∈ fields.map Prod.fst := by
  rw [List.lookup_isSome_iff, List.mem_map]
  exact exists_congr fun field => and_congr_right fun _ => beq_iff_eq.trans eq_comm

/-- A field that is left out would not be found behind the others. -/
theorem lookup_addField (fields : List (String × α)) (field : String × α) (name : String) :
    (addField fields field).lookup name = (fields ++ [field]).lookup name := by
  rw [addField]
  split
  · rename_i known
    rw [List.lookup_append]
    by_cases same : name = field.1
    · rw [same, Option.or_of_isSome (isSome_lookup_iff.mpr known)]
    · rw [List.lookup_cons, beq_false_of_ne same, List.lookup_nil, Option.or_none]
  · rfl

theorem lookup_keepFirst (pairs : List (String × α)) (name : String) :
    (keepFirst pairs).lookup name = pairs.lookup name := by
  induction pairs using List.reverseRecOn with
  | nil => rfl
  | append_singleton pairs pair ih =>
    have step : keepFirst (pairs ++ [pair]) = addField (keepFirst pairs) pair :=
      List.foldl_append
    rw [step, lookup_addField, List.lookup_append, List.lookup_append, ih]

/-! ## 2. The first of each name -/

theorem lookup_eq_some_iff_firstValue :
    pairs.lookup name = some value ↔ FirstValue pairs name value := by
  rw [List.lookup_eq_some_iff, FirstValue]
  simp only [bne_iff_ne, ne_comm]

theorem firstFields_keepFirst (pairs : List (String × α)) :
    FirstFields pairs (keepFirst pairs) where
  names := by
    rw [map_fst_keepFirst]
    exact firstSeen_foldl_addNew _
  values name value := by
    rw [← lookup_eq_some_iff_mem (keepFirst_nodup pairs), lookup_keepFirst,
      lookup_eq_some_iff_firstValue]

theorem FirstFields.unique (first : FirstFields pairs fields)
    (other : FirstFields pairs others) : fields = others := by
  have order {kept : List (String × α)} (is : FirstFields pairs kept) :
      kept.Pairwise fun field later =>
        (pairs.map Prod.fst).idxOf field.1 < (pairs.map Prod.fst).idxOf later.1 := by
    have names := is.names.order
    rwa [List.pairwise_map] at names
  refine eq_of_ascending (order first) (order other) ?_
  rintro ⟨name, value⟩
  rw [first.values, other.values]

theorem firstFields_iff : FirstFields pairs fields ↔ fields = keepFirst pairs := by
  constructor
  · exact fun first => first.unique (firstFields_keepFirst pairs)
  · rintro rfl
    exact firstFields_keepFirst pairs

end Fields

/-! ## 3. Records and corpora -/

theorem Record.get?_ofList (pairs : List (String × Value)) (name : String) :
    (ofList pairs).get? name = pairs.lookup name :=
  lookup_keepFirst pairs name

/-- Field lists are lists of first occurrences.

* The fields of a record that is built from pairs are the first pair of each name, and no other list
  is: no name occurs twice, the names are those of the pairs, by first occurrence, and each has its
  first value. Looking up a name gives this value, and gives one exactly if the name is there.
* In every record, looking up a name gives the value that the fields have for it. The record is
  built again from its own fields.
* The field names of a corpus are those in its records, each once and by first occurrence, where the
  fields of all records are read in the order of the corpus. No other list is that. -/
theorem fieldLists_exact :
    (∀ pairs : List (String × Value),
      (∀ fields, FirstFields pairs fields ↔ fields = (Record.ofList pairs).fields) ∧
      ∀ name,
        (∀ value, (Record.ofList pairs).get? name = some value ↔ FirstValue pairs name value) ∧
        (((Record.ofList pairs).get? name).isSome ↔ name ∈ pairs.map Prod.fst)) ∧
    (∀ record : Record,
      (∀ name value, record.get? name = some value ↔ (name, value) ∈ record.fields) ∧
      Record.ofList record.fields = record) ∧
    ∀ (corpus : Corpus) (seen : List String),
      FirstSeen (corpus.records.flatMap Record.names) seen ↔ seen = corpus.fieldNames := by
  refine ⟨fun pairs => ⟨fun _ => firstFields_iff, fun name => ⟨fun value => ?first, ?given⟩⟩,
    fun record => ⟨fun _ _ => Record.get?_eq_some_iff, Record.ofList_fields record⟩,
    fun corpus seen => ⟨fun listed => ?only, ?names⟩⟩
  case first => rw [Record.get?_ofList, lookup_eq_some_iff_firstValue]
  case given => rw [Record.get?_ofList, isSome_lookup_iff]
  case only => exact listed.unique (firstSeen_fieldNames corpus)
  case names =>
    rintro rfl
    exact firstSeen_fieldNames corpus

example : Corpus.training.fieldNames =
    ["timestamp", "level", "user", "action", "status", "ip", "hour", "path"] := by decide +kernel

end LogSearch
