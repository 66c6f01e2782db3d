import LogSearch.Text.Decimal

/-!
# Log records

A record is an ordered list of named values, each an integer or a text. Records need not have the
same fields.

* No record names a field twice: `Record.ofList` keeps the first value of each name.
* `Entry` is the part of a record that a search shows.
-/

namespace LogSearch

/-! ## Values -/

/-- The value of a field. -/
inductive Value where
  | int (n : Int64)
  | text (s : String)
deriving DecidableEq, Repr

/-- The text by which a value is searched and shown: an integer in decimal, a text as it is. -/
def Value.toText : Value → String
  | .int n => .ofList (Text.decimalInt n.toInt)
  | .text s => s

/-- The integer in a value. -/
def Value.int? : Value → Option Int64
  | .int n => some n
  | .text _ => none

/-! ## Records -/

section Fields

variable {α : Type} {fields : List (String × α)}

/-- The fields with one more after them, unless one of them has its name. -/
def addField (fields : List (String × α)) (field : String × α) : List (String × α) :=
  if field.1 ∈ fields.map Prod.fst then fields else fields ++ [field]

/-- The named values without those whose name came before. -/
def keepFirst (fields : List (String × α)) : List (String × α) :=
  fields.foldl addField []

theorem addField_nodup (distinct : (fields.map Prod.fst).Nodup) (field : String × α) :
    ((addField fields field).map Prod.fst).Nodup := by
  rw [addField]
  split
  · exact distinct
  · rename_i new
    rw [List.map_append, List.nodup_append]
    refine ⟨distinct, by simp, fun name listed other last same => new ?_⟩
    rw [List.map_singleton, List.mem_singleton] at last
    rwa [← last, ← same]

theorem foldl_addField_nodup (distinct : (fields.map Prod.fst).Nodup)
    (more : List (String × α)) : ((more.foldl addField fields).map Prod.fst).Nodup := by
  induction more generalizing fields with
  | nil => exact distinct
  | cons field more ih => exact ih (addField_nodup distinct field)

theorem keepFirst_nodup (fields : List (String × α)) :
    ((keepFirst fields).map Prod.fst).Nodup := by
  have start : (([] : List (String × α)).map Prod.fst).Nodup := List.nodup_nil
  exact foldl_addField_nodup start fields

/-- Fields with new names are all added. -/
theorem foldl_addField_eq_append {more : List (String × α)}
    (distinct : ((fields ++ more).map Prod.fst).Nodup) :
    more.foldl addField fields = fields ++ more := by
  induction more generalizing fields with
  | nil => exact (List.append_nil fields).symm
  | cons field more ih =>
    have new : field.1 ∉ fields.map Prod.fst := by
      intro known
      rw [List.map_append, List.nodup_append] at distinct
      exact distinct.2.2 _ known _ List.mem_cons_self rfl
    rw [List.append_cons] at distinct ⊢
    rw [List.foldl_cons, addField, if_neg new, ih distinct]

theorem keepFirst_eq_self (distinct : (fields.map Prod.fst).Nodup) : keepFirst fields = fields :=
  foldl_addField_eq_append distinct

theorem lookup_of_mem {name : String} {value : α}
    (distinct : (fields.map Prod.fst).Nodup) (member : (name, value) ∈ fields) :
    fields.lookup name = some value := by
  induction fields with
  | nil => cases member
  | cons field fields ih =>
    rw [List.map_cons, List.nodup_cons] at distinct
    rw [List.lookup_cons]
    cases List.mem_cons.mp member with
    | inl first =>
      subst first
      rw [beq_self_eq_true]
    | inr later =>
      have other : name ≠ field.1 := by
        rintro rfl
        exact distinct.1 (List.mem_map.mpr ⟨_, later, rfl⟩)
      rw [beq_false_of_ne other]
      exact ih distinct.2 later

theorem lookup_eq_some_iff_mem {name : String} {value : α}
    (distinct : (fields.map Prod.fst).Nodup) :
    fields.lookup name = some value ↔ (name, value) ∈ fields := by
  refine ⟨fun found => ?_, lookup_of_mem distinct⟩
  obtain ⟨before, after, whole, -⟩ := List.lookup_eq_some_iff.mp found
  rw [whole]
  exact List.mem_append_right _ List.mem_cons_self

end Fields

/-- A log record: its fields in order, each name once. -/
structure Record where
  fields : List (String × Value)
  distinct : (fields.map Prod.fst).Nodup
deriving DecidableEq, Repr

namespace Record

/-- The record with these fields; a repeated name keeps its first value. -/
def ofList (fields : List (String × Value)) : Record :=
  ⟨keepFirst fields, keepFirst_nodup fields⟩

theorem ofList_fields (record : Record) : ofList record.fields = record := by
  rw [Record.mk.injEq]
  exact keepFirst_eq_self record.distinct

/-- The names of the fields, in order. -/
def names (record : Record) : List String :=
  record.fields.map Prod.fst

/-- The number of fields. -/
def size (record : Record) : Nat :=
  record.fields.length

/-- Whether there are no fields. -/
def isEmpty (record : Record) : Bool :=
  record.fields.isEmpty

/-- The value of the field with this name. -/
def get? (record : Record) (name : String) : Option Value :=
  record.fields.lookup name

theorem get?_eq_some_iff {record : Record} {name : String} {value : Value} :
    record.get? name = some value ↔ (name, value) ∈ record.fields :=
  lookup_eq_some_iff_mem record.distinct

/-- The text of the field with this name. -/
def text? (record : Record) (name : String) : Option String :=
  (record.get? name).map Value.toText

example : (ofList [("user", .text "a"), ("hour", .int 1), ("user", .text "b")]).fields =
    [("user", .text "a"), ("hour", .int 1)] := by decide

end Record

/-! ## Entries -/

/-- The part of a record that a search shows. A field that the record lacks is `none`. -/
structure Entry where
  timestamp : Option String
  level : Option String
  user : Option String
  action : Option String
  status : Option String
  ip : Option String
  details : Option String
deriving DecidableEq, Repr

/-- The entry of a record. Its details are the path. -/
def Entry.ofRecord (record : Record) : Entry where
  timestamp := record.text? "timestamp"
  level := record.text? "level"
  user := record.text? "user"
  action := record.text? "action"
  status := record.text? "status"
  ip := record.text? "ip"
  details := record.text? "path"

end LogSearch
