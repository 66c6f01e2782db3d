import LogSearch.Json.Basic

/-!
# Distinct keys

A JSON object has each key once. `DistinctKeys` says so of all objects in a value, at any depth, and
no other values are read from a text: of a key that is written twice, one member is kept.

Results:
1. `keepLast_nodup`, `mem_of_mem_keepLast`: the members that are kept.
2. `DistinctKeys.of_ofDocument?`: what a document means, by recursion on the document.
3. `DistinctKeys.of_parse?`: what a text means.
-/

namespace LogSearch.Json

/-- No object in the value has a key twice. -/
inductive DistinctKeys : Json → Prop
  | null : DistinctKeys .null
  | bool {b : Bool} : DistinctKeys (.bool b)
  | number {n : Numeral} : DistinctKeys (.number n)
  | string {s : String} : DistinctKeys (.string s)
  | array {items : List Json} : (∀ item ∈ items, DistinctKeys item) → DistinctKeys (.array items)
  | object {members : List (String × Json)} :
      (members.map Prod.fst).Nodup → (∀ member ∈ members, DistinctKeys member.2) →
      DistinctKeys (.object members)

/-! ## 1. Members -/

theorem keepLast_nodup {α : Type} (members : List (String × α)) :
    ((keepLast members).map Prod.fst).Nodup := by
  induction members with
  | nil => exact List.nodup_nil
  | cons member members ih =>
    obtain ⟨key, value⟩ := member
    rw [keepLast, List.map_cons, List.nodup_cons]
    refine ⟨by simp, ?_⟩
    exact ih.sublist (List.filter_sublist.map Prod.fst)

/-- Every value that is kept is one of those that were there. -/
theorem mem_of_mem_keepLast {α : Type} {members : List (String × α)} {member : String × α}
    (kept : member ∈ keepLast members) : ∃ key, (key, member.2) ∈ members := by
  induction members generalizing member with
  | nil => cases kept
  | cons first members ih =>
    obtain ⟨key, value⟩ := first
    rw [keepLast] at kept
    rcases List.mem_cons.mp kept with rfl | later
    · cases found : (keepLast members).lookup key with
      | none => exact ⟨key, List.mem_cons_self⟩
      | some last =>
        obtain ⟨before, after, whole, -⟩ := List.lookup_eq_some_iff.mp found
        -- The first member takes the value of a later one, which is kept among the rest.
        have member : (key, last) ∈ keepLast members := by
          rw [whole]
          exact List.mem_append_right _ List.mem_cons_self
        obtain ⟨other, inside⟩ := ih member
        exact ⟨other, List.mem_cons_of_mem _ inside⟩
    · obtain ⟨other, inside⟩ := ih (List.mem_filter.mp later).1
      exact ⟨other, List.mem_cons_of_mem _ inside⟩

/-! ## 2. Documents -/

namespace DistinctKeys

mutual

theorem of_ofDocument? {document : Document} {json : Json}
    (meaning : ofDocument? document = some json) : json.DistinctKeys := by
  match document with
  | .null =>
    cases meaning
    exact .null
  | .bool b =>
    cases meaning
    exact .bool
  | .number n =>
    rw [ofDocument?] at meaning
    split at meaning
    · cases meaning
      exact .number
    · cases meaning
  | .string parts =>
    rw [ofDocument?] at meaning
    obtain ⟨s, -, rfl⟩ := Option.map_eq_some_iff.mp meaning
    exact .string
  | .array items =>
    rw [ofDocument?] at meaning
    obtain ⟨values, read, rfl⟩ := Option.map_eq_some_iff.mp meaning
    exact .array (of_ofItems? read)
  | .object members =>
    rw [ofDocument?] at meaning
    obtain ⟨values, read, rfl⟩ := Option.map_eq_some_iff.mp meaning
    refine .object (keepLast_nodup values) fun member kept => ?_
    obtain ⟨key, inside⟩ := mem_of_mem_keepLast kept
    exact of_ofMembers? read (key, member.2) inside

theorem of_ofItems? {items : List Document} {values : List Json}
    (meaning : ofItems? items = some values) : ∀ value ∈ values, value.DistinctKeys := by
  match items with
  | [] =>
    cases meaning
    exact fun value member => absurd member List.not_mem_nil
  | item :: items =>
    rw [ofItems?] at meaning
    obtain ⟨first, readFirst, meaning⟩ := Option.bind_eq_some_iff.mp meaning
    obtain ⟨rest, readRest, whole⟩ := Option.bind_eq_some_iff.mp meaning
    cases whole
    exact List.forall_mem_cons.mpr ⟨of_ofDocument? readFirst, of_ofItems? readRest⟩

theorem of_ofMembers? {members : List (List StringPart × Document)} {values : List (String × Json)}
    (meaning : ofMembers? members = some values) : ∀ value ∈ values, value.2.DistinctKeys := by
  match members with
  | [] =>
    cases meaning
    exact fun value member => absurd member List.not_mem_nil
  | (key, value) :: members =>
    rw [ofMembers?] at meaning
    obtain ⟨name, -, meaning⟩ := Option.bind_eq_some_iff.mp meaning
    obtain ⟨first, readFirst, meaning⟩ := Option.bind_eq_some_iff.mp meaning
    obtain ⟨rest, readRest, whole⟩ := Option.bind_eq_some_iff.mp meaning
    cases whole
    exact List.forall_mem_cons.mpr ⟨of_ofDocument? readFirst, of_ofMembers? readRest⟩

end

/-! ## 3. Texts -/

theorem of_parse? {text : String} {json : Json} (read : parse? text = some json) :
    json.DistinctKeys := by
  rw [parse?] at read
  obtain ⟨tokens, -, read⟩ := Option.bind_eq_some_iff.mp read
  split at read
  · obtain ⟨document, -, meaning⟩ := Option.bind_eq_some_iff.mp read
    exact of_ofDocument? meaning
  · cases read

end DistinctKeys

end LogSearch.Json
