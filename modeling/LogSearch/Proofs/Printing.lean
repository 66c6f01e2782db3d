import LogSearch.Proofs.Literals

/-!
# Reading what was printed

A value is printed as the text of a document, with white space between the tokens. So it is read
back.

Results:
1. `layout_write`: the text of a value is made of the tokens of its document.
2. `nestingWithin_document`: these tokens are nested no deeper than the value.
3. `ofDocument?_document`: the document means the value.
4. `parse?_print`: so a value that `Printable` admits is read back from its printed form.
-/

namespace LogSearch.Json

open Text Document

/-! ## 1. Documents of values -/

mutual

/-- The document that is printed for a value. -/
def document : Json → Document
  | .null => .null
  | .bool b => .bool b
  | .number n => .number n
  | .string s => .string (partsOf s)
  | .array items => .array (documents items)
  | .object members => .object (memberDocuments members)

/-- The documents of the items of an array. -/
def documents : List Json → List Document
  | [] => []
  | item :: items => document item :: documents items

/-- The documents of the members of an object. -/
def memberDocuments : List (String × Json) → List (List StringPart × Document)
  | [] => []
  | (key, value) :: members => (partsOf key, document value) :: memberDocuments members

end

/-- A value that a reader can take back: its numbers are integers that it holds, no key occurs twice
in an object, and at most `limit` brackets are nested. -/
inductive Printable : Nat → Json → Prop
  | null {limit : Nat} : Printable limit .null
  | bool {limit : Nat} {b : Bool} : Printable limit (.bool b)
  | integer {limit : Nat} {n : Int} : n.natAbs < UInt64.size → Printable limit (.number (.ofInt n))
  | string {limit : Nat} {s : String} : Printable limit (.string s)
  | array {limit : Nat} {items : List Json} :
      (∀ item ∈ items, Printable limit item) → Printable (limit + 1) (.array items)
  | object {limit : Nat} {members : List (String × Json)} :
      (members.map Prod.fst).Nodup → (∀ member ∈ members, Printable limit member.2) →
      Printable (limit + 1) (.object members)

/-! ## 2. Tokens -/

variable {text rest : List Char} {list later : List Token} {depth : Nat}

theorem Layout.append (layout : Layout list text) (next : Layout later rest) :
    Layout (list ++ later) (text ++ rest) := by
  induction layout with
  | nil => exact next
  | space space _ ih => exact .space space ih
  | token is _ ih =>
    rw [List.append_assoc]
    exact .token is ih

theorem Layout.newLine (layout : Layout list text) (depth : Nat) :
    Layout list (newLine depth ++ text) := by
  have spaces (count : Nat) : Layout list (List.replicate count ' ' ++ text) := by
    induction count with
    | zero => exact layout
    | succ count ih => exact .space (by decide) ih
  exact .space (by decide) (spaces _)

theorem word_writeString (s : String) : Word (.string (partsOf s)) (writeString s) :=
  .string (quoted_flatMap_escape s.toList)

/-- A member after the place where its key starts. -/
theorem layout_member (key : String) (value : Layout list text) :
    Layout (.string (partsOf key) :: .colon :: list) (writeString key ++ ([':', ' '] ++ text)) := by
  have spaced : Layout list (' ' :: text) := .space (by decide) value
  have colon := Layout.token .colon spaced
  exact .token (word_writeString key) colon

theorem layout_writeItems {items : List Json}
    (each : ∀ item ∈ items, ∀ depth, Layout (tokens (document item)) (write depth item))
    (depth : Nat) : Layout (itemTokens (documents items)) (writeItems depth items) := by
  induction items with
  | nil => exact .nil
  | cons item items ih =>
    obtain ⟨first, later⟩ := List.forall_mem_cons.mp each
    have text := Layout.token .comma (((first depth).append (ih later)).newLine depth)
    rw [documents, itemTokens, writeItems]
    simpa only [List.append_assoc, List.cons_append, List.nil_append] using text

theorem layout_writeMembers {members : List (String × Json)}
    (each : ∀ member ∈ members, ∀ depth,
      Layout (tokens (document member.2)) (write depth member.2))
    (depth : Nat) :
    Layout (memberTokens (memberDocuments members)) (writeMembers depth members) := by
  induction members with
  | nil => exact .nil
  | cons member members ih =>
    obtain ⟨key, value⟩ := member
    obtain ⟨first, later⟩ := List.forall_mem_cons.mp each
    have text := Layout.token .comma
      ((layout_member key ((first depth).append (ih later))).newLine depth)
    rw [memberDocuments, memberTokens, writeMembers]
    simpa only [List.append_assoc, List.cons_append, List.nil_append] using text

theorem layout_array {items : List Json}
    (each : ∀ item ∈ items, ∀ depth, Layout (tokens (document item)) (write depth item))
    (depth : Nat) : Layout (tokens (document (.array items))) (write depth (.array items)) := by
  have closed : Layout [.closeArray] [']'] := .token .closeArray .nil
  cases items with
  | nil => exact .token .openArray closed
  | cons item items =>
    obtain ⟨first, later⟩ := List.forall_mem_cons.mp each
    have inner := (first (depth + 1)).append
      ((layout_writeItems later (depth + 1)).append (closed.newLine depth))
    have text := Layout.token .openArray (inner.newLine (depth + 1))
    rw [document, documents, tokens, write]
    simpa only [List.append_assoc, List.cons_append, List.nil_append] using text

theorem layout_object {members : List (String × Json)}
    (each : ∀ member ∈ members, ∀ depth,
      Layout (tokens (document member.2)) (write depth member.2))
    (depth : Nat) :
    Layout (tokens (document (.object members))) (write depth (.object members)) := by
  have closed : Layout [.closeObject] ['\x7d'] := .token .closeObject .nil
  match members with
  | [] => exact .token .openObject closed
  | (key, value) :: members =>
    obtain ⟨first, later⟩ := List.forall_mem_cons.mp each
    have inner := (first (depth + 1)).append
      ((layout_writeMembers later (depth + 1)).append (closed.newLine depth))
    have text := Layout.token .openObject ((layout_member key inner).newLine (depth + 1))
    rw [document, memberDocuments, tokens, write]
    simpa only [List.append_assoc, List.cons_append, List.nil_append] using text

/-- The text of a value is made of the tokens of its document, however deep it stands. -/
theorem layout_write {limit : Nat} {json : Json} (printable : Printable limit json) (depth : Nat) :
    Layout (tokens (document json)) (write depth json) := by
  have word {token : Token} {text : List Char} (is : Word token text) : Layout [token] text := by
    have layout := Layout.token is .nil
    rwa [List.append_nil] at layout
  induction printable generalizing depth with
  | null => exact word .null
  | @bool _ b =>
    cases b with
    | true => exact word .true_
    | false => exact word .false_
  | integer => exact word (.number (Numeral.spelled_ofInt _))
  | string => exact word (word_writeString _)
  | array _ each => exact layout_array each depth
  | object _ _ each => exact layout_object each depth

/-! ## 3. Nesting -/

/-- The tokens leave the number of open brackets as it is, and open no more than there may be. -/
def Nests (ceiling depth : Nat) (tokens : List Token) : Prop :=
  ∀ more, nestingWithin ceiling depth (tokens ++ more) = nestingWithin ceiling depth more

variable {ceiling : Nat} {inner : List Token}

theorem Nests.nil : Nests ceiling depth [] :=
  fun _ => rfl

theorem Nests.append {later : List Token} (first : Nests ceiling depth inner)
    (next : Nests ceiling depth later) : Nests ceiling depth (inner ++ later) := by
  intro more
  rw [List.append_assoc, first, next]

/-- An opening bracket and the one that closes it. -/
inductive Brackets : Token → Token → Prop
  | array : Brackets .openArray .closeArray
  | object : Brackets .openObject .closeObject

theorem Nests.within {opening closing : Token} (brackets : Brackets opening closing)
    (nests : Nests ceiling (depth + 1) inner) (room : depth < ceiling) :
    Nests ceiling depth (opening :: inner ++ [closing]) := by
  have opens (tokens : List Token) : nestingWithin ceiling depth (opening :: tokens) =
      (decide (depth < ceiling) && nestingWithin ceiling (depth + 1) tokens) := by
    cases brackets with
    | array | object => rfl
  have closes (tokens : List Token) : nestingWithin ceiling (depth + 1) (closing :: tokens) =
      nestingWithin ceiling depth tokens := by
    cases brackets with
    | array | object => rfl
  intro more
  calc nestingWithin ceiling depth (opening :: inner ++ [closing] ++ more)
      = (decide (depth < ceiling) &&
          nestingWithin ceiling (depth + 1) (inner ++ closing :: more)) := by
        rw [List.append_assoc, List.cons_append, opens, List.singleton_append]
    _ = nestingWithin ceiling (depth + 1) (closing :: more) := by
        rw [decide_eq_true room, Bool.true_and, nests]
    _ = nestingWithin ceiling depth more := closes more

theorem nests_itemTokens {items : List Json}
    (each : ∀ item ∈ items, Nests ceiling depth (tokens (document item))) :
    Nests ceiling depth (itemTokens (documents items)) := by
  induction items with
  | nil => exact .nil
  | cons item items ih =>
    obtain ⟨first, later⟩ := List.forall_mem_cons.mp each
    -- A comma changes nothing.
    exact fun more => first.append (ih later) more

theorem nests_memberTokens {members : List (String × Json)}
    (each : ∀ member ∈ members, Nests ceiling depth (tokens (document member.2))) :
    Nests ceiling depth (memberTokens (memberDocuments members)) := by
  induction members with
  | nil => exact .nil
  | cons member members ih =>
    obtain ⟨first, later⟩ := List.forall_mem_cons.mp each
    exact fun more => first.append (ih later) more

/-- A value with at most `limit` brackets fits where that many may still be opened. -/
theorem nests_document {limit : Nat} {json : Json} (printable : Printable limit json)
    (room : depth + limit ≤ ceiling) : Nests ceiling depth (tokens (document json)) := by
  induction printable generalizing depth with
  | null | bool | integer | string => exact fun _ => rfl
  | @array limit items _ each =>
    have opens : depth < ceiling := by omega
    have inner : ∀ item ∈ items, Nests ceiling (depth + 1) (tokens (document item)) :=
      fun item member => each item member (by omega)
    cases items with
    | nil => exact .within .array .nil opens
    | cons item items =>
      obtain ⟨first, later⟩ := List.forall_mem_cons.mp inner
      exact .within .array (first.append (nests_itemTokens later)) opens
  | @object limit members _ _ each =>
    have opens : depth < ceiling := by omega
    have inner : ∀ member ∈ members, Nests ceiling (depth + 1) (tokens (document member.2)) :=
      fun member inside => each member inside (by omega)
    cases members with
    | nil => exact .within .object .nil opens
    | cons member members =>
      obtain ⟨first, later⟩ := List.forall_mem_cons.mp inner
      exact .within .object (fun more => first.append (nests_memberTokens later) more) opens

/-! ## 4. Meaning -/

theorem ofItems?_documents {items : List Json}
    (each : ∀ item ∈ items, ofDocument? (document item) = some item) :
    ofItems? (documents items) = some items := by
  induction items with
  | nil => rfl
  | cons item items ih =>
    obtain ⟨first, later⟩ := List.forall_mem_cons.mp each
    rw [documents, ofItems?, first, ih later]
    rfl

theorem ofMembers?_memberDocuments {members : List (String × Json)}
    (each : ∀ member ∈ members, ofDocument? (document member.2) = some member.2) :
    ofMembers? (memberDocuments members) = some members := by
  induction members with
  | nil => rfl
  | cons member members ih =>
    obtain ⟨first, later⟩ := List.forall_mem_cons.mp each
    rw [memberDocuments, ofMembers?, decode?_partsOf, first, ih later]
    simp

theorem keepLast_eq_self {α : Type} {members : List (String × α)}
    (distinct : (members.map Prod.fst).Nodup) : keepLast members = members := by
  induction members with
  | nil => rfl
  | cons member members ih =>
    obtain ⟨key, value⟩ := member
    rw [List.map_cons, List.nodup_cons] at distinct
    have other : ∀ member ∈ members, member.1 ≠ key :=
      fun member inside same => distinct.1 (List.mem_map.mpr ⟨member, inside, same⟩)
    have absent : members.lookup key = none :=
      List.lookup_eq_none_iff.mpr fun member inside => bne_iff_ne.mpr (other member inside).symm
    have others : members.filter (·.1 ≠ key) = members :=
      List.filter_eq_self.mpr fun member inside => decide_eq_true (other member inside)
    rw [keepLast, ih distinct.2, absent, others]
    rfl

theorem ofDocument?_document {limit : Nat} {json : Json} (printable : Printable limit json) :
    ofDocument? (document json) = some json := by
  induction printable with
  | null | bool => rfl
  | integer small => rw [document, ofDocument?, if_pos (Numeral.isFinite_ofInt small)]
  | @string _ s =>
    rw [document, ofDocument?, decode?_partsOf, Option.map_some, String.ofList_toList]
  | array _ each =>
    rw [document, ofDocument?, ofItems?_documents each]
    rfl
  | object distinct _ each =>
    rw [document, ofDocument?, ofMembers?_memberDocuments each, Option.map_eq_map,
      Option.map_some, Function.comp_apply, keepLast_eq_self distinct]

/-! ## 5. Reading back -/

theorem parse?_print {json : Json} (printable : Printable nestingLimit json) :
    parse? json.print = some json := by
  have within : nestingWithin nestingLimit 0 (tokens (document json)) = true := by
    have nests := nests_document printable (Nat.le_of_eq (Nat.zero_add nestingLimit)) []
    rwa [List.append_nil] at nests
  refine parse?_eq_some_iff.mpr ⟨document json, ?_, within, ofDocument?_document printable⟩
  rw [print, String.toList_ofList]
  exact layout_write printable 0

end LogSearch.Json
