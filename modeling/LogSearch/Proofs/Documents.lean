import LogSearch.Json.Document

/-!
# Documents from their tokens

A document is written as a list of tokens in one way, and `Document.ofTokens?` reads it back from
them and from no other tokens.

Results:
1. `foldlM_tokens`: the tokens of a document, wherever a value may come, leave it behind as the last
   value.
2. `written_of_foldlM_step`: what was read so far can be told from the `Progress` alone.
3. `ofTokens?_eq_some_iff`: a document is read exactly from its own tokens.
-/

namespace LogSearch.Json

/-! ## 1. Tokens of a document -/

namespace Document

mutual

/-- The tokens of a document. -/
def tokens : Document → List Token
  | .null => [.null]
  | .bool b => [.bool b]
  | .number n => [.number n]
  | .string parts => [.string parts]
  | .array [] => [.openArray, .closeArray]
  | .array (item :: items) => .openArray :: tokens item ++ itemTokens items ++ [.closeArray]
  | .object [] => [.openObject, .closeObject]
  | .object ((key, value) :: members) =>
    [.openObject, .string key, .colon] ++ tokens value ++ memberTokens members ++ [.closeObject]

/-- The tokens of the items after the first. -/
def itemTokens : List Document → List Token
  | [] => []
  | item :: items => .comma :: tokens item ++ itemTokens items

/-- The tokens of the members after the first. -/
def memberTokens : List (List StringPart × Document) → List Token
  | [] => []
  | (key, value) :: members =>
    [.comma, .string key, .colon] ++ tokens value ++ memberTokens members

end

end Document

/-! ## 2. Reading them -/

open Document

/-- An array that was opened waits for a value, unless it is closed at once. -/
theorem Progress.step_firstItem {token : Token} (stays : token ≠ .closeArray)
    (outer : List Container) :
    step (.firstItem outer) token = step (.value (.array [] :: outer)) token := by
  cases token with
  | closeArray => exact absurd rfl stays
  | _ => rfl

theorem exists_tokens_eq_cons (document : Document) :
    ∃ token rest, tokens document = token :: rest ∧ token ≠ .closeArray := by
  rcases document with _ | _ | _ | _ | (_ | _) | (_ | _)
  all_goals
    rw [tokens]
    exact ⟨_, _, rfl, by simp⟩

theorem foldlM_firstItem (document : Document) (outer : List Container) (more : List Token) :
    (tokens document ++ more).foldlM Progress.step (.firstItem outer) =
      (tokens document ++ more).foldlM Progress.step (.value (.array [] :: outer)) := by
  obtain ⟨token, rest, first, stays⟩ := exists_tokens_eq_cons document
  rw [first, List.cons_append, List.foldlM_cons, List.foldlM_cons, Progress.step_firstItem stays]

mutual

/-- Where a value may come, the tokens of a document are read as that document. -/
theorem foldlM_tokens (document : Document) (outer : List Container) (more : List Token) :
    (tokens document ++ more).foldlM Progress.step (.value outer) =
      more.foldlM Progress.step (.complete document outer) := by
  match document with
  | .null | .bool _ | .number _ | .string _ | .array [] | .object [] => rfl
  | .array (item :: items) =>
    calc (tokens (.array (item :: items)) ++ more).foldlM Progress.step (.value outer)
        = (tokens item ++ (itemTokens items ++ .closeArray :: more)).foldlM Progress.step
            (.firstItem outer) := by
          rw [tokens, List.append_assoc, List.append_assoc]
          rfl
      _ = (tokens item ++ (itemTokens items ++ .closeArray :: more)).foldlM Progress.step
            (.value (.array [] :: outer)) := foldlM_firstItem item outer _
      _ = (itemTokens items ++ .closeArray :: more).foldlM Progress.step
            (.afterValue item (.array []) outer) := foldlM_tokens item _ _
      _ = more.foldlM Progress.step (.complete (.array (item :: items)) outer) :=
          foldlM_itemTokens items item [] outer more
  | .object ((key, value) :: members) =>
    calc (tokens (.object ((key, value) :: members)) ++ more).foldlM Progress.step (.value outer)
        = (tokens value ++ (memberTokens members ++ .closeObject :: more)).foldlM Progress.step
            (.value (.object [] key :: outer)) := by
          rw [tokens, List.append_assoc, List.append_assoc, List.append_assoc]
          rfl
      _ = (memberTokens members ++ .closeObject :: more).foldlM Progress.step
            (.afterValue value (.object [] key) outer) := foldlM_tokens value _ _
      _ = more.foldlM Progress.step (.complete (.object ((key, value) :: members)) outer) :=
          foldlM_memberTokens members value [] key outer more

/-- Items after the first go to the end of the array, up to the bracket that closes it. -/
theorem foldlM_itemTokens (items : List Document) (last : Document) (before : List Document)
    (outer : List Container) (more : List Token) :
    (itemTokens items ++ .closeArray :: more).foldlM Progress.step
        (.afterValue last (.array before) outer) =
      more.foldlM Progress.step (.complete (.array ((last :: before).reverse ++ items)) outer) := by
  match items with
  | [] =>
    rw [List.append_nil]
    rfl
  | item :: items =>
    calc (itemTokens (item :: items) ++ .closeArray :: more).foldlM Progress.step
          (.afterValue last (.array before) outer)
        = (tokens item ++ (itemTokens items ++ .closeArray :: more)).foldlM Progress.step
            (.value (.array (last :: before) :: outer)) := by
          rw [itemTokens, List.append_assoc]
          rfl
      _ = (itemTokens items ++ .closeArray :: more).foldlM Progress.step
            (.afterValue item (.array (last :: before)) outer) := foldlM_tokens item _ _
      _ = more.foldlM Progress.step
            (.complete (.array ((item :: last :: before).reverse ++ items)) outer) :=
          foldlM_itemTokens items item (last :: before) outer more
      _ = _ := by rw [List.reverse_cons, List.append_assoc, List.singleton_append]

/-- Members after the first go to the end of the object, up to the bracket that closes it. -/
theorem foldlM_memberTokens (members : List (List StringPart × Document)) (last : Document)
    (before : List (List StringPart × Document)) (name : List StringPart)
    (outer : List Container) (more : List Token) :
    (memberTokens members ++ .closeObject :: more).foldlM Progress.step
        (.afterValue last (.object before name) outer) =
      more.foldlM Progress.step
        (.complete (.object (((name, last) :: before).reverse ++ members)) outer) := by
  match members with
  | [] =>
    rw [List.append_nil]
    rfl
  | (key, value) :: members =>
    calc (memberTokens ((key, value) :: members) ++ .closeObject :: more).foldlM Progress.step
          (.afterValue last (.object before name) outer)
        = (tokens value ++ (memberTokens members ++ .closeObject :: more)).foldlM Progress.step
            (.value (.object ((name, last) :: before) key :: outer)) := by
          rw [memberTokens, List.append_assoc, List.append_assoc]
          rfl
      _ = (memberTokens members ++ .closeObject :: more).foldlM Progress.step
            (.afterValue value (.object ((name, last) :: before) key) outer) :=
          foldlM_tokens value _ _
      _ = more.foldlM Progress.step
            (.complete (.object (((key, value) :: (name, last) :: before).reverse ++ members))
              outer) :=
          foldlM_memberTokens members value ((name, last) :: before) key outer more
      _ = _ := by rw [List.reverse_cons, List.append_assoc, List.singleton_append]

end

theorem ofTokens?_tokens (document : Document) : ofTokens? (tokens document) = some document := by
  have read := foldlM_tokens document [] []
  rw [List.append_nil] at read
  rw [ofTokens?, read]
  rfl

/-! ## 3. No other tokens -/

/-- The items that come before another one. -/
def itemsBefore (items : List Document) : List Token :=
  items.flatMap fun item => tokens item ++ [.comma]

/-- The members that come before another one. -/
def membersBefore (members : List (List StringPart × Document)) : List Token :=
  members.flatMap fun (key, value) => .string key :: .colon :: tokens value ++ [.comma]

/-- What was read of a container, up to the place where its next value comes. -/
def Container.written : Container → List Token
  | .array items => .openArray :: itemsBefore items.reverse
  | .object members key =>
    .openObject :: membersBefore members.reverse ++ [.string key, .colon]

/-- What was read of the containers that are still open. -/
def around : List Container → List Token
  | [] => []
  | inner :: outer => around outer ++ inner.written

/-- What was read. -/
def Progress.written : Progress → List Token
  | .value outer => around outer
  | .firstItem outer => around outer ++ [.openArray]
  | .nextKey members outer => around outer ++ .openObject :: membersBefore members.reverse
  | .nextColon members key outer =>
    around outer ++ .openObject :: membersBefore members.reverse ++ [.string key]
  | .afterValue last inner outer => around outer ++ inner.written ++ tokens last
  | .done document => tokens document

theorem itemTokens_concat (items : List Document) (last : Document) :
    itemTokens (items ++ [last]) = .comma :: itemsBefore items ++ tokens last := by
  induction items with
  | nil => rw [List.nil_append, itemTokens, itemTokens, List.append_nil]; rfl
  | cons item items ih =>
    rw [List.cons_append, itemTokens, ih, itemsBefore, itemsBefore, List.flatMap_cons]
    simp only [List.append_assoc, List.cons_append, List.nil_append]

theorem memberTokens_concat (members : List (List StringPart × Document)) (key : List StringPart)
    (last : Document) :
    memberTokens (members ++ [(key, last)]) =
      .comma :: membersBefore members ++ .string key :: .colon :: tokens last := by
  induction members with
  | nil => rw [List.nil_append, memberTokens, memberTokens, List.append_nil]; rfl
  | cons member members ih =>
    rw [List.cons_append, memberTokens, ih, membersBefore, membersBefore, List.flatMap_cons]
    simp only [List.append_assoc, List.cons_append, List.nil_append]

theorem tokens_array_concat (items : List Document) (last : Document) :
    tokens (.array (items ++ [last])) =
      .openArray :: itemsBefore items ++ tokens last ++ [.closeArray] := by
  cases items with
  | nil => rw [List.nil_append, tokens, itemTokens, List.append_nil]; rfl
  | cons item items =>
    rw [List.cons_append, tokens, itemTokens_concat, itemsBefore, itemsBefore, List.flatMap_cons]
    simp only [List.append_assoc, List.cons_append, List.nil_append]

theorem tokens_object_concat (members : List (List StringPart × Document))
    (key : List StringPart) (last : Document) :
    tokens (.object (members ++ [(key, last)])) =
      .openObject :: membersBefore members ++ .string key :: .colon :: tokens last ++
        [.closeObject] := by
  cases members with
  | nil => rw [List.nil_append, tokens, memberTokens, List.append_nil]; rfl
  | cons member members =>
    rw [List.cons_append, tokens, memberTokens_concat, membersBefore, membersBefore,
      List.flatMap_cons]
    simp only [List.append_assoc, List.cons_append, List.nil_append]

namespace Progress

theorem written_complete (document : Document) (outer : List Container) :
    (complete document outer).written = around outer ++ tokens document := by
  cases outer with
  | nil => rfl
  | cons inner outer => rfl

theorem written_of_start {outer : List Container} {token : Token} {next : Progress}
    (started : start outer token = some next) : next.written = around outer ++ [token] := by
  cases token with
  | null | bool | number | string =>
    cases started
    exact written_complete _ outer
  | openArray | openObject =>
    cases started
    rfl
  | closeArray | closeObject | comma | colon => cases started

/-- Reading a token adds it to what was read. -/
theorem written_of_step {progress next : Progress} {token : Token}
    (read : progress.step token = some next) : next.written = progress.written ++ [token] := by
  fun_cases step progress token with
  | case1 outer token => exact written_of_start read
  | case2 outer =>
    cases read
    rw [written_complete, tokens, written, List.append_assoc]
    rfl
  | case3 token outer opened =>
    -- The array has no items yet.
    rw [step_firstItem opened] at read
    rw [written_of_start read, around]
    rfl
  | case4 outer =>
    cases read
    rw [written_complete, tokens, written, List.append_assoc]
    rfl
  | case5 members outer name =>
    cases members with
    | nil | cons =>
      cases read
      rfl
  | case6 members name outer =>
    cases read
    simp only [written, around, Container.written, List.append_assoc, List.cons_append,
      List.nil_append]
  | case7 last items outer =>
    cases read
    simp only [written, around, Container.written, itemsBefore, List.reverse_cons,
      List.flatMap_append, List.flatMap_cons, List.flatMap_nil, List.append_assoc,
      List.cons_append, List.append_nil]
  | case8 last items outer =>
    cases read
    rw [written_complete, List.reverse_cons, tokens_array_concat, written, Container.written]
    simp only [List.append_assoc]
  | case9 last members name outer =>
    cases read
    simp only [written, Container.written, membersBefore, List.reverse_cons, List.flatMap_append,
      List.flatMap_cons, List.flatMap_nil, List.append_assoc, List.cons_append, List.append_nil,
      List.nil_append]
  | case10 last members name outer =>
    cases read
    rw [written_complete, List.reverse_cons, tokens_object_concat, written, Container.written]
    simp only [List.append_assoc, List.cons_append, List.nil_append]
  | case11 =>
    rw [step] at read
    · cases read
    all_goals assumption

end Progress

theorem written_of_foldlM_step {tokens : List Token} {progress next : Progress}
    (read : tokens.foldlM Progress.step progress = some next) :
    next.written = progress.written ++ tokens := by
  induction tokens generalizing progress with
  | nil =>
    cases read
    rw [List.append_nil]
  | cons token tokens ih =>
    rw [List.foldlM_cons, Option.bind_eq_bind, Option.bind_eq_some_iff] at read
    obtain ⟨between, step, rest⟩ := read
    rw [ih rest, Progress.written_of_step step, List.append_assoc, List.singleton_append]

theorem ofTokens?_eq_some_iff {list : List Token} {document : Document} :
    ofTokens? list = some document ↔ list = tokens document := by
  constructor
  · intro read
    rw [ofTokens?, Option.bind_eq_bind, Option.bind_eq_some_iff] at read
    obtain ⟨last, run, complete⟩ := read
    have whole := written_of_foldlM_step run
    cases last with
    | done other =>
      cases complete
      exact whole.symm
    | _ => cases complete
  · rintro rfl
    exact ofTokens?_tokens document

end LogSearch.Json
