import LogSearch.Archive
import Mathlib.Data.List.Basic
import Mathlib.Data.List.Induction

/-!
# What a query finds

The positions that `Corpus.evaluate` gives, as lists and not only as sets. `Corpus.positionsWhere`
is the specification: it asks every record of the corpus, in order, for a property.

Results:
1. `positions_eq`: a single clause finds the positions of the records that meet it.
2. `narrow_eq`: `AND` finds, in the order of the corpus, the positions of the records that meet
   every clause. That it stops once nothing is left cannot be seen from its result.
3. `foldl_widen`: `OR` puts the positions that a clause is the first to give after those before it.
4. `mem_evaluate`, `evaluate_nodup`: membership and distinctness, whatever the query.
5. `evaluate_exact`: all of it, for every corpus and every query.
-/

namespace LogSearch

/-! ## Specification -/

/-- The positions, in ascending order, of the records with a property. -/
def Corpus.positionsWhere (corpus : Corpus) (p : Record → Bool) : List Nat :=
  (List.range corpus.size).filter fun position => (corpus.record? position).any p

/-- Whether a record meets a query. No record meets a conjunction of no clauses. -/
def Query.holds (record : Record) : Query → Bool
  | .single clause => clause.holds record
  | .allOf clauses => !clauses.isEmpty && clauses.all (·.holds record)
  | .anyOf clauses => clauses.any (·.holds record)

namespace Corpus

variable {corpus : Corpus}

/-! ## 1. Single clauses -/

theorem mem_positionsWhere {p : Record → Bool} {position : Nat} :
    position ∈ corpus.positionsWhere p ↔ (corpus.record? position).any p = true := by
  simp only [positionsWhere, List.mem_filter, List.mem_range, and_iff_right_iff_imp]
  intro found
  cases here : corpus.record? position with
  | none => simp [here] at found
  | some record => exact (List.getElem?_eq_some_iff.mp here).1

theorem positionsWhere_nodup (p : Record → Bool) : (corpus.positionsWhere p).Nodup :=
  List.nodup_range.filter _

/-- Filtering the found positions by a further property asks the records for both properties. -/
theorem filter_positionsWhere (p q : Record → Bool) :
    (corpus.positionsWhere p).filter (fun position => (corpus.record? position).any q) =
      corpus.positionsWhere fun record => p record && q record := by
  rw [positionsWhere, positionsWhere, List.filter_filter]
  refine List.filter_congr fun position _ => ?_
  cases corpus.record? position with
  | none => rfl
  | some record => simp [Bool.and_comm]

theorem positions_eq (corpus : Corpus) (clause : Clause) :
    corpus.positions clause = corpus.positionsWhere clause.holds := by
  have numbered : ∀ pair ∈ corpus.records.zipIdx,
      clause.holds pair.1 = (corpus.record? pair.2).any clause.holds := by
    intro pair member
    rw [record?, List.mem_zipIdx_iff_getElem?.mp member]
    rfl
  calc corpus.positions clause
      = (corpus.records.zipIdx.filter fun pair =>
          (corpus.record? pair.2).any clause.holds).map Prod.snd := by
        rw [positions, List.filter_congr numbered]
    _ = (corpus.records.zipIdx.map Prod.snd).filter fun position =>
          (corpus.record? position).any clause.holds := by
        rw [List.filter_map]
        rfl
    _ = corpus.positionsWhere clause.holds := by
        rw [List.zipIdx_map_snd, ← List.range_eq_range', positionsWhere, size]

theorem positions_nodup (clause : Clause) : (corpus.positions clause).Nodup :=
  positions_eq corpus clause ▸ positionsWhere_nodup _

theorem mem_positions {clause : Clause} {position : Nat} :
    position ∈ corpus.positions clause ↔ (corpus.record? position).any clause.holds = true := by
  rw [positions_eq, mem_positionsWhere]

theorem contains_positions (clause : Clause) (position : Nat) :
    (corpus.positions clause).contains position = (corpus.record? position).any clause.holds := by
  rw [Bool.eq_iff_iff, List.contains_iff_mem, mem_positions]

/-! ## 2. Conjunctions -/

/-- Narrowing asks the found records for the remaining clauses. When nothing is left it stops, and
then no record could be found by asking on. -/
theorem narrow_eq (p : Record → Bool) (clauses : List Clause) :
    corpus.narrow (corpus.positionsWhere p) clauses =
      corpus.positionsWhere fun record => p record && clauses.all (·.holds record) := by
  induction clauses generalizing p with
  | nil => simp [narrow]
  | cons clause clauses ih =>
    rw [narrow]
    have asked : (corpus.positionsWhere p).filter (corpus.positions clause).contains =
        corpus.positionsWhere fun record => p record && clause.holds record := by
      rw [← filter_positionsWhere]
      exact List.filter_congr fun position _ => contains_positions clause position
    split
    · -- The other clauses would be asked about nothing.
      rename_i isEmpty
      rw [List.isEmpty_iff] at isEmpty
      rw [isEmpty, ← filter_positionsWhere, isEmpty]
      rfl
    · rw [asked, ih]
      simp [Bool.and_assoc]

theorem evaluate_allOf_cons (clause : Clause) (clauses : List Clause) :
    corpus.evaluate (.allOf (clause :: clauses)) =
      corpus.positionsWhere fun record => (clause :: clauses).all (·.holds record) := by
  rw [evaluate, positions_eq, narrow_eq]
  rfl

/-! ## 3. Disjunctions -/

/-- Adding positions one by one appends those that were not yet found. -/
theorem foldl_addNew {found new : List Nat} (distinct : new.Nodup) :
    new.foldl addNew found = found ++ new.filter (!found.contains ·) := by
  induction new generalizing found with
  | nil => simp
  | cons position new ih =>
    obtain ⟨absent, distinct⟩ := List.nodup_cons.mp distinct
    rw [List.foldl_cons, ih distinct, addNew]
    by_cases known : position ∈ found
    · simp [known]
    · have others : ∀ other ∈ new,
          (!(found ++ [position]).contains other) = !found.contains other := by
        intro other member
        have : other ≠ position := fun same => absent (same ▸ member)
        simp [this]
      rw [if_neg (by simpa using known), List.filter_congr others]
      simp [known]

theorem mem_widen {found : List Nat} {clause : Clause} {position : Nat} :
    position ∈ corpus.widen found clause ↔
      position ∈ found ∨ position ∈ corpus.positions clause := by
  rw [widen, foldl_addNew (positions_nodup clause)]
  simp only [List.mem_append, List.mem_filter, List.contains_eq_mem, Bool.not_eq_true',
    decide_eq_false_iff_not]
  tauto

theorem mem_foldl_widen {clauses : List Clause} {position : Nat} :
    position ∈ clauses.foldl corpus.widen [] ↔
      (corpus.record? position).any (fun record => clauses.any (·.holds record)) = true := by
  induction clauses using List.reverseRecOn with
  | nil => cases corpus.record? position <;> simp
  | append_singleton clauses clause ih =>
    rw [List.foldl_append, List.foldl_cons, List.foldl_nil, mem_widen, ih, mem_positions]
    cases corpus.record? position <;> simp

/-- The positions that each clause is the first to give, clause by clause. The invariant of the loop
is `mem_foldl_widen`: what was found so far is what meets some clause so far. -/
theorem foldl_widen (clauses : List Clause) :
    clauses.foldl corpus.widen [] =
      clauses.zipIdx.flatMap fun (clause, place) =>
        corpus.positionsWhere fun record =>
          clause.holds record && !(clauses.take place).any (·.holds record) := by
  induction clauses using List.reverseRecOn with
  | nil => rfl
  | append_singleton clauses clause ih =>
    have earlier : ∀ pair ∈ clauses.zipIdx,
        (clauses ++ [clause]).take pair.2 = clauses.take pair.2 := by
      intro pair member
      have inside : pair.2 < clauses.length := by simpa using List.snd_lt_of_mem_zipIdx member
      exact List.take_append_of_le_length (Nat.le_of_lt inside)
    have added : (corpus.positions clause).filter
          (!(clauses.foldl corpus.widen []).contains ·) =
        corpus.positionsWhere fun record =>
          clause.holds record && !clauses.any (·.holds record) := by
      rw [positions_eq, ← filter_positionsWhere]
      refine List.filter_congr fun position member => ?_
      rw [mem_positionsWhere] at member
      rw [Bool.eq_iff_iff, Bool.not_eq_true', List.contains_eq_mem, decide_eq_false_iff_not,
        mem_foldl_widen]
      cases here : corpus.record? position with
      | none => simp [here] at member
      | some record => simp
    rw [List.foldl_append, List.foldl_cons, List.foldl_nil, widen,
      foldl_addNew (positions_nodup clause), added, ih,
      List.zipIdx_append, List.flatMap_append]
    congr 1
    · refine List.flatMap_congr fun pair member => ?_
      obtain ⟨_, place⟩ := pair
      simp only [earlier _ member]
    · simp

theorem widen_nodup {found : List Nat} (distinct : found.Nodup) (clause : Clause) :
    (corpus.widen found clause).Nodup := by
  rw [widen, foldl_addNew (positions_nodup clause), List.nodup_append]
  refine ⟨distinct, (positions_nodup clause).filter _, ?_⟩
  rintro position known _ new rfl
  simp [known] at new

theorem foldl_widen_nodup (clauses : List Clause) : (clauses.foldl corpus.widen []).Nodup := by
  induction clauses using List.reverseRecOn with
  | nil => exact List.nodup_nil
  | append_singleton clauses clause ih =>
    rw [List.foldl_append, List.foldl_cons, List.foldl_nil]
    exact widen_nodup ih clause

/-! ## 4. All queries -/

/-- A position is found exactly when its record meets the query. -/
theorem mem_evaluate {query : Query} {position : Nat} :
    position ∈ corpus.evaluate query ↔
      ∃ record, corpus.record? position = some record ∧ query.holds record = true := by
  rw [← Option.any_eq_true]
  match query with
  | .single clause => exact mem_positions
  | .allOf [] =>
    rw [evaluate]
    cases corpus.record? position <;> simp [Query.holds]
  | .allOf (clause :: clauses) =>
    rw [evaluate_allOf_cons, mem_positionsWhere]
    rfl
  | .anyOf clauses => exact mem_foldl_widen

theorem evaluate_nodup (query : Query) : (corpus.evaluate query).Nodup := by
  match query with
  | .single clause => exact positions_nodup clause
  | .allOf [] => exact List.nodup_nil
  | .allOf (clause :: clauses) =>
    rw [evaluate_allOf_cons]
    exact positionsWhere_nodup _
  | .anyOf clauses => exact foldl_widen_nodup clauses

theorem lt_size_of_mem_evaluate {query : Query} {position : Nat}
    (found : position ∈ corpus.evaluate query) : position < corpus.size := by
  obtain ⟨record, here, -⟩ := mem_evaluate.mp found
  exact (List.getElem?_eq_some_iff.mp here).1

/-- A conjunction is known by the set of its clauses. -/
theorem evaluate_allOf_congr {clauses others : List Clause}
    (same : ∀ clause, clause ∈ clauses ↔ clause ∈ others) :
    corpus.evaluate (.allOf clauses) = corpus.evaluate (.allOf others) := by
  match clauses, others with
  | [], [] => rfl
  | [], other :: _ => exact absurd ((same other).mpr List.mem_cons_self) List.not_mem_nil
  | clause :: _, [] => exact absurd ((same clause).mp List.mem_cons_self) List.not_mem_nil
  | clause :: clauses, other :: others =>
    rw [evaluate_allOf_cons, evaluate_allOf_cons]
    congr 1
    funext record
    rw [Bool.eq_iff_iff, List.all_eq_true, List.all_eq_true]
    exact ⟨fun all c member => all c ((same c).mpr member),
      fun all c member => all c ((same c).mp member)⟩

/-- What a query finds, as a list.

* A clause, and a conjunction of some clauses, find the positions of the records that meet them all,
  ascending. Neither the order of the clauses nor a repetition changes that list.
* The conjunction of no clauses finds nothing.
* A disjunction finds, clause by clause, the positions whose record meets that clause and none
  before it.
* No position is found twice, each is one of the corpus, and equal records at two positions are both
  found or both not. -/
theorem evaluate_exact (corpus : Corpus) :
    (∀ clause, corpus.evaluate (.single clause) = corpus.positionsWhere clause.holds) ∧
    (∀ clause clauses, corpus.evaluate (.allOf (clause :: clauses)) =
      corpus.positionsWhere fun record => (clause :: clauses).all (·.holds record)) ∧
    (∀ clauses others, (∀ clause, clause ∈ clauses ↔ clause ∈ others) →
      corpus.evaluate (.allOf clauses) = corpus.evaluate (.allOf others)) ∧
    corpus.evaluate (.allOf []) = [] ∧
    (∀ clauses, corpus.evaluate (.anyOf clauses) =
      clauses.zipIdx.flatMap fun (clause, place) =>
        corpus.positionsWhere fun record =>
          clause.holds record && !(clauses.take place).any (·.holds record)) ∧
    (∀ query, (corpus.evaluate query).Nodup) ∧
    (∀ query, ∀ position ∈ corpus.evaluate query, position < corpus.size) ∧
    (∀ query position other, corpus.record? position = corpus.record? other →
      (position ∈ corpus.evaluate query ↔ other ∈ corpus.evaluate query)) := by
  refine ⟨positions_eq corpus, evaluate_allOf_cons, fun _ _ => evaluate_allOf_congr, rfl,
    foldl_widen, evaluate_nodup, fun _ _ => lt_size_of_mem_evaluate, ?_⟩
  intro query position other equal
  rw [mem_evaluate, mem_evaluate, equal]

/-- Two equal records with another one between them. -/
def twins : Corpus where
  records := [.ofList [("user", .text "a"), ("hour", .int 1)], .ofList [("user", .text "b")],
    .ofList [("user", .text "a"), ("hour", .int 1)]]

/-- The twins are both found, each at its own position, whichever way the clauses are written. -/
theorem evaluate_exact_twins :
    let hour := Clause.range "hour" 0 5
    let user := Clause.equals "user" "A"
    (∀ clause, clause ∈ [user, hour] ↔ clause ∈ [hour, user, hour]) ∧
    twins.evaluate (.allOf [user, hour]) = twins.evaluate (.allOf [hour, user, hour]) ∧
    2 ∈ twins.evaluate (.single hour) ∧ 2 < twins.size ∧
    twins.record? 0 = twins.record? 2 ∧
    (0 ∈ twins.evaluate (.single hour) ↔ 2 ∈ twins.evaluate (.single hour)) := by
  intro hour user
  have same : ∀ clause, clause ∈ [user, hour] ↔ clause ∈ [hour, user, hour] := by
    intro clause
    simp only [List.mem_cons, List.not_mem_nil, or_false]
    tauto
  have found : 2 ∈ twins.evaluate (.single hour) := by decide
  have equal : twins.record? 0 = twins.record? 2 := by decide
  obtain ⟨-, -, congr, -, -, -, bounded, together⟩ := evaluate_exact twins
  exact ⟨same, congr _ _ same, found, bounded _ 2 found, equal, together _ 0 2 equal⟩

end Corpus

end LogSearch
