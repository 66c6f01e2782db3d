import Mathlib.Control.Monad.Basic
import Mathlib.Data.List.Forall2

/-!
# Checked computations

What a computation in `Except` that succeeds or fails says about its parts.
-/

namespace LogSearch.Checked

variable {ε α β : Type}

theorem map_eq_ok_iff {f : α → β} {x : Except ε α} {b : β} :
    f <$> x = .ok b ↔ ∃ a, x = .ok a ∧ f a = b := by
  cases x with
  | error e => simp
  | ok a => simp

theorem map_eq_error_iff {f : α → β} {x : Except ε α} {e : ε} :
    f <$> x = .error e ↔ x = .error e := by
  cases x with
  | error e => simp
  | ok a => simp

theorem bind_eq_ok_iff {x : Except ε α} {f : α → Except ε β} {b : β} :
    x >>= f = .ok b ↔ ∃ a, x = .ok a ∧ f a = .ok b := by
  cases x with
  | error e =>
    constructor
    · intro done
      cases done
    · rintro ⟨_, done, -⟩
      cases done
  | ok a =>
    constructor
    · exact fun done => ⟨a, rfl, done⟩
    · rintro ⟨_, same, done⟩
      cases same
      exact done

theorem mapM_congr {f g : α → Except ε β} {items : List α}
    (same : ∀ item ∈ items, f item = g item) : items.mapM f = items.mapM g := by
  induction items with
  | nil => rfl
  | cons item items ih =>
    rw [List.mapM_cons, List.mapM_cons, same item List.mem_cons_self,
      ih fun other member => same other (List.mem_cons_of_mem _ member)]

/-- A list of computations succeeds exactly if each of them does. -/
theorem mapM_eq_ok_iff {f : α → Except ε β} {items : List α} {results : List β} :
    items.mapM f = .ok results ↔
      List.Forall₂ (fun item result => f item = .ok result) items results := by
  induction items generalizing results with
  | nil =>
    rw [List.mapM_nil, List.forall₂_nil_left_iff]
    exact ⟨fun done => (Except.ok.inj done).symm, fun empty => empty ▸ rfl⟩
  | cons item items ih =>
    rw [List.mapM_cons, bind_eq_ok_iff, List.forall₂_cons_left_iff]
    constructor
    · rintro ⟨first, firstDone, done⟩
      obtain ⟨rest, restDone, done⟩ := bind_eq_ok_iff.mp done
      exact ⟨first, rest, firstDone, ih.mp restDone, (Except.ok.inj done).symm⟩
    · rintro ⟨first, rest, firstDone, restDone, rfl⟩
      exact ⟨first, firstDone, bind_eq_ok_iff.mpr ⟨rest, ih.mpr restDone, rfl⟩⟩

theorem exists_mapM {f : α → Except ε β} {items : List α}
    (each : ∀ item ∈ items, ∃ result, f item = .ok result) :
    ∃ results, items.mapM f = .ok results := by
  induction items with
  | nil => exact ⟨[], rfl⟩
  | cons item items ih =>
    obtain ⟨first, firstDone⟩ := each item List.mem_cons_self
    obtain ⟨rest, restDone⟩ := ih fun other member => each other (List.mem_cons_of_mem _ member)
    refine ⟨first :: rest, mapM_eq_ok_iff.mpr ?_⟩
    exact .cons firstDone (mapM_eq_ok_iff.mp restDone)

/-- Each result of a list of computations is the result of one of them. -/
theorem exists_of_mem_mapM {f : α → Except ε β} {items : List α} {results : List β}
    (done : items.mapM f = .ok results) {result : β} (member : result ∈ results) :
    ∃ item ∈ items, f item = .ok result := by
  induction items generalizing results with
  | nil =>
    cases done
    exact absurd member List.not_mem_nil
  | cons item items ih =>
    rw [List.mapM_cons] at done
    obtain ⟨first, firstDone, done⟩ := bind_eq_ok_iff.mp done
    obtain ⟨rest, restDone, done⟩ := bind_eq_ok_iff.mp done
    cases done
    cases List.mem_cons.mp member with
    | inl same => exact ⟨item, List.mem_cons_self, same ▸ firstDone⟩
    | inr inside =>
      obtain ⟨other, otherMember, otherDone⟩ := ih restDone inside
      exact ⟨other, List.mem_cons_of_mem _ otherMember, otherDone⟩

end LogSearch.Checked
