import LogSearch.Corpus.Basic
import Mathlib.Data.List.Basic
import Mathlib.Data.List.Induction

/-!
# First occurrences

`FirstSeen items seen` says that `seen` lists what occurs in `items`, each once and in the order in
which it occurs first.

Results:
1. `FirstSeen.add`, `firstSeen_foldl_addNew`: one more item, added if it is new, and all items.
2. `FirstSeen.unique`: there is only one such list.
3. `firstSeen_eraseDups`: it is the list without its duplicates.
4. `firstSeen_fieldNames`: the field names of a corpus are those of its records.
-/

namespace LogSearch

variable {α : Type}

section Ascending

variable {items others : List α} {rank : α → Nat}

theorem nodup_of_ascending
    (ascending : items.Pairwise fun first second => rank first < rank second) : items.Nodup :=
  ascending.imp fun before same => Nat.ne_of_lt before (congrArg rank same)

/-- Lists in strictly ascending order are known by their elements. -/
theorem eq_of_ascending
    (ascending : items.Pairwise fun first second => rank first < rank second)
    (ascending' : others.Pairwise fun first second => rank first < rank second)
    (same : ∀ item, item ∈ items ↔ item ∈ others) : items = others := by
  have together : items.Perm others :=
    (List.perm_ext_iff_of_nodup (nodup_of_ascending ascending) (nodup_of_ascending ascending')).mpr
      same
  refine together.eq_of_pairwise (fun _ _ _ _ before after => ?_) ascending ascending'
  exact absurd before (Nat.lt_asymm after)

end Ascending

variable [DecidableEq α]

/-- The list `seen` holds what occurs in `items`, each once, by first occurrence. -/
structure FirstSeen (items seen : List α) : Prop where
  mem : ∀ item, item ∈ seen ↔ item ∈ items
  distinct : seen.Nodup
  order : seen.Pairwise fun first second => items.idxOf first < items.idxOf second

namespace FirstSeen

variable {items seen others : List α}

/-- A further item is seen after all that were seen before, or is one of them. -/
theorem add (listed : FirstSeen items seen) (item : α) :
    FirstSeen (items ++ [item]) (addNew seen item) := by
  -- What was seen before stays where it was.
  have kept : seen.Pairwise fun first second =>
      (items ++ [item]).idxOf first < (items ++ [item]).idxOf second := by
    refine listed.order.imp_of_mem fun first second before => ?_
    rw [List.idxOf_append_of_mem ((listed.mem _).mp first),
      List.idxOf_append_of_mem ((listed.mem _).mp second)]
    exact before
  rw [addNew]
  split
  · rename_i known
    refine ⟨fun other => ?_, listed.distinct, kept⟩
    rw [List.mem_append, List.mem_singleton, ← listed.mem]
    exact ⟨.inl, fun either => either.elim id fun same => same ▸ known⟩
  · rename_i new
    have unseen : item ∉ items := fun member => new ((listed.mem item).mpr member)
    have order : (seen ++ [item]).Pairwise fun first second =>
        (items ++ [item]).idxOf first < (items ++ [item]).idxOf second := by
      refine List.pairwise_append.mpr ⟨kept, List.pairwise_singleton _ _, ?_⟩
      intro first known last is
      have before := (listed.mem first).mp known
      rw [List.mem_singleton.mp is, List.idxOf_append_of_mem before,
        List.idxOf_append_of_notMem unseen]
      exact Nat.lt_of_lt_of_le (List.idxOf_lt_length_iff.mpr before) (Nat.le_add_right _ _)
    refine ⟨fun other => ?_, nodup_of_ascending order, order⟩
    rw [List.mem_append, List.mem_append, listed.mem]

theorem unique (listed : FirstSeen items seen) (other : FirstSeen items others) :
    seen = others :=
  eq_of_ascending listed.order other.order fun item => (listed.mem item).trans (other.mem item).symm

end FirstSeen

theorem firstSeen_foldl_addNew (items : List α) : FirstSeen items (items.foldl addNew []) := by
  induction items using List.reverseRecOn with
  | nil => exact ⟨fun _ => Iff.rfl, List.nodup_nil, List.Pairwise.nil⟩
  | append_singleton items item ih =>
    rw [List.foldl_append]
    exact ih.add item

theorem eraseDups_concat (items : List α) (item : α) :
    (items ++ [item]).eraseDups =
      if item ∈ items then items.eraseDups else items.eraseDups ++ [item] := by
  rw [List.eraseDups_append]
  by_cases known : item ∈ items
  · simp [known, List.removeAll]
  · simp [known, List.removeAll, List.eraseDups_cons]

theorem firstSeen_eraseDups (items : List α) : FirstSeen items items.eraseDups := by
  induction items using List.reverseRecOn with
  | nil => exact firstSeen_foldl_addNew []
  | append_singleton items item ih =>
    rw [eraseDups_concat]
    simpa only [addNew, List.mem_eraseDups] using ih.add item

/-- The loop over the records, with a loop over the names of each, adds all names one by one. -/
theorem fieldNames_eq_foldl (corpus : Corpus) :
    corpus.fieldNames = (corpus.records.flatMap Record.names).foldl addNew [] :=
  List.foldl_flatMap.symm

theorem firstSeen_fieldNames (corpus : Corpus) :
    FirstSeen (corpus.records.flatMap Record.names) corpus.fieldNames := by
  rw [fieldNames_eq_foldl]
  exact firstSeen_foldl_addNew _

end LogSearch
