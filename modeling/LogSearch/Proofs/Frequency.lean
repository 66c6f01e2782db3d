import LogSearch.Mission
import LogSearch.Proofs.FirstSeen
import LogSearch.Proofs.Grammar

/-!
# The address that most entries share

Addresses are counted one by one, and the counts are then compared one by one. The congratulation on
failed logins names the address that most entries share, if it is shared at all.

* `sharing entries ip`: the number of entries with an address.
* `MostShared entries ip count`: the address that most entries share, and of several the one that is
  seen first.
* `noticeText`, `compareText`: the congratulation with an address and the one without.

Results:
1. `foldl_tally`: after any texts, each of them stands in the table once, by first occurrence, with
   the number of its occurrences.
2. `eq_append_of_foldl_moreFrequent`: the best count is larger than all before it, and none after it
   is larger.
3. `mostCommonIp_eq_some_iff`, `mostCommonIp_eq_none_iff`: so the address that is found is the one
   that most entries share.
4. `noticeText_inj`: the congratulation tells which address it names, and with which count.
5. `mostCommonIp_exact`: the address and the congratulation.
-/

namespace LogSearch

open Text Mission

/-! ## Specification -/

/-- The number of entries with this address. -/
def sharing (entries : List Entry) (ip : String) : Nat :=
  entries.countP (·.ip = some ip)

/-- The first entry with the address `ip` comes before the first one with the address `other`. -/
def SeenBefore (entries : List Entry) (ip other : String) : Prop :=
  entries.findIdx (·.ip = some ip) < entries.findIdx (·.ip = some other)

/-- So many entries have this address, and no more have any other one. Of several addresses that as
many entries have, it is the one seen first. -/
structure MostShared (entries : List Entry) (ip : String) (count : Nat) : Prop where
  shared : sharing entries ip = count
  pos : 0 < count
  most : ∀ other, sharing entries other ≤ count
  first : ∀ other, other ≠ ip → sharing entries other = count → SeenBefore entries ip other

/-- The congratulation on so many failed logins that names an address and a count. -/
def noticeText (found : Nat) (ip : String) (count : Nat) : String :=
  "🎯 Found " ++ decimalText found ++ " failed events! " ++ "Notice the IP " ++ ip ++ " appears "
    ++ decimalText count ++ " times. That's a pattern worth investigating!"

/-- The congratulation on so many failed logins that names none. -/
def compareText (found : Nat) : String :=
  "🎯 Found " ++ decimalText found ++ " failed events! "
    ++ "Compare their users and IPs for anything that repeats."

/-! ## 1. The table of counts -/

section Table

variable {seen : List String} {text : String} {count : String → Nat}

theorem tally_of_not_mem (new : text ∉ seen) :
    tally (seen.map fun other => (other, count other)) text =
      (seen.map fun other => (other, count other)) ++ [(text, 1)] := by
  induction seen with
  | nil => rfl
  | cons first seen ih =>
    rw [List.mem_cons, not_or] at new
    rw [List.map_cons, tally, if_neg (Ne.symm new.1), ih new.2, List.cons_append]

theorem tally_of_mem (distinct : seen.Nodup) (known : text ∈ seen) :
    tally (seen.map fun other => (other, count other)) text =
      seen.map fun other => (other, if other = text then count other + 1 else count other) := by
  induction seen with
  | nil => cases known
  | cons first seen ih =>
    obtain ⟨new, distinct⟩ := List.nodup_cons.mp distinct
    rw [List.map_cons, List.map_cons, tally]
    by_cases here : first = text
    · subst here
      have others : ∀ other ∈ seen, other ≠ first := fun other member same => new (same ▸ member)
      rw [if_pos rfl, if_pos rfl]
      congr 1
      refine List.map_congr_left fun other member => ?_
      rw [if_neg (others other member)]
    · have later : text ∈ seen := (List.mem_cons.mp known).resolve_left (Ne.symm here)
      rw [if_neg here, if_neg here, ih distinct later]

/-- One more text, counted in a table that is right so far. -/
theorem tally_counts (texts : List String) (text : String) :
    tally (texts.eraseDups.map fun other => (other, texts.count other)) text =
      (texts ++ [text]).eraseDups.map fun other => (other, (texts ++ [text]).count other) := by
  rw [eraseDups_concat]
  by_cases known : text ∈ texts
  · rw [if_pos known,
      tally_of_mem (firstSeen_eraseDups texts).distinct (List.mem_eraseDups.mpr known)]
    refine List.map_congr_left fun other _ => ?_
    rw [List.count_append, List.count_singleton]
    by_cases same : other = text
    · simp [same]
    · simp [same, Ne.symm same]
  · rw [if_neg known, tally_of_not_mem fun member => known (List.mem_eraseDups.mp member),
      List.map_append]
    congr 1
    · refine List.map_congr_left fun other member => ?_
      have different : text ≠ other := by
        rintro rfl
        exact known (List.mem_eraseDups.mp member)
      rw [List.count_append, List.count_singleton]
      simp [different]
    · rw [List.map_singleton, List.count_append, List.count_eq_zero.mpr known,
        List.count_singleton_self]

theorem foldl_tally (texts : List String) :
    texts.foldl tally [] = texts.eraseDups.map fun text => (text, texts.count text) := by
  induction texts using List.reverseRecOn with
  | nil => rfl
  | append_singleton texts text ih =>
    rw [List.foldl_append, ih, List.foldl_cons, List.foldl_nil, tally_counts]

end Table

/-! ## 2. The best count -/

section Best

variable {counts : List (String × Nat)} {text : String} {count : Nat}

theorem moreFrequent_ne_none (best : Option (String × Nat)) (next : String × Nat) :
    moreFrequent best next ≠ none := by
  rcases best with _ | best
  · exact Option.some_ne_none _
  · rw [moreFrequent]
    split
    · exact Option.some_ne_none _
    · exact Option.some_ne_none _

theorem foldl_moreFrequent_eq_none_iff : counts.foldl moreFrequent none = none ↔ counts = [] := by
  refine ⟨fun none => ?_, fun empty => empty ▸ rfl⟩
  induction counts using List.reverseRecOn with
  | nil => rfl
  | append_singleton counts last _ =>
    rw [List.foldl_append] at none
    exact absurd none (moreFrequent_ne_none _ last)

/-- A count takes the lead only from smaller ones, and keeps it against equal ones. -/
theorem eq_append_of_foldl_moreFrequent
    (best : counts.foldl moreFrequent none = some (text, count)) :
    ∃ before after, counts = before ++ (text, count) :: after ∧
      (∀ other ∈ before, other.2 < count) ∧ ∀ other ∈ after, other.2 ≤ count := by
  induction counts using List.reverseRecOn generalizing text count with
  | nil => cases best
  | append_singleton counts last ih =>
    rw [List.foldl_append, List.foldl_cons, List.foldl_nil] at best
    cases leader : counts.foldl moreFrequent none with
    | none =>
      rw [leader] at best
      cases best
      rw [foldl_moreFrequent_eq_none_iff.mp leader]
      exact ⟨[], [], rfl, fun _ member => absurd member List.not_mem_nil,
        fun _ member => absurd member List.not_mem_nil⟩
    | some pair =>
      obtain ⟨before, after, rfl, smaller, within⟩ := ih leader
      rw [leader, moreFrequent] at best
      split at best
      · rename_i least
        cases best
        refine ⟨before, after ++ [last], by simp, smaller, fun other member => ?_⟩
        rcases List.mem_append.mp member with inside | is
        · exact within other inside
        · rwa [List.mem_singleton.mp is]
      · rename_i larger
        cases best
        have overtaken : pair.2 < count := Nat.lt_of_not_le larger
        refine ⟨_, [], rfl, fun other member => ?_, fun _ member => absurd member List.not_mem_nil⟩
        rcases List.mem_append.mp member with inside | inside
        · exact (smaller other inside).trans overtaken
        · rcases List.mem_cons.mp inside with rfl | inside
          · exact overtaken
          · exact (within other inside).trans_lt overtaken

end Best

/-! ## 3. Addresses of entries -/

section Entries

variable {entries : List Entry} {ip other : String} {count : Nat}

theorem count_filterMap_ip (entries : List Entry) (ip : String) :
    (entries.filterMap Entry.ip).count ip = sharing entries ip := by
  rw [List.count_filterMap, sharing]
  exact List.countP_congr fun entry _ => by rw [beq_iff_eq, decide_eq_true_eq]

/-- Entries without an address do not change which address is seen first. -/
theorem seenBefore_of_idxOf_lt
    (before : (entries.filterMap Entry.ip).idxOf ip < (entries.filterMap Entry.ip).idxOf other) :
    SeenBefore entries ip other := by
  rw [SeenBefore]
  induction entries with
  | nil => exact absurd before (Nat.lt_irrefl _)
  | cons entry entries ih =>
    rw [List.findIdx_cons, List.findIdx_cons]
    cases address : entry.ip with
    | none =>
      rw [List.filterMap_cons_none address] at before
      simpa using ih before
    | some seen =>
      rw [List.filterMap_cons_some address, List.idxOf_cons, List.idxOf_cons] at before
      by_cases here : seen = ip
      · subst here
        have different : seen ≠ other := by
          rintro rfl
          exact Nat.lt_irrefl _ before
        simp [different]
      · by_cases there : seen = other
        · simp [there] at before
        · simp only [beq_false_of_ne here, beq_false_of_ne there, cond_false] at before
          simpa [here, there] using ih (Nat.lt_of_succ_lt_succ before)

theorem mostCommonIp_eq_none_iff :
    mostCommonIp entries = none ↔ ∀ entry ∈ entries, entry.ip = none := by
  rw [mostCommonIp, mostFrequent, foldl_tally, foldl_moreFrequent_eq_none_iff, List.map_eq_nil_iff,
    ← List.filterMap_eq_nil_iff]
  simp only [List.eq_nil_iff_forall_not_mem, List.mem_eraseDups]

/-- In a table that is right, the leading address is the one that most entries share. -/
theorem mostShared_of_mostCommonIp (found : mostCommonIp entries = some (ip, count)) :
    MostShared entries ip count := by
  rw [mostCommonIp, mostFrequent, foldl_tally] at found
  obtain ⟨_, _, table, smaller, within⟩ := eq_append_of_foldl_moreFrequent found
  obtain ⟨before, _, seen, rfl, whole⟩ := List.map_eq_append_iff.mp table
  obtain ⟨leader, after, rfl, here, rfl⟩ := List.map_eq_cons_iff.mp whole
  obtain ⟨same, counted⟩ := Prod.mk.inj here
  subst leader
  have listed := firstSeen_eraseDups (entries.filterMap Entry.ip)
  rw [seen] at listed
  simp only [List.forall_mem_map, count_filterMap_ip] at smaller within counted
  -- Any other address of an entry stands in the table before the leading one, or after it.
  have place (other : String) (shared : 0 < sharing entries other) (different : other ≠ ip) :
      other ∈ before ∨ other ∈ after := by
    rw [← count_filterMap_ip, List.count_pos_iff, ← listed.mem, List.mem_append,
      List.mem_cons] at shared
    exact shared.imp_right (Or.resolve_left · different)
  have pos : 0 < count := by
    rw [← counted, ← count_filterMap_ip, List.count_pos_iff, ← listed.mem]
    exact List.mem_append_right _ List.mem_cons_self
  refine ⟨counted, pos, fun other => ?most, fun other different equal => ?first⟩
  case most =>
    rcases Nat.eq_zero_or_pos (sharing entries other) with none | shared
    · exact none ▸ Nat.zero_le _
    · by_cases same : other = ip
      · exact Nat.le_of_eq (same ▸ counted)
      · rcases place other shared same with early | late
        · exact Nat.le_of_lt (smaller other early)
        · exact within other late
  case first =>
    rcases place other (equal ▸ pos) different with early | late
    · exact absurd equal (Nat.ne_of_lt (smaller other early))
    · exact seenBefore_of_idxOf_lt
        ((List.pairwise_cons.mp (List.pairwise_append.mp listed.order).2.1).1 other late)

theorem MostShared.unique {otherCount : Nat} (is : MostShared entries ip count)
    (other_is : MostShared entries other otherCount) : ip = other ∧ count = otherCount := by
  have same : count = otherCount :=
    Nat.le_antisymm (is.shared ▸ other_is.most ip) (other_is.shared ▸ is.most other)
  subst same
  refine ⟨by_contra fun different => ?_, rfl⟩
  exact Nat.lt_asymm (is.first other (Ne.symm different) other_is.shared)
    (other_is.first ip different is.shared)

theorem exists_mostCommonIp (shared : 0 < sharing entries ip) :
    ∃ best most, mostCommonIp entries = some (best, most) := by
  cases found : mostCommonIp entries with
  | none =>
    obtain ⟨entry, member, address⟩ := List.countP_pos_iff.mp shared
    rw [mostCommonIp_eq_none_iff.mp found entry member] at address
    cases of_decide_eq_true address
  | some pair => exact ⟨_, _, rfl⟩

theorem mostCommonIp_eq_some_iff :
    mostCommonIp entries = some (ip, count) ↔ MostShared entries ip count := by
  refine ⟨mostShared_of_mostCommonIp, fun is => ?_⟩
  obtain ⟨best, most, found⟩ := exists_mostCommonIp (is.shared ▸ is.pos)
  obtain ⟨rfl, rfl⟩ := is.unique (mostShared_of_mostCommonIp found)
  exact found

end Entries

/-! ## 4. The congratulation -/

section Congratulation

variable {found count otherCount : Nat} {ip other : String}

/-- The digits at the end of a text are the longest run of digits there. -/
theorem append_decimal_inj {before before' : List Char} {n m : Nat}
    (stop : ∀ c ∈ before.getLast?, c.isDigit = false)
    (stop' : ∀ c ∈ before'.getLast?, c.isDigit = false)
    (same : before ++ decimal n = before' ++ decimal m) : before = before' ∧ n = m := by
  have run (k : Nat) : Clause.Run Char.isDigit (decimal k).reverse := by
    refine ⟨by simpa using decimal_ne_nil k, fun c member => ?_⟩
    exact isDigit_of_mem_decimal (List.mem_reverse.mp member)
  have reversed :
      (decimal n).reverse ++ before.reverse = (decimal m).reverse ++ before'.reverse := by
    rw [← List.reverse_append, ← List.reverse_append, same]
  obtain ⟨digits, rest⟩ := (run n).append_inj (run m) (by simpa using stop) (by simpa using stop')
    reversed
  refine ⟨List.reverse_inj.mp rest, ?_⟩
  rw [← digitsValue_decimal n, List.reverse_inj.mp digits, digitsValue_decimal]

/-- The start of both texts. -/
def foundText (found : Nat) : String :=
  "🎯 Found " ++ decimalText found ++ " failed events! "

theorem toList_noticeText (found : Nat) (ip : String) (count : Nat) :
    (noticeText found ip count).toList = (foundText found).toList ++ ("Notice the IP ".toList ++
      ((ip.toList ++ " appears ".toList) ++ decimal count ++
        " times. That's a pattern worth investigating!".toList)) := by
  have counted : (decimalText count).toList = decimal count := String.toList_ofList
  delta noticeText foundText
  simp only [String.toList_append, counted, List.append_assoc]

theorem toList_compareText (found : Nat) :
    (compareText found).toList = (foundText found).toList ++
      "Compare their users and IPs for anything that repeats.".toList :=
  String.toList_append

theorem noticeText_inj (same : noticeText found ip count = noticeText found other otherCount) :
    ip = other ∧ count = otherCount := by
  have texts := congrArg String.toList same
  rw [toList_noticeText, toList_noticeText] at texts
  have inner := List.append_cancel_right
    (List.append_cancel_left (List.append_cancel_left texts))
  have last : " appears ".toList.getLast? = some ' ' := by decide
  have stop (ip : String) :
      ∀ c ∈ (ip.toList ++ " appears ".toList).getLast?, c.isDigit = false := by
    rw [List.getLast?_append_of_ne_nil _ (by decide), last]
    rintro _ ⟨⟩
    decide
  obtain ⟨addresses, counts⟩ := append_decimal_inj (stop ip) (stop other) inner
  exact ⟨String.toList_inj.mp (List.append_cancel_right addresses), counts⟩

theorem noticeText_ne_compareText : noticeText found ip count ≠ compareText found := by
  intro same
  have texts := congrArg String.toList same
  rw [toList_noticeText, toList_compareText] at texts
  have words := List.append_cancel_left texts
  have first : some 'N' = some 'C' := congrArg List.head? words
  exact absurd first (by decide)

variable {entries : List Entry}

/-- How a player is congratulated on failed logins. -/
theorem solvedFeedback_failedLogins (entries : List Entry) :
    solvedFeedback (some "mission03") entries =
      match mostCommonIp entries with
      | some (ip, count) =>
        if 1 < count then noticeText entries.length ip count else compareText entries.length
      | none => compareText entries.length :=
  rfl

theorem solvedFeedback_eq_noticeText_iff :
    solvedFeedback (some "mission03") entries = noticeText entries.length ip count ↔
      MostShared entries ip count ∧ 1 < count := by
  rw [solvedFeedback_failedLogins, ← mostCommonIp_eq_some_iff]
  cases mostCommonIp entries with
  | none => simp [noticeText_ne_compareText.symm]
  | some pair =>
    obtain ⟨best, most⟩ := pair
    by_cases repeated : 1 < most
    · simp only [if_pos repeated, Option.some.injEq, Prod.mk.injEq]
      constructor
      · intro same
        obtain ⟨rfl, rfl⟩ := noticeText_inj same
        exact ⟨⟨rfl, rfl⟩, repeated⟩
      · rintro ⟨⟨rfl, rfl⟩, -⟩
        rfl
    · simp only [if_neg repeated, Option.some.injEq, Prod.mk.injEq]
      constructor
      · exact fun same => absurd same.symm noticeText_ne_compareText
      · rintro ⟨⟨rfl, rfl⟩, more⟩
        exact absurd more repeated

/-- An address is named as soon as some address occurs twice. -/
theorem exists_noticeText_iff :
    (∃ ip count, solvedFeedback (some "mission03") entries = noticeText entries.length ip count) ↔
      ∃ ip, 1 < sharing entries ip := by
  simp only [solvedFeedback_eq_noticeText_iff]
  constructor
  · rintro ⟨ip, count, is, repeated⟩
    exact ⟨ip, is.shared ▸ repeated⟩
  · rintro ⟨ip, repeated⟩
    obtain ⟨best, most, found⟩ := exists_mostCommonIp (Nat.zero_lt_of_lt repeated)
    have is := mostShared_of_mostCommonIp found
    exact ⟨best, most, is, repeated.trans_le (is.most ip)⟩

theorem solvedFeedback_eq_compareText_iff :
    solvedFeedback (some "mission03") entries = compareText entries.length ↔
      ¬ ∃ ip count, solvedFeedback (some "mission03") entries =
        noticeText entries.length ip count := by
  constructor
  · rintro compare ⟨ip, count, notice⟩
    exact noticeText_ne_compareText (notice.symm.trans compare)
  · intro silent
    rw [solvedFeedback_failedLogins] at silent ⊢
    split
    · rename_i ip count found
      rw [found] at silent
      by_cases repeated : 1 < count
      · exact absurd ⟨ip, count, if_pos repeated⟩ silent
      · exact if_neg repeated
    · rfl

end Congratulation

/-! ## 5. The address and the congratulation -/

/-- No address is found only if no entry has one. Otherwise it is the address that most entries
share, with the number of those, and of several the one seen first. On failed logins the player is
told an address with a count exactly if it is this one and the count is more than one, so that one
is told as soon as any address occurs twice. Otherwise the text names none. -/
theorem mostCommonIp_exact (entries : List Entry) :
    (mostCommonIp entries = none ↔ ∀ entry ∈ entries, entry.ip = none) ∧
    (∀ ip count, mostCommonIp entries = some (ip, count) ↔ MostShared entries ip count) ∧
    (∀ ip count, solvedFeedback (some "mission03") entries = noticeText entries.length ip count ↔
      MostShared entries ip count ∧ 1 < count) ∧
    ((∃ ip count, solvedFeedback (some "mission03") entries = noticeText entries.length ip count) ↔
      ∃ ip, 1 < sharing entries ip) ∧
    (solvedFeedback (some "mission03") entries = compareText entries.length ↔
      ¬ ∃ ip, 1 < sharing entries ip) :=
  ⟨mostCommonIp_eq_none_iff, fun _ _ => mostCommonIp_eq_some_iff,
    fun _ _ => solvedFeedback_eq_noticeText_iff, exists_noticeText_iff,
    solvedFeedback_eq_compareText_iff.trans (not_congr exists_noticeText_iff)⟩

/-- Of two addresses with two entries each, the one that is seen first is found, and it is not the
one that is complete first. An entry without an address counts for none. -/
example :
    let addresses := [none, some "b", some "a", none, some "a", some "b", none]
    mostCommonIp (addresses.map fun ip => ⟨none, none, none, none, none, ip, none⟩) =
      some ("b", 2) := by decide

end LogSearch
