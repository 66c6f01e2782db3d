import LogSearch.Console.Session
import LogSearch.Proofs.Search

/-!
# Sessions line by line

A session answers each line as if it were the only query, under the mission that is in force there.
The lines before it matter only for that mission, and the lines after the first `quit` not at all.

Results:
1. `newMission?_ne_empty`: a mission command that names a mission does not name the empty one.
2. `respond_eq`: what one line prints, and the mission after it.
3. `respondAll_eq`: so what the lines print one after the other.
4. `session_transcript`: the whole session.
-/

namespace LogSearch.Console

open Text

/-! ## Specification -/

/-- The line ends the session. -/
def Quits (line : String) : Prop :=
  trim line.toList = ['q', 'u', 'i', 't'] ∨ trim line.toList = ['q']

/-- The line is blank or a mission command. -/
def Silent (line : String) : Prop :=
  trim line.toList = [] ∨ trim line.toList = missionWord ∨
    missionWord ++ [' '] <+: trim line.toList

instance (line : String) : Decidable (Quits line) :=
  inferInstanceAs (Decidable (_ ∨ _))

instance (line : String) : Decidable (Silent line) :=
  inferInstanceAs (Decidable (_ ∨ _ ∨ _))

/-- The lines before the end of the session. -/
def heard (lines : List String) : List String :=
  lines.takeWhile (¬ Quits ·)

/-- The mission that a line sets, if it sets one: that of the argument, or none. -/
def newMission? (line : String) : Option (Option String) :=
  if trim line.toList = missionWord then some none
  else if missionWord ++ [' '] <+: trim line.toList then
    some (some (.ofList (trim ((trim line.toList).drop (missionWord ++ [' ']).length))))
  else none

/-- The mission in force after the lines: the latest one that was set. -/
def missionAfter (initial : Option String) (lines : List String) : Option String :=
  (lines.filterMap newMission?).getLast?.getD initial

/-- What a line prints: nothing if it is silent, and otherwise what it prints as the only query,
with an empty line after it. -/
def Display.reply (display : Display) (mission : Option String) (line : String) : List Line :=
  if Silent line then [] else display.run line mission ++ [.text ""]

/-! ## 1. Missions -/

variable {display : Display} {mission initial : Option String} {line : String}

/-- The text of a command ends with no white space, and so its argument is not blank. -/
theorem newMission?_ne_empty {id : String} (sets : newMission? line = some (some id)) :
    id ≠ "" := by
  unfold newMission? at sets
  split at sets
  · cases sets
  split at sets
  · rename_i command
    obtain rfl := Option.some.inj (Option.some.inj sets)
    obtain ⟨argument, parts⟩ := command
    rw [← parts, List.drop_left]
    intro empty
    have blank : isBlankText argument = true := by
      rw [← trim_eq_nil_iff]
      simpa using congrArg String.toList empty
    have bare := bare_trim line.toList
    rw [← parts] at bare
    rcases List.eq_nil_or_concat argument with rfl | ⟨init, last, rfl⟩
    · exact absurd (bare.2 ' ' rfl) (by decide)
    · have ends := bare.2 last (by rw [List.getLast?_append_of_ne_nil _ (by simp)]; simp)
      rw [List.all_eq_true.mp blank last (by simp)] at ends
      cases ends
  · cases sets

theorem missionAfter_cons (initial : Option String) (line : String) (lines : List String) :
    missionAfter initial (line :: lines) =
      missionAfter ((newMission? line).getD initial) lines := by
  unfold missionAfter
  cases sets : newMission? line with
  | none => rw [List.filterMap_cons_none sets, Option.getD_none]
  | some mission =>
    rw [List.filterMap_cons_some sets, Option.getD_some, List.getLast?_cons, Option.getD_some]

/-! ## 2. One line -/

/-- Of a query only the trimmed text matters. -/
theorem run_trim (display : Display) (line : String) (mission : Option String) :
    display.run (.ofList (trim line.toList)) mission = display.run line mission := by
  have same : display.archive.search (.ofList (trim line.toList)) mission display.maxResults =
      display.archive.search line mission display.maxResults := by
    refine Archive.search_congr ?_
    rw [String.toList_ofList, trim_trim]
  rw [Display.run, Display.run, same]

/-- A line that is neither blank nor the end of the session is a mission command or a query. -/
theorem parse_eq (nonempty : trim line.toList ≠ []) (stays : ¬ Quits line) :
    Command.parse line =
      match newMission? line with
      | some mission => .setMission mission
      | none => .search (.ofList (trim line.toList)) := by
  rw [Quits] at stays
  simp only [Command.parse, List.isEmpty_iff, if_neg nonempty, if_neg stays, literal?,
    List.isPrefixOf_iff_prefix]
  rw [newMission?]
  by_cases bare : trim line.toList = missionWord
  · rw [if_pos bare, if_pos bare]
  by_cases command : missionWord ++ [' '] <+: trim line.toList
  · rw [if_neg bare, if_neg bare, if_pos command, if_pos command]
  · rw [if_neg bare, if_neg bare, if_neg command, if_neg command]

theorem silent_of_newMission? {next : Option String} (sets : newMission? line = some next) :
    Silent line := by
  unfold newMission? at sets
  split at sets
  · rename_i bare
    exact .inr (.inl bare)
  split at sets
  · rename_i command
    exact .inr (.inr command)
  · cases sets

theorem not_silent_of_newMission? (nonempty : trim line.toList ≠ [])
    (sets : newMission? line = none) : ¬ Silent line := by
  rintro (empty | bare | command)
  · exact nonempty empty
  · rw [newMission?, if_pos bare] at sets
    cases sets
  · rw [newMission?, if_pos command] at sets
    split at sets <;> cases sets

theorem respond_eq (display : Display) (mission : Option String) (line : String) :
    display.respond mission line =
      if Quits line then none
      else some (display.reply mission line, (newMission? line).getD mission) := by
  by_cases empty : trim line.toList = []
  · have stays : ¬ Quits line := by simp [Quits, empty]
    have sets : newMission? line = none := by simp [newMission?, empty, missionWord]
    have nothing : Command.parse line = .nothing := by simp [Command.parse, empty]
    rw [Display.respond, nothing, if_neg stays, sets, Display.reply, if_pos (.inl empty)]
    rfl
  by_cases quits : Quits line
  · have quit : Command.parse line = .quit := by
      simp only [Command.parse, List.isEmpty_iff, if_neg empty]
      exact if_pos quits
    rw [Display.respond, quit, if_pos quits]
  · rw [Display.respond, parse_eq empty quits, if_neg quits, Display.reply]
    cases sets : newMission? line with
    | some next => rw [if_pos (silent_of_newMission? sets)]; rfl
    | none => rw [if_neg (not_silent_of_newMission? empty sets), ← run_trim]; rfl

/-! ## 3. All lines -/

theorem heard_cons_of_quits (quits : Quits line) (lines : List String) :
    heard (line :: lines) = [] :=
  List.takeWhile_cons_of_neg (by simp [quits])

theorem heard_cons_of_not_quits (stays : ¬ Quits line) (lines : List String) :
    heard (line :: lines) = line :: heard lines :=
  List.takeWhile_cons_of_pos (by simp [stays])

theorem heard_append_of_quits (quits : Quits line) (lines later : List String) :
    heard (lines ++ line :: later) = heard lines := by
  induction lines with
  | nil => exact heard_cons_of_quits quits later
  | cons other lines ih =>
    rw [List.cons_append]
    by_cases sooner : Quits other
    · rw [heard_cons_of_quits sooner, heard_cons_of_quits sooner]
    · rw [heard_cons_of_not_quits sooner, heard_cons_of_not_quits sooner, ih]

/-- Each line is answered under the mission that the lines before it leave in force. -/
theorem respondAll_eq (display : Display) (initial : Option String) (lines : List String) :
    display.respondAll initial lines =
      (heard lines).zipIdx.flatMap fun (line, place) =>
        display.reply (missionAfter initial ((heard lines).take place)) line := by
  induction lines generalizing initial with
  | nil => rfl
  | cons line lines ih =>
    rw [Display.respondAll, respond_eq]
    by_cases quits : Quits line
    · rw [if_pos quits, heard_cons_of_quits quits]
      rfl
    · rw [if_neg quits, heard_cons_of_not_quits quits]
      simp only [ih, List.zipIdx_cons, List.zipIdx_succ, List.flatMap_cons, List.flatMap_map,
        List.take_succ_cons, missionAfter_cons]
      rfl

/-! ## 4. The session -/

/-- A session prints its welcome, and then answers line by line until one ends it.

* A blank line and a mission command print nothing. Any other line prints what it prints as the only
  query, under the mission in force, and an empty line.
* The mission in force is the latest one that was set by the lines before, or cleared by them, and
  the initial one before that.
* What follows the line that ends the session does not matter.
* No command names the empty mission. -/
theorem session_transcript (display : Display) (initial : Option String) (lines : List String) :
    (display.session initial lines =
      .text welcome :: (heard lines).zipIdx.flatMap fun (line, place) =>
        display.reply (missionAfter initial ((heard lines).take place)) line) ∧
    (∀ quit later, Quits quit →
      display.session initial (lines ++ quit :: later) = display.session initial lines) ∧
    (∀ line id, newMission? line = some (some id) → id ≠ "") := by
  have transcript := respondAll_eq display initial
  refine ⟨?_, fun quit later quits => ?_, fun line id => newMission?_ne_empty⟩
  · rw [Display.session, transcript]
  · rw [Display.session, Display.session, transcript, transcript,
      heard_append_of_quits quits]

/-- A line that only looks like a command, a command with white space around its argument, a query,
and the end, after which a mission is set in vain. -/
theorem session_transcript_ended :
    let display : Display := ⟨.training .lenient, 100, false⟩
    let lines := ["mission\tx", " mission  x ", "status:failed"]
    Quits " q\t" ∧
    display.session none (lines ++ " q\t" :: ["mission", "hour:23"]) =
      .text welcome :: (display.run "mission\tx" none ++ [.text ""]
        ++ (display.run "status:failed" (some "x") ++ [.text ""])) ∧
    newMission? " mission  x " = some (some "x") ∧ "x" ≠ "" := by
  intro display lines
  obtain ⟨transcript, ended, named⟩ := session_transcript display none lines
  have quits : Quits " q\t" := by decide
  have sets : newMission? " mission  x " = some (some "x") := by decide
  refine ⟨quits, ?_, sets, named _ _ sets⟩
  have all : heard lines = lines := by decide
  have near : display.reply none "mission\tx" = display.run "mission\tx" none ++ [.text ""] :=
    if_neg (by decide)
  have command : display.reply (missionAfter none ["mission\tx"]) " mission  x " = [] :=
    if_pos (by decide)
  have inForce : missionAfter none ["mission\tx", " mission  x "] = some "x" := by decide
  have query : display.reply (some "x") "status:failed" =
      display.run "status:failed" (some "x") ++ [.text ""] := if_neg (by decide)
  calc display.session none (lines ++ " q\t" :: ["mission", "hour:23"])
      = .text welcome :: (display.reply none "mission\tx"
          ++ (display.reply (missionAfter none ["mission\tx"]) " mission  x "
          ++ (display.reply (missionAfter none ["mission\tx", " mission  x "]) "status:failed"
          ++ []))) := by rw [ended _ _ quits, transcript, all]; rfl
    _ = _ := by rw [near, command, inForce, query, List.nil_append, List.append_nil]

end LogSearch.Console
