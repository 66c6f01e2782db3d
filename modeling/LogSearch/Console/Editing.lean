import LogSearch.Text.Cluster

/-!
# Line editing

A line of an interactive session may hold backspaces. Each takes back the cluster that was written
last and is not taken back yet; with none left it does nothing.

* `edited?` gives the line that remains. A line without backspaces stays as it is
  (`edited?_eq_self`).
* The width of a cluster is kept in one byte, so a cluster of 256 bytes or more is taken back in
  part only. There is no remaining line if that would cut a character in two.
-/

namespace LogSearch.Console

open Text

/-- The character that takes back what was written. -/
def backspace : Char := '\x08'

/-- A line that is being written. -/
structure Draft where
  /-- The characters, nearest first. -/
  kept : List Char
  /-- The widths of the clusters that can be taken back, nearest first. -/
  widths : List UInt8
deriving DecidableEq, Repr

/-- Takes bytes off a text, which is given nearest first; nothing if a character would be cut. -/
def takeOff? : Nat → List Char → Option (List Char)
  | 0, kept => some kept
  | _, [] => some []
  | width, c :: kept => if c.utf8Size ≤ width then takeOff? (width - c.utf8Size) kept else none

/-- Adds a cluster. -/
def Draft.write (draft : Draft) (cluster : List Char) : Draft where
  kept := cluster.reverse ++ draft.kept
  widths := .ofNat (String.ofList cluster).utf8ByteSize :: draft.widths

/-- Takes the last cluster back. -/
def Draft.takeBack? (draft : Draft) : Option Draft :=
  match draft.widths with
  | [] => some draft
  | width :: widths => (takeOff? width.toNat draft.kept).map (⟨·, widths⟩)

/-- Reads a cluster of the input. -/
def Draft.read? (draft : Draft) (cluster : List Char) : Option Draft :=
  if cluster = [backspace] then draft.takeBack? else some (draft.write cluster)

/-- The line that remains of an input. -/
def edited? (line : List Char) : Option (List Char) :=
  ((clusters line).foldlM Draft.read? ⟨[], []⟩).map (·.kept.reverse)

/-! ## Lines without backspaces -/

theorem foldlM_read?_eq_some {input : List (List Char)} (h : [backspace] ∉ input) (draft : Draft) :
    (input.foldlM Draft.read? draft).map (·.kept.reverse)
      = some (draft.kept.reverse ++ input.flatten) := by
  induction input generalizing draft with
  | nil => simp
  | cons cluster rest ih =>
    have hc : cluster ≠ [backspace] := fun hc => h (hc ▸ List.mem_cons_self)
    rw [List.foldlM_cons, Draft.read?, if_neg hc]
    refine (ih (fun hr => h (List.mem_cons_of_mem _ hr)) _).trans ?_
    simp [Draft.write]

/-- A line without backspaces stays as it is. -/
theorem edited?_eq_self {line : List Char} (h : backspace ∉ line) : edited? line = some line := by
  have hc : [backspace] ∉ clusters line := fun hc =>
    h (flatten_clusters line ▸ List.mem_flatten.2 ⟨_, hc, List.mem_singleton_self _⟩)
  exact (foldlM_read?_eq_some hc ⟨[], []⟩).trans (by simp)

example : edited? "abc\x08\x08\x08\x08user".toList = some "user".toList := by decide +kernel
example : edited? "zze\u0301\x08y".toList = some "zzy".toList := by decide +kernel
example : edited? ('a' :: List.replicate 128 '\u0301' ++ ['\x08']) = none := by decide +kernel

end LogSearch.Console
