import Mathlib.Data.List.Forall2
import ScorePage.Proofs.Text.Lines

/-! Line endings that count for nothing. A line may have any number of carriage returns and line feeds
behind it, and a text may have a return before each of its line feeds. -/
namespace ScorePage.Text

def Terminated (text longer : List Char) : Prop :=
  ∃ ending, (∀ c ∈ ending, isLineEnding c = true) ∧ longer = text ++ ending

theorem terminatedCons {text longer : List Char} (terminated : Terminated text longer) (c : Char) :
    Terminated (c :: text) (c :: longer) := by
  obtain ⟨ending, closing, rfl⟩ := terminated
  exact ⟨ending, closing, rfl⟩

theorem terminatedSame (text : List Char) : Terminated text text := ⟨[], by simp⟩

theorem terminatedReturn (text : List Char) : Terminated text (text ++ ['\r']) :=
  ⟨['\r'], by simp [isLineEnding], rfl⟩

theorem returnTerminated (line : List Char) : Terminated (dropReturn line) line := by
  unfold dropReturn
  split
  · rename_i last
    obtain ⟨front, rfl⟩ := List.getLast?_eq_some_iff.mp last
    rw [List.dropLast_concat]
    exact terminatedReturn front
  · exact terminatedSame line

theorem tabFieldsTerminated {line longer : List Char} (terminated : Terminated line longer) :
    tabFields longer = tabFields line := by
  obtain ⟨ending, closing, rfl⟩ := terminated
  rw [tabFields, dropEndWhileMore closing, tabFields]

theorem blankTerminated {line longer : List Char} (terminated : Terminated line longer) :
    isBlankText longer = isBlankText line := by
  obtain ⟨ending, closing, rfl⟩ := terminated
  have blank : isBlankText ending = true := by
    rw [isBlankText, List.all_eq_true]
    intro c member
    have ends := closing c member
    simp only [isLineEnding, Bool.or_eq_true, beq_iff_eq] at ends
    rcases ends with rfl | rfl <;> rfl
  rw [isBlankText] at blank ⊢
  rw [List.all_append, blank, Bool.and_true, isBlankText]

def withReturns (text : List Char) : List Char :=
  text.flatMap fun c => if c = '\n' then ['\r', '\n'] else [c]

theorem terminatedHead {parts longer : List (List Char)}
    (terminated : List.Forall₂ Terminated parts longer) (c : Char) :
    List.Forall₂ Terminated (parts.modifyHead (List.cons c)) (longer.modifyHead (List.cons c)) := by
  cases terminated with
  | nil => exact .nil
  | cons first others => exact .cons (terminatedCons first c) others

theorem partsWithReturns (text : List Char) :
    List.Forall₂ Terminated (text.splitOn '\n') ((withReturns text).splitOn '\n') := by
  -- By induction on the text: a part is ended by the return that is put before its line feed.
  induction text with
  | nil => exact .cons (terminatedSame []) .nil
  | cons c rest ih =>
    by_cases feed : c = '\n'
    · subst feed
      have split : (withReturns ('\n' :: rest)).splitOn '\n' =
          ['\r'] :: (withReturns rest).splitOn '\n' :=
        List.splitOn_append_cons_self_of_not_mem (by decide : '\n' ∉ ['\r']) (withReturns rest)
      rw [split, List.splitOn_cons_eq_if_modifyHead]
      exact .cons (terminatedReturn []) ih
    · have kept : withReturns (c :: rest) = c :: withReturns rest := by simp [withReturns, feed]
      rw [kept, List.splitOn_cons_eq_if_modifyHead, List.splitOn_cons_eq_if_modifyHead]
      rw [if_neg (by simpa using feed), if_neg (by simpa using feed)]
      exact terminatedHead ih c

end ScorePage.Text
