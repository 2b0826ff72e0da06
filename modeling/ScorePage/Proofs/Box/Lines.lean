import ScorePage.Box.StaffData
import ScorePage.Proofs.Result
import ScorePage.Proofs.Text.Endings

/-! Staff data line by line. Reading it comes down to reading the parts between its line feeds, so two
texts behind one another are read one after the other, and the returns at the ends of lines do not
matter. Blank lines hold no box but count, so a fault is told with its place in the whole text. -/
namespace ScorePage
open Text

def Fault.linesLater (count : Nat) : Fault → Fault
  | .staffLine line fault => .staffLine (line + count) fault
  | fault => fault

theorem linesLaterTwice (count more : Nat) (fault : Fault) :
    (fault.linesLater more).linesLater count = fault.linesLater (count + more) := by
  cases fault with
  | staffLine line fault => simp [Fault.linesLater, Nat.add_comm count more, Nat.add_assoc]
  | _ => rfl

namespace Box

def ofLines (number : Nat) (lines : List (List Char)) : Except Fault (List Box) :=
  ((lines.zipIdx number).filter fun (line, _) => !isBlankText line).mapM
    fun (line, number) => ofLine number line

def readBehind (count : Nat) : Except Fault (List Box) → Except Fault (List Box) →
    Except Fault (List Box)
  | .error fault, _ => .error fault
  | .ok _, .error fault => .error (fault.linesLater count)
  | .ok boxes, .ok others => .ok (boxes ++ others)

variable {number : Nat} {line longer : List Char} {rest others : List (List Char)}

theorem ofLinesBlank (blank : isBlankText line = true) :
    ofLines number (line :: rest) = ofLines (number + 1) rest := by
  simp [ofLines, blank]

theorem ofLinesFilled (filled : isBlankText line = false) :
    ofLines number (line :: rest) = do
      return (← ofLine number line) :: (← ofLines (number + 1) rest) := by
  simp [ofLines, filled]

theorem ofLineTerminated (terminated : Terminated line longer) :
    ofLine number longer = ofLine number line := by
  rw [ofLine, tabFieldsTerminated terminated, ofLine]

theorem ofLinesHead (terminated : Terminated line longer)
    (same : ofLines (number + 1) others = ofLines (number + 1) rest) :
    ofLines number (longer :: others) = ofLines number (line :: rest) := by
  have alike := blankTerminated terminated
  cases blank : isBlankText line with
  | true => rw [ofLinesBlank blank, ofLinesBlank (alike.trans blank), same]
  | false =>
    rw [ofLinesFilled blank, ofLinesFilled (alike.trans blank), ofLineTerminated terminated, same]

theorem ofLinesTerminated (terminated : List.Forall₂ Terminated rest others) :
    ofLines number others = ofLines number rest := by
  induction terminated generalizing number with
  | nil => rfl
  | cons first _ ih => exact ofLinesHead first ih

/- The return before a line feed may stay, and so may the nothing behind the last one. -/
theorem ofLinesOfParts (parts : List (List Char)) :
    ofLines number (linesOfParts parts) = ofLines number parts := by
  fun_induction linesOfParts parts generalizing number with
  | case1 => rfl
  | case2 last none =>
    rw [List.isEmpty_iff.mp none, ofLinesBlank rfl]
    rfl
  | case3 last filled => rfl
  | case4 part rest more ih => exact (ofLinesHead (returnTerminated part) ih.symm).symm

theorem staffDataParts (content : String) :
    ofStaffData content = ofLines 1 (content.toList.splitOn '\n') :=
  ofLinesOfParts (content.toList.splitOn '\n')

theorem ofLineLater (count : Nat) (line : List Char) :
    ofLine (number + count) line = (ofLine number line).mapError (Fault.linesLater count) := by
  rw [ofLine, ofLine]
  cases ofFields (tabFields line) <;> rfl

theorem ofLinesLater (count : Nat) (lines : List (List Char)) :
    ofLines (number + count) lines = (ofLines number lines).mapError (Fault.linesLater count) := by
  induction lines generalizing number with
  | nil => rfl
  | cons line rest ih =>
    have shifted : ofLines (number + count + 1) rest =
        (ofLines (number + 1) rest).mapError (Fault.linesLater count) := by
      rw [Nat.add_right_comm]
      exact ih
    cases blank : isBlankText line with
    | true => rw [ofLinesBlank blank, ofLinesBlank blank, shifted]
    | false =>
      rw [ofLinesFilled blank, ofLinesFilled blank, shifted, ofLineLater]
      cases ofLine number line with
      | error fault => rfl
      | ok box => cases ofLines (number + 1) rest <;> rfl

theorem ofLinesAppend (lines others : List (List Char)) :
    ofLines number (lines ++ others) =
      readBehind lines.length (ofLines number lines) (ofLines number others) := by
  have parts : ofLines number (lines ++ others) = do
      return (← ofLines number lines) ++ (← ofLines (number + lines.length) others) := by
    rw [ofLines, List.zipIdx_append, List.filter_append, List.mapM_append]
    rfl
  rw [parts, ofLinesLater]
  cases ofLines number lines with
  | error fault => rfl
  | ok boxes => cases ofLines number others <;> rfl

theorem staffDataBehind (first second : String) :
    ofStaffData (first ++ "\n" ++ second) =
      readBehind (first.toList.count '\n' + 1) (ofStaffData first) (ofStaffData second) := by
  have text : (first ++ "\n" ++ second).toList = first.toList ++ '\n' :: second.toList := by simp
  rw [staffDataParts, text, List.splitOn_append_cons_self, ofLinesAppend, partsLength,
    staffDataParts, staffDataParts]

theorem ofLinesAllBlank {lines : List (List Char)}
    (blank : ∀ line ∈ lines, isBlankText line = true) : ofLines number lines = .ok [] := by
  induction lines generalizing number with
  | nil => rfl
  | cons line rest ih =>
    obtain ⟨here, blank⟩ := List.forall_mem_cons.mp blank
    rw [ofLinesBlank here]
    exact ih blank

theorem staffDataBlank {content : String} (blank : isBlankText content.toList = true) :
    ofStaffData content = .ok [] := by
  rw [staffDataParts]
  refine ofLinesAllBlank fun part member => List.all_eq_true.mpr fun c inside => ?_
  exact List.all_eq_true.mp blank c (partsWithin part member c inside).1

def Passes (line : List Char) : Prop :=
  isBlankText line = true ∨ ∃ box, ofFields (tabFields line) = .ok box

/- The fault of the first line that does not pass, told with its place among all lines. -/
def FirstBadLine (number : Nat) (lines : List (List Char)) (fault : Fault) : Prop :=
  ∃ before line after cause, lines = before ++ line :: after ∧ (∀ earlier ∈ before, Passes earlier) ∧
    isBlankText line = false ∧ ofFields (tabFields line) = .error cause ∧
    fault = .staffLine (number + before.length) cause

theorem firstBadCons {fault : Fault} : FirstBadLine number (line :: rest) fault ↔
    (isBlankText line = false ∧ ofLine number line = .error fault) ∨
    (Passes line ∧ FirstBadLine (number + 1) rest fault) := by
  constructor
  · intro ⟨before, bad, after, cause, same, passed, filled, refused, told⟩
    cases before with
    | nil =>
      obtain ⟨rfl, -⟩ := List.cons.inj same
      refine .inl ⟨filled, ?_⟩
      rw [ofLine, refused, told]
      rfl
    | cons first before =>
      obtain ⟨rfl, tail⟩ := List.cons.inj same
      obtain ⟨passes, passed⟩ := List.forall_mem_cons.mp passed
      refine .inr ⟨passes, before, bad, after, cause, tail, passed, filled, refused, ?_⟩
      rw [told, List.length_cons, Nat.add_right_comm, Nat.add_assoc]
  · rintro (⟨filled, refused⟩ | ⟨passes, first⟩)
    · obtain ⟨cause, refused, told⟩ := Result.mapErrorError.mp refused
      exact ⟨[], line, rest, cause, rfl, by simp, filled, refused, told.symm⟩
    · obtain ⟨before, bad, after, cause, same, passed, filled, refused, told⟩ := first
      refine ⟨line :: before, bad, after, cause, by simp [same], ?_, filled, refused, ?_⟩
      · exact List.forall_mem_cons.mpr ⟨passes, passed⟩
      · rw [told, List.length_cons, Nat.add_right_comm, Nat.add_assoc]

theorem ofLinesFault {lines : List (List Char)} {fault : Fault} :
    ofLines number lines = .error fault ↔ FirstBadLine number lines fault := by
  induction lines generalizing number with
  | nil => simp [ofLines, FirstBadLine, pure, Except.pure]
  | cons line rest ih =>
    rw [firstBadCons]
    cases blank : isBlankText line with
    | true => simp [ofLinesBlank blank, ih, Passes, blank]
    | false =>
      have passes : Passes line ↔ ∃ box, ofLine number line = .ok box := by
        simp [Passes, blank, ofLine, Result.mapErrorOk]
      rw [ofLinesFilled blank, Result.bindError, passes]
      simp only [Result.consFailed, ih, true_and, exists_and_right]

theorem ofLinesBoxes {lines : List (List Char)} {boxes : List Box} :
    ofLines number lines = .ok boxes ↔
      List.Forall₂ (fun line box => ofFields (tabFields line) = .ok box)
        (lines.filter fun line => !isBlankText line) boxes := by
  induction lines generalizing number boxes with
  | nil => cases boxes <;> simp [ofLines, pure, Except.pure]
  | cons line rest ih =>
    cases blank : isBlankText line with
    | true => simp [ofLinesBlank blank, ih, blank]
    | false =>
      rw [ofLinesFilled blank, Result.bindOk]
      simp only [Result.consOk, ih, ofLine, Result.mapErrorOk]
      cases boxes <;> simp [blank]

theorem readBehindBlank (count more : Nat) (first second : Except Fault (List Box)) :
    readBehind count first (readBehind more (.ok []) second) =
      readBehind (count + more) first second := by
  cases first with
  | error fault => rfl
  | ok boxes =>
    cases second with
    | error fault => simp [readBehind, linesLaterTwice]
    | ok others => simp [readBehind]

theorem staffDataComposes (first second : String) :
    ofStaffData (first ++ "\n" ++ second) =
      readBehind (first.toList.count '\n' + 1) (ofStaffData first) (ofStaffData second) ∧
    (∀ blanks : String, isBlankText blanks.toList = true →
      ofStaffData (first ++ "\n" ++ blanks ++ "\n" ++ second) =
        readBehind (first.toList.count '\n' + 1 + (blanks.toList.count '\n' + 1))
          (ofStaffData first) (ofStaffData second)) ∧
    (∀ fault, ofStaffData first = .error fault ↔ FirstBadLine 1 (lines first.toList) fault) ∧
    (∀ boxes, ofStaffData first = .ok boxes ↔
      List.Forall₂ (fun line box => ofFields (tabFields line) = .ok box)
        ((lines first.toList).filter fun line => !isBlankText line) boxes) := by
  refine ⟨staffDataBehind first second, fun blanks blank => ?_, fun fault => ofLinesFault,
    fun boxes => ofLinesBoxes⟩
  have reordered : first ++ "\n" ++ blanks ++ "\n" ++ second =
      first ++ "\n" ++ (blanks ++ "\n" ++ second) := by
    simp only [String.append_assoc]
  rw [reordered, staffDataBehind, staffDataBehind, staffDataBlank blank, readBehindBlank]

theorem brokenLineBehindBlanks :
    isBlankText "\u00a0\n\t".toList = true ∧
    ofStaffData (" \t\n\nx\t1\t2\t3\t4\ty\tz\r" ++ "\n" ++ "\u00a0\n\t" ++ "\n" ++ "\r\nbroken") =
      .error (.staffLine 7 (.coordinateCount 0)) := by
  have blank : isBlankText "\u00a0\n\t".toList = true := by decide
  have composed := (staffDataComposes " \t\n\nx\t1\t2\t3\t4\ty\tz\r" "\r\nbroken").2.1 _ blank
  exact ⟨blank, composed.trans (by decide +kernel)⟩

theorem returnsCountForNothing (content : String) :
    ofStaffData (String.ofList (withReturns content.toList)) = ofStaffData content := by
  rw [staffDataParts, staffDataParts, String.toList_ofList]
  exact ofLinesTerminated (partsWithReturns content.toList)

end Box
end ScorePage
