import Mathlib.Logic.Relation
import ScorePage.Proofs.Box.StaffData
import ScorePage.Proofs.Text.Endings

/-! A line of staff data by its coordinates. Whether a box is read from it, which one, and what is told
otherwise hangs on the number of its fields and on the coordinates without the blanks around them;
the label, the last two fields and the line ending do not matter. -/
namespace ScorePage
open Text

structure Fielded (line : List Char) (fields : List (List Char)) (ending : List Char) : Prop where
  text : line = ['\t'].intercalate fields ++ ending
  some : fields ≠ []
  solid : ∀ field ∈ fields, '\t' ∉ field
  closing : ∀ c ∈ ending, isLineEnding c = true
  ends : ∀ c ∈ (['\t'].intercalate fields).getLast?, isLineEnding c = false

variable {line ending label first second last : List Char} {fields others front : List (List Char)}

theorem fieldedExact : tabFields line = fields ↔ ∃ ending, Fielded line fields ending := by
  constructor
  · rintro rfl
    obtain ⟨ending, text, closing⟩ := dropEndWhileParts isLineEnding line
    have joined : ['\t'].intercalate (tabFields line) = dropEndWhile isLineEnding line :=
      List.intercalate_splitOn '\t'
    refine ⟨ending, by rw [joined]; exact text, List.splitOn_ne_nil _ _, ?_, closing, ?_⟩
    · intro field member tab
      exact (partsWithin field member '\t' tab).2 rfl
    · rw [joined]
      exact dropEndWhileLast isLineEnding line
  · intro ⟨ending, fielded⟩
    have behind := tabFieldsTerminated ⟨ending, fielded.closing, fielded.text⟩
    rw [behind, tabFields, dropEndWhileNone fielded.ends]
    exact List.splitOn_intercalate '\t' fielded.solid fielded.some

theorem joinedBehind (more : front ≠ []) (last : List Char) :
    ['\t'].intercalate (front ++ [last]) = ['\t'].intercalate front ++ '\t' :: last := by
  induction front with
  | nil => contradiction
  | cons field front ih =>
    cases front with
    | nil => simp [List.intercalate_cons_cons]
    | cons next front =>
      have rest := ih (List.cons_ne_nil next front)
      rw [List.cons_append, List.cons_append, List.intercalate_cons_cons,
        List.intercalate_cons_cons, ← List.cons_append, rest]
      simp

theorem joinedLast (more : front ≠ []) (last : List Char) :
    (['\t'].intercalate (front ++ [last])).getLast? = ('\t' :: last).getLast? := by
  rw [joinedBehind more, List.getLast?_append, List.getLast?_cons]
  rfl

/- The last field decides where the line endings begin; the others may hold what they like but tabs. -/
theorem fieldedSnoc (more : front ≠ []) (solid : ∀ field ∈ front ++ [last], '\t' ∉ field)
    (closing : ∀ c ∈ ending, isLineEnding c = true)
    (ends : ∀ c ∈ ('\t' :: last).getLast?, isLineEnding c = false) :
    Fielded (['\t'].intercalate (front ++ [last]) ++ ending) (front ++ [last]) ending := by
  refine ⟨rfl, by simp, solid, closing, ?_⟩
  rwa [joinedLast more]

namespace Box

structure ReadsAs (field : List Char) (value : Binary64) : Prop where
  number : Binary64.ofText? (trim field) = some value
  finite : value.isFinite = true
  nonnegative : value.isNonnegative = true

def FirstUnread (coordinates : List (List Char)) (field : List Char) : Prop :=
  ∃ before after, coordinates = before ++ field :: after ∧
    (∀ earlier ∈ before, ∃ value, ReadsAs earlier value) ∧ ∀ value, ¬ReadsAs field value

inductive Describes : List (List Char) → Box → Prop where
  | mk {label ulx uly lrx lry first second : List Char} {box : Box}
      (left : ReadsAs ulx box.ulx) (top : ReadsAs uly box.uly)
      (right : ReadsAs lrx box.lrx) (bottom : ReadsAs lry box.lry) :
      Describes [label, ulx, uly, lrx, lry, first, second] box

inductive Refused : List (List Char) → StaffLineFault → Prop where
  | count {fields : List (List Char)} (other : fields.length ≠ 7) :
      Refused fields (.coordinateCount (fields.length - 3))
  | unread {label first second field : List Char} {coordinates : List (List Char)}
      (four : coordinates.length = 4) (found : FirstUnread coordinates field) :
      Refused ([label] ++ coordinates ++ [first, second]) (.notACoordinate (trim field))

theorem coordinateCases (field : List Char) :
    (∃ value, ReadsAs field value ∧ coordinate field = .ok value) ∨
      coordinate field = .error (.notACoordinate (trim field)) := by
  unfold coordinate
  split
  · rename_i value number
    split
    · rename_i sound
      obtain ⟨finite, nonnegative⟩ := Bool.and_eq_true_iff.mp sound
      exact .inl ⟨value, ⟨number, finite, nonnegative⟩, rfl⟩
    · exact .inr rfl
  · exact .inr rfl

theorem coordinateOk {field : List Char} {value : Binary64} :
    coordinate field = .ok value ↔ ReadsAs field value := by
  constructor
  · intro ok
    rcases coordinateCases field with ⟨_, reads, same⟩ | refused
    · cases ok.symm.trans same
      exact reads
    · cases ok.symm.trans refused
  · intro ⟨number, finite, nonnegative⟩
    simp [coordinate, number, finite, nonnegative]

theorem coordinateFault {field : List Char} {fault : StaffLineFault} :
    coordinate field = .error fault ↔
      (∀ value, ¬ReadsAs field value) ∧ fault = .notACoordinate (trim field) := by
  rcases coordinateCases field with ⟨value, reads, same⟩ | refused
  · rw [same]
    constructor
    · intro refused
      contradiction
    · intro ⟨unread, _⟩
      exact absurd reads (unread value)
  · rw [refused, Except.error.injEq]
    constructor
    · rintro rfl
      refine ⟨fun value reads => ?_, rfl⟩
      cases refused.symm.trans (coordinateOk.mpr reads)
    · intro ⟨_, told⟩
      exact told.symm

theorem coordinateTrimmed {field other : List Char} (same : trim field = trim other) :
    coordinate field = coordinate other := by
  unfold coordinate
  rw [same]

theorem coordinatesBetween (label first second : List Char) (coordinates : List (List Char)) :
    coordinateFields ([label] ++ coordinates ++ [first, second]) = coordinates := by
  simp [coordinateFields]

theorem coordinatesLength (fields : List (List Char)) :
    (coordinateFields fields).length = fields.length - 3 := by
  simp only [coordinateFields, List.length_take, List.length_drop]
  omega

theorem sevenFields (seven : fields.length = 7) : ∃ label ulx uly lrx lry first second,
    fields = [label, ulx, uly, lrx, lry, first, second] := by
  match fields, seven with
  | [label, ulx, uly, lrx, lry, first, second], _ => exact ⟨_, _, _, _, _, _, _, rfl⟩

theorem ofFieldsCount (other : fields.length ≠ 7) :
    ofFields fields = .error (.coordinateCount (fields.length - 3)) := by
  have count := coordinatesLength fields
  unfold ofFields
  split
  · rename_i four
    rw [four] at count
    simp only [List.length_cons, List.length_nil] at count
    omega
  · rw [count]

theorem ofFieldsSeven (label ulx uly lrx lry first second : List Char) :
    ofFields [label, ulx, uly, lrx, lry, first, second] = do
      return ⟨← coordinate ulx, ← coordinate uly, ← coordinate lrx, ← coordinate lry⟩ := rfl

theorem ofFieldsOk {box : Box} : ofFields fields = .ok box ↔ Describes fields box := by
  constructor
  · intro ok
    by_cases seven : fields.length = 7
    · obtain ⟨label, ulx, uly, lrx, lry, first, second, rfl⟩ := sevenFields seven
      simp only [ofFieldsSeven, Result.bindOk, coordinateOk] at ok
      obtain ⟨_, left, _, top, _, right, _, bottom, made⟩ := ok
      cases made
      exact .mk left top right bottom
    · rw [ofFieldsCount seven] at ok
      contradiction
  · rintro ⟨left, top, right, bottom⟩
    rw [ofFieldsSeven, coordinateOk.mpr left, coordinateOk.mpr top, coordinateOk.mpr right,
      coordinateOk.mpr bottom]
    rfl

theorem coordinatesFault {coordinates : List (List Char)} {fault : StaffLineFault} :
    coordinates.mapM coordinate = .error fault ↔
      ∃ field, FirstUnread coordinates field ∧ fault = .notACoordinate (trim field) := by
  rw [Result.mapMError]
  simp only [Result.FirstRefused, FirstUnread, coordinateOk, coordinateFault]
  constructor
  · rintro ⟨before, field, after, same, read, unread, told⟩
    exact ⟨field, ⟨before, after, same, read, unread⟩, told⟩
  · rintro ⟨field, ⟨before, after, same, read, unread⟩, told⟩
    exact ⟨before, field, after, same, read, unread, told⟩

theorem ofFieldsFault {fault : StaffLineFault} :
    ofFields fields = .error fault ↔ Refused fields fault := by
  have seven (label ulx uly lrx lry first second : List Char) :
      ofFields [label, ulx, uly, lrx, lry, first, second] = .error fault ↔
        [ulx, uly, lrx, lry].mapM coordinate = .error fault := by
    simp [ofFieldsSeven, Result.bindError, pure, Except.pure]
  constructor
  · intro refused
    by_cases all : fields.length = 7
    · obtain ⟨label, ulx, uly, lrx, lry, first, second, rfl⟩ := sevenFields all
      obtain ⟨field, unread, rfl⟩ := coordinatesFault.mp ((seven ..).mp refused)
      exact @Refused.unread label first second field [ulx, uly, lrx, lry] rfl unread
    · cases (ofFieldsCount all).symm.trans refused
      exact .count all
  · intro refused
    cases refused with
    | count other => exact ofFieldsCount other
    | @unread label first second field coordinates four found =>
      obtain ⟨ulx, uly, lrx, lry, rfl⟩ := List.length_eq_four.mp four
      exact (seven ..).mpr (coordinatesFault.mpr ⟨field, found, rfl⟩)

theorem ofFieldsTrimmed
    (same : (coordinateFields fields).map trim = (coordinateFields others).map trim) :
    ofFields fields = ofFields others := by
  have count : fields.length - 3 = others.length - 3 := by
    simpa [coordinatesLength] using congrArg List.length same
  by_cases seven : fields.length = 7
  · obtain ⟨label, ulx, uly, lrx, lry, first, second, rfl⟩ := sevenFields seven
    -- As many coordinates make as many fields, but only where there are any.
    obtain ⟨label', ulx', uly', lrx', lry', first', second', rfl⟩ := @sevenFields others (by omega)
    simp only [coordinateFields, List.length_cons, List.length_nil, List.drop_succ_cons,
      List.drop_zero, List.take_succ_cons, List.take_zero, List.map_cons, List.map_nil,
      List.cons.injEq, and_true] at same
    obtain ⟨sameUlx, sameUly, sameLrx, sameLry⟩ := same
    rw [ofFieldsSeven, ofFieldsSeven, coordinateTrimmed sameUlx, coordinateTrimmed sameUly,
      coordinateTrimmed sameLrx, coordinateTrimmed sameLry]
  · rw [ofFieldsCount seven, ofFieldsCount (by omega), count]

/- One change to a line that leaves its coordinates alone. -/
inductive Rewritten : List Char → List Char → Prop where
  | outer {line label first second label' first' second' ending : List Char}
      {coordinates : List (List Char)}
      (fielded : Fielded line ([label] ++ coordinates ++ [first, second]) ending)
      (plainLabel : IsField label') (plainFirst : IsField first') (plainSecond : IsField second') :
      Rewritten line (['\t'].intercalate ([label'] ++ coordinates ++ [first', second']) ++ ending)
  | padded {line label field before after first second ending : List Char}
      {earlier later : List (List Char)}
      (fielded : Fielded line ([label] ++ (earlier ++ field :: later) ++ [first, second]) ending)
      (blankBefore : isBlankText before = true) (plainBefore : IsField before)
      (blankAfter : isBlankText after = true) (plainAfter : IsField after) :
      Rewritten line (['\t'].intercalate
        ([label] ++ (earlier ++ (before ++ field ++ after) :: later) ++ [first, second]) ++ ending)
  | ended {line ending : List Char} (closing : ∀ c ∈ ending, isLineEnding c = true) :
      Rewritten line (line ++ ending)

variable {coordinates : List (List Char)}

theorem outerSnoc (label first second : List Char) (coordinates : List (List Char)) :
    [label] ++ coordinates ++ [first, second] = ([label] ++ coordinates ++ [first]) ++ [second] := by
  simp

theorem fieldedLast (fielded : Fielded line ([label] ++ coordinates ++ [first, second]) ending) :
    ∀ c ∈ ('\t' :: second).getLast?, isLineEnding c = false := by
  have ends := fielded.ends
  rwa [outerSnoc, joinedLast (by simp)] at ends

theorem coordinatesJoined (outside : ∀ field ∈ [label, first, second], '\t' ∉ field)
    (solid : ∀ field ∈ coordinates, '\t' ∉ field) (closing : ∀ c ∈ ending, isLineEnding c = true)
    (ends : ∀ c ∈ ('\t' :: second).getLast?, isLineEnding c = false) :
    coordinateFields (tabFields
      (['\t'].intercalate ([label] ++ coordinates ++ [first, second]) ++ ending)) = coordinates := by
  have all : ∀ field ∈ [label] ++ coordinates ++ [first] ++ [second], '\t' ∉ field := by
    simp only [List.forall_mem_append, List.forall_mem_cons] at outside ⊢
    exact ⟨⟨⟨⟨outside.1, nofun⟩, solid⟩, outside.2.1, nofun⟩, outside.2.2⟩
  have fielded := fieldedSnoc (by simp) all closing ends
  rw [outerSnoc, fieldedExact.mpr ⟨ending, fielded⟩, ← outerSnoc, coordinatesBetween]

theorem rewrittenCoordinates {other : List Char} (rewritten : Rewritten line other) :
    (coordinateFields (tabFields other)).map trim = (coordinateFields (tabFields line)).map trim := by
  cases rewritten with
  | @outer label first second label' first' second' ending coordinates fielded plainLabel
      plainFirst plainSecond =>
    have solid := fielded.solid
    simp only [List.forall_mem_append] at solid
    have ends : ∀ c ∈ ('\t' :: second').getLast?, isLineEnding c = false := by
      intro c last
      rcases List.mem_cons.mp (List.mem_of_getLast? last) with rfl | inside
      · rfl
      · exact plainSecond.unbroken c inside
    have outside : ∀ field ∈ [label', first', second'], '\t' ∉ field := by
      simp [plainLabel.noTab, plainFirst.noTab, plainSecond.noTab]
    rw [coordinatesJoined outside solid.1.2 fielded.closing ends, fieldedExact.mpr ⟨_, fielded⟩,
      coordinatesBetween]
  | @padded label field before after first second ending earlier later fielded blankBefore
      plainBefore blankAfter plainAfter =>
    have solid := fielded.solid
    simp only [List.forall_mem_append, List.forall_mem_cons] at solid
    obtain ⟨⟨⟨noLabel, -⟩, noEarlier, noField, noLater⟩, noFirst, noSecond, -⟩ := solid
    have outside : ∀ field ∈ [label, first, second], '\t' ∉ field := by
      simp [noLabel, noFirst, noSecond]
    have inner : ∀ part ∈ earlier ++ (before ++ field ++ after) :: later, '\t' ∉ part := by
      simp only [List.forall_mem_append, List.forall_mem_cons]
      exact ⟨noEarlier, by simp [plainBefore.noTab, noField, plainAfter.noTab], noLater⟩
    rw [coordinatesJoined outside inner fielded.closing (fieldedLast fielded),
      fieldedExact.mpr ⟨_, fielded⟩, coordinatesBetween]
    simp only [List.map_append, List.map_cons, trimPadded blankBefore blankAfter]
  | ended closing => rw [tabFieldsTerminated ⟨_, closing, rfl⟩]

theorem rewrittenSame {other : List Char} (number : Nat) (rewritten : Rewritten line other) :
    ofLine number other = ofLine number line := by
  rw [ofLine, ofLine, ofFieldsTrimmed (rewrittenCoordinates rewritten)]

theorem lineByCoordinates (number : Nat) (line : List Char) :
    (∀ box, ofLine number line = .ok box ↔
      ∃ fields ending, Fielded line fields ending ∧ Describes fields box) ∧
    (∀ fault, ofLine number line = .error fault ↔
      ∃ fields ending cause, Fielded line fields ending ∧ Refused fields cause ∧
        fault = .staffLine number cause) ∧
    (∀ other, Relation.ReflTransGen Rewritten line other →
      ofLine number other = ofLine number line) := by
  obtain ⟨ending, fielded⟩ := fieldedExact.mp (rfl : tabFields line = tabFields line)
  refine ⟨fun box => ?_, fun fault => ?_, fun other rewritten => ?_⟩
  · rw [ofLine, Result.mapErrorOk, ofFieldsOk]
    constructor
    · intro box
      exact ⟨_, ending, fielded, box⟩
    · rintro ⟨fields, _, split, box⟩
      rwa [fieldedExact.mpr ⟨_, split⟩]
  · rw [ofLine, Result.mapErrorError]
    constructor
    · rintro ⟨cause, refused, rfl⟩
      exact ⟨_, ending, cause, fielded, ofFieldsFault.mp refused, rfl⟩
    · rintro ⟨fields, _, cause, split, refused, rfl⟩
      refine ⟨cause, ?_, rfl⟩
      rw [fieldedExact.mpr ⟨_, split⟩]
      exact ofFieldsFault.mpr refused
  · induction rewritten with
    | refl => rfl
    | tail _ step same => exact (rewrittenSame number step).trans same

theorem minusZeroHoweverWritten :
    Relation.ReflTransGen Rewritten "x\t10\t-1e-400\t 0.25\t1e3\ty\tz\r".toList
      "\t10\t\u00a0-1e-400\u3000\t 0.25\t1e3\t\t \r\n".toList ∧
    ofLine 3 "\t10\t\u00a0-1e-400\u3000\t 0.25\t1e3\t\t \r\n".toList =
      .ok ⟨.ofQuotient false 10 1, .zero true, .ofQuotient false 1 4, .ofQuotient false 1000 1⟩ := by
  have fielded : Fielded "x\t10\t-1e-400\t 0.25\t1e3\ty\tz\r".toList
      ([['x']] ++ ["10".toList, "-1e-400".toList, " 0.25".toList, "1e3".toList] ++ [['y'], ['z']])
      ['\r'] := by
    refine ⟨by decide, by simp, by decide, by simp [isLineEnding], ?_⟩
    simp [isLineEnding, List.intercalate_cons_cons]
  have plain : Fielded "\t10\t-1e-400\t 0.25\t1e3\t\t \r".toList
      ([[]] ++ (["10".toList] ++ "-1e-400".toList :: [" 0.25".toList, "1e3".toList]) ++ [[], [' ']])
      ['\r'] := by
    refine ⟨by decide, by simp, by decide, by simp [isLineEnding], ?_⟩
    simp [isLineEnding, List.intercalate_cons_cons]
  have outer := Rewritten.outer fielded (by decide : IsField []) (by decide : IsField [])
    (by decide : IsField [' '])
  have padded := Rewritten.padded plain (by decide : isBlankText ['\u00a0'] = true) (by decide)
    (by decide : isBlankText ['\u3000'] = true) (by decide)
  have ended := @Rewritten.ended "\t10\t\u00a0-1e-400\u3000\t 0.25\t1e3\t\t \r".toList ['\n']
    (by simp [isLineEnding])
  have rewritten := ((Relation.ReflTransGen.single outer).tail padded).tail ended
  have read := (lineByCoordinates 3 _).2.2 _ rewritten
  exact ⟨rewritten, read.trans (by decide +kernel)⟩

end Box
end ScorePage
