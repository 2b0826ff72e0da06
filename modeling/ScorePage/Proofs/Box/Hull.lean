import ScorePage.Box
import ScorePage.Proofs.Binary64.Order

/-! The hull of boxes. Each of its sides is the outermost of the sides of the boxes, so it does not
depend on the order in which the boxes are joined, nor on how often. -/
namespace ScorePage.Box
open Binary64

inductive Bracketing where
  | alone (box : Box)
  | joined (front back : Bracketing)
  deriving DecidableEq, Repr

namespace Bracketing

def boxes : Bracketing → List Box
  | alone box => [box]
  | joined front back => front.boxes ++ back.boxes

def carriedOut : Bracketing → Box
  | alone box => box
  | joined front back => front.carriedOut.join back.carriedOut

end Bracketing

/- Each side is the outermost one among the boxes, those left aside that are not numbers. -/
structure Tight (boxes : List Box) (box : Box) : Prop where
  left : LeastOf (boxes.map ulx) box.ulx
  top : LeastOf (boxes.map uly) box.uly
  right : GreatestOf (boxes.map lrx) box.lrx
  bottom : GreatestOf (boxes.map lry) box.lry

structure Contains (outer inner : Box) : Prop where
  left : AtMost outer.ulx inner.ulx
  top : AtMost outer.uly inner.uly
  right : AtMost inner.lrx outer.lrx
  bottom : AtMost inner.lry outer.lry

def sides (box : Box) : List Binary64 := [box.ulx, box.uly, box.lrx, box.lry]

def Finite (box : Box) : Prop := ∀ side ∈ box.sides, side.isFinite = true

def ZerosApart (boxes : List Box) : Prop :=
  ∀ side ∈ [ulx, uly, lrx, lry], Binary64.ZerosApart (boxes.map side)

instance (boxes : List Box) : Decidable (ZerosApart boxes) :=
  inferInstanceAs (Decidable (∀ side ∈ [ulx, uly, lrx, lry], Binary64.ZerosApart (boxes.map side)))

namespace Tight

variable {boxes others : List Box} {box other : Box}

theorem alone (box : Box) : Tight [box] box where
  left := .alone leastChooses box.ulx
  top := .alone leastChooses box.uly
  right := .alone greatestChooses box.lrx
  bottom := .alone greatestChooses box.lry

theorem sideChosen {before : Binary64 → Binary64 → Prop}
    {choice : Binary64 → Binary64 → Binary64} (chooses : Chooses before choice)
    {side : Box → Binary64} {x y : Binary64} (first : Foremost before (boxes.map side) x)
    (second : Foremost before (others.map side) y) :
    Foremost before ((boxes ++ others).map side) (choice x y) := by
  rw [List.map_append]
  exact first.chosen chooses second

theorem join (tight : Tight boxes box) (otherTight : Tight others other) :
    Tight (boxes ++ others) (box.join other) where
  left := sideChosen leastChooses tight.left otherTight.left
  top := sideChosen leastChooses tight.top otherTight.top
  right := sideChosen greatestChooses tight.right otherTight.right
  bottom := sideChosen greatestChooses tight.bottom otherTight.bottom

theorem unique (apart : ZerosApart boxes) (tight : Tight boxes box)
    (otherTight : Tight others other) (same : ∀ item, item ∈ others ↔ item ∈ boxes) :
    other = box := by
  have sides (side : Box → Binary64) (value : Binary64) :
      value ∈ others.map side ↔ value ∈ boxes.map side := by
    simp only [List.mem_map, same]
  obtain ⟨left, top, right, bottom⟩ :
      other.ulx = box.ulx ∧ other.uly = box.uly ∧ other.lrx = box.lrx ∧ other.lry = box.lry :=
    ⟨tight.left.unique leastChooses (apart ulx (by simp)) otherTight.left (sides ulx),
      tight.top.unique leastChooses (apart uly (by simp)) otherTight.top (sides uly),
      tight.right.unique greatestChooses (apart lrx (by simp)) otherTight.right (sides lrx),
      tight.bottom.unique greatestChooses (apart lry (by simp)) otherTight.bottom (sides lry)⟩
  cases box
  cases other
  simp_all

theorem contains (tight : Tight boxes box) (member : other ∈ boxes) (finite : other.Finite) :
    box.Contains other := by
  have number (side : Box → Binary64) (listed : side other ∈ other.sides) :
      side other ≠ .nan := by
    intro none
    have finite := finite _ listed
    rw [none] at finite
    contradiction
  exact ⟨tight.left.first _ (List.mem_map_of_mem member) (number ulx (by simp [sides])),
    tight.top.first _ (List.mem_map_of_mem member) (number uly (by simp [sides])),
    tight.right.first _ (List.mem_map_of_mem member) (number lrx (by simp [sides])),
    tight.bottom.first _ (List.mem_map_of_mem member) (number lry (by simp [sides]))⟩

end Tight

theorem bracketingTight (bracketing : Bracketing) :
    Tight bracketing.boxes bracketing.carriedOut := by
  induction bracketing with
  | alone box => exact .alone box
  | joined front back frontIh backIh => exact frontIh.join backIh

theorem foldTight {boxes : List Box} {box : Box} (tight : Tight boxes box) (others : List Box) :
    Tight (boxes ++ others) (others.foldl Box.join box) := by
  -- By induction on the boxes still to come, `boxes` being those that `box` is the hull of.
  induction others generalizing boxes box with
  | nil => rwa [List.append_nil]
  | cons other others ih =>
    have further := ih (tight.join (.alone other))
    rwa [List.append_assoc] at further

theorem hullTight (first : Box) (others : List Box) :
    Tight (first :: others) (hull first others) := foldTight (.alone first) others

theorem hullOfSame {first : Box} {others : List Box} (apart : ZerosApart (first :: others)) :
    Tight (first :: others) (hull first others) ∧
    (∀ next rest, (next :: rest).Perm (first :: others) → hull next rest = hull first others) ∧
    (∀ bracketing : Bracketing, (∀ box, box ∈ bracketing.boxes ↔ box ∈ first :: others) →
      bracketing.carriedOut = hull first others) ∧
    ∀ box ∈ first :: others, box.Finite → (hull first others).Contains box := by
  have tight := hullTight first others
  refine ⟨tight, fun next rest permuted => ?_, fun bracketing same => ?_, fun box => tight.contains⟩
  · exact tight.unique apart (hullTight next rest) fun box => permuted.mem_iff
  · exact tight.unique apart (bracketingTight bracketing) same

def unbounded : Box := ⟨.nan, .infinity true, .nan, .infinity false⟩

def besideOrigin : Box := ⟨.zero true, .zero false, .ofQuotient false 3 2, .ofQuotient false 1 1⟩

theorem hullOfUnbounded : ZerosApart [unbounded, besideOrigin] ∧
    hull unbounded [besideOrigin] =
      ⟨.zero true, .infinity true, .ofQuotient false 3 2, .infinity false⟩ ∧
    hull besideOrigin [unbounded] = hull unbounded [besideOrigin] ∧
    besideOrigin.join (unbounded.join besideOrigin) = hull unbounded [besideOrigin] ∧
    (hull unbounded [besideOrigin]).Contains besideOrigin := by
  have apart : ZerosApart [unbounded, besideOrigin] := by decide +kernel
  obtain ⟨-, permuted, joined, contained⟩ := hullOfSame apart
  refine ⟨apart, by decide +kernel, permuted _ _ (.swap ..), ?_, ?_⟩
  · refine joined (.joined (.alone besideOrigin) (.joined (.alone unbounded) (.alone besideOrigin)))
      fun box => ?_
    simp only [Bracketing.boxes, List.mem_append, List.mem_cons, List.not_mem_nil]
    grind
  · exact contained besideOrigin (by simp) (by unfold Finite; decide +kernel)

end ScorePage.Box
