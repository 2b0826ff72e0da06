import ScorePage.Hint.Pieces
import ScorePage.Proofs.Hint.Spelling

/-! Where a hint is cut. The cut goes by parentheses alone, and a written piece holds them in pairs:
no blank inside a group is taken for a place between two pieces. -/
namespace ScorePage.Hint
open Text

def Cut.behind (text : List Char) (cut : Cut) : Cut := ⟨text ++ cut.first, cut.others⟩

theorem behindBehind (front text : List Char) (cut : Cut) :
    (cut.behind text).behind front = cut.behind (front ++ text) := by
  simp [Cut.behind]

theorem extendBehind (c : Char) (text : List Char) (cut : Cut) :
    (cut.behind text).extend c = cut.behind (c :: text) := rfl

theorem cutKept {depth : Nat} {c : Char} (kept : ¬(isBlank c && depth == 0) = true)
    (rest : List Char) : cut depth (c :: rest) = (cut (depthAfter depth c) rest).extend c := by
  rw [cut, if_neg kept]

theorem cutBlank {c : Char} (blank : isBlank c = true) (rest : List Char) :
    cut 0 (c :: rest) = ⟨[], (cut 0 rest).all⟩ := by
  simp [cut, blank]

theorem cutOpening (depth : Nat) (rest : List Char) :
    cut depth ('(' :: rest) = (cut (depth + 1) rest).extend '(' := by
  rw [cutKept (by simp [show isBlank '(' = false by decide])]
  rfl

theorem cutClosing (depth : Nat) (rest : List Char) :
    cut (depth + 1) (')' :: rest) = (cut depth rest).extend ')' := by
  rw [cutKept (by simp)]
  rfl

theorem depthKept {c : Char} (opening : c ≠ '(') (closing : c ≠ ')') (depth : Nat) :
    depthAfter depth c = depth := by
  simp [depthAfter, opening, closing]

theorem digitKeepsDepth {c : Char} (digit : c.isDigit = true) (depth : Nat) :
    depthAfter depth c = depth := by
  refine depthKept ?_ ?_ depth
  · rintro rfl
    exact absurd digit (by decide)
  · rintro rfl
    exact absurd digit (by decide)

theorem blankKeepsDepth {c : Char} (blank : isBlank c = true) (depth : Nat) :
    depthAfter depth c = depth := by
  refine depthKept ?_ ?_ depth
  · rintro rfl
    exact absurd blank (by decide)
  · rintro rfl
    exact absurd blank (by decide)

theorem cutRun {depth : Nat} {run : List Char}
    (plain : ∀ c ∈ run, depthAfter depth c = depth ∧ ¬(isBlank c && depth == 0) = true)
    (rest : List Char) : cut depth (run ++ rest) = (cut depth rest).behind run := by
  induction run with
  | nil => rfl
  | cons c run ih =>
    obtain ⟨⟨level, kept⟩, plain⟩ := List.forall_mem_cons.mp plain
    rw [List.cons_append, cutKept kept, level, ih plain, extendBehind]

theorem cutDigits {depth : Nat} {digits : List Char} (decimal : ∀ c ∈ digits, c.isDigit = true)
    (rest : List Char) : cut depth (digits ++ rest) = (cut depth rest).behind digits := by
  refine cutRun (fun c member => ⟨digitKeepsDepth (decimal c member) depth, ?_⟩) rest
  intro blank
  have digit := decimal c member
  rw [blankNotDigit (Bool.and_eq_true_iff.mp blank).1] at digit
  contradiction

theorem cutInnerBlanks {depth : Nat} {blanks : List Char} (blank : isBlankText blanks = true)
    (rest : List Char) : cut (depth + 1) (blanks ++ rest) = (cut (depth + 1) rest).behind blanks := by
  have all := List.all_eq_true.mp blank
  exact cutRun (fun c member => ⟨blankKeepsDepth (all c member) _, by simp⟩) rest

theorem cutOuterBlanks {blanks : List Char} (blank : isBlankText blanks = true)
    (rest : List Char) : (cut 0 (blanks ++ rest)).all = (cut 0 rest).all := by
  induction blanks with
  | nil => rfl
  | cons c blanks ih =>
    simp only [isBlankText, List.all_cons, Bool.and_eq_true] at blank
    rw [List.cons_append, cutBlank blank.1]
    exact ih blank.2

theorem cutBetween {blanks : List Char} (blank : isBlankText blanks = true) (some : blanks ≠ [])
    (rest : List Char) : cut 0 (blanks ++ rest) = ⟨[], (cut 0 rest).all⟩ := by
  obtain ⟨c, others, rfl⟩ := List.exists_cons_of_ne_nil some
  simp only [isBlankText, List.all_cons, Bool.and_eq_true] at blank
  rw [List.cons_append, cutBlank blank.1, cutOuterBlanks blank.2]

theorem cutEnclosed {depth : Nat} {lead items : List Char} (before : isBlankText lead = true)
    (inside : ∀ rest, cut (depth + 1) (items ++ rest) = (cut (depth + 1) rest).behind items)
    (rest : List Char) :
    cut depth (enclosed lead items ++ rest) = (cut depth rest).behind (enclosed lead items) := by
  have reordered : enclosed lead items ++ rest = '(' :: (lead ++ (items ++ ')' :: rest)) := by
    simp [enclosed]
  rw [reordered, cutOpening, cutInnerBlanks before, inside, cutClosing]
  simp [enclosed, Cut.behind, Cut.extend]

theorem cutItems {text : List Char} {layout : Layout} (items : ItemsText text layout)
    (depth : Nat) (rest : List Char) :
    cut (depth + 1) (text ++ rest) = (cut (depth + 1) rest).behind text := by
  induction items generalizing depth rest with
  | nil => rfl
  | count numeral blank apart tail ih =>
    rw [List.append_assoc, List.append_assoc, cutDigits numeral.decimal, cutInnerBlanks blank, ih,
      behindBehind, behindBehind, List.append_assoc]
  | group before body blank tail bodyIh tailIh =>
    rw [List.append_assoc, List.append_assoc, cutEnclosed before (bodyIh (depth + 1)),
      cutInnerBlanks blank, tailIh, behindBehind, behindBehind, List.append_assoc]

theorem cutGroup {text : List Char} {layout : Layout} (group : GroupText text layout)
    (depth : Nat) (rest : List Char) :
    cut depth (text ++ rest) = (cut depth rest).behind text := by
  cases group with
  | mk before body => exact cutEnclosed before (cutItems body depth) rest

theorem cutPiece {text : List Char} {layout : Layout} {repeats : Nat}
    (piece : PieceText text layout repeats) (rest : List Char) :
    cut 0 (text ++ rest) = (cut 0 rest).behind text := by
  cases piece with
  | once group => exact cutGroup group 0 rest
  | @repeated text _ digits _ c group sign numeral =>
    have kept : ∀ rest, cut 0 (c :: rest) = (cut 0 rest).extend c := by
      rcases sign with rfl | rfl <;> exact fun rest => cutKept (by decide) rest
    rw [List.append_assoc, cutGroup group, List.cons_append, kept, cutDigits numeral.decimal,
      extendBehind, behindBehind]

theorem pieceNotEmpty {text : List Char} {layout : Layout} {repeats : Nat}
    (piece : PieceText text layout repeats) : text ≠ [] := by
  cases piece with
  | once group => cases group; simp [enclosed]
  | repeated group sign numeral => simp

theorem cutLaid {lead : List Char} {laid : List (SystemHint × List Char)} (layout : Laid lead laid)
    (written : ∀ piece ∈ laid,
      PieceText piece.1.source.toList piece.1.layout piece.1.repeats) :
    (cut 0 (laidText lead laid)).all = laid.map (·.1.source.toList) := by
  rw [laidText, cutOuterBlanks layout.before]
  obtain ⟨_, blank, apart⟩ := layout
  -- By induction on the pieces: blanks before a piece count for nothing, the piece is kept whole,
  -- and the blanks behind it end it.
  induction laid with
  | nil => rfl
  | cons piece others ih =>
    obtain ⟨whole, written⟩ := List.forall_mem_cons.mp written
    obtain ⟨ends, blank⟩ := List.forall_mem_cons.mp blank
    rw [List.flatMap_cons, List.append_assoc, cutPiece whole]
    have nonempty := pieceNotEmpty whole
    cases others with
    | nil =>
      have last : cut 0 (piece.2 ++ []) = ⟨[], []⟩ := by
        by_cases some : piece.2 = []
        · rw [some]
          rfl
        · rw [cutBetween ends some]
          rfl
      rw [List.flatMap_nil, last]
      simp [Cut.behind, Cut.all, nonempty]
    | cons next others =>
      rw [List.dropLast_cons_cons] at apart
      obtain ⟨some, apart⟩ := List.forall_mem_cons.mp apart
      rw [cutBetween ends some, ih written blank apart]
      simp [Cut.behind, Cut.all, nonempty]

theorem cutNone {text : List Char} : (cut 0 text).all = [] ↔ isBlankText text = true := by
  induction text with
  | nil => exact ⟨fun _ => rfl, fun _ => rfl⟩
  | cons c rest ih =>
    cases blank : isBlank c with
    | true =>
      rw [cutBlank blank, isBlankText, List.all_cons, blank, Bool.true_and]
      exact ih
    | false =>
      rw [cutKept (by simp [blank])]
      simp [isBlankText, blank, Cut.extend, Cut.all]

theorem piecesNone {hint : String} : pieces hint = [] ↔ isBlankText hint.toList = true := by
  rw [pieces, List.map_eq_nil_iff, cutNone]

end ScorePage.Hint
