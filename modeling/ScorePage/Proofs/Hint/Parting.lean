import ScorePage.Proofs.Hint.Joining

/-! What the pieces of a hint are, apart from the scan that finds them. Pieces and blanks take turns
and make up the hint; no piece holds a blank that lies outside its parentheses, and blanks that an
open parenthesis reaches belong to the piece. There is one such parting of every text. -/
namespace ScorePage.Hint
open Text

structure Part where
  piece : List Char
  blanks : List Char
  deriving DecidableEq, Repr

def joinedParts (lead : List Char) (parts : List Part) : List Char :=
  lead ++ parts.flatMap fun part => part.piece ++ part.blanks

/- Where no parenthesis is open, there is no blank; the scan enters the text at the given depth. -/
def Unparted (depth : Nat) (text : List Char) : Prop :=
  ∀ before c after, text = before ++ c :: after → levelAfter depth before = 0 → isBlank c = false

structure Parting (lead : List Char) (parts : List Part) : Prop where
  before : isBlankText lead = true
  blank : ∀ part ∈ parts, isBlankText part.blanks = true
  apart : ∀ part ∈ parts.dropLast, part.blanks ≠ []
  begins : ∀ part ∈ parts, ∃ c rest, part.piece = c :: rest ∧ isBlank c = false
  whole : ∀ part ∈ parts, Unparted 0 part.piece
  closed : ∀ part ∈ parts.dropLast, levelAfter 0 part.piece = 0
  taken : ∀ part ∈ parts.getLast?, levelAfter 0 part.piece ≠ 0 → part.blanks = []

structure Onward (depth : Nat) (piece blanks : List Char) (others : List Part) : Prop where
  whole : Unparted depth piece
  apart : others ≠ [] → blanks ≠ [] ∧ levelAfter depth piece = 0
  taken : levelAfter depth piece ≠ 0 → blanks = []
  behind : Parting blanks others

theorem joinedCons (lead : List Char) (part : Part) (others : List Part) :
    joinedParts lead (part :: others) = lead ++ (part.piece ++ joinedParts part.blanks others) := by
  simp [joinedParts]

theorem unpartedCons {depth : Nat} {c : Char} {rest : List Char} :
    Unparted depth (c :: rest) ↔
      ¬(isBlank c && depth == 0) = true ∧ Unparted (depthAfter depth c) rest := by
  constructor
  · intro whole
    refine ⟨fun between => ?_, fun before d after same level => ?_⟩
    · obtain ⟨blank, outside⟩ := Bool.and_eq_true_iff.mp between
      have solid := whole [] c rest rfl (beq_iff_eq.mp outside)
      rw [blank] at solid
      contradiction
    · exact whole (c :: before) d after (by simp [same]) level
  · intro ⟨inside, whole⟩ before d after same level
    cases before with
    | nil =>
      obtain ⟨rfl, -⟩ := List.cons.inj same
      have outside : depth = 0 := level
      simpa [outside] using inside
    | cons e before =>
      obtain ⟨rfl, tail⟩ := List.cons.inj same
      exact whole before d after tail level

theorem unpartedBegins {piece : List Char} (whole : Unparted 0 piece) (some : piece ≠ []) :
    ∃ c rest, piece = c :: rest ∧ isBlank c = false := by
  obtain ⟨c, rest, rfl⟩ := List.exists_cons_of_ne_nil some
  exact ⟨c, rest, rfl, whole [] c rest rfl rfl⟩

theorem partingNone {lead : List Char} : Parting lead [] ↔ isBlankText lead = true := by
  constructor
  · exact Parting.before
  · intro blank
    constructor <;> simp [blank]

theorem partingCons {lead : List Char} {part : Part} {others : List Part} :
    Parting lead (part :: others) ↔
      isBlankText lead = true ∧ part.piece ≠ [] ∧ Onward 0 part.piece part.blanks others := by
  constructor
  · intro ⟨before, blank, apart, begins, whole, closed, taken⟩
    obtain ⟨blankHere, blank⟩ := List.forall_mem_cons.mp blank
    obtain ⟨⟨c, rest, start, -⟩, begins⟩ := List.forall_mem_cons.mp begins
    obtain ⟨wholeHere, whole⟩ := List.forall_mem_cons.mp whole
    refine ⟨before, by simp [start], ?_⟩
    cases others with
    | nil => exact ⟨wholeHere, by simp, by simpa using taken, partingNone.mpr blankHere⟩
    | cons next others =>
      rw [List.dropLast_cons_cons, List.forall_mem_cons] at apart closed
      rw [List.getLast?_cons_cons] at taken
      exact ⟨wholeHere, fun _ => ⟨apart.1, closed.1⟩, fun isOpen => absurd closed.1 isOpen,
        blankHere, blank, apart.2, begins, whole, closed.2, taken⟩
  · rintro ⟨before, nonempty, wholeHere, apartHere, takenHere, behind⟩
    have blank : ∀ next ∈ part :: others, isBlankText next.blanks = true :=
      List.forall_mem_cons.mpr ⟨behind.before, behind.blank⟩
    have start : ∀ next ∈ part :: others, ∃ c rest, next.piece = c :: rest ∧ isBlank c = false :=
      List.forall_mem_cons.mpr ⟨unpartedBegins wholeHere nonempty, behind.begins⟩
    have whole : ∀ next ∈ part :: others, Unparted 0 next.piece :=
      List.forall_mem_cons.mpr ⟨wholeHere, behind.whole⟩
    cases others with
    | nil => exact ⟨before, blank, by simp, start, whole, by simp, by simpa using takenHere⟩
    | cons next others =>
      obtain ⟨some, closed⟩ := apartHere (List.cons_ne_nil next others)
      refine ⟨before, blank, ?_, start, whole, ?_, ?_⟩
      · exact List.forall_mem_cons.mpr ⟨some, behind.apart⟩
      · exact List.forall_mem_cons.mpr ⟨closed, behind.closed⟩
      · rw [List.getLast?_cons_cons]
        exact behind.taken

theorem cutUnparted {depth : Nat} {text : List Char} (whole : Unparted depth text)
    (rest : List Char) :
    cut depth (text ++ rest) = (cut (levelAfter depth text) rest).behind text := by
  induction text generalizing depth with
  | nil => rfl
  | cons c text ih =>
    obtain ⟨inside, whole⟩ := unpartedCons.mp whole
    rw [List.cons_append, cutKept inside, ih whole, extendBehind]
    rfl

theorem cutParting {lead : List Char} {parts : List Part} (parting : Parting lead parts) :
    (cut 0 (joinedParts lead parts)).all = parts.map Part.piece := by
  induction parts generalizing lead with
  | nil =>
    rw [joinedParts, cutOuterBlanks parting.before]
    rfl
  | cons part others ih =>
    obtain ⟨blank, some, whole, apart, taken, behind⟩ := partingCons.mp parting
    have rest : cut (levelAfter 0 part.piece) (joinedParts part.blanks others) =
        ⟨[], others.map Part.piece⟩ := by
      by_cases none : part.blanks = []
      · have last : others = [] :=
          Decidable.byContradiction fun more => (apart more).1 none
        simp [none, last, joinedParts, cut]
      · have level : levelAfter 0 part.piece = 0 :=
          Decidable.byContradiction fun isOpen => none (taken isOpen)
        have found := ih behind
        rw [level]
        rw [joinedParts, cutBetween behind.before none] at found ⊢
        exact congrArg (Cut.mk []) found
    rw [joinedCons, cutOuterBlanks blank, cutUnparted whole, rest]
    simp [Cut.behind, Cut.all, some]

theorem partingOfOnward {piece blanks : List Char} {others : List Part}
    (onward : Onward 0 piece blanks others) :
    ∃ lead parts, Parting lead parts ∧
      joinedParts lead parts = piece ++ joinedParts blanks others := by
  by_cases none : piece = []
  · exact ⟨blanks, others, onward.behind, by simp [none]⟩
  · exact ⟨[], ⟨piece, blanks⟩ :: others, partingCons.mpr ⟨rfl, none, onward⟩, joinedCons ..⟩

theorem onwardExists (depth : Nat) (text : List Char) :
    ∃ piece blanks others, Onward depth piece blanks others ∧
      text = piece ++ joinedParts blanks others := by
  -- By induction on the text: a character goes to the piece that is under way, but a blank outside
  -- all parentheses ends it.
  induction text generalizing depth with
  | nil => exact ⟨[], [], [], ⟨by simp [Unparted], by simp, by simp, partingNone.mpr rfl⟩, rfl⟩
  | cons c rest ih =>
    by_cases between : (isBlank c && depth == 0) = true
    · obtain ⟨blank, outside⟩ := Bool.and_eq_true_iff.mp between
      cases beq_iff_eq.mp outside
      obtain ⟨piece, blanks, others, onward, rfl⟩ := ih 0
      obtain ⟨lead, parts, parting, joined⟩ := partingOfOnward onward
      refine ⟨[], c :: lead, parts, ⟨by simp [Unparted], ?_, ?_, ?_⟩, ?_⟩
      · exact fun _ => ⟨List.cons_ne_nil c lead, rfl⟩
      · exact fun isOpen => absurd rfl isOpen
      · exact { parting with before := by simpa [isBlankText, blank] using parting.before }
      · rw [← joined]
        rfl
    · obtain ⟨piece, blanks, others, ⟨whole, apart, taken, behind⟩, rfl⟩ := ih (depthAfter depth c)
      exact ⟨c :: piece, blanks, others,
        ⟨unpartedCons.mpr ⟨between, whole⟩, apart, taken, behind⟩, rfl⟩

theorem partingExists (text : List Char) :
    ∃ lead parts, Parting lead parts ∧ joinedParts lead parts = text := by
  obtain ⟨piece, blanks, others, onward, rfl⟩ := onwardExists 0 text
  exact partingOfOnward onward

theorem cutAtOuterBlanks (hint : String) :
    (∀ found, pieces hint = found ↔ ∃ lead parts, Parting lead parts ∧
      joinedParts lead parts = hint.toList ∧
      found = parts.map fun part => String.ofList part.piece) ∧
    (∀ blanks next : String, levelAfter 0 hint.toList = 0 → blanks.toList ≠ [] →
      isBlankText blanks.toList = true →
      pieces (hint ++ blanks ++ next) = pieces hint ++ pieces next) := by
  have parted {lead : List Char} {parts : List Part} (parting : Parting lead parts)
      (joined : joinedParts lead parts = hint.toList) :
      pieces hint = parts.map fun part => String.ofList part.piece := by
    rw [pieces, ← joined, cutParting parting, List.map_map]
    rfl
  refine ⟨fun found => ⟨?_, ?_⟩, fun _ next closed some blank => piecesBehind next closed some blank⟩
  · rintro rfl
    obtain ⟨lead, parts, parting, joined⟩ := partingExists hint.toList
    exact ⟨lead, parts, parting, joined, parted parting joined⟩
  · rintro ⟨lead, parts, parting, joined, rfl⟩
    exact parted parting joined

theorem cutBehindStrayParenthesis :
    levelAfter 0 ")\u3000(é\u00a0x)x2".toList = 0 ∧
    pieces (")\u3000(é\u00a0x)x2" ++ "\u2003\n" ++ " (1 (2) ") =
      [")", "(é\u00a0x)x2", "(1 (2) "] := by
  have closed : levelAfter 0 ")\u3000(é\u00a0x)x2".toList = 0 := by decide
  have joined := (cutAtOuterBlanks ")\u3000(é\u00a0x)x2").2 "\u2003\n" " (1 (2) " closed
    (by decide) (by decide)
  exact ⟨closed, joined.trans (by decide +kernel)⟩

end ScorePage.Hint
