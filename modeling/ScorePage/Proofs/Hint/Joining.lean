import ScorePage.Proofs.Hint.RoundTrip

/-! Hints behind one another. A hint that can be read leaves no group open, so a blank behind it lies
outside all groups and the next hint is read as if it stood alone. -/
namespace ScorePage.Hint
open Text

def levelAfter (level : Nat) (text : List Char) : Nat := text.foldl depthAfter level

theorem levelAppend (level : Nat) (text others : List Char) :
    levelAfter level (text ++ others) = levelAfter (levelAfter level text) others :=
  List.foldl_append

theorem levelRun {run : List Char} {level : Nat}
    (kept : ∀ c ∈ run, depthAfter level c = level) : levelAfter level run = level := by
  induction run with
  | nil => rfl
  | cons c run ih =>
    obtain ⟨here, kept⟩ := List.forall_mem_cons.mp kept
    rw [levelAfter, List.foldl_cons, here]
    exact ih kept

theorem levelBlanks {blanks : List Char} (blank : isBlankText blanks = true) (level : Nat) :
    levelAfter level blanks = level :=
  levelRun fun c member => blankKeepsDepth (List.all_eq_true.mp blank c member) level

theorem levelDigits {digits : List Char} (decimal : ∀ c ∈ digits, c.isDigit = true) (level : Nat) :
    levelAfter level digits = level :=
  levelRun fun c member => digitKeepsDepth (decimal c member) level

theorem levelEnclosed {lead items : List Char} (before : isBlankText lead = true)
    (inside : ∀ level, levelAfter level items = level) (level : Nat) :
    levelAfter level (enclosed lead items) = level := by
  have opened : levelAfter level ['('] = level + 1 := rfl
  have closed : levelAfter (level + 1) [')'] = level := rfl
  have parts : enclosed lead items = ['('] ++ lead ++ items ++ [')'] := by simp [enclosed]
  rw [parts, levelAppend, levelAppend, levelAppend, opened, levelBlanks before, inside, closed]

theorem levelItems {text : List Char} {layout : Layout} (items : ItemsText text layout)
    (level : Nat) : levelAfter level text = level := by
  induction items generalizing level with
  | nil => rfl
  | count numeral blank apart tail ih =>
    rw [levelAppend, levelAppend, levelDigits numeral.decimal, levelBlanks blank, ih]
  | group before body blank tail bodyIh tailIh =>
    rw [levelAppend, levelAppend, levelEnclosed before bodyIh, levelBlanks blank, tailIh]

theorem levelPiece {text : List Char} {layout : Layout} {repeats : Nat}
    (piece : PieceText text layout repeats) (level : Nat) : levelAfter level text = level := by
  have levelGroup {text : List Char} (group : GroupText text layout) :
      levelAfter level text = level := by
    cases group with
    | mk before body => exact levelEnclosed before (levelItems body) level
  cases piece with
  | once group => exact levelGroup group
  | @repeated text _ digits _ c group sign numeral =>
    have kept : levelAfter level [c] = level := by rcases sign with rfl | rfl <;> rfl
    rw [← List.singleton_append, levelAppend, levelAppend, levelGroup group, kept,
      levelDigits numeral.decimal]

theorem allParts {P : List Char → Prop} {cut : Cut} (empty : P [])
    (all : ∀ piece ∈ cut.all, P piece) : P cut.first ∧ ∀ piece ∈ cut.others, P piece := by
  by_cases none : cut.first = []
  · exact ⟨none ▸ empty, by simpa [Cut.all, none] using all⟩
  · simpa [Cut.all, none] using all

theorem allAppend (cut : Cut) (others : List (List Char)) :
    Cut.all ⟨cut.first, cut.others ++ others⟩ = cut.all ++ others := by
  by_cases none : cut.first = [] <;> simp [Cut.all, none]

theorem levelCut {depth : Nat} {text : List Char}
    (first : levelAfter depth (cut depth text).first = 0)
    (others : ∀ piece ∈ (cut depth text).others, levelAfter 0 piece = 0) :
    levelAfter depth text = 0 := by
  induction text generalizing depth with
  | nil => exact first
  | cons c rest ih =>
    by_cases between : (isBlank c && depth == 0) = true
    · obtain ⟨blank, outside⟩ := Bool.and_eq_true_iff.mp between
      cases beq_iff_eq.mp outside
      rw [cutBlank blank] at others
      have kept : levelAfter 0 [c] = 0 := levelBlanks (by simp [isBlankText, blank]) 0
      have parts := allParts (P := fun piece => levelAfter 0 piece = 0) rfl others
      rw [← List.singleton_append, levelAppend, kept]
      exact ih parts.1 parts.2
    · rw [cutKept between] at first others
      exact ih first others

theorem cutJoined {depth : Nat} {text : List Char} (closed : levelAfter depth text = 0) {c : Char}
    (blank : isBlank c = true) (next : List Char) :
    cut depth (text ++ c :: next) =
      ⟨(cut depth text).first, (cut depth text).others ++ (cut 0 next).all⟩ := by
  induction text generalizing depth with
  | nil =>
    cases closed
    exact cutBlank blank next
  | cons d rest ih =>
    rw [List.cons_append]
    by_cases between : (isBlank d && depth == 0) = true
    · obtain ⟨gap, outside⟩ := Bool.and_eq_true_iff.mp between
      cases beq_iff_eq.mp outside
      have kept : levelAfter 0 [d] = 0 := levelBlanks (by simp [isBlankText, gap]) 0
      rw [← List.singleton_append, levelAppend, kept] at closed
      rw [cutBlank gap, cutBlank gap, ih closed, allAppend]
    · rw [cutKept between, cutKept between, ih closed]
      rfl

theorem readLeavesClosed {hint : String} {hints : List SystemHint}
    (read : SystemHint.allOfText hint = .ok hints) : levelAfter 0 hint.toList = 0 := by
  have closed : ∀ piece ∈ (cut 0 hint.toList).all, levelAfter 0 piece = 0 := by
    intro piece member
    have result : SystemHint.ofText (String.ofList piece) ∈ hints.map Except.ok := by
      rw [← allOfTextOk.mp read, pieces, List.map_map]
      exact List.mem_map_of_mem member
    obtain ⟨found, _, ok⟩ := List.mem_map.mp result
    obtain ⟨_, written, _⟩ := ofTextExact.mp ok.symm
    rw [String.toList_ofList] at written
    exact levelPiece written 0
  have parts := allParts (P := fun piece => levelAfter 0 piece = 0) rfl closed
  exact levelCut parts.1 parts.2

theorem piecesBehind {hint blanks : String} (next : String)
    (closed : levelAfter 0 hint.toList = 0) (some : blanks.toList ≠ [])
    (blank : isBlankText blanks.toList = true) :
    pieces (hint ++ blanks ++ next) = pieces hint ++ pieces next := by
  obtain ⟨c, others, shape⟩ := List.exists_cons_of_ne_nil some
  rw [shape, isBlankText, List.all_cons, Bool.and_eq_true] at blank
  have text : (hint ++ blanks ++ next).toList = hint.toList ++ c :: (others ++ next.toList) := by
    simp [shape]
  rw [pieces, text, cutJoined closed blank.1, allAppend, cutOuterBlanks blank.2, List.map_append]
  rfl

theorem readJoined {first second : String} {hints others : List SystemHint}
    (firstRead : SystemHint.allOfText first = .ok hints)
    (secondRead : SystemHint.allOfText second = .ok others) :
    SystemHint.allOfText (first ++ " " ++ second) = .ok (hints ++ others) := by
  have joined : pieces (first ++ " " ++ second) = pieces first ++ pieces second :=
    piecesBehind second (readLeavesClosed firstRead) (by simp) rfl
  rw [allOfTextOk] at firstRead secondRead ⊢
  rw [joined, List.map_append, List.map_append, firstRead, secondRead]

theorem pieceRead {source : String} {hint : SystemHint}
    (read : SystemHint.ofText source = .ok hint) : SystemHint.allOfText source = .ok [hint] := by
  obtain ⟨rfl, written⟩ := ofTextExact.mp read
  have layout : Laid [] [(hint, [])] := ⟨rfl, by simp [isBlankText], by simp⟩
  have whole := laidRead layout (List.forall_mem_singleton.mpr written)
  simpa [laidText] using whole

theorem copiesRead {source : String} {hint : SystemHint}
    (read : SystemHint.ofText source = .ok hint) (copies : Nat) :
    SystemHint.allOfText (" ".intercalate (List.replicate copies source)) =
      .ok (List.replicate copies hint) := by
  induction copies with
  | zero => rfl
  | succ copies ih =>
    cases copies with
    | zero => exact pieceRead read
    | succ copies =>
      rw [List.replicate_succ, List.replicate_succ, String.intercalate_cons_cons,
        ← List.replicate_succ, List.replicate_succ]
      exact readJoined (pieceRead read) ih

theorem repeatsRead {source : String} {hint : SystemHint}
    (read : SystemHint.ofText source = .ok hint)
    (single : ∀ c ∈ source.toList, isTimes c = false) {repeats : Nat}
    (sized : 1 ≤ repeats ∧ repeats ≤ maxRepeats) :
    hint.repeats = 1 ∧ SystemHint.ofText (source ++ "x" ++ toString repeats) =
      .ok ⟨source ++ "x" ++ toString repeats, hint.layout, repeats⟩ := by
  obtain ⟨rfl, written, limits⟩ := ofTextExact.mp read
  obtain ⟨source, layout, once⟩ := hint
  dsimp only at *
  generalize text : source.toList = characters at written single
  cases written with
  | once group =>
    refine ⟨rfl, ofTextExact.mpr ⟨rfl, ?_, limits.counts, limits.total, sized⟩⟩
    have spelled : (source ++ "x" ++ toString repeats).toList =
        characters ++ 'x' :: Nat.toDigits 10 repeats := by
      simp [text]
    dsimp only
    rw [spelled]
    exact .repeated group (.inl rfl) (numeralOfDigits repeats)
  | @repeated text _ digits _ c group sign numeral =>
    have none := single c (by simp)
    rcases sign with rfl | rfl <;> contradiction

end ScorePage.Hint
