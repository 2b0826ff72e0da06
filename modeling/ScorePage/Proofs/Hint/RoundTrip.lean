import ScorePage.Proofs.Hint.Accepted
import ScorePage.Proofs.Hint.Cutting

/-! Whole hints. Pieces that are laid out with blanks between them are read back as they were, however
each of them is written and whatever the blanks are. -/
namespace ScorePage.Hint
open Text

theorem allOfTextOk {hint : String} {hints : List SystemHint} :
    SystemHint.allOfText hint = .ok hints ↔
      (pieces hint).map SystemHint.ofText = hints.map .ok := Result.mapMOk

theorem piecesLaid {lead : List Char} {laid : List (SystemHint × List Char)}
    (layout : Laid lead laid)
    (written : ∀ piece ∈ laid,
      PieceText piece.1.source.toList piece.1.layout piece.1.repeats) :
    pieces (String.ofList (laidText lead laid)) = laid.map (·.1.source) := by
  rw [pieces, String.toList_ofList, cutLaid layout written]
  simp [Function.comp_def]

theorem laidRead {lead : List Char} {laid : List (SystemHint × List Char)} (layout : Laid lead laid)
    (written : ∀ piece ∈ laid, PieceText piece.1.source.toList piece.1.layout piece.1.repeats ∧
      WithinLimits piece.1.layout piece.1.repeats) :
    SystemHint.allOfText (String.ofList (laidText lead laid)) = .ok (laid.map Prod.fst) := by
  rw [allOfTextOk, piecesLaid layout fun piece member => (written piece member).1, List.map_map,
    List.map_map]
  apply List.map_congr_left
  intro piece member
  exact ofTextExact.mpr ⟨rfl, written piece member⟩

theorem writtenOfRead {hint : String} {hints : List SystemHint}
    (ok : SystemHint.allOfText hint = .ok hints) :
    ∀ read ∈ hints, PieceText read.source.toList read.layout read.repeats ∧
      WithinLimits read.layout read.repeats := by
  intro read member
  have result : Except.ok read ∈ (pieces hint).map SystemHint.ofText := by
    rw [allOfTextOk.mp ok]
    exact List.mem_map_of_mem member
  obtain ⟨source, _, ok⟩ := List.mem_map.mp result
  obtain ⟨rfl, written⟩ := ofTextExact.mp ok
  exact written

def plainItems : Layout → List Char
  | .nil => []
  | .leaf count rest => Nat.toDigits 10 count ++ [' '] ++ plainItems rest
  | .nested inner rest => enclosed [] (plainItems inner) ++ [' '] ++ plainItems rest

def plainPiece (layout : Layout) (repeats : Nat) : List Char :=
  enclosed [] (plainItems layout) ++ 'x' :: Nat.toDigits 10 repeats

def plainlyLaid (pairs : List (Layout × Nat)) : List (SystemHint × List Char) :=
  pairs.map fun pair => (⟨String.ofList (plainPiece pair.1 pair.2), pair.1, pair.2⟩, [' '])

theorem numeralOfDigits (n : Nat) : Numeral (Nat.toDigits 10 n) n :=
  ⟨Nat.toDigits_ne_nil, Text.numberDigits n, Nat.ofDigitChars_ten_toDigits⟩

theorem plainItemsText (layout : Layout) : ItemsText (plainItems layout) layout := by
  induction layout with
  | nil => exact .nil
  | leaf count rest ih =>
    exact .count (numeralOfDigits count) rfl (fun _ _ _ => List.cons_ne_nil _ _) ih
  | nested inner rest innerIh restIh => exact .group rfl innerIh rfl restIh

theorem plainPieceText (layout : Layout) (repeats : Nat) :
    PieceText (plainPiece layout repeats) layout repeats :=
  .repeated (.mk rfl (plainItemsText layout)) (.inl rfl) (numeralOfDigits repeats)

theorem plainlyLaidOut (pairs : List (Layout × Nat)) :
    Laid [] (plainlyLaid pairs) ∧
      (∀ piece ∈ plainlyLaid pairs,
        PieceText piece.1.source.toList piece.1.layout piece.1.repeats) ∧
      (plainlyLaid pairs).map (fun piece => (piece.1.layout, piece.1.repeats)) = pairs := by
  have each : ∀ piece ∈ plainlyLaid pairs, piece.2 = [' '] ∧
      PieceText piece.1.source.toList piece.1.layout piece.1.repeats := by
    intro piece member
    obtain ⟨pair, _, rfl⟩ := List.mem_map.mp member
    refine ⟨rfl, ?_⟩
    rw [String.toList_ofList]
    exact plainPieceText pair.1 pair.2
  refine ⟨⟨rfl, ?_, ?_⟩, fun piece member => (each piece member).2, ?_⟩
  · intro piece member
    rw [(each piece member).1]
    rfl
  · intro piece member
    rw [(each piece (List.dropLast_subset _ member)).1]
    exact List.cons_ne_nil _ _
  · simp [plainlyLaid, Function.comp_def]

theorem hintsReadBack :
    (∀ pairs : List (Layout × Nat), ∃ laid, Laid [] laid ∧
      (∀ piece ∈ laid, PieceText piece.1.source.toList piece.1.layout piece.1.repeats) ∧
      laid.map (fun piece => (piece.1.layout, piece.1.repeats)) = pairs) ∧
    (∀ lead laid, Laid lead laid →
      (∀ piece ∈ laid, PieceText piece.1.source.toList piece.1.layout piece.1.repeats ∧
        WithinLimits piece.1.layout piece.1.repeats) →
      SystemHint.allOfText (String.ofList (laidText lead laid)) = .ok (laid.map Prod.fst)) ∧
    (∀ hint hints, SystemHint.allOfText hint = .ok hints →
      ∀ lead laid, Laid lead laid → laid.map Prod.fst = hints →
        SystemHint.allOfText (String.ofList (laidText lead laid)) = .ok hints) := by
  refine ⟨fun pairs => ⟨_, plainlyLaidOut pairs⟩,
    fun lead laid layout written => laidRead layout written, ?_⟩
  intro hint hints ok lead laid layout same
  have written := writtenOfRead ok
  rw [← same] at written ⊢
  exact laidRead layout fun piece member => written _ (List.mem_map_of_mem member)

def twoGroups : SystemHint :=
  ⟨"(2 (1\t1))X02", .leaf 2 (.nested (.leaf 1 (.leaf 1 .nil)) .nil), 2⟩

def noStaves : SystemHint := ⟨"( )", .nil, 1⟩

theorem twoGroupsWritten :
    PieceText twoGroups.source.toList twoGroups.layout twoGroups.repeats ∧
      WithinLimits twoGroups.layout twoGroups.repeats := by
  have one : Numeral ['1'] 1 := ⟨by decide, List.all_eq_true.mp rfl, rfl⟩
  have two : Numeral ['2'] 2 := ⟨by decide, List.all_eq_true.mp rfl, rfl⟩
  have inner : ItemsText (['1'] ++ ['\t'] ++ (['1'] ++ [] ++ [])) (.leaf 1 (.leaf 1 .nil)) :=
    .count one rfl (by simp) (.count one rfl (by simp) .nil)
  have outer : ItemsText (['2'] ++ [' '] ++ (enclosed [] "1\t1".toList ++ [] ++ []))
      (.leaf 2 (.nested (.leaf 1 (.leaf 1 .nil)) .nil)) :=
    .count two rfl (by simp) (.group rfl inner rfl .nil)
  have whole : PieceText (enclosed [] "2 (1\t1)".toList ++ 'X' :: ['0', '2'])
      twoGroups.layout 2 :=
    .repeated (.mk rfl outer) (.inr rfl) ⟨by decide, List.all_eq_true.mp rfl, rfl⟩
  exact ⟨whole, by decide, by decide, by decide⟩

theorem noStavesWritten :
    PieceText noStaves.source.toList noStaves.layout noStaves.repeats ∧
      WithinLimits noStaves.layout noStaves.repeats := by
  have whole : PieceText (enclosed [' '] []) .nil 1 := .once (.mk rfl .nil)
  exact ⟨whole, by decide, by decide, by decide⟩

theorem hintsReadBackOnOneLine :
    SystemHint.allOfText (String.ofList (laidText ['\n'] [(twoGroups, ['\t', ' ']), (noStaves, [])])) =
        .ok [twoGroups, noStaves] ∧
      SystemHint.allOfText (String.ofList (laidText [] [(twoGroups, [' ']), (noStaves, [' '])])) =
        .ok [twoGroups, noStaves] := by
  have layout : Laid ['\n'] [(twoGroups, ['\t', ' ']), (noStaves, [])] :=
    ⟨by decide, by decide, by decide⟩
  have joined : Laid [] [(twoGroups, [' ']), (noStaves, [' '])] :=
    ⟨by decide, by decide, by decide⟩
  have read := hintsReadBack.2.1 _ _ layout (List.forall_mem_cons.mpr
    ⟨twoGroupsWritten, List.forall_mem_singleton.mpr noStavesWritten⟩)
  exact ⟨read, hintsReadBack.2.2 _ _ read _ _ joined rfl⟩

end ScorePage.Hint
