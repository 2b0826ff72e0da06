import ScorePage.Proofs.Hint.Reading
import ScorePage.Proofs.Text.Blank

/-! Which texts are pieces of a hint. The lexemes of a written group say its items, and lexemes that
say items spell a written group; so a piece is accepted exactly when it is written by the grammar
and keeps within the limits. -/
namespace ScorePage.Hint
open Text

theorem itemsBeginWithoutBlank {text : List Char} {layout : Layout} (items : ItemsText text layout)
    (after : List Char) : EndsRun isBlank (text ++ ')' :: after) := by
  cases items with
  | nil => intro c first; cases Option.some.inj first; decide
  | count numeral blank apart tail =>
    rw [List.append_assoc, List.append_assoc]
    exact endsRunAppend numeral.some fun c member => digitNotBlank (numeral.decimal c member)
  | group before body blank tail => intro c first; cases Option.some.inj first; decide

theorem itemsBeginWithoutDigit {text : List Char} {layout : Layout} (items : ItemsText text layout)
    (uncounted : ∀ next others, layout ≠ .leaf next others) (after : List Char) :
    EndsRun Char.isDigit (text ++ ')' :: after) := by
  cases items with
  | nil => intro c first; cases Option.some.inj first; decide
  | count numeral blank apart tail => exact absurd rfl (uncounted _ _)
  | group before body blank tail => intro c first; cases Option.some.inj first; decide

theorem spelledBlanks {column : Nat} {blanks text : List Char} {found : List Located}
    (blank : isBlankText blanks = true) (ends : EndsRun isBlank text)
    (tail : Spelled (column + blanks.length) text found) :
    ∃ front, Spelled column (blanks ++ text) (front ++ found) ∧
      ∀ inside layout, ItemsFound inside layout → ItemsFound (front ++ inside) layout := by
  by_cases some : blanks = []
  · subst some
    exact ⟨[], tail, fun _ _ items => items⟩
  · exact ⟨[⟨column, .gap⟩], .gap some blank ends tail, fun _ _ items => .gap items⟩

theorem enclosedLength (column : Nat) (lead items : List Char) :
    column + (enclosed lead items).length = column + 1 + lead.length + items.length + 1 := by
  simp only [enclosed, List.length_append, List.length_cons, List.length_nil]
  omega

theorem spelledEnclosed {column last : Nat} {lead items after : List Char}
    {inside found : List Located} {layout : Layout} (before : isBlankText lead = true)
    (body : ItemsText items layout) (said : ItemsFound inside layout)
    (spelled : Spelled (column + 1 + lead.length) (items ++ ')' :: after)
      (inside ++ ⟨last, .closing⟩ :: found)) :
    ∃ inside, Spelled column (enclosed lead items ++ after)
        (⟨column, .opening⟩ :: (inside ++ ⟨last, .closing⟩ :: found)) ∧
      ItemsFound inside layout := by
  obtain ⟨start, begun, skipped⟩ := spelledBlanks before (itemsBeginWithoutBlank body after) spelled
  exact ⟨start ++ inside, by simpa [enclosed] using Spelled.opening begun, skipped _ _ said⟩

theorem spelledItems {text : List Char} {layout : Layout} (items : ItemsText text layout)
    (sized : ∀ count ∈ layout.leaves, 1 ≤ count ∧ count ≤ maxStaves) {column : Nat}
    {after : List Char} {found : List Located}
    (tail : Spelled (column + text.length) (')' :: after) found) :
    ∃ inside, Spelled column (text ++ ')' :: after) (inside ++ found) ∧
      ItemsFound inside layout := by
  -- Items are spelled from right to left, by induction on how they are written: what stands behind
  -- a number or a gap is known to end its run by then.
  induction items generalizing column after found with
  | nil => exact ⟨[], tail, .nil⟩
  | @count digits gap rest value layout numeral blank apart items ih =>
    obtain ⟨size, sizes⟩ := List.forall_mem_cons.mp sized
    simp only [List.length_append, ← Nat.add_assoc] at tail
    obtain ⟨inside, spelled, said⟩ := ih sizes tail
    obtain ⟨front, gapped, skipped⟩ :=
      spelledBlanks blank (itemsBeginWithoutBlank items after) spelled
    have longest : EndsRun Char.isDigit (gap ++ (rest ++ ')' :: after)) := by
      by_cases some : gap = []
      · subst some
        exact itemsBeginWithoutDigit items (fun _ _ same => apart _ _ same rfl) after
      · exact endsRunAppend some fun c member => blankNotDigit (List.all_eq_true.mp blank c member)
    have small : value ≤ largestNumber := Nat.le_trans size.2 (by decide)
    have whole := Spelled.number numeral small longest gapped
    exact ⟨_ :: (front ++ inside), by simpa using whole, .count size (skipped _ _ said)⟩
  | @group lead items gap rest inner layout before body blank others bodyIh othersIh =>
    have innerSized := fun count member => sized count (List.mem_append_left _ member)
    have othersSized := fun count member => sized count (List.mem_append_right _ member)
    simp only [List.length_append, ← Nat.add_assoc, enclosedLength] at tail
    obtain ⟨behind, spelled, saidBehind⟩ := othersIh othersSized tail
    obtain ⟨front, gapped, skipped⟩ :=
      spelledBlanks blank (itemsBeginWithoutBlank others after) spelled
    obtain ⟨inside, bodySpelled, said⟩ := bodyIh innerSized (.closing gapped)
    obtain ⟨inside, whole, said⟩ := spelledEnclosed before body said bodySpelled
    exact ⟨_ :: (inside ++ _ :: (front ++ behind)), by simpa using whole,
      .group said (skipped _ _ saidBehind)⟩

theorem spelledGroup {text : List Char} {layout : Layout} (group : GroupText text layout)
    (sized : ∀ count ∈ layout.leaves, 1 ≤ count ∧ count ≤ maxStaves) {column : Nat}
    {after : List Char} {found : List Located}
    (tail : Spelled (column + text.length) after found) :
    ∃ first inside last,
      Spelled column (text ++ after) (⟨first, .opening⟩ :: (inside ++ ⟨last, .closing⟩ :: found)) ∧
      ItemsFound inside layout := by
  cases group with
  | mk before body =>
    rw [enclosedLength] at tail
    obtain ⟨inside, spelled, said⟩ := spelledItems body sized (.closing tail)
    obtain ⟨inside, whole, said⟩ := spelledEnclosed before body said spelled
    exact ⟨_, inside, _, whole, said⟩

theorem textOfItems {inside : List Located} {layout : Layout} (items : ItemsFound inside layout)
    {column : Nat} {text : List Char} {found : List Located}
    (spelled : Spelled column text (inside ++ found)) :
    ∃ lead body rest column, text = lead ++ body ++ rest ∧ isBlankText lead = true ∧
      ItemsText body layout ∧ Spelled column rest found := by
  induction items generalizing column text found with
  | nil => exact ⟨[], [], text, column, rfl, rfl, .nil, spelled⟩
  | gap tail ih =>
    cases spelled with
    | @gap _ blanks text _ some blank longest spelled =>
      obtain ⟨lead, body, rest, column, rfl, leadBlank, items, after⟩ := ih spelled
      refine ⟨blanks ++ lead, body, rest, column, by simp, ?_, items, after⟩
      simp_all [isBlankText]
  | count sized tail ih =>
    cases spelled with
    | @number _ digits value text _ numeral small longest spelled =>
      obtain ⟨lead, body, rest, column, rfl, leadBlank, items, after⟩ := ih spelled
      refine ⟨[], digits ++ lead ++ body, rest, column, by simp, rfl, ?_, after⟩
      refine .count numeral leadBlank ?_ items
      rintro next others rfl rfl
      cases items with
      | count glued _ _ _ =>
        obtain ⟨d, more, rfl⟩ := List.exists_cons_of_ne_nil glued.some
        have noDigit : d.isDigit = false := longest d rfl
        rw [glued.decimal d List.mem_cons_self] at noDigit
        contradiction
  | group body tail bodyIh tailIh =>
    rw [List.cons_append, List.append_assoc] at spelled
    cases spelled with
    | opening spelled =>
      obtain ⟨lead, items, rest, _, rfl, leadBlank, itemsText, after⟩ := bodyIh spelled
      cases after with
      | closing spelled =>
        obtain ⟨gap, others, rest, column, rfl, gapBlank, othersText, after⟩ := tailIh spelled
        exact ⟨[], enclosed lead items ++ gap ++ others, rest, column, by simp [enclosed], rfl,
          .group leadBlank itemsText gapBlank othersText, after⟩

theorem repeatsText {beyond column : Nat} {text : List Char} {found : List Located} {repeats : Nat}
    (spelled : Spelled column text found) (ok : readRepeats beyond found = .ok repeats) :
    (text = [] ∧ repeats = 1) ∨ (∃ c digits, text = c :: digits ∧ (c = 'x' ∨ c = 'X') ∧
      Numeral digits repeats ∧ 1 ≤ repeats ∧ repeats ≤ maxRepeats) := by
  rcases readRepeatsExact.mp ok with ⟨rfl, rfl⟩ | ⟨first, second, rfl, sized⟩
  · cases spelled
    exact .inl ⟨rfl, rfl⟩
  · cases spelled with
    | @times _ c text _ sign spelled =>
      cases spelled with
      | @number _ digits value text _ numeral small longest spelled =>
        cases spelled
        exact .inr ⟨c, digits, by simp, timesCharacters sign, numeral, sized⟩

theorem pieceExact {beyond : Nat} {text : List Char} {layout : Layout} {repeats : Nat} :
    (∃ found, scan 1 text = .ok found ∧ readGroup beyond found = .ok (layout, repeats)) ↔
      PieceText text layout repeats ∧ (∀ count ∈ layout.leaves, 1 ≤ count ∧ count ≤ maxStaves) ∧
        1 ≤ repeats ∧ repeats ≤ maxRepeats := by
  constructor
  · rintro ⟨found, scanned, read⟩
    obtain ⟨first, inside, last, rest, rfl, items, systems⟩ := readGroupExact.mp read
    cases scanExact.mp scanned with
    | opening spelled =>
      obtain ⟨lead, body, _, _, rfl, blank, itemsText, after⟩ := textOfItems items spelled
      cases after with
      | @closing _ text _ spelled =>
        have group := GroupText.mk blank itemsText
        rcases repeatsText spelled systems with ⟨rfl, rfl⟩ | ⟨c, digits, rfl, sign, numeral, sized⟩
        · exact ⟨by simpa [enclosed] using PieceText.once group, itemsWithinLimits items,
            by decide⟩
        · exact ⟨by simpa [enclosed] using PieceText.repeated group sign numeral,
            itemsWithinLimits items, sized⟩
  · rintro ⟨piece, sized, systems⟩
    cases piece with
    | once group =>
      obtain ⟨first, inside, last, spelled, said⟩ := spelledGroup group sized (.nil _)
      have repeated : readRepeats beyond [] = .ok 1 := rfl
      refine ⟨_, scanExact.mpr (by simpa using spelled), ?_⟩
      exact readGroupExact.mpr ⟨first, inside, last, [], rfl, said, repeated⟩
    | @repeated text _ digits _ c group sign numeral =>
      have times : isTimes c = true := by rcases sign with rfl | rfl <;> rfl
      have small : repeats ≤ largestNumber := Nat.le_trans systems.2 (by decide)
      have ends : EndsRun Char.isDigit [] := by intro c first; simp at first
      have suffix : Spelled (1 + text.length + 1) (digits ++ []) _ :=
        .number numeral small ends (.nil _)
      obtain ⟨first, inside, last, spelled, said⟩ :=
        spelledGroup group sized (.times times suffix)
      refine ⟨_, scanExact.mpr (by simpa using spelled), ?_⟩
      exact readGroupExact.mpr ⟨first, inside, last, _, rfl, said,
        readRepeatsExact.mpr (.inr ⟨_, _, rfl, systems⟩)⟩

theorem ofTextExact {source : String} {hint : SystemHint} :
    SystemHint.ofText source = .ok hint ↔ hint.source = source ∧
      PieceText source.toList hint.layout hint.repeats ∧
      WithinLimits hint.layout hint.repeats := by
  simp only [SystemHint.ofText, lexemes, Result.bindOk, Result.mapErrorOk]
  constructor
  · rintro ⟨found, scanned, ⟨layout, repeats⟩, read, ok⟩
    obtain ⟨piece, counts, systems⟩ := pieceExact.mp ⟨found, scanned, read⟩
    split at ok
    · contradiction
    · rename_i total
      cases ok
      exact ⟨rfl, piece, counts, Nat.le_of_not_lt total, systems⟩
  · obtain ⟨text, layout, repeats⟩ := hint
    rintro ⟨rfl, piece, counts, total, systems⟩
    obtain ⟨found, scanned, read⟩ := pieceExact.mpr ⟨piece, counts, systems⟩
    refine ⟨found, scanned, (layout, repeats), read, ?_⟩
    rw [if_neg (Nat.not_lt.mpr total)]

theorem ofTextFault {source : String} {fault : Fault}
    (refused : SystemHint.ofText source = .error fault) : fault.token = source := by
  simp only [SystemHint.ofText, lexemes, Result.bindError, Result.mapErrorError] at refused
  obtain ⟨spot, _, rfl⟩ | ⟨found, _, ⟨spot, _, rfl⟩ | ⟨⟨layout, repeats⟩, _, tooMany⟩⟩ := refused
  · rfl
  · rfl
  · split at tooMany
    · cases tooMany
      rfl
    · contradiction

theorem readByGrammar (source : String) :
    (∀ hint, SystemHint.ofText source = .ok hint ↔ hint.source = source ∧
      PieceText source.toList hint.layout hint.repeats ∧ WithinLimits hint.layout hint.repeats) ∧
    ((∃ hint, SystemHint.ofText source = .ok hint) ↔
      ∃ layout repeats, PieceText source.toList layout repeats ∧ WithinLimits layout repeats) ∧
    ∀ fault, SystemHint.ofText source = .error fault → fault.token = source := by
  refine ⟨fun hint => ofTextExact, ⟨?_, ?_⟩, fun fault => ofTextFault⟩
  · rintro ⟨hint, ok⟩
    obtain ⟨_, piece, limits⟩ := ofTextExact.mp ok
    exact ⟨hint.layout, hint.repeats, piece, limits⟩
  · rintro ⟨layout, repeats, piece, limits⟩
    exact ⟨⟨source, layout, repeats⟩, ofTextExact.mpr ⟨rfl, piece, limits⟩⟩

end ScorePage.Hint
