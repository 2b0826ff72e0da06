import ScorePage.Proofs.Hint.RoundTrip
import ScorePage.Proofs.Hint.Scanning

/-! Where the reader of lexemes gives up. What it has gone through by then could still become a piece
of a hint, but with the next lexeme it no longer can, so the fault is told at the earliest place
that is wrong. -/
namespace ScorePage.Hint
open Text

variable {α β : Type}

/- What is before this place can go on in some way, but with nothing that begins as what is behind. -/
structure DeadEnd (read : List Located → Except Spot α) (before after : List Located) : Prop where
  onward : ∃ more value, read (before ++ more) = .ok value
  blocked : ∀ first rest, after = first :: rest →
    ∀ more value, read (before ++ first :: more) ≠ .ok value

def StopsAt (read : List Located → Except Spot α) (beyond : Nat) (found : List Located)
    (spot : Spot) : Prop :=
  ∃ before after, found = before ++ after ∧ spot.column = columnOf beyond after ∧
    DeadEnd read before after

theorem stopsNow {read : List Located → Except Spot α} {beyond : Nat} {found : List Located}
    {spot : Spot} (onward : ∃ more value, read more = .ok value)
    (place : spot.column = columnOf beyond found)
    (blocked : ∀ first rest, found = first :: rest → ∀ more value, read (first :: more) ≠ .ok value) :
    StopsAt read beyond found spot :=
  ⟨[], found, rfl, place, onward, blocked⟩

theorem stopsAtFirst {read : List Located → Except Spot α} {beyond : Nat} {first : Located}
    {rest : List Located} {spot : Spot} (onward : ∃ more value, read more = .ok value)
    (place : spot.column = first.column)
    (blocked : ∀ more value, read (first :: more) ≠ .ok value) :
    StopsAt read beyond (first :: rest) spot := by
  refine stopsNow onward place fun _ _ same => ?_
  cases same
  exact blocked

theorem stopsWithin {read : List Located → Except Spot α} {beyond : Nat} {first : Located}
    {rest : List Located} {spot : Spot}
    (stops : StopsAt (fun rest => read (first :: rest)) beyond rest spot) :
    StopsAt read beyond (first :: rest) spot := by
  obtain ⟨before, after, rfl, place, onward, blocked⟩ := stops
  exact ⟨first :: before, after, rfl, place, onward, blocked⟩

theorem stopsBehind {read : List Located → Except Spot α} {next : List Located → Except Spot β}
    {first : Located} {f : β → α} (step : ∀ rest, read (first :: rest) = (next rest).map f)
    {beyond : Nat} {rest : List Located} {spot : Spot} (stops : StopsAt next beyond rest spot) :
    StopsAt read beyond (first :: rest) spot := by
  obtain ⟨before, after, rfl, place, ⟨more, value, onward⟩, blocked⟩ := stops
  refine stopsWithin ⟨before, after, rfl, place, ⟨more, f value, ?_⟩, ?_⟩
  · rw [step, onward]
    rfl
  · intro last others same more value ok
    obtain ⟨found, read, -⟩ := Result.mapOk.mp ((step _).symm.trans ok)
    exact blocked last others same more found read

theorem closable (beyond depth : Nat) :
    ∃ more r, readItems beyond depth more = .ok r := by
  induction depth with
  | zero => exact ⟨[⟨0, .closing⟩], _, rfl⟩
  | succ depth ih =>
    obtain ⟨more, r, closed⟩ := ih
    exact ⟨⟨0, .closing⟩ :: more, r.beforeClosing, by rw [readItems, closed]; rfl⟩

theorem repeatsBlocked {first : Located} (noSign : first.lexeme ≠ .times) (beyond : Nat)
    (more : List Located) (repeats : Nat) : readRepeats beyond (first :: more) ≠ .ok repeats := by
  intro ok
  rcases readRepeatsExact.mp ok with ⟨none, -⟩ | ⟨_, _, same, -⟩
  · contradiction
  · cases same
    contradiction

theorem countBlocked {first : Located}
    (unfit : ∀ count, first.lexeme = .number count → ¬(1 ≤ count ∧ count ≤ maxRepeats))
    (beyond : Nat) (sign : Located) (more : List Located) (repeats : Nat) :
    readRepeats beyond (sign :: first :: more) ≠ .ok repeats := by
  intro ok
  rcases readRepeatsExact.mp ok with ⟨none, -⟩ | ⟨_, _, same, sized⟩
  · contradiction
  · cases same
    exact unfit repeats rfl sized

theorem readRepeatsStops {beyond : Nat} {found : List Located} {spot : Spot}
    (refused : readRepeats beyond found = .error spot) :
    StopsAt (readRepeats beyond) beyond found spot := by
  have single : ∃ more value, readRepeats beyond more = .ok value := ⟨[], 1, rfl⟩
  have counted (column : Nat) :
      ∃ more value, readRepeats beyond (⟨column, .times⟩ :: more) = .ok value :=
    ⟨[⟨0, .number 1⟩], 1, rfl⟩
  unfold readRepeats at refused
  split at refused
  · contradiction
  · cases refused
    exact stopsAtFirst single rfl (repeatsBlocked (by simp) beyond)
  · rename_i sign column count rest
    split at refused
    · rename_i zero
      cases refused
      exact stopsWithin (stopsAtFirst (counted sign) rfl (countBlocked (by simp [zero]) beyond _))
    split at refused
    · rename_i large
      cases refused
      exact stopsWithin (stopsAtFirst (counted sign) rfl (countBlocked (by simp [large]) beyond _))
    rename_i positive small
    split at refused
    · contradiction
    · cases refused
      have sized : 1 ≤ count ∧ count ≤ maxRepeats := by omega
      have whole : readRepeats beyond [⟨sign, .times⟩, ⟨column, .number count⟩] = .ok count :=
        readRepeatsExact.mpr (.inr ⟨sign, column, rfl, sized⟩)
      refine stopsWithin (stopsWithin (stopsAtFirst ⟨[], count, whole⟩ rfl fun more repeats ok => ?_))
      rcases readRepeatsExact.mp ok with ⟨none, -⟩ | ⟨_, _, same, -⟩
      · contradiction
      · simp at same
  · rename_i sign rest noNumber
    cases refused
    refine stopsWithin (stopsNow (counted sign) rfl fun first others same => ?_)
    refine countBlocked (fun count number => ?_) beyond _
    obtain ⟨column, lexeme⟩ := first
    cases number
    exact absurd same (noNumber column count others)
  · rename_i noSign
    cases refused
    exact stopsAtFirst single rfl (repeatsBlocked noSign beyond)

theorem readItemsStops {beyond depth : Nat} {found : List Located} {spot : Spot}
    (refused : readItems beyond depth found = .error spot) :
    StopsAt (readItems beyond depth) beyond found spot := by
  fun_induction readItems beyond depth found generalizing spot with
  | case1 depth =>
    cases refused
    exact stopsNow (closable beyond depth) rfl (by simp)
  | case2 depth column rest ih =>
    refine stopsBehind (f := id) (fun rest => ?_) (ih refused)
    rw [readItems]
    cases readItems beyond depth rest <;> rfl
  | case3 depth column rest ih =>
    exact stopsBehind (fun _ => by rw [readItems]) (ih (Result.mapFailed.mp refused))
  | case4 column rest =>
    exact stopsBehind (fun _ => by rw [readItems]) (readRepeatsStops (Result.mapFailed.mp refused))
  | case5 column rest depth ih =>
    exact stopsBehind (fun _ => by rw [readItems]) (ih (Result.mapFailed.mp refused))
  | case6 depth column rest =>
    cases refused
    exact stopsAtFirst (closable beyond depth) rfl (by simp [readItems])
  | case7 depth column rest =>
    cases refused
    exact stopsAtFirst (closable beyond depth) rfl (by simp [readItems])
  | case8 depth column rest count positive large =>
    cases refused
    exact stopsAtFirst (closable beyond depth) rfl (by simp [readItems, positive, large])
  | case9 depth column rest count positive small ih =>
    exact stopsBehind (fun _ => by rw [readItems, if_neg positive, if_neg small])
      (ih (Result.mapFailed.mp refused))

theorem readGroupStops {beyond : Nat} {found : List Located} {spot : Spot}
    (within : columnOf beyond found = 1) (refused : readGroup beyond found = .error spot) :
    StopsAt (readGroup beyond) beyond found spot := by
  have empty : ∃ more value, readGroup beyond more = .ok value :=
    ⟨[⟨0, .opening⟩, ⟨0, .closing⟩], _, rfl⟩
  unfold readGroup at refused
  split at refused
  · cases refused
    exact stopsNow empty within.symm (by simp)
  · exact stopsBehind (fun _ => rfl) (readItemsStops (Result.mapFailed.mp refused))
  · rename_i noOpening
    cases refused
    refine stopsAtFirst empty rfl fun more value ok => ?_
    obtain ⟨_, _, _, _, same, -⟩ := readGroupExact.mp ok
    cases same
    contradiction

theorem firstFaultBounds {column : Nat} {text : List Char} {spot : Spot}
    (fault : FirstFault column text spot) :
    column ≤ spot.column ∧ spot.column < column + text.length := by
  cases fault with
  | unexpected =>
    simp only [List.length_append, List.length_cons]
    omega
  | glued =>
    simp only [List.length_append, List.length_cons]
    omega
  | tooLarge clear run =>
    have some := List.length_pos_iff.mpr run.some
    simp only [List.length_append]
    omega

theorem ofTextBounds {source : String} {fault : Fault}
    (refused : SystemHint.ofText source = .error fault) :
    1 ≤ fault.spot.column ∧ fault.spot.column ≤ source.length + 1 := by
  simp only [SystemHint.ofText, Result.bindError, Result.mapErrorError] at refused
  obtain refused | ⟨found, scanned, ⟨spot, refused, rfl⟩ | ⟨⟨layout, repeats⟩, _, tooMany⟩⟩ := refused
  · have bounds := firstFaultBounds (lexemesError.mp refused).2
    rw [String.length_toList] at bounds
    omega
  · have spelled := lexemesOk.mp scanned
    have within := spelledColumn spelled
    rw [String.length_toList, Nat.add_comm] at within
    obtain ⟨before, after, rfl, place, -⟩ := readGroupStops within refused
    cases after with
    | nil =>
      rw [place]
      exact ⟨Nat.le_add_left 1 _, Nat.le_refl _⟩
    | cons first rest =>
      have bounds := spelledBounds spelled first (by simp)
      rw [String.length_toList] at bounds
      have place : spot.column = first.column := place
      rw [place]
      omega
  · split at tooMany
    · cases tooMany
      exact ⟨Nat.le_refl _, Nat.le_add_left 1 _⟩
    · contradiction

theorem faultAtDeadEnd :
    (∀ source found spot, lexemes source = .ok found →
      readGroup (source.length + 1) found = .error spot →
      StopsAt (readGroup (source.length + 1)) (source.length + 1) found spot) ∧
    (∀ source fault, SystemHint.ofText source = .error fault →
      fault.token = source ∧ 1 ≤ fault.spot.column ∧ fault.spot.column ≤ source.length + 1) ∧
    ∀ hint fault, SystemHint.allOfText hint = .error fault →
      ∃ before piece after, pieces hint = before ++ piece :: after ∧ fault.token = piece ∧
        (∀ earlier ∈ before, ∃ read, SystemHint.ofText earlier = .ok read) ∧
        SystemHint.ofText piece = .error fault := by
  refine ⟨?_, fun source fault refused => ⟨ofTextFault refused, ofTextBounds refused⟩, ?_⟩
  · intro source found spot scanned refused
    have within := spelledColumn (lexemesOk.mp scanned)
    rw [String.length_toList, Nat.add_comm] at within
    exact readGroupStops within refused
  · intro hint fault refused
    obtain ⟨before, piece, after, cut, accepted, stop⟩ := Result.mapMError.mp refused
    exact ⟨before, piece, after, cut, ofTextFault stop, accepted, stop⟩

theorem signInsideGroup :
    StopsAt (readGroup 8) 8 [⟨1, .opening⟩, ⟨2, .opening⟩, ⟨3, .number 1⟩, ⟨4, .closing⟩,
      ⟨5, .times⟩, ⟨6, .number 2⟩, ⟨7, .closing⟩] ⟨5, .repeatInsideGroup⟩ ∧
    (1 ≤ 5 ∧ 5 ≤ "((1)x2)".length + 1) ∧
    ∃ before piece after, pieces "((1)x2) )" = before ++ piece :: after ∧ "((1)x2)" = piece ∧
      (∀ earlier ∈ before, ∃ read, SystemHint.ofText earlier = .ok read) ∧
      SystemHint.ofText piece = .error ⟨"((1)x2)", 5, .repeatInsideGroup⟩ := by
  have scanned : lexemes "((1)x2)" = .ok [⟨1, .opening⟩, ⟨2, .opening⟩, ⟨3, .number 1⟩,
      ⟨4, .closing⟩, ⟨5, .times⟩, ⟨6, .number 2⟩, ⟨7, .closing⟩] := by
    have one : Numeral ['1'] 1 := ⟨by decide, List.all_eq_true.mp rfl, rfl⟩
    have two : Numeral ['2'] 2 := ⟨by decide, List.all_eq_true.mp rfl, rfl⟩
    have ends (rest : List Char) : EndsRun Char.isDigit (')' :: rest) := by simp [EndsRun]
    have sign : Spelled 5 ['x', '2', ')'] [⟨5, .times⟩, ⟨6, .number 2⟩, ⟨7, .closing⟩] :=
      .times rfl (.number two (by decide) (ends _) (.closing (.nil _)))
    exact lexemesOk.mpr (.opening (.opening (.number one (by decide) (ends _) (.closing sign))))
  have piece : SystemHint.ofText "((1)x2)" = .error ⟨"((1)x2)", 5, .repeatInsideGroup⟩ := by
    rw [SystemHint.ofText, scanned]
    rfl
  have cut : pieces "((1)x2) )" = ["((1)x2)", ")"] := by decide +kernel
  have whole : SystemHint.allOfText "((1)x2) )" =
      .error ⟨"((1)x2)", 5, .repeatInsideGroup⟩ := by
    rw [SystemHint.allOfText, cut, List.mapM_cons, piece]
    rfl
  exact ⟨faultAtDeadEnd.1 _ _ _ scanned rfl, (faultAtDeadEnd.2.1 _ _ piece).2,
    faultAtDeadEnd.2.2 _ _ whole⟩

end ScorePage.Hint
