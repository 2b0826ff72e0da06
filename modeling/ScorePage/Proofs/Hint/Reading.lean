import ScorePage.Proofs.Hint.Spelling

/-! What the reader of lexemes accepts. The lexemes of a group's items say its layout, whatever the
gaps between them; the reader goes through them without looking ahead, and so reads on behind
them as if it had begun there. -/
namespace ScorePage.Hint
open Text

inductive ItemsFound : List Located → Layout → Prop where
  | nil : ItemsFound [] .nil
  | gap {column found layout} (tail : ItemsFound found layout) :
      ItemsFound (⟨column, .gap⟩ :: found) layout
  | count {column value found layout} (sized : 1 ≤ value ∧ value ≤ maxStaves)
      (tail : ItemsFound found layout) :
      ItemsFound (⟨column, .number value⟩ :: found) (.leaf value layout)
  | group {first last inside found inner layout} (body : ItemsFound inside inner)
      (tail : ItemsFound found layout) :
      ItemsFound (⟨first, .opening⟩ :: (inside ++ ⟨last, .closing⟩ :: found)) (.nested inner layout)

/- Lexemes behind an opened group that itself lies in `depth` open groups: the items up to the
closing parenthesis, then what is still open around it, then the number of systems. -/
inductive RemainderFound (beyond : Nat) : Nat → List Located → Remainder → Prop where
  | outermost {inside column rest layout repeats} (items : ItemsFound inside layout)
      (systems : readRepeats beyond rest = .ok repeats) :
      RemainderFound beyond 0 (inside ++ ⟨column, .closing⟩ :: rest) ⟨layout, [], repeats⟩
  | inner {depth inside column rest layout r} (items : ItemsFound inside layout)
      (around : RemainderFound beyond depth rest r) :
      RemainderFound beyond (depth + 1) (inside ++ ⟨column, .closing⟩ :: rest)
        ⟨layout, r.innermost :: r.outer, r.repeats⟩

theorem itemsWithinLimits {found : List Located} {layout : Layout}
    (items : ItemsFound found layout) : ∀ count ∈ layout.leaves, 1 ≤ count ∧ count ≤ maxStaves := by
  induction items with
  | nil => simp [Nest.leaves]
  | gap tail ih => exact ih
  | count sized tail ih => exact List.forall_mem_cons.mpr ⟨sized, ih⟩
  | group body tail inside after =>
    intro count member
    rcases List.mem_append.mp member with member | member
    · exact inside count member
    · exact after count member

theorem remainderExtended {beyond depth : Nat} {rest : List Located} {r : Remainder}
    (front : List Located) (wrap : Layout → Layout)
    (makes : ∀ inside layout, ItemsFound inside layout → ItemsFound (front ++ inside) (wrap layout))
    (found : RemainderFound beyond depth rest r) :
    RemainderFound beyond depth (front ++ rest) { r with innermost := wrap r.innermost } := by
  cases found with
  | outermost items systems =>
    rw [← List.append_assoc]
    exact .outermost (makes _ _ items) systems
  | inner items around =>
    rw [← List.append_assoc]
    exact .inner (makes _ _ items) around

theorem remainderOfRead {beyond depth : Nat} {found : List Located} {r : Remainder}
    (ok : readItems beyond depth found = .ok r) : RemainderFound beyond depth found r := by
  fun_induction readItems beyond depth found generalizing r with
  | case1 depth => contradiction
  | case2 depth column rest ih =>
    exact remainderExtended [_] id (fun _ _ items => .gap items) (ih ok)
  | case3 depth column rest ih =>
    obtain ⟨inside, read, rfl⟩ := Result.mapOk.mp ok
    cases ih read with
    | @inner _ body last rest layout around items outer =>
      have extended := remainderExtended (⟨column, .opening⟩ :: (body ++ [⟨last, .closing⟩]))
        (.nested layout) (fun _ _ tail => by simpa using .group items tail) outer
      simpa [Remainder.beforeOpening] using extended
  | case4 column rest =>
    obtain ⟨repeats, read, rfl⟩ := Result.mapOk.mp ok
    exact .outermost ItemsFound.nil read
  | case5 column rest depth ih =>
    obtain ⟨around, read, rfl⟩ := Result.mapOk.mp ok
    exact .inner ItemsFound.nil (ih read)
  | case6 => contradiction
  | case7 => contradiction
  | case8 => contradiction
  | case9 depth column rest count positive small ih =>
    obtain ⟨after, read, rfl⟩ := Result.mapOk.mp ok
    have sized : 1 ≤ count ∧ count ≤ maxStaves := ⟨by omega, by omega⟩
    exact remainderExtended [_] (.leaf count) (fun _ _ items => .count sized items) (ih read)

def itemsBefore : Layout → Layout → Layout
  | .nil, after => after
  | .leaf count rest, after => .leaf count (itemsBefore rest after)
  | .nested inner rest, after => .nested inner (itemsBefore rest after)

theorem itemsBeforeNil (layout : Layout) : itemsBefore layout .nil = layout := by
  induction layout with
  | nil => rfl
  | leaf count rest ih => rw [itemsBefore, ih]
  | nested inner rest _ ih => rw [itemsBefore, ih]

theorem readThrough {inside : List Located} {layout : Layout} (items : ItemsFound inside layout)
    (beyond depth : Nat) (rest : List Located) :
    readItems beyond depth (inside ++ rest) = (readItems beyond depth rest).map fun r =>
      { r with innermost := itemsBefore layout r.innermost } := by
  induction items generalizing depth rest with
  | nil => simp only [List.nil_append, itemsBefore]; cases readItems beyond depth rest <;> rfl
  | gap tail ih => exact ih depth rest
  | @count column value found layout sized tail ih =>
    have positive : value ≠ 0 := by omega
    have small : ¬maxStaves < value := by omega
    rw [List.cons_append, readItems, if_neg positive, if_neg small, ih]
    cases readItems beyond depth rest <;> rfl
  | @group first last inside found inner layout body tail bodyRead tailRead =>
    rw [List.cons_append, List.append_assoc, readItems, bodyRead, List.cons_append, readItems,
      tailRead]
    cases readItems beyond depth rest with
    | error spot => rfl
    | ok r => simp [Except.map, Remainder.beforeClosing, Remainder.beforeOpening, itemsBefore,
        itemsBeforeNil]

theorem readOfRemainder {beyond depth : Nat} {found : List Located} {r : Remainder}
    (remainder : RemainderFound beyond depth found r) : readItems beyond depth found = .ok r := by
  induction remainder with
  | outermost items systems =>
    rw [readThrough items, readItems, systems]
    simp [Except.map, itemsBeforeNil]
  | inner items around ih =>
    rw [readThrough items, readItems, ih]
    simp [Except.map, Remainder.beforeClosing, itemsBeforeNil]

theorem readItemsExact {beyond depth : Nat} {found : List Located} {r : Remainder} :
    readItems beyond depth found = .ok r ↔ RemainderFound beyond depth found r :=
  ⟨remainderOfRead, readOfRemainder⟩

theorem readGroupExact {beyond : Nat} {found : List Located} {layout : Layout} {repeats : Nat} :
    readGroup beyond found = .ok (layout, repeats) ↔
      ∃ first inside last rest, found = ⟨first, .opening⟩ :: (inside ++ ⟨last, .closing⟩ :: rest) ∧
        ItemsFound inside layout ∧ readRepeats beyond rest = .ok repeats := by
  constructor
  · intro ok
    unfold readGroup at ok
    split at ok
    · contradiction
    · rename_i first rest
      obtain ⟨r, read, same⟩ := Result.mapOk.mp ok
      cases readItemsExact.mp read with
      | outermost items systems =>
        cases same
        exact ⟨_, _, _, _, rfl, items, systems⟩
    · contradiction
  · rintro ⟨first, inside, last, rest, rfl, items, systems⟩
    rw [readGroup, readItemsExact.mpr (.outermost items systems)]
    rfl

theorem readRepeatsExact {beyond : Nat} {found : List Located} {repeats : Nat} :
    readRepeats beyond found = .ok repeats ↔
      (found = [] ∧ repeats = 1) ∨
      (∃ first second, found = [⟨first, .times⟩, ⟨second, .number repeats⟩] ∧
        1 ≤ repeats ∧ repeats ≤ maxRepeats) := by
  constructor
  · intro ok
    unfold readRepeats at ok
    split at ok
    · cases ok; exact .inl ⟨rfl, rfl⟩
    · contradiction
    · rename_i first second count rest
      split at ok
      · contradiction
      · split at ok
        · contradiction
        · split at ok
          · cases ok
            exact .inr ⟨first, second, rfl, by omega, by omega⟩
          · contradiction
    · contradiction
    · contradiction
  · rintro (⟨rfl, rfl⟩ | ⟨first, second, rfl, positive, small⟩)
    · rfl
    · have nonzero : repeats ≠ 0 := by omega
      have within : ¬maxRepeats < repeats := by omega
      simp only [readRepeats, if_neg nonzero, if_neg within]

end ScorePage.Hint
