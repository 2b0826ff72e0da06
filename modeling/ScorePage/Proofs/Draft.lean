import Mathlib.Data.List.Nodup
import ScorePage.Document
import ScorePage.Proofs.Element
import ScorePage.Text.Hexadecimal

/-! The ids of drafted elements. A draft takes ids from a supply and leaves the supply behind them;
every draft here names its elements in document order. -/
namespace ScorePage

namespace IdSupply

def after (ids : IdSupply) (count : Nat) : IdSupply := { ids with next := ids.next + count }

def names (ids : IdSupply) (count : Nat) : List String :=
  (List.range' ids.next count).map ids.name

theorem afterAfter (ids : IdSupply) (m n : Nat) : (ids.after m).after n = ids.after (m + n) := by
  simp [after, Nat.add_assoc]

theorem namesAdd (ids : IdSupply) (m n : Nat) :
    ids.names (m + n) = ids.names m ++ (ids.after m).names n := by
  simp only [names, after, ← List.range'_append_1, List.map_append]

theorem namesDistinct {ids : IdSupply} (distinct : Function.Injective ids.name) (count : Nat) :
    (ids.names count).Nodup := by
  rw [names, List.nodup_map_iff distinct]
  exact List.nodup_range'

theorem hexDigitRead : ∀ digit < 16, Text.hexDigit? (Nat.digitChar digit) = some digit := by decide

theorem hexNumberRead (n : Nat) : Text.hexNumber? (Nat.toDigits 16 n) = some n := by
  induction n using Nat.strongRecOn with
  | ind n ih =>
    rw [Nat.toDigits_eq_if (by decide)]
    split
    · rename_i small
      simp [Text.hexNumber?, hexDigitRead n small]
    · rename_i large
      have front : Text.hexNumber? (Nat.toDigits 16 (n / 16)) = some (n / 16) := ih _ (by omega)
      rw [Text.hexNumber?] at front ⊢
      rw [List.foldlM_append, front]
      have last := hexDigitRead (n % 16) (Nat.mod_lt n (by decide))
      simp [last, Nat.div_add_mod]

theorem hexNumberPadded (zeros : Nat) (digits : List Char) :
    Text.hexNumber? (List.replicate zeros '0' ++ digits) = Text.hexNumber? digits := by
  induction zeros with
  | zero => rfl
  | succ zeros ih => exact ih

theorem lastGroup {front digits others : List Char} {m n : Nat}
    (same : front ++ '-' :: List.replicate m '0' ++ digits =
      front ++ '-' :: List.replicate n '0' ++ others) :
    List.replicate m '0' ++ digits = List.replicate n '0' ++ others := by
  simpa using same

theorem uuidDistinct (seed : Nat) : Function.Injective (uuidName seed) := by
  intro k l same
  have numbers := congrArg Text.hexNumber? (lastGroup (String.ofList_injective same))
  rw [hexNumberPadded, hexNumberPadded, hexNumberRead, hexNumberRead] at numbers
  exact Option.some.inj numbers

structure Gives (ids : IdSupply) (given : List String) (left : IdSupply) : Prop where
  next : given = ids.names given.length
  left : left = ids.after given.length

theorem Gives.nil (ids : IdSupply) : ids.Gives [] ids := ⟨rfl, rfl⟩

theorem Gives.append {ids middle left : IdSupply} {first second : List String}
    (front : ids.Gives first middle) (back : middle.Gives second left) :
    ids.Gives (first ++ second) left := by
  constructor
  · rw [List.length_append, namesAdd, ← front.next, ← front.left, ← back.next]
  · rw [List.length_append, ← afterAfter, ← front.left, ← back.left]

end IdSupply

namespace Draft

variable {α β γ : Type}

theorem runBind (first : Draft α) (next : α → Draft β) (ids : IdSupply) :
    (first >>= next).run ids = (next (first.run ids).1).run (first.run ids).2 := rfl

theorem runPure (value : α) (ids : IdSupply) : (pure value : Draft α).run ids = (value, ids) := rfl

def bare (name id : String) : Element := ⟨{ name, id }, .nil⟩

def idsOf (es : List Element) : List String := es.map (·.label.id)

theorem idsAppend (es others : List Element) : idsOf (es ++ others) = idsOf es ++ idsOf others :=
  List.map_append

def Ordered (draft : Draft α) (shown : α → List Element) : Prop :=
  ∀ ids : IdSupply, ids.Gives (idsOf (shown (draft.run ids).1)) (draft.run ids).2

theorem elementOrdered (name : String) : Ordered (element name) Element.elements := by
  intro ids
  exact ⟨rfl, rfl⟩

theorem zoneOrdered (box : Box) : Ordered (zone box) Element.elements := by
  intro ids
  exact ⟨rfl, rfl⟩

theorem staffOrdered (number : Nat) (zoneId : String) :
    Ordered (staff number zoneId) Element.elements := by
  intro ids
  exact ⟨rfl, rfl⟩

theorem systemBreakOrdered (position : Nat) (zoneId : String) :
    Ordered (systemBreak position zoneId) Element.elements := by
  intro ids
  exact ⟨rfl, rfl⟩

theorem mapMOrdered {f : α → Draft β} {shown : β → List Element}
    (each : ∀ x, Ordered (f x) shown) (xs : List α) :
    Ordered (xs.mapM f) (List.flatMap shown) := by
  intro ids
  induction xs generalizing ids with
  | nil => exact .nil ids
  | cons x xs ih =>
    rw [List.mapM_cons, runBind, runBind, runPure]
    rw [List.flatMap_cons, idsAppend]
    exact (each x ids).append (ih _)

theorem mapMView {f : α → Draft β} {view : β → γ} {expected : α → γ}
    (each : ∀ x ids, view ((f x).run ids).1 = expected x) (xs : List α) (ids : IdSupply) :
    ((xs.mapM f).run ids).1.map view = xs.map expected := by
  induction xs generalizing ids with
  | nil => rfl
  | cons x xs ih =>
    rw [List.mapM_cons, runBind, runBind, runPure]
    rw [List.map_cons, List.map_cons, each, ih]

end Draft
end ScorePage
