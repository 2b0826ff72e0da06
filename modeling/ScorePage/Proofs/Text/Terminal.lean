import Mathlib.Data.List.Basic
import ScorePage.Proofs.Text.Blank
import ScorePage.Text.Terminal

/-! Text that a terminal shows as it is. -/
namespace ScorePage.Text

def isPlain (c : Char) : Bool := 0x20 ≤ c.toNat && c.toNat ≤ 0x7E

theorem inertPlain {text : String} (plain : text.toList.all isPlain = true) : inert text = text := by
  have unlisted : ∀ p ∈ terminalEscapes, isPlain p.1 = false := by decide
  have same : text.toList.flatMap inertChar = text.toList.flatMap fun c => [c] := by
    refine List.flatMap_congr fun c member => ?_
    have visible := List.all_eq_true.mp plain c member
    have none : terminalEscapes.lookup c = none := by
      refine List.lookup_eq_none_iff.mpr fun p listed => ?_
      rw [bne_iff_ne]
      rintro rfl
      rw [unlisted p listed] at visible
      contradiction
    have low : isHighControl c = false := by
      simp only [isPlain, Bool.and_eq_true, decide_eq_true_eq] at visible
      rw [isHighControl, Bool.and_eq_false_iff, decide_eq_false_iff_not]
      exact .inl (by omega)
    rw [inertChar, none, low]
    rfl
  rw [inert, same, List.flatMap_singleton', String.ofList_toList]

theorem plainNumber (n : Nat) : (toString n).toList.all isPlain = true := by
  rw [Nat.toString_eq_ofList_toDigits, String.toList_ofList, List.all_eq_true]
  intro c member
  exact ofDigit (by decide) (numberDigits n c member)

end ScorePage.Text
