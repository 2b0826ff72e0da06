import ScorePage.Proofs.Hint.Spelling
import ScorePage.Proofs.Text.Blank

/-! Runs of digits and of blanks in a text. Where no run goes over the border between two texts, the
runs of the whole are those of its parts, so a text can be looked through part by part. -/
namespace ScorePage.Hint
open Text

def Border (p q : Char → Bool) (front rest : List Char) : Prop :=
  ∀ c ∈ front.getLast?, p c = true → EndsRun q rest

structure MaximalRun (p : Char → Bool) (before run after : List Char) : Prop where
  some : run ≠ []
  all : ∀ c ∈ run, p c = true
  begins : ∀ c ∈ before.getLast?, p c = false
  ends : EndsRun p after

theorem endsRunLeft {p : Char → Bool} {text rest : List Char} (ends : EndsRun p (text ++ rest)) :
    EndsRun p text := by
  cases text with
  | nil => simp [EndsRun]
  | cons c others => exact ends

theorem endsRunAfter {p : Char → Bool} {text rest : List Char} (ends : EndsRun p text)
    (behind : text = [] → EndsRun p rest) : EndsRun p (text ++ rest) := by
  cases text with
  | nil => exact behind rfl
  | cons c others => exact ends

theorem runBegins {p : Char → Bool} {run : List Char} (some : run ≠ [])
    (all : ∀ c ∈ run, p c = true) (rest : List Char) : ¬EndsRun p (run ++ rest) := by
  obtain ⟨c, others, rfl⟩ := List.exists_cons_of_ne_nil some
  intro ends
  have outside : p c = false := ends c rfl
  rw [all c List.mem_cons_self] at outside
  contradiction

theorem runEnds {p : Char → Bool} {run : List Char} (some : run ≠ [])
    (all : ∀ c ∈ run, p c = true) (front : List Char) :
    ∃ c ∈ (front ++ run).getLast?, p c = true := by
  obtain ⟨others, c, rfl⟩ := (List.eq_nil_or_concat run).resolve_left some
  exact ⟨c, by simp, all c (by simp)⟩

theorem getLastInner {front text : List Char} (some : text ≠ []) :
    (front ++ text).getLast? = text.getLast? := by
  obtain ⟨others, c, rfl⟩ := (List.eq_nil_or_concat text).resolve_left some
  simp

theorem borderBehind {p q : Char → Bool} {front text rest : List Char}
    (border : Border p q (front ++ text) rest) : Border p q text rest := by
  by_cases some : text = []
  · subst some
    intro c last
    contradiction
  · rwa [Border, getLastInner some] at border

theorem borderPlain {p q : Char → Bool} {front : List Char} (plain : ∀ c ∈ front, p c = false)
    (rest : List Char) : Border p q front rest := by
  intro c last inside
  rw [plain c (List.mem_of_getLast? last)] at inside
  contradiction

theorem endsRunOver {p q : Char → Bool} {run text rest : List Char} (some : run ≠ [])
    (all : ∀ c ∈ run, p c = true) (ends : EndsRun q text) (border : Border p q (run ++ text) rest) :
    EndsRun q (text ++ rest) := by
  refine endsRunAfter ends fun none => ?_
  obtain ⟨c, last, inside⟩ := runEnds some all []
  subst none
  exact border c (by simpa using last) inside

theorem MaximalRun.behind {p : Char → Bool} {front before run after : List Char}
    (border : Border p p front (before ++ run ++ after)) (maximal : MaximalRun p before run after) :
    MaximalRun p (front ++ before) run after := by
  refine ⟨maximal.some, maximal.all, fun c last => ?_, maximal.ends⟩
  by_cases some : before = []
  · subst some
    rw [List.append_nil] at last
    rw [← Bool.not_eq_true]
    exact fun inside => runBegins maximal.some maximal.all after (border c last inside)
  · rw [getLastInner some] at last
    exact maximal.begins c last

theorem runOnOneSide {p : Char → Bool} {before run after front rest : List Char}
    (border : Border p p front rest) (maximal : MaximalRun p before run after)
    (same : before ++ run ++ after = front ++ rest) :
    (∃ between, rest = between ++ run ++ after ∧ MaximalRun p between run after) ∨
    (∃ between, front = before ++ run ++ between ∧ MaximalRun p before run between) := by
  obtain ⟨some, all, begins, ends⟩ := maximal
  rcases List.append_eq_append_iff.mp same with ⟨between, rfl, rfl⟩ | ⟨part, cut, rfl⟩
  · exact .inr ⟨between, rfl, some, all, begins, endsRunLeft ends⟩
  rcases List.append_eq_append_iff.mp cut with ⟨start, rfl, rfl⟩ | ⟨between, rfl, rfl⟩
  · by_cases outside : part = []
    · subst outside
      refine .inr ⟨[], by simp, some, all, begins, ?_⟩
      simp [EndsRun]
    by_cases inside : start = []
    · subst inside
      refine .inl ⟨[], by simp, some, all, ?_, ends⟩
      simp
    obtain ⟨starts, goesOn⟩ := List.forall_mem_append.mp all
    obtain ⟨c, last, inRun⟩ := runEnds inside starts before
    exact absurd (border c last inRun) (runBegins outside goesOn after)
  · refine .inl ⟨between, rfl, some, all, fun c last => begins c ?_, ends⟩
    rwa [getLastInner (List.ne_nil_of_mem (List.mem_of_getLast? last))]

def Legal (c : Char) : Prop :=
  c = '(' ∨ c = ')' ∨ isTimes c = true ∨ isBlank c = true ∨ c.isDigit = true

structure Clear (text : List Char) : Prop where
  legal : ∀ c ∈ text, Legal c
  sized : ∀ before digits after, text = before ++ digits ++ after →
    MaximalRun Char.isDigit before digits after → Nat.ofDigitChars 10 digits 0 ≤ largestNumber

theorem clearAppend {front rest : List Char} (border : Border Char.isDigit Char.isDigit front rest)
    (clear : Clear front) (clearRest : Clear rest) : Clear (front ++ rest) := by
  constructor
  · exact List.forall_mem_append.mpr ⟨clear.legal, clearRest.legal⟩
  · intro before digits after same maximal
    rcases runOnOneSide border maximal same.symm with ⟨between, cut, inner⟩ | ⟨between, cut, inner⟩
    · exact clearRest.sized _ _ _ cut inner
    · exact clear.sized _ _ _ cut inner

theorem clearWithoutDigits {text : List Char} (legal : ∀ c ∈ text, Legal c)
    (plain : ∀ c ∈ text, c.isDigit = false) : Clear text := by
  refine ⟨legal, ?_⟩
  rintro before digits after rfl maximal
  obtain ⟨d, others, rfl⟩ := List.exists_cons_of_ne_nil maximal.some
  have digit := maximal.all d List.mem_cons_self
  rw [plain d (by simp)] at digit
  contradiction

theorem clearDigits {digits : List Char} (decimal : ∀ c ∈ digits, c.isDigit = true)
    (sized : Nat.ofDigitChars 10 digits 0 ≤ largestNumber) : Clear digits := by
  refine ⟨fun c member => .inr (.inr (.inr (.inr (decimal c member)))), ?_⟩
  rintro before run after rfl ⟨some, all, begins, ends⟩
  -- All around the run is digits as well, so that the run would go on there.
  have first : before = [] := by
    refine Decidable.byContradiction fun nonempty => ?_
    obtain ⟨c, last, digit⟩ := runEnds nonempty (fun c member => decimal c (by simp [member])) []
    rw [begins c last] at digit
    contradiction
  have last : after = [] := by
    refine Decidable.byContradiction fun nonempty => ?_
    refine runBegins nonempty (fun c member => decimal c (by simp [member])) [] ?_
    rwa [List.append_nil]
  subst first last
  simpa using sized

end ScorePage.Hint
