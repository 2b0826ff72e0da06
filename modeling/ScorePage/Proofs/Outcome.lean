import ScorePage.Outcome
import ScorePage.Proofs.Result

/-! The result of an outcome, apart from what was reported on the way, and the warnings among that. -/
namespace ScorePage.Outcome

variable {α β : Type}

theorem bindResult (first : Outcome α) (next : α → Outcome β) :
    (first >>= next).result = first.result >>= fun value => (next value).result := by
  change (Outcome.bind first next).result = _
  unfold Outcome.bind
  cases first.result <;> rfl

theorem bindResultOf {first : Outcome α} {value : α} (found : first.result = .ok value)
    (next : α → Outcome β) : (first >>= next).result = (next value).result := by
  rw [bindResult, found]
  rfl

theorem mapMResult (f : α → Outcome β) (xs : List α) :
    (xs.mapM f).result = xs.mapM fun x => (f x).result := by
  induction xs with
  | nil => rfl
  | cons x xs ih =>
    rw [List.mapM_cons, List.mapM_cons, bindResult]
    congr 1
    funext value
    rw [bindResult, ih]
    rfl

def reported (kind : Event → Bool) (outcome : Outcome α) : List Event := outcome.log.filter kind

variable {kind : Event → Bool}

theorem bindLog {first : Outcome α} {value : α} (found : first.result = .ok value)
    (next : α → Outcome β) : (first >>= next).log = first.log ++ (next value).log := by
  change (Outcome.bind first next).log = _
  rw [Outcome.bind, found]

theorem bindReported {first : Outcome α} {value : α} (found : first.result = .ok value)
    (next : α → Outcome β) :
    (first >>= next).reported kind = first.reported kind ++ (next value).reported kind := by
  rw [reported, bindLog found, List.filter_append]
  rfl

theorem bindFirst {first : Outcome α} {next : α → Outcome β}
    (silent : ∀ value, (next value).reported kind = []) :
    (first >>= next).reported kind = first.reported kind := by
  cases found : first.result with
  | error fault =>
    change (Outcome.bind first next).reported kind = _
    rw [reported, Outcome.bind, found]
    rfl
  | ok value => rw [bindReported found, silent, List.append_nil]

theorem bindSilent {first : Outcome α} {next : α → Outcome β} (silent : first.reported kind = [])
    (further : ∀ value, (next value).reported kind = []) : (first >>= next).reported kind = [] :=
  (bindFirst further).trans silent

theorem mapMSilent {f : α → Outcome β} (silent : ∀ x, (f x).reported kind = []) (xs : List α) :
    (xs.mapM f).reported kind = [] := by
  induction xs with
  | nil => rfl
  | cons x xs ih =>
    rw [List.mapM_cons]
    exact bindSilent (silent x) fun _ => bindSilent ih fun _ => rfl

def warnings (outcome : Outcome α) : List Event :=
  outcome.log.filter fun event => event.level = .warn

theorem bindWarnings {first : Outcome α} {value : α} (found : first.result = .ok value)
    (next : α → Outcome β) :
    (first >>= next).warnings = first.warnings ++ (next value).warnings :=
  bindReported found next

theorem mapMQuiet {f : α → Outcome β} (quiet : ∀ x, (f x).warnings = []) (xs : List α) :
    (xs.mapM f).warnings = [] :=
  mapMSilent quiet xs

end ScorePage.Outcome
