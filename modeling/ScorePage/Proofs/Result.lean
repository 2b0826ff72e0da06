/-! Results of steps that may fail. -/
namespace ScorePage.Result

theorem mapOk {ε α β : Type} {result : Except ε α} {f : α → β} {value : β} :
    result.map f = .ok value ↔ ∃ found, result = .ok found ∧ f found = value := by
  cases result <;> simp [Except.map]

theorem mapFailed {ε α β : Type} {result : Except ε α} {f : α → β} {fault : ε} :
    result.map f = .error fault ↔ result = .error fault := by
  cases result <;> simp [Except.map]

theorem mapErrorOk {ε ε' α : Type} {result : Except ε α} {f : ε → ε'} {value : α} :
    result.mapError f = .ok value ↔ result = .ok value := by
  cases result with
  | error fault => constructor <;> intro _ <;> contradiction
  | ok found => constructor <;> intro same <;> cases same <;> rfl

theorem mapErrorError {ε ε' α : Type} {result : Except ε α} {f : ε → ε'} {fault : ε'} :
    result.mapError f = .error fault ↔ ∃ found, result = .error found ∧ f found = fault := by
  cases result with
  | error found =>
    constructor
    · intro same
      exact ⟨found, rfl, Except.error.inj same⟩
    · intro ⟨_, same, made⟩
      cases same
      exact congrArg Except.error made
  | ok value =>
    constructor
    · intro same
      contradiction
    · intro ⟨_, same, _⟩
      contradiction

theorem bindError {ε α β : Type} {result : Except ε α} {next : α → Except ε β} {fault : ε} :
    result >>= next = .error fault ↔
      result = .error fault ∨ ∃ found, result = .ok found ∧ next found = .error fault := by
  cases result <;> simp [bind, Except.bind]

theorem bindOk {ε α β : Type} {result : Except ε α} {next : α → Except ε β} {value : β} :
    result >>= next = .ok value ↔ ∃ found, result = .ok found ∧ next found = .ok value := by
  cases result <;> simp [bind, Except.bind]

theorem consAfter {ε α : Type} (head : α) (result : Except ε (List α)) :
    (do return head :: (← result)) = result.map (head :: ·) := by
  cases result <;> rfl

theorem consOk {ε α : Type} {head : α} {result : Except ε (List α)} {values : List α} :
    (do return head :: (← result)) = .ok values ↔
      ∃ tail, result = .ok tail ∧ head :: tail = values := by
  rw [consAfter, mapOk]

theorem consFailed {ε α : Type} {head : α} {result : Except ε (List α)} {fault : ε} :
    (do return head :: (← result)) = .error fault ↔ result = .error fault := by
  rw [consAfter, mapFailed]

theorem mapMOk {ε α β : Type} {f : α → Except ε β} {xs : List α} {ys : List β} :
    xs.mapM f = .ok ys ↔ xs.map f = ys.map .ok := by
  induction xs generalizing ys with
  | nil => cases ys <;> simp [pure, Except.pure]
  | cons x xs ih =>
    rw [List.mapM_cons]
    simp only [bindOk, ih]
    cases ys with
    | nil => simp [pure, Except.pure]
    | cons y ys => simp [pure, Except.pure, and_left_comm]

theorem mapMSome {ε α β : Type} {f : α → Except ε β} {xs : List α} :
    (∃ ys, xs.mapM f = .ok ys) ↔ ∀ x ∈ xs, ∃ y, f x = .ok y := by
  simp only [mapMOk]
  induction xs with
  | nil => simp
  | cons x xs ih =>
    rw [List.forall_mem_cons, ← ih]
    constructor
    · intro ⟨ys, same⟩
      cases ys with
      | nil => contradiction
      | cons y ys =>
        obtain ⟨first, others⟩ := List.cons.inj same
        exact ⟨⟨y, first⟩, ys, others⟩
    · intro ⟨⟨y, first⟩, ys, others⟩
      exact ⟨y :: ys, by rw [List.map_cons, List.map_cons, first, others]⟩

def FirstRefused {ε α β : Type} (f : α → Except ε β) (xs : List α) (fault : ε) : Prop :=
  ∃ before x after, xs = before ++ x :: after ∧ (∀ y ∈ before, ∃ value, f y = .ok value) ∧
    f x = .error fault

theorem mapMError {ε α β : Type} {f : α → Except ε β} {xs : List α} {fault : ε} :
    xs.mapM f = .error fault ↔ FirstRefused f xs fault := by
  constructor
  · intro refused
    induction xs with
    | nil => contradiction
    | cons x xs ih =>
      rw [List.mapM_cons] at refused
      cases first : f x with
      | error found =>
        rw [first] at refused
        cases refused
        exact ⟨[], x, xs, rfl, by simp, first⟩
      | ok value =>
        cases others : xs.mapM f with
        | ok values =>
          rw [first, others] at refused
          contradiction
        | error found =>
          rw [first, others] at refused
          cases refused
          obtain ⟨before, y, after, rfl, accepted, stop⟩ := ih others
          exact ⟨x :: before, y, after, rfl,
            List.forall_mem_cons.mpr ⟨⟨value, first⟩, accepted⟩, stop⟩
  · intro ⟨before, x, after, same, accepted, stop⟩
    induction before generalizing xs with
    | nil =>
      rw [same, List.nil_append, List.mapM_cons, stop]
      rfl
    | cons y before ih =>
      obtain ⟨⟨value, found⟩, accepted⟩ := List.forall_mem_cons.mp accepted
      rw [same, List.cons_append, List.mapM_cons, found, ih rfl accepted]
      rfl

theorem mapMRefused {ε α β : Type} {f : α → Except ε β} {xs : List α} :
    (∃ fault, FirstRefused f xs fault) ↔ ∃ x ∈ xs, ∃ fault, f x = .error fault := by
  constructor
  · intro ⟨fault, before, x, after, same, _, stop⟩
    exact ⟨x, by simp [same], fault, stop⟩
  · intro ⟨x, member, fault, refused⟩
    cases result : xs.mapM f with
    | error found => exact ⟨found, mapMError.mp result⟩
    | ok ys =>
      obtain ⟨y, accepted⟩ := mapMSome.mp ⟨ys, result⟩ x member
      rw [refused] at accepted
      contradiction

end ScorePage.Result
