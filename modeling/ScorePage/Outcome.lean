import ScorePage.Log

/-! The outcome of a step: the events it reported, in order, and its result. The events stay when
the step fails. -/
namespace ScorePage

structure Outcome (α : Type) where
  log : List Event
  result : Except Fault α

namespace Outcome

def ok {α : Type} (value : α) : Outcome α := ⟨[], .ok value⟩

def fail {α : Type} (fault : Fault) : Outcome α := ⟨[], .error fault⟩

def note (event : Event) : Outcome Unit := ⟨[event], .ok ()⟩

def noteAll (events : List Event) : Outcome Unit := ⟨events, .ok ()⟩

def bind {α β : Type} (first : Outcome α) (next : α → Outcome β) : Outcome β :=
  match first.result with
  | .error fault => ⟨first.log, .error fault⟩
  | .ok value => ⟨first.log ++ (next value).log, (next value).result⟩

instance : Monad Outcome where
  pure := ok
  bind := bind

instance : LawfulMonad Outcome := by
  refine LawfulMonad.mk' _ ?_ ?_ ?_
  · rintro α ⟨log, _ | _⟩ <;> simp [Functor.map, bind, ok]
  · intro α β value next
    simp [Bind.bind, Pure.pure, bind, ok]
  · rintro α β γ ⟨log, _ | value⟩ second third
    · rfl
    · rcases h : second value with ⟨log', _ | value'⟩ <;> simp [Bind.bind, bind, h]

def ofExcept {α ε : Type} (fault : ε → Fault) (result : Except ε α) : Outcome α :=
  ⟨[], result.mapError fault⟩

end Outcome
end ScorePage
