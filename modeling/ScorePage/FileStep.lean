import ScorePage.Folder
import ScorePage.Outcome

/-! Steps on files. What a step leaves behind, the files and the events that it reported, is there
whether it came to its end or failed on the way. -/
namespace ScorePage

structure Aftermath (ε α : Type) where
  files : Folder
  log : List Event
  result : Except ε α

def FileStep (ε α : Type) := Folder → Aftermath ε α

namespace FileStep
variable {ε ε' α β : Type}

def ofExcept (fault : ε → ε') (result : Except ε α) : FileStep ε' α := fun files =>
  ⟨files, [], result.mapError fault⟩

def ofOutcome (outcome : Outcome α) : FileStep Fault α := fun files =>
  ⟨files, outcome.log, outcome.result⟩

def fail (fault : ε) : FileStep ε α := fun files => ⟨files, [], .error fault⟩

def note (event : Event) : FileStep ε Unit := fun files => ⟨files, [event], .ok ()⟩

def contains (path : String) : FileStep ε Bool := fun files =>
  ⟨files, [], .ok (files.contains path)⟩

def readText (path : String) : FileStep Fault String := fun files =>
  ⟨files, [], (files.readText path).mapError .file⟩

def writeFile (path : String) (content : ByteArray) : FileStep Fault Unit := fun files =>
  match files.writeFile path content with
  | .error fault => ⟨files, [], .error (.file fault)⟩
  | .ok written => ⟨written, [], .ok ()⟩

def bind (first : FileStep ε α) (next : α → FileStep ε β) : FileStep ε β := fun files =>
  let before := first files
  match before.result with
  | .error fault => ⟨before.files, before.log, .error fault⟩
  | .ok value =>
      let after := next value before.files
      ⟨after.files, before.log ++ after.log, after.result⟩

instance : Monad (FileStep ε) where
  pure value := fun files => ⟨files, [], .ok value⟩
  bind := bind

def mapFault (told : ε → ε') (step : FileStep ε α) : FileStep ε' α := fun files =>
  let left := step files
  ⟨left.files, left.log, left.result.mapError told⟩

end FileStep
end ScorePage
