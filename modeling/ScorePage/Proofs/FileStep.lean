import ScorePage.FileStep
import ScorePage.Proofs.Outcome

/-! What becomes of files in a step. Reading keeps them, writing keeps them unless it is done; so a run
of steps that only writes when nothing else can fail keeps them if it fails. -/
namespace ScorePage.FileStep

variable {ε ε' α β : Type} {first : FileStep ε α} {next : α → FileStep ε β} {files : Folder}

theorem bindFailed {fault : ε} (failed : (first files).result = .error fault) :
    (first >>= next) files = ⟨(first files).files, (first files).log, .error fault⟩ := by
  change FileStep.bind first next files = _
  rw [FileStep.bind]
  simp only [failed]

theorem bindDone {value : α} (done : (first files).result = .ok value) :
    (first >>= next) files = ⟨(next value (first files).files).files,
      (first files).log ++ (next value (first files).files).log,
      (next value (first files).files).result⟩ := by
  change FileStep.bind first next files = _
  rw [FileStep.bind]
  simp only [done]

theorem bindSeen (value : α) (seen : first files = ⟨files, [], .ok value⟩) :
    (first >>= next) files = next value files := by
  have done : (first files).result = .ok value := by rw [seen]
  rw [bindDone done, seen]
  rfl

def Keeps (step : FileStep ε α) : Prop := ∀ files, (step files).files = files

theorem keepsBind (keeps : Keeps first) (further : ∀ value, Keeps (next value)) :
    Keeps (first >>= next) := by
  intro files
  cases result : (first files).result with
  | error fault => rw [bindFailed result, keeps]
  | ok value => rw [bindDone result, further, keeps]

theorem keepsMapFault (keeps : Keeps first) (told : ε → ε') : Keeps (first.mapFault told) := keeps

theorem mapFaultDone {told : ε → ε'} {value : α} (done : (first files).result = .ok value) :
    (first.mapFault told files).result = .ok value := by
  rw [mapFault, done]
  rfl

theorem bindResult (keeps : Keeps first) :
    ((first >>= next) files).result =
      (first files).result >>= fun value => (next value files).result := by
  cases result : (first files).result with
  | error fault => rw [bindFailed result]; rfl
  | ok value => rw [bindDone result, keeps]; rfl

/- Steps that change nothing when they fail. -/
def Atomic (step : FileStep ε α) : Prop :=
  ∀ files fault, (step files).result = .error fault → (step files).files = files

theorem writeDone {path : String} {content : ByteArray} {written : Folder}
    (wrote : files.writeFile path content = .ok written) :
    writeFile path content files = ⟨written, [], .ok ()⟩ := by
  rw [writeFile, wrote]

theorem writeResult (path : String) (content : ByteArray) (files : Folder) :
    (writeFile path content files).result =
      ((files.writeFile path content).mapError .file).map fun _ => () := by
  rw [writeFile]
  cases files.writeFile path content <;> rfl

theorem atomicWrite (path : String) (content : ByteArray) : Atomic (writeFile path content) := by
  intro files fault failed
  rw [writeFile] at failed ⊢
  split at failed
  · rfl
  · contradiction

theorem atomicBehind (keeps : Keeps first) (atomic : ∀ value, Atomic (next value)) :
    Atomic (first >>= next) := by
  intro files fault failed
  cases result : (first files).result with
  | error found => rw [bindFailed result, keeps]
  | ok value =>
    rw [bindDone result] at failed ⊢
    rw [keeps] at failed ⊢
    exact atomic value files fault failed

theorem atomicBefore (atomic : Atomic first)
    (sure : ∀ value files, ∃ found, (next value files).result = .ok found) :
    Atomic (first >>= next) := by
  intro files fault failed
  cases result : (first files).result with
  | error found =>
    rw [bindFailed result]
    exact atomic files found result
  | ok value =>
    rw [bindDone result] at failed
    obtain ⟨found, done⟩ := sure value (first files).files
    cases done.symm.trans failed

variable {kind : Event → Bool}

def Silent (kind : Event → Bool) (step : FileStep ε α) : Prop :=
  ∀ files, (step files).log.filter kind = []

theorem silentWrite (path : String) (content : ByteArray) :
    Silent kind (writeFile path content) := by
  intro files
  rw [writeFile]
  split <;> rfl

theorem logBehind (silent : Silent kind first) {value : α}
    (done : (first files).result = .ok value) :
    ((first >>= next) files).log.filter kind =
      (next value (first files).files).log.filter kind := by
  rw [bindDone done, List.filter_append, silent, List.nil_append]

theorem logBefore (silent : ∀ value, Silent kind (next value)) :
    ((first >>= next) files).log.filter kind = (first files).log.filter kind := by
  cases result : (first files).result with
  | error fault => rw [bindFailed result]
  | ok value => rw [bindDone result, List.filter_append, silent, List.append_nil]

theorem silentBind (silent : Silent kind first) (further : ∀ value, Silent kind (next value)) :
    Silent kind (first >>= next) := fun files =>
  (logBefore further).trans (silent files)

end ScorePage.FileStep
