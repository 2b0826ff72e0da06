import ScorePage.Folder
import ScorePage.Proofs.Result

/-! Changes to files. What a file holds is seen by those alone who read that file: paths lead where
they led before. -/
namespace ScorePage.Folder

theorem lookupCons (place other : Place) (entry : Entry) (rest : List (Place × Entry)) :
    ((place, entry) :: rest).lookup other =
      if other = place then some entry else rest.lookup other := by
  by_cases same : other = place
  · rw [if_pos same, same, List.lookup_cons_self]
  · rw [if_neg same, List.lookup_cons, beq_false_of_ne same]

theorem lookupSet (place other : Place) (entry : Entry) (entries : List (Place × Entry)) :
    (setEntry place entry entries).lookup other =
      if other = place then some entry else entries.lookup other := by
  induction entries with
  | nil => exact lookupCons place other entry []
  | cons first rest ih =>
    obtain ⟨p, e⟩ := first
    rw [setEntry]
    split
    · rename_i same
      subst same
      rw [lookupCons, lookupCons]
      split <;> rfl
    · rename_i different
      rw [lookupCons, lookupCons, ih]
      by_cases found : other = place
      · rw [if_pos found, if_pos found, if_neg (found ▸ Ne.symm different)]
      · rw [if_neg found, if_neg found]

theorem entryPut (f : Folder) {place other : Place} (proper : place ≠ []) (entry : Entry) :
    Folder.entry? (f.put place entry) other =
      if other = place then some entry else f.entry? other := by
  by_cases root : other = []
  · subst root
    rw [if_neg (Ne.symm proper)]
    rfl
  · have named : other.isEmpty = false := by rwa [List.isEmpty_eq_false_iff]
    unfold entry?
    rw [named]
    exact lookupSet place other entry f.entries

/- What a walk can tell of a place: whether something is there, and if so, whether it is a directory. -/
def directoryAt? (f : Folder) (place : Place) : Option Bool :=
  match f.entry? place with
  | none => none
  | some (.file _) => some false
  | some .directory => some true

theorem walkStep (f : Folder) (place : Place) (step : String) (rest : List String) :
    f.walk place (step :: rest) =
      match f.directoryAt? place with
      | none => .error .notFound
      | some false => .error .notADirectory
      | some true =>
          if longestName < step.utf8ByteSize then .error .nameTooLong
          else f.walk (nextPlace place step) rest := by
  rw [walk, directoryAt?]
  cases f.entry? place with
  | none => rfl
  | some entry => cases entry <;> rfl

theorem walkSame {f g : Folder} (kinds : ∀ place, f.directoryAt? place = g.directoryAt? place)
    (place : Place) (steps : List String) : f.walk place steps = g.walk place steps := by
  induction steps generalizing place with
  | nil => rfl
  | cons step rest ih => rw [walkStep, walkStep, kinds, ih]

theorem findSame {f g : Folder} {path : String} (paths : f.locate path = g.locate path)
    (entries : ∀ target, g.locate path = .ok target → f.entry? target = g.entry? target) :
    f.find path = g.find path := by
  rw [find, find, paths]
  cases located : g.locate path with
  | error fault => rfl
  | ok target =>
    simp only [bind, Except.bind]
    rw [entries target located]

theorem entryOfFind {f : Folder} {path : String} {place : Place} {entry : Entry}
    (found : f.find path = .ok (place, entry)) : f.entry? place = some entry := by
  rw [find] at found
  cases located : f.locate path with
  | error fault =>
    rw [located] at found
    contradiction
  | ok target =>
    rw [located] at found
    simp only [bind, Except.bind] at found
    split at found
    · contradiction
    · rename_i held there
      cases found
      exact there

section Replaced

variable {f : Folder} {place : Place} {old : ByteArray}

theorem properOfFile (there : f.entry? place = some (.file old)) : place ≠ [] := by
  rintro rfl
  have root : f.entry? [] = some .directory := rfl
  cases root.symm.trans there

theorem locateReplaced (there : f.entry? place = some (.file old)) (content : ByteArray)
    (path : String) : (f.put place (.file content)).locate path = f.locate path := by
  have kinds (other : Place) :
      (f.put place (.file content)).directoryAt? other = f.directoryAt? other := by
    unfold directoryAt?
    rw [entryPut f (properOfFile there)]
    by_cases same : other = place
    · rw [if_pos same, same, there]
    · rw [if_neg same]
  unfold locate
  cases pathFault? path with
  | some fault => rfl
  | none => exact walkSame kinds _ _

theorem readTextReplaced (there : f.entry? place = some (.file old)) (content : ByteArray)
    {path : String} (elsewhere : f.locate path ≠ .ok place) :
    (f.put place (.file content)).readText path = f.readText path := by
  have found : (f.put place (.file content)).find path = f.find path := by
    refine findSame (locateReplaced there content path) fun target located => ?_
    have other : target ≠ place := fun same => elsewhere (located.trans (congrArg _ same))
    rw [entryPut f (properOfFile there), if_neg other]
  rw [readText, readText, found]

end Replaced

theorem locateOfFile {f : Folder} {path : String} {place : Place}
    (located : f.locateFile path = .ok place) : f.locate path = .ok place := by
  unfold locateFile at located
  split at located
  · contradiction
  · rename_i proper _
    rw [locate, proper]
    exact located
  · obtain ⟨_, -, refused⟩ := Result.bindOk.mp located
    contradiction

theorem writeOk {f written : Folder} {path : String} {content : ByteArray} :
    f.writeFile path content = .ok written ↔ ∃ place, f.locateFile path = .ok place ∧
      f.entry? place ≠ some .directory ∧ f.put place (.file content) = written := by
  rw [writeFile, Result.bindOk]
  refine exists_congr fun place => and_congr_right fun _ => ?_
  constructor
  · intro wrote
    split at wrote
    · contradiction
    · rename_i free
      exact ⟨free, Except.ok.inj wrote⟩
  · intro ⟨free, same⟩
    split
    · contradiction
    · exact congrArg Except.ok same

section Written

variable {f : Folder} {place : Place}

theorem properOfFree (free : f.entry? place ≠ some .directory) : place ≠ [] := by
  rintro rfl
  exact free rfl

theorem walkWritten (free : f.entry? place ≠ some .directory) (content : ByteArray)
    {start target : Place} {steps : List String} (walked : f.walk start steps = .ok target) :
    (f.put place (.file content)).walk start steps = .ok target := by
  -- A walk that comes to its end has only directories on its way, so it never meets the new file.
  induction steps generalizing start with
  | nil => exact walked
  | cons step rest ih =>
    rw [walk] at walked ⊢
    cases held : f.entry? start with
    | none =>
      rw [held] at walked
      contradiction
    | some entry =>
      rw [held] at walked
      cases entry with
      | file old => contradiction
      | directory =>
        have passed : start ≠ place := fun same => free (same ▸ held)
        rw [entryPut f (properOfFree free), if_neg passed, held]
        dsimp only at walked ⊢
        split at walked
        · contradiction
        · rename_i short
          rw [if_neg short]
          exact ih walked

theorem locateWritten (free : f.entry? place ≠ some .directory) (content : ByteArray)
    {path : String} {target : Place} (located : f.locate path = .ok target) :
    (f.put place (.file content)).locate path = .ok target := by
  unfold locate at located ⊢
  split at located
  · contradiction
  · exact walkWritten free content located

theorem readTextWritten {path : String} (located : f.locateFile path = .ok place)
    (free : f.entry? place ≠ some .directory) (text : String) :
    (f.put place (.file text.toUTF8)).readText path = .ok text := by
  have held : Folder.entry? (f.put place (.file text.toUTF8)) place = some (.file text.toUTF8) := by
    rw [entryPut f (properOfFree free), if_pos rfl]
  have found : (f.put place (.file text.toUTF8)).find path = .ok (place, .file text.toUTF8) := by
    rw [find, locateWritten free _ (locateOfFile located)]
    simp only [bind, Except.bind, held]
  have read : String.fromUTF8? text.toUTF8 = some text := dif_pos text.isValidUTF8
  rw [readText, found]
  simp only [bind, Except.bind, read]

end Written

end ScorePage.Folder
