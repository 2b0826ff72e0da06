import ScorePage.Proofs.Text.Blank
import ScorePage.Text.Lines

/-! Lines and fields that are written are read as they were. A line may have either ending, and the
last line may do without any. -/
namespace ScorePage.Text

inductive LineEnding where
  | feed
  | returnAndFeed
  deriving DecidableEq, Repr

def LineEnding.text : LineEnding → List Char
  | feed => ['\n']
  | returnAndFeed => ['\r', '\n']

def ended (closed : Bool) : List (List Char × LineEnding) → List Char
  | [] => []
  | [(line, ending)] => if closed then line ++ ending.text else line
  | (line, ending) :: rest => line ++ ending.text ++ ended closed rest

def Unbroken (text : List Char) : Prop := ∀ c ∈ text, isLineEnding c = false

variable {line : List Char}

theorem unbrokenFeed (unbroken : Unbroken line) : '\n' ∉ line := by
  intro member
  have plain := unbroken '\n' member
  contradiction

theorem unbrokenLast (unbroken : Unbroken line) : line.getLast? ≠ some '\r' := by
  intro last
  have plain := unbroken '\r' (List.mem_of_getLast? last)
  contradiction

theorem dropReturnSame (unbroken : Unbroken line) : dropReturn line = line :=
  if_neg (unbrokenLast unbroken)

theorem dropReturnDrops (line : List Char) : dropReturn (line ++ ['\r']) = line := by
  rw [dropReturn, List.getLast?_concat, if_pos rfl, List.dropLast_concat]

theorem linesOfPartsCons (part : List Char) {rest : List (List Char)} (more : rest ≠ []) :
    linesOfParts (part :: rest) = dropReturn part :: linesOfParts rest := by
  cases rest with
  | nil => contradiction
  | cons => rfl

theorem linesBehind (unbroken : Unbroken line) (ending : LineEnding) (rest : List Char) :
    lines (line ++ ending.text ++ rest) = line :: lines rest := by
  have feed := unbrokenFeed unbroken
  have more : rest.splitOn '\n' ≠ [] := List.splitOn_ne_nil '\n' rest
  cases ending with
  | feed =>
    rw [LineEnding.text, List.append_assoc, List.singleton_append, lines,
      List.splitOn_append_cons_self_of_not_mem feed, linesOfPartsCons _ more,
      dropReturnSame unbroken]
    rfl
  | returnAndFeed =>
    have feedBehind : '\n' ∉ line ++ ['\r'] := by simp [feed]
    have shape : line ++ ['\r', '\n'] ++ rest = (line ++ ['\r']) ++ '\n' :: rest := by simp
    rw [LineEnding.text, shape, lines, List.splitOn_append_cons_self_of_not_mem feedBehind,
      linesOfPartsCons _ more, dropReturnDrops]
    rfl

theorem linesAlone (unbroken : Unbroken line) (filled : line ≠ []) : lines line = [line] := by
  rw [lines, List.splitOn_eq_singleton (unbrokenFeed unbroken), linesOfParts,
    List.isEmpty_eq_false_iff.mpr filled]
  rfl

theorem linesEnded (closed : Bool) {parts : List (List Char × LineEnding)}
    (unbroken : ∀ part ∈ parts, Unbroken part.1) (filled : ∀ part ∈ parts, part.1 ≠ []) :
    lines (ended closed parts) = parts.map Prod.fst := by
  induction parts with
  | nil => rfl
  | cons part rest ih =>
    obtain ⟨line, ending⟩ := part
    obtain ⟨whole, restUnbroken⟩ := List.forall_mem_cons.mp unbroken
    obtain ⟨some, restFilled⟩ := List.forall_mem_cons.mp filled
    cases rest with
    | nil =>
      cases closed with
      | true =>
        have behind := linesBehind whole ending []
        rwa [List.append_nil] at behind
      | false => exact linesAlone whole some
    | cons next others =>
      have behind := linesBehind whole ending (ended closed (next :: others))
      rw [ih restUnbroken restFilled] at behind
      exact behind

theorem memJoined {fields : List (List Char)} {c : Char} (tab : c ≠ '\t') :
    c ∈ ['\t'].intercalate fields ↔ ∃ field ∈ fields, c ∈ field := by
  induction fields with
  | nil => simp [List.intercalate]
  | cons field rest ih =>
    cases rest with
    | nil => simp
    | cons next further =>
      rw [List.intercalate_cons_cons, List.mem_append, List.mem_append, ih]
      simp [tab]

theorem unbrokenJoined {fields : List (List Char)} (unbroken : ∀ field ∈ fields, Unbroken field) :
    Unbroken (['\t'].intercalate fields) := by
  intro c member
  by_cases tab : c = '\t'
  · rw [tab]
    rfl
  · obtain ⟨field, inside, member⟩ := (memJoined tab).mp member
    exact unbroken field inside c member

theorem tabFieldsJoined {fields : List (List Char)} (some : fields ≠ [])
    (unbroken : ∀ field ∈ fields, Unbroken field) (solid : ∀ field ∈ fields, '\t' ∉ field) :
    tabFields (['\t'].intercalate fields) = fields := by
  have ends : dropEndWhile isLineEnding (['\t'].intercalate fields) = ['\t'].intercalate fields :=
    dropEndWhileNone fun c last => unbrokenJoined unbroken c (List.mem_of_getLast? last)
  rw [tabFields, ends]
  exact List.splitOn_intercalate '\t' solid some

theorem partsLength (separator : Char) (text : List Char) :
    (text.splitOn separator).length = text.count separator + 1 := by
  induction text with
  | nil => simp
  | cons c rest ih =>
    rw [List.splitOn_cons_eq_if_modifyHead]
    by_cases same : c = separator <;> simp [same, ih]

theorem partsWithin {separator : Char} {text : List Char} :
    ∀ part ∈ text.splitOn separator, ∀ c ∈ part, c ∈ text ∧ c ≠ separator := by
  induction text with
  | nil => simp
  | cons d rest ih =>
    have wider {part : List Char} (inner : ∀ c ∈ part, c ∈ rest ∧ c ≠ separator) :
        ∀ c ∈ part, c ∈ d :: rest ∧ c ≠ separator :=
      fun c inside => ⟨List.mem_cons_of_mem d (inner c inside).1, (inner c inside).2⟩
    rw [List.splitOn_cons_eq_if_modifyHead]
    by_cases same : d = separator
    · rw [if_pos (by simpa using same), List.forall_mem_cons]
      exact ⟨by simp, fun part member => wider (ih part member)⟩
    · rw [if_neg (by simpa using same)]
      cases parts : rest.splitOn separator with
      | nil => simp
      | cons first others =>
        rw [parts, List.forall_mem_cons] at ih
        rw [List.modifyHead_cons, List.forall_mem_cons, List.forall_mem_cons]
        exact ⟨⟨⟨List.mem_cons_self, same⟩, wider ih.1⟩, fun part member => wider (ih.2 part member)⟩

end ScorePage.Text
