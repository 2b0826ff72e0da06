import ScorePage.Proofs.Element
import ScorePage.Proofs.Xml.Tag

/-! Documents as lists of tags, each behind the text or the line break that stands before it. Nothing
before a tag holds a `<`, and the first `>` ends the tag, so the characters of a document give back
this list. -/
namespace ScorePage.Xml

def spaced (indent : Nat) : Option (List Char) → List Markup → List (List Char × List Char)
  | _, [] => []
  | pending, .tag depth body :: rest =>
      (pending.getD (lineBreak indent depth), body) :: spaced indent none rest
  | pending, .text content :: rest => spaced indent (some (pending.getD [] ++ content)) rest

def written (tags : List (List Char × List Char)) : List Char :=
  tags.flatMap fun (gap, body) => gap ++ body

/- A text behind the last tag would be lost, so there is none. -/
theorem laySpaced (indent : Nat) (front : List Markup) (depth : Nat) (body : List Char)
    (pending : Option (List Char)) :
    pending.getD [] ++ lay indent pending.isSome (front ++ [.tag depth body]) =
      written (spaced indent pending (front ++ [.tag depth body])) := by
  induction front generalizing pending with
  | nil => cases pending <;> simp [lay, spaced, written]
  | cons part front ih =>
    cases part with
    | tag inner content =>
      have rest := ih none
      simp only [Option.getD_none, Option.isSome_none, List.nil_append] at rest
      cases pending <;> simp [lay, spaced, written, rest]
    | text content =>
      have rest := ih (some (pending.getD [] ++ content))
      simpa [lay, spaced] using rest

def TagText (body : List Char) : Prop := ∃ inner, '>' ∉ inner ∧ body = '<' :: inner ++ ['>']

structure Delimited (tag : List Char × List Char) : Prop where
  gap : '<' ∉ tag.1
  body : TagText tag.2

theorem writtenInjective {tags others : List (List Char × List Char)}
    (delimited : ∀ tag ∈ tags, Delimited tag) (otherDelimited : ∀ tag ∈ others, Delimited tag)
    (same : written tags = written others) : tags = others := by
  have step {tag : List Char × List Char} {inner : List Char} (body : tag.2 = '<' :: inner ++ ['>'])
      (tags : List (List Char × List Char)) :
      written (tag :: tags) = tag.1 ++ '<' :: (inner ++ '>' :: written tags) := by
    simp [written, body]
  induction tags generalizing others with
  | nil =>
    cases others with
    | nil => rfl
    | cons other others =>
      obtain ⟨inner, -, body⟩ := (otherDelimited _ List.mem_cons_self).body
      rw [step body] at same
      simp [written] at same
  | cons tag tags ih =>
    obtain ⟨delimitedTag, delimited⟩ := List.forall_mem_cons.mp delimited
    obtain ⟨inner, plain, body⟩ := delimitedTag.body
    cases others with
    | nil =>
      rw [step body] at same
      simp [written] at same
    | cons other others =>
      obtain ⟨delimitedOther, otherDelimited⟩ := List.forall_mem_cons.mp otherDelimited
      obtain ⟨otherInner, otherPlain, otherBody⟩ := delimitedOther.body
      rw [step body, step otherBody] at same
      obtain ⟨sameGap, behindGap⟩ := firstCut delimitedTag.gap delimitedOther.gap same
      obtain ⟨sameInner, behindInner⟩ := firstCut plain otherPlain behindGap
      have sameBody : tag.2 = other.2 := by rw [body, otherBody, sameInner]
      rw [ih delimited otherDelimited behindInner, Prod.ext sameGap sameBody]

def Markup.Plain : Markup → Prop
  | .tag _ body => TagText body
  | .text content => '<' ∉ content

theorem lineBreakPlain (indent depth : Nat) : '<' ∉ lineBreak indent depth := by
  unfold lineBreak
  split
  · exact List.not_mem_nil
  · simp

theorem spacedDelimited {markup : List Markup} (plain : ∀ part ∈ markup, part.Plain) (indent : Nat)
    {pending : Option (List Char)} (free : '<' ∉ pending.getD []) :
    ∀ tag ∈ spaced indent pending markup, Delimited tag := by
  induction markup generalizing pending with
  | nil => exact List.forall_mem_nil _
  | cons part markup ih =>
    obtain ⟨plainPart, plainRest⟩ := List.forall_mem_cons.mp plain
    cases part with
    | tag depth body =>
      refine List.forall_mem_cons.mpr ⟨⟨?_, plainPart⟩, ih plainRest List.not_mem_nil⟩
      cases pending with
      | none => exact lineBreakPlain indent depth
      | some text => exact free
    | text content =>
      refine ih plainRest ?_
      rw [Option.getD_some, List.mem_append]
      exact not_or.mpr ⟨free, plainPart⟩

def inside (label : Label) (children : List Markup) : List Markup :=
  textMarkup label.text ++ children

def closing (depth : Nat) (label : Label) : Markup :=
  .tag depth ('<' :: ('/' :: label.name.toList) ++ ['>'])

section

variable {depth : Nat} {before : List (String × String)} {label : Label} {children : List Markup}

theorem markupOfNothing (none : inside label children = []) :
    elementMarkup depth before label children =
      [.tag depth ('<' :: (opened before label ++ ['/']) ++ ['>'])] := by
  unfold inside at none
  simp [elementMarkup, none]

theorem markupAround (some : inside label children ≠ []) :
    elementMarkup depth before label children = .tag depth ('<' :: opened before label ++ ['>']) ::
      (inside label children ++ [closing depth label]) := by
  unfold elementMarkup
  split
  · next none => exact absurd none some
  · rfl

theorem markupParts (depth : Nat) (before : List (String × String)) (label : Label)
    (children : List Markup) : ∃ ends rest, elementMarkup depth before label children =
        .tag depth ('<' :: (opened before label ++ ends) ++ ['>']) :: rest ∧
      ((ends = ['/'] ∧ inside label children = [] ∧ rest = []) ∨
        (ends = [] ∧ inside label children ≠ [] ∧
          rest = inside label children ++ [closing depth label])) := by
  by_cases some : inside label children = []
  · exact ⟨['/'], [], markupOfNothing some, .inl ⟨rfl, some, rfl⟩⟩
  · refine ⟨[], inside label children ++ [closing depth label], ?_, .inr ⟨rfl, some, rfl⟩⟩
    rw [List.append_nil]
    exact markupAround some

theorem markupEnds : ∃ front body, elementMarkup depth before label children =
    front ++ [.tag depth body] := by
  by_cases some : inside label children = []
  · exact ⟨[], _, markupOfNothing some⟩
  · exact ⟨_ :: inside label children, _, markupAround some⟩

theorem elementPlain (keys : ∀ pair ∈ before, '>' ∉ pair.1.toList)
    (names : label.Names fun name => '>' ∉ name.toList)
    (plain : ∀ part ∈ children, part.Plain) :
    ∀ part ∈ elementMarkup depth before label children, part.Plain := by
  have tag := openedPlain keys names
  have plainInside : ∀ part ∈ inside label children, part.Plain := by
    refine List.forall_mem_append.mpr ⟨?_, plain⟩
    cases label.text with
    | none => exact List.forall_mem_nil _
    | some content => exact List.forall_mem_singleton.mpr (escapedPlain (by decide) _)
  by_cases some : inside label children = []
  · rw [markupOfNothing some]
    exact List.forall_mem_singleton.mpr ⟨_, by simpa using tag, rfl⟩
  · rw [markupAround some, List.forall_mem_cons, List.forall_mem_append]
    have close : '>' ∉ '/' :: label.name.toList := by simpa using names.1
    exact ⟨⟨_, tag, rfl⟩, plainInside, List.forall_mem_singleton.mpr ⟨_, close, rfl⟩⟩

end

theorem forestPlain {forest : Forest}
    (names : ∀ e ∈ forest.elements, e.label.Names fun name => '>' ∉ name.toList) (depth : Nat) :
    ∀ part ∈ forestMarkup depth forest, part.Plain := by
  induction forest generalizing depth with
  | nil => exact List.forall_mem_nil _
  | cons label children rest childrenIh restIh =>
    obtain ⟨namesHere, namesBelow⟩ := List.forall_mem_cons.mp names
    obtain ⟨namesInside, namesBehind⟩ := List.forall_mem_append.mp namesBelow
    exact List.forall_mem_append.mpr
      ⟨elementPlain (List.forall_mem_nil _) namesHere
        (childrenIh namesInside _), restIh namesBehind depth⟩

theorem textSpaced (document : Document) (indent : Nat) :
    (text document indent).toList =
      declaration.toList ++ written (spaced indent none (documentMarkup document)) ++ ['\n'] := by
  obtain ⟨front, body, ends⟩ : ∃ front body, documentMarkup document = front ++ [.tag 0 body] :=
    markupEnds
  have laid := laySpaced indent front 0 body none
  simp only [Option.getD_none, Option.isSome_none, List.nil_append] at laid
  rw [text, String.toList_ofList, ends, laid]

theorem documentDelimited {document : Document}
    (names : ∀ e ∈ document.root.elements, e.label.Names fun name => '>' ∉ name.toList)
    (indent : Nat) : ∀ tag ∈ spaced indent none (documentMarkup document), Delimited tag := by
  obtain ⟨namesHere, namesInside⟩ := List.forall_mem_cons.mp names
  exact spacedDelimited (elementPlain (by decide) namesHere (forestPlain namesInside 1)) indent
    List.not_mem_nil

theorem textCut {document other : Document} {indent otherIndent : Nat}
    (names : ∀ e ∈ document.root.elements, e.label.Names fun name => '>' ∉ name.toList)
    (otherNames : ∀ e ∈ other.root.elements, e.label.Names fun name => '>' ∉ name.toList)
    (same : text document indent = text other otherIndent) :
    spaced indent none (documentMarkup document) =
      spaced otherIndent none (documentMarkup other) := by
  have characters := congrArg String.toList same
  rw [textSpaced, textSpaced] at characters
  exact writtenInjective (documentDelimited names indent) (documentDelimited otherNames otherIndent)
    (List.append_cancel_left (List.append_cancel_right characters))

end ScorePage.Xml
