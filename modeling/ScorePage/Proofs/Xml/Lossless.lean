import ScorePage.Proofs.Xml.Layout

/-! The text of a document gives back the document. The tags are read off in order: one that ends in
a slash is a whole element, any other goes on to the closing tag at the same level, and what stands
before the first tag inside tells the element's text. -/
namespace ScorePage

/- An empty text is not told from no text once there are children. -/
def shownText (text : Option String) : Forest → Option String
  | .nil => text
  | .cons .. => text.filter (· ≠ "")

def Label.shown (label : Label) (children : Forest) : Label :=
  { label with text := shownText label.text children }

def Forest.shown : Forest → Forest
  | .nil => .nil
  | .cons label children rest => .cons (label.shown children) children.shown rest.shown

def Document.shown (document : Document) : Document :=
  ⟨document.root.label.shown document.root.children, document.root.children.shown⟩

/- With line breaks between the tags, a text before a child cannot be told from them. An empty one
does no harm. -/
structure Element.Legible (indent : Nat) (e : Element) : Prop where
  names : e.label.Names Xml.PlainName
  text : indent = 0 ∨ e.label.text.getD "" = "" ∨ e.children = .nil
instance (indent : Nat) (e : Element) : Decidable (e.Legible indent) :=
  decidable_of_iff (e.label.Names Xml.PlainName ∧
      (indent = 0 ∨ e.label.text.getD "" = "" ∨ e.children = .nil))
    ⟨fun ⟨names, text⟩ => ⟨names, text⟩, fun legible => ⟨legible.names, legible.text⟩⟩

namespace Xml

theorem tagCut {indent otherIndent depth level : Nat} {pending otherPending : Option (List Char)}
    {inner otherInner : List Char} {rest behind : List Markup}
    (same : spaced indent pending (.tag depth ('<' :: inner ++ ['>']) :: rest) =
      spaced otherIndent otherPending (.tag level ('<' :: otherInner ++ ['>']) :: behind)) :
    inner = otherInner ∧ spaced indent none rest = spaced otherIndent none behind := by
  obtain ⟨heads, tails⟩ := List.cons.inj same
  have bodies := (List.cons.inj (Prod.mk.inj heads).2).2
  exact ⟨List.append_cancel_right bodies, tails⟩

theorem elementCut {indent otherIndent depth : Nat} {before : List (String × String)}
    {label other : Label} {children others rest behind : List Markup}
    {pending otherPending : Option (List Char)} (keys : ∀ pair ∈ before, PlainName pair.1)
    (names : label.Names PlainName) (otherNames : other.Names PlainName)
    (same : spaced indent pending (elementMarkup depth before label children ++ rest) =
      spaced otherIndent otherPending (elementMarkup depth before other others ++ behind)) :
    (label.name = other.name ∧ label.id = other.id ∧ label.attributes = other.attributes) ∧
      ((inside label children = [] ∧ inside other others = [] ∧
          spaced indent none rest = spaced otherIndent none behind) ∨
        (inside label children ≠ [] ∧ inside other others ≠ [] ∧
          spaced indent none (inside label children ++ closing depth label :: rest) =
            spaced otherIndent none (inside other others ++ closing depth other :: behind))) := by
  obtain ⟨ends, inner, begin, parts⟩ := markupParts depth before label children
  obtain ⟨otherEnds, otherInner, otherBegin, otherParts⟩ := markupParts depth before other others
  rw [begin, otherBegin] at same
  obtain ⟨tags, rests⟩ : opened before label ++ ends = opened before other ++ otherEnds ∧
    spaced indent none (inner ++ rest) = spaced otherIndent none (otherInner ++ behind) :=
      tagCut same
  have notSpace : ends.head? ≠ some ' ' := by
    rcases parts with ⟨rfl, -⟩ | ⟨rfl, -⟩ <;> decide
  have otherNotSpace : otherEnds.head? ≠ some ' ' := by
    rcases otherParts with ⟨rfl, -⟩ | ⟨rfl, -⟩ <;> decide
  obtain ⟨sameLabel, rfl⟩ := openedCut keys names otherNames notSpace otherNotSpace tags
  refine ⟨sameLabel, ?_⟩
  rcases parts with ⟨rfl, nothing, rfl⟩ | ⟨rfl, something, rfl⟩
  · obtain ⟨-, otherNothing, rfl⟩ | ⟨slash, -⟩ := otherParts
    · exact .inl ⟨nothing, otherNothing, rests⟩
    · cases slash
  · obtain ⟨slash, -⟩ | ⟨-, otherSomething, rfl⟩ := otherParts
    · cases slash
    · rw [List.append_assoc, List.append_assoc] at rests
      exact .inr ⟨something, otherSomething, rests⟩

theorem gapBefore (indent depth : Nat) (pending : Option (List Char))
    (before : List (String × String)) (label : Label) (children rest : List Markup) :
    (spaced indent pending (elementMarkup depth before label children ++ rest)).head?.map Prod.fst =
      some (pending.getD (lineBreak indent depth)) := by
  obtain ⟨ends, behind, begin, -⟩ := markupParts depth before label children
  rw [begin]
  rfl

theorem closingApart {indent otherIndent depth outer : Nat} {before : List (String × String)}
    {label other : Label} {others rest behind : List Markup}
    {pending otherPending : Option (List Char)} (names : other.Names PlainName) :
    spaced indent pending (closing outer label :: rest) ≠
      spaced otherIndent otherPending (elementMarkup depth before other others ++ behind) := by
  intro same
  obtain ⟨ends, inner, begin, -⟩ := markupParts depth before other others
  rw [begin] at same
  exact openedNotClosing names ends (congrArg List.head? (tagCut same).1).symm

theorem spacedInside (indent : Nat) (label : Label) (children rest : List Markup) :
    spaced indent none (inside label children ++ rest) =
      spaced indent (label.text.map fun content => escape content.toList) (children ++ rest) := by
  unfold inside
  cases label.text <;> rfl

theorem nothingInside {depth : Nat} {label : Label} {children : Forest} :
    inside label (forestMarkup depth children) = [] ↔ label.text = none ∧ children = .nil := by
  unfold inside
  cases label.text with
  | some content => simp [textMarkup]
  | none =>
    cases children with
    | nil => simp [textMarkup, forestMarkup]
    | cons inner below others =>
      obtain ⟨ends, rest, begin, -⟩ :=
        markupParts depth [] inner (forestMarkup (depth + 1) below)
      simp [textMarkup, forestMarkup, begin]

def firstGap (indent depth : Nat) (text : Option String) (children : Forest) : List Char :=
  (text.map fun content => escape content.toList).getD
    (lineBreak indent (match children with | .nil => depth | .cons .. => depth + 1))

theorem gapInside (indent depth : Nat) (label : Label) (children : Forest) (rest : List Markup) :
    (spaced indent none (inside label (forestMarkup (depth + 1) children) ++
      closing depth label :: rest)).head?.map Prod.fst =
        some (firstGap indent depth label.text children) := by
  rw [spacedInside]
  cases children with
  | nil => rfl
  | cons inner below others =>
    rw [forestMarkup, List.append_assoc, gapBefore]
    rfl

theorem lineBreakNone {indent depth : Nat} : lineBreak indent depth = [] ↔ indent = 0 := by
  unfold lineBreak
  split <;> simp_all

theorem contentOfGap {indent otherIndent depth : Nat} (zero : indent = 0 ↔ otherIndent = 0)
    {text other : Option String} (legible : indent = 0 ∨ text.getD "" = "")
    (otherLegible : otherIndent = 0 ∨ other.getD "" = "")
    (gaps : (text.map fun content => escape content.toList).getD (lineBreak indent depth) =
      (other.map fun content => escape content.toList).getD (lineBreak otherIndent depth)) :
    text.getD "" = other.getD "" := by
  by_cases none : indent = 0
  · have written (text : Option String) :
        (text.map fun content => escape content.toList).getD [] =
          escape (text.getD "").toList := by
      cases text <;> rfl
    rw [lineBreakNone.mpr none, lineBreakNone.mpr (zero.mp none), written, written] at gaps
    exact String.toList_inj.mp (escapeInjective gaps)
  · rw [legible.resolve_left none, otherLegible.resolve_left (mt zero.mpr none)]

theorem textOfGap {indent otherIndent depth : Nat} (zero : indent = 0 ↔ otherIndent = 0)
    {label other : Label} {children others : Forest}
    (legible : indent = 0 ∨ label.text.getD "" = "" ∨ children = .nil)
    (otherLegible : otherIndent = 0 ∨ other.text.getD "" = "" ∨ others = .nil)
    (something : inside label (forestMarkup (depth + 1) children) ≠ [])
    (otherSomething : inside other (forestMarkup (depth + 1) others) ≠ [])
    (sameChildren : children.shown = others.shown)
    (gaps : firstGap indent depth label.text children =
      firstGap otherIndent depth other.text others) :
    shownText label.text children = shownText other.text others := by
  cases children with
  | nil =>
    cases others with
    | cons => cases sameChildren
    | nil =>
      have texts : label.text ≠ none ∧ other.text ≠ none :=
        ⟨fun none => something (nothingInside.mpr ⟨none, rfl⟩),
          fun none => otherSomething (nothingInside.mpr ⟨none, rfl⟩)⟩
      obtain ⟨content, text⟩ := Option.ne_none_iff_exists'.mp texts.1
      obtain ⟨otherContent, otherText⟩ := Option.ne_none_iff_exists'.mp texts.2
      rw [text, otherText] at gaps ⊢
      rw [String.toList_inj.mp (escapeInjective gaps)]
  | cons =>
    cases others with
    | nil => cases sameChildren
    | cons =>
      have shown (text : Option String) :
          text.filter (· ≠ "") = if text.getD "" = "" then none else some (text.getD "") := by
        cases text with
        | none => rfl
        | some content => by_cases empty : content = "" <;> simp [empty]
      have content := contentOfGap zero (by simpa using legible) (by simpa using otherLegible) gaps
      rw [shownText, shownText, shown, shown, content]

theorem wholeCut {indent otherIndent depth : Nat} (zero : indent = 0 ↔ otherIndent = 0)
    {before : List (String × String)} (keys : ∀ pair ∈ before, PlainName pair.1) {e other : Element}
    (legible : e.Legible indent) (otherLegible : other.Legible otherIndent)
    {rest behind : List Markup} {pending otherPending : Option (List Char)}
    (childrenCut : ∀ pending otherPending : Option (List Char),
      spaced indent pending (forestMarkup (depth + 1) e.children ++ closing depth e.label :: rest) =
        spaced otherIndent otherPending
          (forestMarkup (depth + 1) other.children ++ closing depth other.label :: behind) →
      e.children.shown = other.children.shown ∧
        spaced indent none rest = spaced otherIndent none behind)
    (same : spaced indent pending
        (elementMarkup depth before e.label (forestMarkup (depth + 1) e.children) ++ rest) =
      spaced otherIndent otherPending
        (elementMarkup depth before other.label (forestMarkup (depth + 1) other.children) ++
          behind)) :
    (e.label.shown e.children = other.label.shown other.children ∧
        e.children.shown = other.children.shown) ∧
      spaced indent none rest = spaced otherIndent none behind := by
  -- The children are read off before what is behind the element.
  obtain ⟨⟨sameName, sameId, sameAttributes⟩, parts⟩ :=
    elementCut keys legible.names otherLegible.names same
  rcases parts with ⟨nothing, otherNothing, rests⟩ | ⟨something, otherSomething, insides⟩
  · obtain ⟨text, children⟩ := nothingInside.mp nothing
    obtain ⟨otherText, otherChildren⟩ := nothingInside.mp otherNothing
    refine ⟨⟨?_, by rw [children, otherChildren]⟩, rests⟩
    simp only [Label.shown, children, otherChildren, sameName, sameId, sameAttributes, shownText,
      text, otherText]
  · have gaps := congrArg (fun tags => tags.head?.map Prod.fst) insides
    simp only [gapInside] at gaps
    rw [spacedInside, spacedInside] at insides
    obtain ⟨sameChildren, rests⟩ := childrenCut _ _ insides
    have texts := textOfGap zero legible.text otherLegible.text something otherSomething
      sameChildren (Option.some.inj gaps)
    refine ⟨⟨?_, sameChildren⟩, rests⟩
    simp only [Label.shown, sameName, sameId, sameAttributes, texts]

theorem forestCut {indent otherIndent : Nat} (zero : indent = 0 ↔ otherIndent = 0)
    {forest other : Forest} (legible : ∀ e ∈ forest.elements, e.Legible indent)
    (otherLegible : ∀ e ∈ other.elements, e.Legible otherIndent) {depth outer : Nat}
    {pending otherPending : Option (List Char)} {label last : Label} {rest behind : List Markup}
    (same : spaced indent pending (forestMarkup depth forest ++ closing outer label :: rest) =
      spaced otherIndent otherPending
        (forestMarkup depth other ++ closing outer last :: behind)) :
    forest.shown = other.shown ∧ spaced indent none rest = spaced otherIndent none behind := by
  induction forest generalizing other depth outer pending otherPending label last rest behind with
  | nil =>
    cases other with
    | nil => exact ⟨rfl, (tagCut same).2⟩
    | cons inner below others =>
      rw [forestMarkup, forestMarkup, List.append_assoc] at same
      exact absurd same (closingApart (otherLegible _ List.mem_cons_self).names)
  | cons inner below others belowIh othersIh =>
    cases other with
    | nil =>
      rw [forestMarkup, forestMarkup, List.append_assoc] at same
      exact absurd same.symm (closingApart (legible _ List.mem_cons_self).names)
    | cons otherInner otherBelow otherOthers =>
      obtain ⟨here, legible⟩ := List.forall_mem_cons.mp legible
      obtain ⟨legibleBelow, legibleOthers⟩ := List.forall_mem_append.mp legible
      obtain ⟨otherHere, otherLegible⟩ := List.forall_mem_cons.mp otherLegible
      obtain ⟨otherBelowLegible, otherOthersLegible⟩ := List.forall_mem_append.mp otherLegible
      rw [forestMarkup, forestMarkup, List.append_assoc, List.append_assoc] at same
      obtain ⟨⟨sameInner, sameBelow⟩, rests⟩ :=
        wholeCut zero (List.forall_mem_nil _) here otherHere
          (fun _ _ => belowIh legibleBelow otherBelowLegible) same
      obtain ⟨sameOthers, behinds⟩ := othersIh legibleOthers otherOthersLegible rests
      refine ⟨?_, behinds⟩
      rw [Forest.shown, Forest.shown, sameInner, sameBelow, sameOthers]

theorem documentCut {document other : Document} {indent otherIndent : Nat}
    (legible : ∀ e ∈ document.root.elements, e.Legible indent)
    (otherLegible : ∀ e ∈ other.root.elements, e.Legible otherIndent)
    (same : text document indent = text other otherIndent) : document.shown = other.shown := by
  have plain {document : Document} {indent : Nat}
      (legible : ∀ e ∈ document.root.elements, e.Legible indent) :
      ∀ e ∈ document.root.elements, e.label.Names fun name => '>' ∉ name.toList :=
    fun e member => Label.namesWeaken (fun _ plain => plain '>' (by decide)) (legible e member).names
  have tags := textCut (plain legible) (plain otherLegible) same
  rw [documentMarkup, documentMarkup, ← List.append_nil (elementMarkup _ _ document.root.label _),
    ← List.append_nil (elementMarkup _ _ other.root.label _)] at tags
  have zero : indent = 0 ↔ otherIndent = 0 := by
    have gaps := congrArg (fun tags => tags.head?.map Prod.fst) tags
    simp only [gapBefore] at gaps
    have breaks : lineBreak indent 0 = lineBreak otherIndent 0 := Option.some.inj gaps
    rw [← lineBreakNone, breaks, lineBreakNone]
  obtain ⟨here, inside⟩ := List.forall_mem_cons.mp legible
  obtain ⟨otherHere, otherInside⟩ := List.forall_mem_cons.mp otherLegible
  obtain ⟨⟨sameRoot, sameChildren⟩, -⟩ := wholeCut zero (by decide) here otherHere
    (fun _ _ => forestCut zero inside otherInside) tags
  rw [Document.shown, Document.shown, sameRoot, sameChildren]

def Markup.content : Markup → List Char
  | .tag _ body => body
  | .text content => content

theorem layUnbroken (afterText : Bool) (markup : List Markup) :
    lay 0 afterText markup = markup.flatMap Markup.content := by
  induction markup generalizing afterText with
  | nil => rfl
  | cons part markup ih =>
    cases part <;> simp [lay, lineBreak, ih, Markup.content]

theorem shownNothing {depth : Nat} {label : Label} {children : Forest} :
    inside (label.shown children) (forestMarkup depth children.shown) = [] ↔
      inside label (forestMarkup depth children) = [] := by
  rw [nothingInside, nothingInside]
  cases children <;> simp [Label.shown, shownText, Forest.shown]

theorem shownContent {depth : Nat} {before : List (String × String)} {label : Label}
    {children : Forest}
    (same : (forestMarkup (depth + 1) children.shown).flatMap Markup.content =
      (forestMarkup (depth + 1) children).flatMap Markup.content) :
    (elementMarkup depth before (label.shown children)
        (forestMarkup (depth + 1) children.shown)).flatMap Markup.content =
      (elementMarkup depth before label (forestMarkup (depth + 1) children)).flatMap
        Markup.content := by
  have texts : (textMarkup (shownText label.text children)).flatMap Markup.content =
      (textMarkup label.text).flatMap Markup.content := by
    cases children with
    | nil => rfl
    | cons =>
      cases label.text with
      | none => rfl
      | some content =>
        by_cases empty : content = ""
        · subst empty
          rfl
        · have kept : (some content).filter (· ≠ "") = some content := by simp [empty]
          rw [shownText, kept]
  by_cases nothing : inside label (forestMarkup (depth + 1) children) = []
  · rw [markupOfNothing nothing, markupOfNothing (shownNothing.mpr nothing)]
    rfl
  · rw [markupAround nothing, markupAround (mt shownNothing.mp nothing)]
    simp only [inside, List.flatMap_cons, List.flatMap_append, same]
    rw [← texts]
    rfl

theorem forestShown (forest : Forest) (depth : Nat) :
    (forestMarkup depth forest.shown).flatMap Markup.content =
      (forestMarkup depth forest).flatMap Markup.content := by
  induction forest generalizing depth with
  | nil => rfl
  | cons label children rest childrenIh restIh =>
    rw [Forest.shown, forestMarkup, forestMarkup, List.flatMap_append, List.flatMap_append,
      shownContent (childrenIh _), restIh]

theorem textLossless :
    (∀ (document other : Document) (indent otherIndent : Nat),
      (∀ e ∈ document.root.elements, e.Legible indent) →
      (∀ e ∈ other.root.elements, e.Legible otherIndent) →
      text document indent = text other otherIndent → document.shown = other.shown) ∧
    ∀ document : Document, text document.shown 0 = text document 0 := by
  refine ⟨fun _ _ _ _ legible otherLegible same => documentCut legible otherLegible same, ?_⟩
  intro document
  have content : (documentMarkup document.shown).flatMap Markup.content =
      (documentMarkup document).flatMap Markup.content :=
    shownContent (forestShown document.root.children 1)
  rw [text, text, layUnbroken, layUnbroken, content]

def emptyTextAround : Document :=
  ⟨⟨"mei", "m", [("meiversion", "2013")], some ""⟩,
    .cons ⟨"title", "\"><t", [("type", "&amp;'")], some "\n  <a/>&lt;"⟩ .nil .nil⟩

def noTextAround : Document :=
  ⟨⟨"mei", "m", [("meiversion", "2013")], none⟩,
    .cons ⟨"title", "\"><t", [("type", "&amp;'")], some "\n  <a/>&lt;"⟩ .nil .nil⟩

theorem emptyTextNotTold : emptyTextAround ≠ noTextAround ∧
    text emptyTextAround 0 = text noTextAround 0 ∧ emptyTextAround.shown = noTextAround.shown := by
  have same : text emptyTextAround 0 = text noTextAround 0 :=
    congrArg String.ofList (by decide +kernel)
  exact ⟨by decide, same,
    textLossless.1 _ _ 0 0 (by decide +kernel) (by decide +kernel) same⟩

end Xml
end ScorePage
