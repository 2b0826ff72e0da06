import Mathlib.Data.List.TakeWhile
import ScorePage.Proofs.Xml.Layout

/-! Indentation. Line breaks and spaces are put between tags only, so that texts of one document with
different indentation are the same once these are taken out. The spaces before a tag count the elements
that are open there: one more behind each opening tag, one less from each closing tag on. -/
namespace ScorePage.Xml

def withoutBreak : List Char → List Char
  | '\n' :: rest =>
      match rest.dropWhile (· == ' ') with
      | '<' :: behind => '<' :: behind
      | _ => '\n' :: rest
  | text => text

theorem withoutBreakShorter (text : List Char) : (withoutBreak text).length ≤ text.length := by
  unfold withoutBreak
  split
  · rename_i rest
    split
    · rename_i behind spaces
      have shorter := (List.dropWhile_suffix (p := (· == ' ')) (l := rest)).length_le
      rw [spaces] at shorter
      exact Nat.le_succ_of_le shorter
    · exact Nat.le_refl _
  · exact Nat.le_refl _

/- The text without each line break that stands, with the spaces behind it, alone between a `>` and the
next `<`. -/
def joined : List Char → List Char
  | [] => []
  | c :: rest => c :: joined (if c = '>' then withoutBreak rest else rest)
termination_by text => text.length
decreasing_by
  split
  · exact Nat.lt_succ_of_le (withoutBreakShorter rest)
  · exact Nat.lt_succ_self _

theorem joinedPlain {front : List Char} (plain : '>' ∉ front) (rest : List Char) :
    joined (front ++ rest) = front ++ joined rest := by
  induction front with
  | nil => rfl
  | cons c front ih =>
    rw [List.mem_cons, not_or] at plain
    rw [List.cons_append, joined, if_neg (Ne.symm plain.1), ih plain.2]
    rfl

theorem joinedTag {body : List Char} (tag : TagText body) (rest : List Char) :
    joined (body ++ rest) = body ++ joined (withoutBreak rest) := by
  obtain ⟨inner, plain, rfl⟩ := tag
  have opens : '>' ∉ '<' :: inner := by simpa using plain
  rw [List.append_assoc, joinedPlain opens, List.singleton_append, joined, if_pos rfl]
  simp

def bareGap : List Char → List Char
  | '\n' :: rest => if rest.all (· == ' ') then [] else '\n' :: rest
  | gap => gap

theorem bareLineBreak (indent depth : Nat) : bareGap (lineBreak indent depth) = [] := by
  unfold lineBreak
  split
  · rfl
  · simp [bareGap]

theorem barePlain {c : Char} {gap : List Char} (plain : c ∉ gap) : c ∉ bareGap gap := by
  unfold bareGap
  split
  · split
    · exact List.not_mem_nil
    · exact plain
  · exact plain

theorem withoutBreakGap {gap : List Char} (plain : '<' ∉ gap) (rest : List Char) :
    withoutBreak (gap ++ '<' :: rest) = bareGap gap ++ '<' :: rest := by
  cases gap with
  | nil => rfl
  | cons c gap =>
    by_cases newline : c = '\n'
    · subst newline
      by_cases spaces : gap.all (· == ' ') = true
      · have all := List.all_eq_true.mp spaces
        have behind : (gap ++ '<' :: rest).dropWhile (· == ' ') = '<' :: rest := by
          rw [List.dropWhile_append_of_pos all]
          rfl
        simp [withoutBreak, bareGap, behind, spaces]
      · have stop : gap.dropWhile (· == ' ') ≠ [] := by
          rw [Ne, List.dropWhile_eq_nil_iff]
          exact fun all => spaces (List.all_eq_true.mpr all)
        obtain ⟨d, behind, dropped⟩ := List.exists_cons_of_ne_nil stop
        have other : d ≠ '<' := by
          rintro rfl
          have member : '<' ∈ gap.dropWhile (· == ' ') := dropped ▸ List.mem_cons_self
          exact plain (List.mem_cons_of_mem _ ((List.dropWhile_suffix _).subset member))
        have kept : (gap ++ '<' :: rest).dropWhile (· == ' ') = d :: (behind ++ '<' :: rest) := by
          rw [List.dropWhile_append, if_neg (by simp [dropped]), dropped]
          rfl
        simp [withoutBreak, bareGap, kept, spaces, other]
    · simp [withoutBreak, bareGap, newline]

theorem joinedWritten {tags : List (List Char × List Char)}
    (delimited : ∀ tag ∈ tags, Delimited tag) (gaps : ∀ tag ∈ tags, '>' ∉ tag.1) :
    joined (withoutBreak (written tags ++ ['\n'])) =
      written (tags.map (Prod.map bareGap id)) ++ ['\n'] := by
  induction tags with
  | nil => simp [written, withoutBreak, joined]
  | cons tag tags ih =>
    obtain ⟨here, delimited⟩ := List.forall_mem_cons.mp delimited
    obtain ⟨gap, gaps⟩ := List.forall_mem_cons.mp gaps
    have step (tag : List Char × List Char) (tags : List (List Char × List Char)) :
        written (tag :: tags) ++ ['\n'] = tag.1 ++ (tag.2 ++ (written tags ++ ['\n'])) := by
      simp [written]
    obtain ⟨inner, -, body⟩ := here.body
    have begin : tag.2 ++ (written tags ++ ['\n']) =
        '<' :: (inner ++ ['>'] ++ (written tags ++ ['\n'])) := by simp [body]
    rw [step, begin, withoutBreakGap here.gap, ← begin, joinedPlain (barePlain gap),
      joinedTag here.body, ih delimited gaps, List.map_cons, step]
    rfl

theorem spacedBare (indent otherIndent : Nat) (pending : Option (List Char))
    (markup : List Markup) :
    (spaced indent pending markup).map (Prod.map bareGap id) =
      (spaced otherIndent pending markup).map (Prod.map bareGap id) := by
  induction markup generalizing pending with
  | nil => rfl
  | cons part markup ih =>
    cases part with
    | tag depth body =>
      rw [spaced, spaced, List.map_cons, List.map_cons, ih none]
      cases pending with
      | none => simp [bareLineBreak]
      | some text => rfl
    | text content => exact ih _


/- A document as it is written from left to right; the depth of its tags is not told. -/
inductive Sign where
  | opening
  | closing
  | single
  deriving DecidableEq, Repr

inductive Piece where
  | tag (sign : Sign) (body : List Char)
  | text (content : List Char)
  deriving DecidableEq, Repr

def Piece.content : Piece → List Char
  | .tag _ body => body
  | .text content => content

def textPieces : Option String → List Piece
  | none => []
  | some content => [.text (escape content.toList)]

def elementPieces (before : List (String × String)) (label : Label) (children : List Piece) :
    List Piece :=
  match textPieces label.text ++ children with
  | [] => [.tag .single ('<' :: opened before label ++ ['/', '>'])]
  | inside =>
      .tag .opening ('<' :: opened before label ++ ['>']) ::
        inside ++ [.tag .closing ('<' :: '/' :: label.name.toList ++ ['>'])]

def forestPieces : Forest → List Piece
  | .nil => []
  | .cons label children rest => elementPieces [] label (forestPieces children) ++ forestPieces rest

def documentPieces (document : Document) : List Piece :=
  elementPieces [("xmlns", meiNamespace)] document.root.label
    (forestPieces document.root.children)

def openBehind (depth : Nat) : Piece → Nat
  | .tag .opening _ => depth + 1
  | .tag .closing _ => depth - 1
  | _ => depth

def openAfter (before : List Piece) : Nat := before.foldl openBehind 0

def Piece.marked (depth : Nat) : Piece → Markup
  | .tag .closing body => .tag (depth - 1) body
  | .tag _ body => .tag depth body
  | .text content => .text content

def markedFrom (depth : Nat) : List Piece → List Markup
  | [] => []
  | piece :: rest => piece.marked depth :: markedFrom (openBehind depth piece) rest

theorem markedAppend (depth : Nat) (pieces rest : List Piece) :
    markedFrom depth (pieces ++ rest) =
      markedFrom depth pieces ++ markedFrom (pieces.foldl openBehind depth) rest := by
  induction pieces generalizing depth with
  | nil => rfl
  | cons piece pieces ih => simp [markedFrom, ih]

structure Balanced (depth : Nat) (pieces : List Piece) (markup : List Markup) : Prop where
  marked : markedFrom depth pieces = markup
  level : pieces.foldl openBehind depth = depth

theorem balancedAppend {depth : Nat} {pieces others : List Piece} {markup more : List Markup}
    (front : Balanced depth pieces markup) (back : Balanced depth others more) :
    Balanced depth (pieces ++ others) (markup ++ more) := by
  constructor
  · rw [markedAppend, front.marked, front.level, back.marked]
  · rw [List.foldl_append, front.level, back.level]

theorem textBalanced (depth : Nat) (text : Option String) :
    Balanced depth (textPieces text) (textMarkup text) := by
  cases text <;> exact ⟨rfl, rfl⟩

theorem balancedAround {depth : Nat} {inside : List Piece} {markup : List Markup}
    (within : Balanced (depth + 1) inside markup) (begin finish : List Char) :
    Balanced depth (.tag .opening begin :: inside ++ [.tag .closing finish])
      (.tag depth begin :: markup ++ [.tag depth finish]) := by
  have marked : markedFrom (depth + 1) inside = markup := within.marked
  have level : inside.foldl openBehind (depth + 1) = depth + 1 := within.level
  constructor
  · rw [List.cons_append, markedFrom, markedAppend, openBehind, marked, level]
    rfl
  · rw [List.cons_append, List.foldl_cons, List.foldl_append, openBehind, level]
    rfl

theorem elementBalanced {depth : Nat} (before : List (String × String)) (label : Label)
    {children : List Piece} {markup : List Markup} (balanced : Balanced (depth + 1) children markup) :
    Balanced depth (elementPieces before label children)
      (elementMarkup depth before label markup) := by
  have within := balancedAppend (textBalanced (depth + 1) label.text) balanced
  unfold elementPieces elementMarkup
  cases pieces : textPieces label.text ++ children with
  | nil =>
    have nothing : textMarkup label.text ++ markup = [] := by
      rw [← within.marked, pieces]
      rfl
    rw [nothing]
    exact ⟨rfl, rfl⟩
  | cons piece rest =>
    rw [pieces] at within
    have something : textMarkup label.text ++ markup =
        piece.marked (depth + 1) :: markedFrom (openBehind (depth + 1) piece) rest :=
      within.marked.symm
    rw [something] at within ⊢
    exact balancedAround within _ _

theorem forestBalanced (depth : Nat) (forest : Forest) :
    Balanced depth (forestPieces forest) (forestMarkup depth forest) := by
  induction forest generalizing depth with
  | nil => exact ⟨rfl, rfl⟩
  | cons label children rest childrenIh restIh =>
    exact balancedAppend (elementBalanced [] label (childrenIh (depth + 1))) (restIh depth)

theorem documentMarked (document : Document) :
    documentMarkup document = markedFrom 0 (documentPieces document) :=
  (elementBalanced _ _ (forestBalanced 1 document.root.children)).marked.symm

def endsInText (before : List Piece) : Bool :=
  match before.getLast? with
  | some (.text _) => true
  | _ => false

def stretch (indent : Nat) (before : List Piece) : Piece → List Char
  | .text _ => []
  | .tag sign _ =>
      let depth := if sign = .closing then openAfter before - 1 else openAfter before
      if endsInText before then [] else '\n' :: List.replicate (indent * depth) ' '

def placed (before : List Piece) : List Piece → List (List Piece × Piece)
  | [] => []
  | piece :: rest => (before, piece) :: placed (before ++ [piece]) rest

theorem openSnoc (before : List Piece) (piece : Piece) :
    openAfter (before ++ [piece]) = openBehind (openAfter before) piece := by
  rw [openAfter, List.foldl_append]
  rfl

theorem layPlaced {indent : Nat} (broken : 0 < indent) (before pieces : List Piece) :
    lay indent (endsInText before) (markedFrom (openAfter before) pieces) =
      (placed before pieces).flatMap fun (before, piece) =>
        stretch indent before piece ++ piece.content := by
  induction pieces generalizing before with
  | nil => rfl
  | cons piece pieces ih =>
    have line (depth : Nat) : lineBreak indent depth = '\n' :: List.replicate (indent * depth) ' ' :=
      if_neg (Nat.ne_of_gt broken)
    rw [placed, List.flatMap_cons, ← ih, openSnoc, markedFrom]
    cases piece with
    | text content => simp [Piece.marked, lay, stretch, Piece.content, endsInText]
    | tag sign body =>
      cases sign <;> simp [Piece.marked, lay, stretch, Piece.content, endsInText, line]

theorem markedPlaced (before pieces : List Piece) :
    markedFrom (openAfter before) pieces = (placed before pieces).map fun (before, piece) =>
      piece.marked (openAfter before) := by
  induction pieces generalizing before with
  | nil => rfl
  | cons piece pieces ih => rw [placed, List.map_cons, ← ih, openSnoc, markedFrom]

theorem elementTexts {depth : Nat} {before : List (String × String)} {label : Label}
    {children : List Markup} {content : List Char}
    (member : .text content ∈ elementMarkup depth before label children) :
    (∃ text, content = escape text) ∨ .text content ∈ children := by
  have within (member : .text content ∈ inside label children) :
      (∃ text, content = escape text) ∨ .text content ∈ children := by
    rcases List.mem_append.mp member with own | below
    · cases text : label.text with
      | none => simp [text, textMarkup] at own
      | some shown =>
        rw [text, textMarkup, List.mem_singleton] at own
        exact .inl ⟨shown.toList, Markup.text.inj own⟩
    · exact .inr below
  by_cases some : inside label children = []
  · simp [markupOfNothing some] at member
  · simp only [markupAround some, List.mem_cons, List.mem_append, closing, List.not_mem_nil,
      reduceCtorEq, or_false, false_or] at member
    exact within member

theorem forestTexts {depth : Nat} {forest : Forest} {content : List Char}
    (member : .text content ∈ forestMarkup depth forest) : ∃ text, content = escape text := by
  induction forest generalizing depth with
  | nil => contradiction
  | cons label children rest childrenIh restIh =>
    rcases List.mem_append.mp member with here | behind
    · rcases elementTexts here with own | below
      · exact own
      · exact childrenIh below
    · exact restIh behind

theorem spacedGaps {c : Char} {markup : List Markup}
    (texts : ∀ content, .text content ∈ markup → c ∉ content) (indent : Nat)
    (breaks : ∀ depth, c ∉ lineBreak indent depth) {pending : Option (List Char)}
    (free : c ∉ pending.getD []) : ∀ tag ∈ spaced indent pending markup, c ∉ tag.1 := by
  induction markup generalizing pending with
  | nil => exact List.forall_mem_nil _
  | cons part markup ih =>
    have textsBehind : ∀ content, .text content ∈ markup → c ∉ content :=
      fun content member => texts content (List.mem_cons_of_mem _ member)
    cases part with
    | tag depth body =>
      refine List.forall_mem_cons.mpr ⟨?_, ih textsBehind List.not_mem_nil⟩
      cases pending with
      | none => exact breaks depth
      | some text => exact free
    | text content =>
      refine ih textsBehind ?_
      rw [Option.getD_some, List.mem_append]
      exact not_or.mpr ⟨free, texts content List.mem_cons_self⟩

theorem documentGaps (document : Document) (indent : Nat) :
    ∀ tag ∈ spaced indent none (documentMarkup document), '>' ∉ tag.1 := by
  refine spacedGaps ?_ indent ?_ List.not_mem_nil
  · intro content member
    obtain ⟨text, rfl⟩ : ∃ text, content = escape text := by
      rcases elementTexts member with own | below
      · exact own
      · exact forestTexts below
    exact escapedPlain (by decide) text
  · intro depth
    unfold lineBreak
    split
    · exact List.not_mem_nil
    · simp

theorem textJoined {document : Document}
    (names : ∀ e ∈ document.root.elements, e.label.Names fun name => '>' ∉ name.toList)
    (indent : Nat) : joined (text document indent).toList =
      declaration.toList ++ written ((spaced indent none (documentMarkup document)).map
        (Prod.map bareGap id)) ++ ['\n'] := by
  have tag : TagText declaration.toList :=
    ⟨"?xml version=\"1.0\" encoding=\"UTF-8\"?".toList, by decide, by decide⟩
  rw [textSpaced, List.append_assoc, joinedTag tag,
    joinedWritten (documentDelimited names indent) (documentGaps document indent), List.append_assoc]

theorem layoutBetweenTags {document : Document}
    (names : ∀ e ∈ document.root.elements, e.label.Names fun name => '>' ∉ name.toList) :
    (∀ indent otherIndent,
      joined (text document indent).toList = joined (text document otherIndent).toList) ∧
    documentMarkup document = (placed [] (documentPieces document)).map
      (fun (before, piece) => piece.marked (openAfter before)) ∧
    ∀ indent, 0 < indent → (text document indent).toList =
      declaration.toList ++ (placed [] (documentPieces document)).flatMap
        (fun (before, piece) => stretch indent before piece ++ piece.content) ++ ['\n'] := by
  refine ⟨?_, ?_, ?_⟩
  · intro indent otherIndent
    rw [textJoined names, textJoined names, spacedBare indent otherIndent]
  · rw [documentMarked]
    exact markedPlaced [] _
  · intro indent broken
    have laid := layPlaced broken [] (documentPieces document)
    rw [text, String.toList_ofList, documentMarked, ← laid]
    rfl

def blankTexts : Document :=
  ⟨⟨"mei", "m", [], none⟩,
    .cons ⟨"p", "a", [("n", ">\n<")], some "\n  "⟩ (.cons ⟨"q", "b", [], some "\n "⟩ .nil .nil)
      (.cons ⟨"r", "c", [], some ""⟩ .nil .nil)⟩

theorem layoutAroundBlankTexts :
    (∀ e ∈ blankTexts.root.elements, e.label.Names fun name => '>' ∉ name.toList) ∧
    joined (text blankTexts 3).toList = joined (text blankTexts 0).toList ∧
    (text blankTexts 3).toList =
      declaration.toList ++ (placed [] (documentPieces blankTexts)).flatMap
        (fun (before, piece) => stretch 3 before piece ++ piece.content) ++ ['\n'] ∧
    (placed [] (documentPieces blankTexts)).map (fun (before, piece) => stretch 3 before piece) =
      ["\n", "\n   ", "", "", "", "", "\n   ", "\n   ", "", "", "\n"].map String.toList := by
  have names : ∀ e ∈ blankTexts.root.elements, e.label.Names fun name => '>' ∉ name.toList := by
    decide
  obtain ⟨same, -, laid⟩ := layoutBetweenTags names
  exact ⟨names, same 3 0, laid 3 (by decide), by decide⟩

end ScorePage.Xml
