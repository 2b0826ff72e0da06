import ScorePage.Document

/-! Documents as text. A document is first a sequence of tags and texts; each tag has its depth.
Line breaks and spaces are put before tags only, and not before a tag right after a text, so that
a text stays what it is. -/
namespace ScorePage.Xml

inductive Markup where
  | tag (depth : Nat) (body : List Char)
  | text (content : List Char)
  deriving DecidableEq, Repr

def escapeChar (c : Char) : List Char :=
  if c = '<' then "&lt;".toList
  else if c = '>' then "&gt;".toList
  else if c = '&' then "&amp;".toList
  else if c = '\'' then "&apos;".toList
  else if c = '"' then "&quot;".toList
  else [c]

def escape (text : List Char) : List Char := text.flatMap escapeChar

def attributeText (key value : String) : List Char :=
  ' ' :: key.toList ++ '=' :: '"' :: escape value.toList ++ ['"']

def opened (before : List (String × String)) (label : Label) : List Char :=
  label.name.toList ++
    (before ++ ("xml:id", label.id) :: label.attributes).flatMap fun (key, value) =>
      attributeText key value

def textMarkup : Option String → List Markup
  | none => []
  | some content => [.text (escape content.toList)]

def elementMarkup (depth : Nat) (before : List (String × String)) (label : Label)
    (children : List Markup) : List Markup :=
  match textMarkup label.text ++ children with
  | [] => [.tag depth ('<' :: opened before label ++ ['/', '>'])]
  | inside =>
      .tag depth ('<' :: opened before label ++ ['>']) ::
        inside ++ [.tag depth ('<' :: '/' :: label.name.toList ++ ['>'])]

def forestMarkup (depth : Nat) : Forest → List Markup
  | .nil => []
  | .cons label children rest =>
      elementMarkup depth [] label (forestMarkup (depth + 1) children) ++ forestMarkup depth rest

def meiNamespace : String := "http://www.music-encoding.org/ns/mei"

def documentMarkup (document : Document) : List Markup :=
  elementMarkup 0 [("xmlns", meiNamespace)] document.root.label
    (forestMarkup 1 document.root.children)

def lineBreak (indent depth : Nat) : List Char :=
  if indent = 0 then [] else '\n' :: List.replicate (indent * depth) ' '

def lay (indent : Nat) (afterText : Bool) : List Markup → List Char
  | [] => []
  | .tag depth body :: rest =>
      (if afterText then [] else lineBreak indent depth) ++ body ++ lay indent false rest
  | .text content :: rest => content ++ lay indent true rest

def declaration : String := "<?xml version=\"1.0\" encoding=\"UTF-8\"?>"

def text (document : Document) (indent : Nat) : String :=
  String.ofList (declaration.toList ++ lay indent false (documentMarkup document) ++ ['\n'])

end ScorePage.Xml
