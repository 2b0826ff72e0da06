import ScorePage.Yaml.Token

/-! What a configuration contains: the node at its root and, if that is a mapping, its keys and
values in turn. A fault in the text ends the contents early, but what comes before it is there. So
is the beginning of a list or mapping inside the root; as no option is one, nothing is read beyond.
-/
namespace ScorePage.Yaml

structure Scalar where
  style : Style := .plain
  value : List Char := []
  tag : Option (List Char) := none
  deriving DecidableEq, Repr

inductive Content where
  | scalar (scalar : Scalar)
  | list
  | mapping (inFlow : Bool) (opening : Mark)
  deriving DecidableEq, Repr

inductive Node where
  | content (content : Content)
  | alias (name : List Char)
  deriving DecidableEq, Repr

def Node.isCollection : Node → Bool
  | .content .list | .content (.mapping ..) => true
  | _ => false

structure Item where
  mark : Mark
  node : Node
  anchor : Option (List Char) := none
  deriving DecidableEq, Repr

def Item.empty (mark : Mark) : Item := ⟨mark, .content (.scalar {}), none⟩

inductive Ending where
  | last
  | followed
  | broken (fault : Fault)
  deriving DecidableEq, Repr

structure Contents where
  items : List Item
  ending : Ending
  deriving DecidableEq, Repr

abbrev Handles := List (List Char × List Char)

def standardHandles : Handles :=
  [(['!'], ['!']), (['!', '!'], "tag:yaml.org,2002:".toList)]

structure Setting where
  handles : Handles := standardHandles
  lost : Fault

structure Properties where
  start : Mark
  anchor : Option (List Char) := none
  tag : Option (Tag × Mark) := none

namespace Setting

def next (setting : Setting) : List Token → Except Fault (Token × List Token)
  | [] => .error setting.lost
  | t :: rest => .ok (t, rest)

def properties : List Token → Option Properties × List Token
  | ⟨.anchor name, start⟩ :: ⟨.tag tag, mark⟩ :: rest =>
      (some ⟨start, some name, some (tag, mark)⟩, rest)
  | ⟨.tag tag, start⟩ :: ⟨.anchor name, _⟩ :: rest =>
      (some ⟨start, some name, some (tag, start)⟩, rest)
  | ⟨.anchor name, start⟩ :: rest => (some ⟨start, some name, none⟩, rest)
  | ⟨.tag tag, start⟩ :: rest => (some ⟨start, none, some (tag, start)⟩, rest)
  | tokens => (none, tokens)

def resolve (setting : Setting) (start : Mark) :
    Option (Tag × Mark) → Except Fault (Option (List Char))
  | none => .ok none
  | some (tag, mark) =>
      if tag.handle.isEmpty then .ok (some tag.suffix)
      else
        match setting.handles.lookup tag.handle with
        | some expansion => .ok (some (expansion ++ tag.suffix))
        | none => .error (.malformed .handleUnknown mark (some (.node, start)))

def readNode (setting : Setting) (inFlow : Bool) (tokens : List Token) :
    Except Fault (Item × List Token) := do
  let (properties, others) := properties tokens
  let (t, rest) ← setting.next others
  let start := (properties.map Properties.start).getD t.mark
  let anchor := properties.bind Properties.anchor
  let tag ← setting.resolve start (properties.bind Properties.tag)
  let item (content : Content) : Item := ⟨start, .content content, anchor⟩
  match t.kind, properties with
  | .alias name, none => return (⟨start, .alias name, none⟩, rest)
  | .scalar style value, _ => return (item (.scalar ⟨style, value, tag⟩), rest)
  | .openBracket, _ => return (item .list, rest)
  | .openBrace, _ => return (item (.mapping true t.mark), rest)
  | kind, properties =>
      if !inFlow && (kind == .listBlock || kind == .dash) then return (item .list, rest)
      else if !inFlow && kind == .mappingBlock then return (item (.mapping false t.mark), rest)
      else if properties.isSome then return (item (.scalar { tag }), others)
      else
        let activity := if inFlow then Activity.flowNode else Activity.blockNode
        .error (.malformed .contentMissing t.mark (some (activity, start)))

end Setting

inductive Awaited where
  | blockKey
  | blockValue
  | flowKey (first : Bool)
  | flowValue (given : Bool)

inductive Advance where
  | item (item : Item) (awaited : Awaited) (rest : List Token)
  | closed (rest : List Token)

namespace Setting

def readOptional (setting : Setting) (inFlow : Bool) (ends : List Token.Kind) (mark : Option Mark)
    (awaited : Awaited) (tokens : List Token) : Except Fault Advance := do
  let (t, _) ← setting.next tokens
  if ends.contains t.kind then return .item (.empty (mark.getD t.mark)) awaited tokens
  else
    let (item, rest) ← setting.readNode inFlow tokens
    return .item item awaited rest

def behind (mark : Mark) : Mark := ⟨mark.index + 1, mark.line, mark.column + 1⟩

def blockEnds : List Token.Kind := [.key, .value, .blockEnd]

def advanceBlockKey (setting : Setting) (start : Mark) (tokens : List Token) :
    Except Fault Advance := do
  let (t, rest) ← setting.next tokens
  if t.kind == .key then
    setting.readOptional false blockEnds (some (behind t.mark)) .blockValue rest
  else if t.kind == .blockEnd then return .closed rest
  else .error (.malformed .keyMissing t.mark (some (.blockMapping, start)))

def advanceBlockValue (setting : Setting) (tokens : List Token) : Except Fault Advance := do
  let (t, rest) ← setting.next tokens
  if t.kind == .value then
    setting.readOptional false blockEnds (some (behind t.mark)) .blockKey rest
  else return .item (.empty t.mark) .blockKey tokens

def advanceFlowKey (setting : Setting) (start : Mark) (first : Bool) (tokens : List Token) :
    Except Fault Advance := do
  let (t, rest) ← setting.next tokens
  if t.kind == .closeBrace then return .closed rest
  else if !first && t.kind != .comma then
    .error (.malformed .commaMissing t.mark (some (.flowMapping, start)))
  else
    let entry := if first then tokens else rest
    let (t, rest) ← setting.next entry
    if t.kind == .closeBrace then return .closed rest
    else if t.kind == .key then
      setting.readOptional true [.value, .comma, .closeBrace] none (.flowValue true) rest
    else
      let (item, rest) ← setting.readNode true entry
      return .item item (.flowValue false) rest

def advanceFlowValue (setting : Setting) (given : Bool) (tokens : List Token) :
    Except Fault Advance := do
  let (t, rest) ← setting.next tokens
  if given && t.kind == .value then
    setting.readOptional true [.comma, .closeBrace] none (.flowKey false) rest
  else return .item (.empty t.mark) (.flowKey false) tokens

def advance (setting : Setting) (start : Mark) : Awaited → List Token → Except Fault Advance
  | .blockKey, tokens => setting.advanceBlockKey start tokens
  | .blockValue, tokens => setting.advanceBlockValue tokens
  | .flowKey first, tokens => setting.advanceFlowKey start first tokens
  | .flowValue given, tokens => setting.advanceFlowValue given tokens

def ending (setting : Setting) (tokens : List Token) : Ending :=
  if tokens.isEmpty then .broken setting.lost
  else
    match tokens.dropWhile fun t => t.kind == .documentEnd with
    | ⟨.finish, _⟩ :: _ => .last
    | _ => .followed

/- Every key and its value take at least one token, so a budget of more than twice the number of
tokens is never used up. -/
def readEntries (setting : Setting) (start : Mark) (budget : Nat) (awaited : Awaited)
    (tokens : List Token) : Contents :=
  match budget with
  | 0 => ⟨[], .broken setting.lost⟩
  | budget + 1 =>
      match setting.advance start awaited tokens with
      | .error fault => ⟨[], .broken fault⟩
      | .ok (.closed rest) => ⟨[], setting.ending rest⟩
      | .ok (.item item awaited rest) =>
          if item.node.isCollection then ⟨[item], .followed⟩
          else
            let others := setting.readEntries start budget awaited rest
            { others with items := item :: others.items }

def readFrom (setting : Setting) (root : Item) (rest : List Token) : Contents :=
  match root.node with
  | .content (.mapping inFlow opening) =>
      let awaited := if inFlow then Awaited.flowKey true else .blockKey
      let others := setting.readEntries opening (2 * rest.length + 2) awaited rest
      { others with items := root :: others.items }
  | .content .list => ⟨[root], .followed⟩
  | _ => ⟨[root], setting.ending rest⟩

def directives (versioned : Bool) (handles : Handles) :
    List Token → Except Fault (Handles × List Token)
  | ⟨.directive (.version major minor), mark⟩ :: rest =>
      if versioned then .error (.malformed .versionRepeated mark none)
      else if major ≠ 1 || !(minor == 1 || minor == 2) then
        .error (.malformed .versionUnsupported mark none)
      else directives true handles rest
  | ⟨.directive (.tag handle expansion), mark⟩ :: rest =>
      if (handles.lookup handle).isSome then .error (.malformed .handleRepeated mark none)
      else directives versioned (handles ++ [(handle, expansion)]) rest
  | tokens => .ok (handles, tokens)

def isBoundary : Token.Kind → Bool
  | .directive _ | .documentStart | .documentEnd | .finish => true
  | _ => false

def readMarked (setting : Setting) (tokens : List Token) : Except Fault Contents := do
  let (handles, rest) ← directives false [] tokens
  let setting := { setting with handles := handles ++ standardHandles }
  let (t, content) ← setting.next rest
  if t.kind != .documentStart then .error (.malformed .documentStartMissing t.mark none)
  else
    let (t, _) ← setting.next content
    let (root, others) ←
      if isBoundary t.kind then pure (.empty t.mark, content) else setting.readNode false content
    return setting.readFrom root others

def readDocument (setting : Setting) (tokens : List Token) : Except Fault Contents := do
  let (t, _) ← setting.next tokens
  match t.kind with
  | .finish => return ⟨[], .last⟩
  | .directive _ | .documentStart => setting.readMarked tokens
  | _ =>
      let (root, others) ← setting.readNode false tokens
      return setting.readFrom root others

end Setting

/-- The contents of a configuration text. Complete tokens end with one that is not passed, so it
does not matter then which fault stands behind it. -/
def Contents.ofText (text : String) : Contents :=
  let (tokens, fault) := Token.allOfText text
  match Setting.readDocument { lost := fault.getD .severalDocuments } tokens with
  | .ok contents => contents
  | .error fault => ⟨[], .broken fault⟩

end ScorePage.Yaml
