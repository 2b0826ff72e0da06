import ScorePage.Yaml.Text

/-! What can be wrong with a text as a configuration, by cause: what was not as it should be and
where, and during what, begun where. -/
namespace ScorePage.Yaml

inductive Activity where
  | nextToken
  | simpleKey
  | directive
  | versionDirective
  | tagDirective
  | directiveHandle
  | directiveHandleEnd
  | directiveUri
  | tag
  | tagUri
  | anchorName
  | aliasName
  | plainScalar
  | quotedScalar
  | escape
  | blockScalar
  | node
  | blockNode
  | flowNode
  | blockMapping
  | flowMapping
  deriving DecidableEq, Repr

def Activity.text : Activity → String
  | nextToken => "while scanning for the next token"
  | simpleKey => "while scanning a simple key"
  | directive => "while scanning a directive"
  | versionDirective => "while scanning a %YAML directive"
  | tagDirective => "while scanning a %TAG directive"
  | directiveHandle => "while scanning a tag directive"
  | directiveHandleEnd => "while parsing a tag directive"
  | directiveUri => "while parsing a %TAG directive"
  | tag => "while scanning a tag"
  | tagUri => "while parsing a tag"
  | anchorName => "while scanning an anchor"
  | aliasName => "while scanning an alias"
  | plainScalar => "while scanning a plain scalar"
  | quotedScalar => "while scanning a quoted scalar"
  | escape => "while parsing a quoted scalar"
  | blockScalar => "while scanning a block scalar"
  | node => "while parsing a node"
  | blockNode => "while parsing a block node"
  | flowNode => "while parsing a flow node"
  | blockMapping => "while parsing a block mapping"
  | flowMapping => "while parsing a flow mapping"

inductive Problem where
  | noToken
  | colonMissing
  | entryOutOfPlace
  | keyOutOfPlace
  | valueOutOfPlace
  | directiveNameMissing
  | directiveNameEndless
  | directiveUnknown
  | lineEndMissing
  | versionPointMissing
  | versionNumberMissing
  | versionNumberTooLong
  | exclamationMissing
  | blankMissing
  | blankOrLineEndMissing
  | angleBracketMissing
  | uriMissing
  | octetMissing
  | octetNotLeading
  | octetNotTrailing
  | anchorNameMissing
  | colonUnexpected
  | tabBreaksIndentation
  | documentMarkUnexpected
  | endUnexpected
  | escapeUnknown
  | hexadecimalMissing
  | escapeInvalid
  | indentationZero
  | tabInMargin
  | versionRepeated
  | versionUnsupported
  | handleRepeated
  | handleUnknown
  | documentStartMissing
  | contentMissing
  | keyMissing
  | commaMissing
  deriving DecidableEq, Repr

def Problem.text : Problem → String
  | noToken => "found character that cannot start any token"
  | colonMissing => "could not find expected ':'"
  | entryOutOfPlace => "block sequence entries are not allowed in this context"
  | keyOutOfPlace => "mapping keys are not allowed in this context"
  | valueOutOfPlace => "mapping values are not allowed in this context"
  | directiveNameMissing => "could not find expected directive name"
  | directiveNameEndless => "found unexpected non-alphabetical character"
  | directiveUnknown => "found unknown directive name"
  | lineEndMissing => "did not find expected comment or line break"
  | versionPointMissing => "did not find expected digit or '.' character"
  | versionNumberMissing => "did not find expected version number"
  | versionNumberTooLong => "found extremely long version number"
  | exclamationMissing => "did not find expected '!'"
  | blankMissing => "did not find expected whitespace"
  | blankOrLineEndMissing => "did not find expected whitespace or line break"
  | angleBracketMissing => "did not find the expected '>'"
  | uriMissing => "did not find expected tag URI"
  | octetMissing => "did not find URI escaped octet"
  | octetNotLeading => "found an incorrect leading UTF-8 octet"
  | octetNotTrailing => "found an incorrect trailing UTF-8 octet"
  | anchorNameMissing => "did not find expected alphabetic or numeric character"
  | colonUnexpected => "found unexpected ':'"
  | tabBreaksIndentation => "found a tab character that violates indentation"
  | documentMarkUnexpected => "found unexpected document indicator"
  | endUnexpected => "found unexpected end of stream"
  | escapeUnknown => "found unknown escape character"
  | hexadecimalMissing => "did not find expected hexdecimal number"
  | escapeInvalid => "found invalid Unicode character escape code"
  | indentationZero => "found an indentation indicator equal to 0"
  | tabInMargin => "found a tab character where an indentation space is expected"
  | versionRepeated => "found duplicate %YAML directive"
  | versionUnsupported => "found incompatible YAML document"
  | handleRepeated => "found duplicate %TAG directive"
  | handleUnknown => "found undefined tag handle"
  | documentStartMissing => "did not find expected <document start>"
  | contentMissing => "did not find expected node content"
  | keyMissing => "did not find expected key"
  | commaMissing => "did not find expected ',' or '\x7d'"

inductive Fault where
  | controlCharacter (byte : Nat)
  | malformed (problem : Problem) (here : Mark) (during : Option (Activity × Mark))
  | unknownAnchor (here : Mark)
  | severalDocuments
  deriving DecidableEq, Repr

def activityClause (here : Mark) (activity : Activity) (start : Mark) : String :=
  let place := if start.line = here.line ∧ start.column = here.column then "" else start.clause
  s!", {activity.text}{place}"

def Fault.message : Fault → String
  | controlCharacter byte =>
      let place := if byte = 0 then "" else s!" at position {byte}"
      s!"control characters are not allowed{place}"
  | malformed problem here none => s!"{problem.text}{here.clause}"
  | malformed problem here (some (activity, start)) =>
      s!"{problem.text}{here.clause}{activityClause here activity start}"
  | unknownAnchor here => s!"unknown anchor{here.clause}"
  | severalDocuments =>
      "deserializing from YAML containing more than one document is not supported"

structure Halt where
  activity : Activity
  problem : Problem
  rest : List Placed

def halt {α : Type} (activity : Activity) (problem : Problem) (rest : List Placed) :
    Except Halt α :=
  .error ⟨activity, problem, rest⟩

def restOfLine (activity : Activity) (text : List Placed) : Except Halt (List Placed) :=
  match skipComment (skipSpaces text) with
  | [] => .ok []
  | p :: rest => if isBreak p.char then .ok rest else halt activity .lineEndMissing (p :: rest)

end ScorePage.Yaml
