import ScorePage.Binary64.Text
import ScorePage.Log
import ScorePage.Pattern
import ScorePage.Text.Bytes

/-! Which events are shown. A filter is a list of directives; of those that fit an event the most
specific one decides, by the least important level that it lets through. -/
namespace ScorePage

/-- A directive fits the events whose target begins with `target`, and which have all of `fields`.
It shows those whose level is at most `limit` in rank; with 0 it shows none. -/
structure Directive where
  target : Option (List Char)
  fields : List (List Char)
  limit : Nat
  deriving DecidableEq, Repr

abbrev LogFilter := List Directive

namespace Directive
open Text

def levelNames : List (String × Nat) :=
  [("off", 0), ("error", 1), ("warn", 2), ("info", 3), ("debug", 4), ("trace", 5)]

def limit? (text : List Char) : Option Nat :=
  let digits := if text.head? = some '+' then text.drop 1 else text
  if !digits.isEmpty && digits.all Char.isDigit then
    (some (Nat.ofDigitChars 10 digits 0)).filter (· ≤ 5)
  else levelNames.lookup (String.ofList (text.map Char.toLower))

/-- Why a filter cannot be read. Where a cut would fall inside a character the reader does not come
back with an answer. -/
inductive Unreadable where
  | refused
  | brokenOff
  deriving DecidableEq, Repr

/-- What is read of a part: where `text` stands behind `before` in the part without the blanks around
it, the same bytes of the part itself. Blanks at its beginning shift them. -/
def cut (part before text : List Char) : Except Unreadable (List Char) :=
  (bytesBetween? (byteCount before) (byteCount (before ++ text)) part).elim (.error .brokenOff) .ok

def cutRest (part before : List Char) : Except Unreadable (List Char) :=
  (fromByte? (byteCount before) part).elim (.error .brokenOff) .ok

def limitBehind (part before : List Char) : List Char → Except Unreadable Nat
  | [] => .ok 5
  | c :: _ =>
      if c != '=' then .error .refused
      else do
        let level ← cutRest part (before ++ [c])
        if level.isEmpty then return 5 else (limit? level).elim (.error .refused) .ok

def canBegin (c : Char) : Bool := c == '[' || c == '-' || c == ':' || c == '_' || isAlphanumeric c

/-- What stands in square brackets: the name of a span, and one field in braces. Only a field
without a span and without a value says something about events. -/
inductive Scope where
  | spans
  | field (name : List Char)

def isFieldValue (text : List Char) : Bool :=
  (Binary64.ofText? text).isSome || Pattern.isPattern text

def fieldScope? (hasSpan : Bool) (field : List Char) : Option Scope :=
  match field.splitOn '=' with
  | _ :: value :: _ => if isFieldValue value then some .spans else none
  | _ => some (if hasSpan then .spans else .field field)

def fieldScope (hasSpan : Bool) (part before field : List Char) : Except Unreadable Scope := do
  let found ← cut part before field
  if found.isEmpty then .error .refused else (fieldScope? hasSpan found).elim (.error .refused) .ok

def scope (part before text : List Char) : Except Unreadable (Scope × List Char) := do
  let name := text.takeWhile fun c => c != ']' && c != '\x7b'
  match text.drop name.length with
  | [] => .error .refused
  | mark :: inside =>
      let _ ← cut part before name
      if mark == ']' then return (.spans, inside)
      else
        let field := inside.takeWhile (· != '\x7d')
        match inside.drop field.length with
        | [] => .error .refused
        | _ :: behind =>
            let scope ← fieldScope (!name.isEmpty) part (before ++ name ++ [mark]) field
            match behind with
            | ']' :: rest => return (scope, rest)
            | _ => .error .refused

def read (part : List Char) : Except Unreadable (Option Directive) := do
  let body := trim part
  let behind (rest : List Char) := body.take (body.length - rest.length)
  if !body.head?.any canBegin then .error .refused
  else
    let name := body.takeWhile fun c => c != '=' && c != '['
    match body.drop name.length with
    | [] =>
        match limit? part with
        | some limit => return some ⟨none, [], limit⟩
        | none => return some ⟨some part, [], 5⟩
    | mark :: text =>
        let found ← cut part [] name
        let target := if name.isEmpty then none else some found
        if mark == '[' then
          let (scope, rest) ← scope part (name ++ [mark]) text
          let limit ← limitBehind part (behind rest) rest
          match scope with
          | .spans => return none
          | .field field => return some ⟨target, [field], limit⟩
        else
          let limit ← limitBehind part name (mark :: text)
          return some ⟨target, [], limit⟩

def fits (d : Directive) (event : Event) : Bool :=
  (d.target.all fun target => target.isPrefixOf event.target.toList) &&
  d.fields.all (· == "message".toList)

def isLessSpecific (a b : Directive) : Bool :=
  let length (d : Directive) := (d.target.map (·.length + 1)).getD 0
  length a < length b || (length a == length b && a.fields.length < b.fields.length)

end Directive

namespace LogFilter

def add (filter : LogFilter) (d : Directive) : LogFilter :=
  filter.filter (fun other => !(other.target == d.target && other.fields == d.fields)) ++ [d]

def ofText (text : String) : Except Directive.Unreadable LogFilter := do
  let parts := (text.toList.splitOn ',').filter (!·.isEmpty)
  let found ← parts.mapM Directive.read
  return found.reduceOption.foldl add []

def ofText? (text : String) : Option LogFilter := (ofText text).toOption

def mostSpecific (best : Option Directive) (d : Directive) : Option Directive :=
  match best with
  | none => some d
  | some b => if b.isLessSpecific d then some d else some b

def shows (filter : LogFilter) (event : Event) : Bool :=
  match (filter.filter (·.fits event)).foldl mostSpecific none with
  | none => false
  | some d => event.level.rank ≤ d.limit

def warnings : LogFilter := [⟨some "omrmei".toList, [], 2⟩]

def details : Directive := ⟨some "omrmei".toList, [], 3⟩

/-- The filter for a run: as asked for, if that can be read, else warnings only; and with more
details when these are wanted. There is none when the reader breaks off. -/
def forRun (asked : Option String) (verbose : Bool) : Option LogFilter := do
  let filter ← match asked.map ofText with
    | some (.error .brokenOff) => none
    | some (.ok filter) => some filter
    | _ => some warnings
  return if verbose then filter.add details else filter

end LogFilter
end ScorePage
