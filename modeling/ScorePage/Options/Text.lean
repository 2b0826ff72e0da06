import ScorePage.Options.Fault
import ScorePage.Text.Blank
import ScorePage.Text.Hexadecimal
import ScorePage.Yaml.Resolved

/-! Options as text: a YAML mapping with the keys `title`, `indent` and `link-staves`, each at most
once and each with a scalar or nothing as its value. The first thing that is not right counts; a
fault of the text itself counts where it ends what can be read. -/
namespace ScorePage.Options
open Yaml
open Text (hexDigit?)

def coreTag (name : String) : List Char := ("tag:yaml.org,2002:" ++ name).toList

def isOneOf (words : List String) (text : List Char) : Bool :=
  words.any fun word => text == word.toList

def isNullWord (text : List Char) : Bool := isOneOf ["~", "null", "Null", "NULL"] text

def truthOf? (text : List Char) : Option Bool :=
  if isOneOf ["true", "True", "TRUE"] text then some true
  else if isOneOf ["false", "False", "FALSE"] text then some false
  else none

def digitBelow? (base : Nat) (c : Char) : Option Nat :=
  (hexDigit? c).filter (· < base)

def inBase? (base : Nat) (digits : List Char) : Option Nat :=
  if digits.isEmpty then none
  else digits.foldlM (fun n c => (digitBelow? base c).map (base * n + ·)) 0

def unsigned? : List Char → Option Nat
  | '0' :: 'x' :: digits => inBase? 16 digits
  | '0' :: 'o' :: digits => inBase? 8 digits
  | '0' :: 'b' :: digits => inBase? 2 digits
  | ['0'] => some 0
  | '0' :: _ => none
  | digits => inBase? 10 digits

def withoutPlus (text : List Char) : List Char :=
  if text.head? = some '+' then text.drop 1 else text

def wholeNumber? : List Char → Option Int
  | '-' :: text => (unsigned? text).map fun n => -(n : Int)
  | text => (unsigned? (withoutPlus text)).map Int.ofNat

def fits (bits : Nat) (n : Int) : Bool := -Int.pow 2 (bits - 1) ≤ n && n < Int.pow 2 bits

def Found.ofNumber? (text : List Char) : Option Found := do
  let n ← wholeNumber? text
  if fits 64 n then some (.whole n) else if fits 128 n then some (.wide n) else none

def isZeroPadded (text : List Char) : Bool :=
  let digits := if text.head? = some '-' then text.drop 1 else withoutPlus text
  1 < digits.length && digits.head? = some '0' && digits.all Char.isDigit

def decimal? (text : List Char) : Option Binary64 :=
  let unsigned := withoutPlus text
  if isOneOf [".inf", ".Inf", ".INF"] unsigned then some (Binary64.infinity false)
  else if isOneOf ["-.inf", "-.Inf", "-.INF"] text then some (Binary64.infinity true)
  else if isOneOf [".nan", ".NaN", ".NAN"] text then some .nan
  else if unsigned ≠ text && (unsigned.head? = some '+' || unsigned.head? = some '-') then none
  else (Binary64.ofText? unsigned).filter Binary64.isFinite

def Found.ofPlain (text : List Char) : Found :=
  if text.isEmpty || isNullWord text then .nothing
  else
    let truth := (truthOf? text).map Found.truth
    let decimal := if isZeroPadded text then none else (decimal? text).map Found.decimal
    ((truth.or (Found.ofNumber? text)).or decimal).getD (.word (String.ofList text))

def Mismatch.ofScalar (s : Scalar) (expected : String) : Mismatch :=
  let text := String.ofList s.value
  let typed (found : Option Found) (kind : String) : Mismatch :=
    match found with
    | some found => .kind found expected
    | none => .spelling text kind
  match s.tag with
  | none => .kind (if s.style = .plain then .ofPlain s.value else .word text) expected
  | some tag =>
      if tag = coreTag "bool" then typed ((truthOf? s.value).map .truth) "a boolean"
      else if tag = coreTag "int" then typed (Found.ofNumber? s.value) "an integer"
      else if tag = coreTag "float" then typed ((decimal? s.value).map .decimal) "a float"
      else if tag = coreTag "null" then
        typed (if isNullWord s.value then some .nothing else none) "null"
      else if tag.head? = some '!' && s.style = .plain then .kind (.ofPlain s.value) expected
      else .kind (.word text) expected

def Mismatch.ofContent (content : Content) (expected : String) : Mismatch :=
  match content with
  | .scalar s => .ofScalar s expected
  | .list => .kind .list expected
  | .mapping .. => .kind .mapping expected

def isPresent (s : Scalar) : Except Mismatch Bool :=
  if s.style ≠ .plain then .ok true
  else
    match s.tag with
    | none => .ok !(s.value.isEmpty || isNullWord s.value)
    | some tag =>
        if tag ≠ coreTag "null" then .ok true
        else if isNullWord s.value then .ok false
        else .error (.spelling (String.ofList s.value) "null")

def isTyped (type : String) (s : Scalar) : Bool :=
  s.style == .plain || (s.style == .literal && s.tag == some (coreTag type))

def truth? (s : Scalar) : Option Bool := if isTyped "bool" s then truthOf? s.value else none

def number? (s : Scalar) : Option Nat :=
  if isTyped "int" s && s.value.head? ≠ some '-' then
    (wholeNumber? s.value).bind fun n => if fits 64 n then some n.toNat else none
  else none

structure Given where
  title : Option (Option String) := none
  indent : Option (Option Nat) := none
  linkStaves : Option (Option Bool) := none

def keyOf (k : Resolved) : Except Fault Key :=
  match k.content with
  | .scalar s =>
      match Key.ofName? s.value with
      | some key => .ok key
      | none => .error (.mismatch none k.mark (.unknownKey (String.ofList s.value)))
  | content => .error (.mismatch none k.mark (.ofContent content "field identifier"))

namespace Given

def has (g : Given) : Key → Bool
  | .title => g.title.isSome
  | .indent => g.indent.isSome
  | .linkStaves => g.linkStaves.isSome

def newKey (g : Given) (whole : Mark) (k : Resolved) : Except Fault Key := do
  let key ← keyOf k
  if g.has key then .error (.mismatch none whole (.repeatedKey key)) else return key

def optional {α : Type} (whole : Mark) (way : String) (read? : Scalar → Option α)
    (expected : String) (v : Resolved) : Except Fault (Option α) :=
  let mismatch := Fault.mismatch (some way) v.mark (.ofContent v.content expected)
  match v.content with
  | .scalar s =>
      match isPresent s, read? s with
      | .error m, _ => .error (.mismatch none whole m)
      | .ok false, _ => .ok none
      | .ok true, some value => .ok (some value)
      | .ok true, none => .error mismatch
  | _ => .error mismatch

def add (g : Given) (whole : Mark) (k v : Resolved) : Except Fault Given := do
  let key ← g.newKey whole k
  let way := if k.byAlias then "?" else key.name
  match key with
  | .title =>
      let read? (s : Scalar) := some (String.ofList s.value)
      return { g with title := some (← optional whole way read? "a string" v) }
  | .indent => return { g with indent := some (← optional whole way number? "usize" v) }
  | .linkStaves => return { g with linkStaves := some (← optional whole way truth? "a boolean" v) }

def atEnd (g : Given) : Ending → Except Fault Given
  | .last => .ok g
  | .followed => .error (.yaml .severalDocuments)
  | .broken fault => .error (.yaml fault)

def ofEntries (whole : Mark) (ending : Ending) (g : Given) : List Resolved → Except Fault Given
  | [] => g.atEnd ending
  | [k] => do
      let _ ← g.newKey whole k
      g.atEnd ending
  | k :: v :: rest => do ofEntries whole ending (← g.add whole k v) rest

/-- An empty scalar counts as a mapping without entries, and so does a text without a document. -/
def ofContents (contents : Contents) : Except Fault Given :=
  match contents.resolved with
  | ([], ending) => ({} : Given).atEnd ending
  | (root :: entries, ending) =>
      match root.content with
      | .mapping .. => ofEntries root.mark ending {} entries
      | .scalar ⟨.plain, [], _⟩ => ({} : Given).atEnd ending
      | content => .error (.mismatch none root.mark (.ofContent content "struct RawConfig"))

end Given

def ofGiven (g : Given) : Except Fault Options :=
  let indent := g.indent.join.getD 2
  if largestIndent < indent then .error (.indentTooLarge indent)
  else .ok {
    title := g.title.join.filter fun title => !Text.isBlankText title.toList
    indent
    linkStaves := g.linkStaves.join.getD false }

def ofText (content : String) : Except Fault Options :=
  if Text.isBlankText content.toList then .ok {}
  else do ofGiven (← Given.ofContents (Contents.ofText content))

end ScorePage.Options
