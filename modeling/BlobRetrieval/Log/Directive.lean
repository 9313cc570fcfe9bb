import BlobRetrieval.Log.Event
import BlobRetrieval.Pattern.Usable

/-!
# Directives of a log filter

A directive sets a level for the events whose target begins with a given name. It
may be bound to fields that the event has to have, to values of fields, or to a
span; no event here runs in a span, and none is told apart by the values of its
fields. A text that is no directive is refused, but where a part of one would have to
begin or end inside a character, the program does not survive reading it.
-/

set_option autoImplicit false

namespace BlobRetrieval

structure FieldMatch where
  name : List Char
  valued : Bool
  deriving DecidableEq

namespace FieldMatch

open Scan

def sign : Scan Unit :=
  char '-' <|> char '+' <|> pure ()

def exponent : Scan Unit := do
  let _ ← one fun c => c = 'e' || c = 'E'
  sign
  let _ ← many1 Char.isDigit

def decimal : Scan Unit := do
  let whole ← many Char.isDigit
  let _ ← flag ['.']
  let places ← many Char.isDigit
  guard !(whole ++ places).isEmpty
  exponent <|> pure ()

def special : Scan Unit := do
  let name ← many Char.isAlpha
  guard (["inf", "infinity", "nan"].any fun known => sameIgnoringCase known.toList name)

def isNumber (text : List Char) : Bool :=
  (whole? (do sign; special <|> decimal) text).isSome

def isValue (text : List Char) : Bool :=
  isNumber text || Pattern.usableText text

def ofText? (text : List Char) : Option FieldMatch :=
  if text.isEmpty then none
  else match text.dropWhile (· ≠ '=') with
    | [] => some ⟨text, false⟩
    | _ :: value =>
      if isValue (value.takeWhile (· ≠ '=')) then some ⟨text.takeWhile (· ≠ '='), true⟩
      else none

end FieldMatch

structure Directive where
  target : Option (List Char) := none
  span : Option (List Char) := none
  fields : List FieldMatch := []
  level : Level := .trace

inductive DirectiveFault where
  | malformed
  | split
  deriving DecidableEq

namespace Directive

/-- How far the text of a directive has been understood. Parts of it are cut out by position,
counted in bytes: `mark` is where the part at hand begins. -/
inductive Progress where
  | start
  | levelOrTarget (mark : Nat)
  | span (mark : Nat)
  | field (mark : Nat)
  | fieldsEnd
  | afterBrackets
  | level (mark : Nat)

def startsName (c : Char) : Bool :=
  c = '-' || c = ':' || c = '_' || Alphanumeric c

def orMalformed {α : Type} (value : Option α) : Except DirectiveFault α :=
  value.elim (.error .malformed) .ok

def dropBytes (text : List Char) (count : Nat) : Except DirectiveFault (List Char) :=
  match count, text with
  | 0, text => .ok text
  | _ + 1, [] => .error .split
  | count, c :: rest =>
    if c.utf8Size ≤ count then dropBytes rest (count - c.utf8Size) else .error .split

def takeBytes (text : List Char) (count : Nat) : Except DirectiveFault (List Char) :=
  (dropBytes text count).map fun rest => text.take (text.length - rest.length)

def cut (text : List Char) (start stop : Nat) : Except DirectiveFault (List Char) := do
  takeBytes (← dropBytes text start) (stop - start)

def step (text : List Char) (i : Nat) (d : Directive) (progress : Progress) (c : Char) :
    Except DirectiveFault (Directive × Progress) :=
  match progress with
  | .start =>
    if c = '[' then .ok (d, .span (i + 1))
    else if startsName c then .ok (d, .levelOrTarget i)
    else .error .malformed
  | .levelOrTarget mark =>
    if c = '=' then
      (cut text mark i).map fun name => ({ d with target := some name }, .level (i + 1))
    else if c = '[' then
      (cut text mark i).map fun name => ({ d with target := some name }, .span (i + 1))
    else .ok (d, progress)
  | .span mark =>
    if c = ']' then
      (cut text mark i).map fun name => ({ d with span := some name }, .afterBrackets)
    else if c = '\x7b' then
      (cut text mark i).map fun name =>
        ({ d with span := if name.isEmpty then none else some name }, .field (i + 1))
    else .ok (d, progress)
  | .field mark =>
    if c = '\x7d' then do
      let field ← orMalformed (FieldMatch.ofText? (← cut text mark i))
      return ({ d with fields := d.fields ++ [field] }, .fieldsEnd)
    else .ok (d, progress)
  | .fieldsEnd => if c = ']' then .ok (d, .afterBrackets) else .error .malformed
  | .afterBrackets => if c = '=' then .ok (d, .level (i + 1)) else .error .malformed
  | .level _ => .ok (d, progress)

def steps (text : List Char) :
    Nat → Directive → Progress → List Char → Except DirectiveFault (Directive × Progress)
  | _, d, progress, [] => .ok (d, progress)
  | i, d, progress, c :: rest =>
    match step text i d progress c with
    | .error fault => .error fault
    | .ok (d, progress) => steps text (i + c.utf8Size) d progress rest

def levelPart? (part : List Char) : Option Level :=
  if part.isEmpty then some .trace else Level.ofText? part

def alone (d : Directive) (part : List Char) : Directive :=
  if part.isEmpty then { d with level := .trace, target := none }
  else match Level.ofText? part with
    | some level => { d with level := level, target := none }
    | none => { d with level := .trace, target := some part }

/-- Reads a directive. It is gone through without the blanks around it, but its parts are cut
from the text as it stands: behind a blank of more than one byte, the positions do not fit. -/
def ofText (text : List Char) : Except DirectiveFault Directive := do
  let (d, progress) ← steps text 0 {} .start (trimBlank text)
  match progress with
  | .levelOrTarget mark => return d.alone (← dropBytes text mark)
  | .level mark => return { d with level := ← orMalformed (levelPart? (← dropBytes text mark)) }
  | .afterBrackets => return d
  | _ => .error .malformed

def isForEvents (d : Directive) : Bool :=
  d.span.isNone && d.fields.all (!·.valued)

def fieldNames (e : Event) : List (List Char) :=
  "message".toList :: e.fields.map fun f => f.name.toList

def applies (d : Directive) (e : Event) : Bool :=
  d.isForEvents
    && d.fields.all (fun f => (fieldNames e).contains f.name)
    && (match d.target with
      | none => true
      | some name => name.isPrefixOf e.target.toList)

def targetSize (d : Directive) : Nat :=
  match d.target with
  | none => 0
  | some name => (String.ofList name).utf8ByteSize + 1

def compareRows : List (List Char) → List (List Char) → Ordering :=
  List.compareLex (List.compareLex (compareOn Char.toNat))

def names (d : Directive) : List (List Char) :=
  d.target.getD [] :: d.fields.map (·.name)

def follows (d other : Directive) : Bool :=
  (compareRows d.names other.names).isGE

def outranks (d other : Directive) : Bool :=
  if d.targetSize ≠ other.targetSize then other.targetSize < d.targetSize
  else if d.fields.length ≠ other.fields.length then other.fields.length < d.fields.length
  else d.follows other

end Directive

end BlobRetrieval
