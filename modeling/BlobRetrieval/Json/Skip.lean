import BlobRetrieval.Json.Text
import BlobRetrieval.Json.Number

/-!
# Values that are passed over

The value of an unknown member is checked for its form only. The brackets still
open are kept in a list, so values may be nested to any depth.
-/

set_option autoImplicit false

namespace BlobRetrieval.Json

open Reader

inductive Bracket where
  | list
  | object
  deriving DecidableEq

def Bracket.closing : Bracket → UInt8
  | .list => 93
  | .object => 125

def Bracket.endCause : Bracket → Cause
  | .list => .endInList
  | .object => .endInObject

def Bracket.separatorCause : Bracket → Cause
  | .list => .noListEnd
  | .object => .noObjectEnd

/-- After an item: takes the closing brackets that follow and a comma, if some bracket is still
open. Yields the brackets that stay open, innermost first. -/
def afterItem : List Bracket → Reader (List Bracket)
  | [] => return []
  | bracket :: outer => do
    match ← peekToken with
    | none => failNext bracket.endCause
    | some b =>
      if b = 44 then
        advance
        return bracket :: outer
      else if b = bracket.closing then
        advance
        afterItem outer
      else failNext bracket.separatorCause

def afterOpening (bracket : Bracket) (outer : List Bracket) : Reader (List Bracket) := do
  match ← peekToken with
  | none => failNext bracket.endCause
  | some b =>
    if b = bracket.closing then
      advance
      afterItem outer
    else return bracket :: outer

def skipStart (opened : List Bracket) : Reader (List Bracket) := do
  match ← peekToken with
  | none => failNext .endInValue
  | some 110 => advance; word [117, 108, 108]; afterItem opened
  | some 116 => advance; word [114, 117, 101]; afterItem opened
  | some 102 => advance; word [97, 108, 115, 101]; afterItem opened
  | some 34 => advance; skipString; afterItem opened
  | some 91 => advance; afterOpening .list opened
  | some 123 => advance; afterOpening .object opened
  | some 45 => advance; skipNumber; afterItem opened
  | some b =>
    if isDigit b then
      skipNumber
      afterItem opened
    else failNext .noValue

def skipKey : Reader Unit := do
  match ← peekToken with
  | some 34 => advance
  | some _ => failNext .keyNotString
  | none => failNext .endInObject
  skipString
  colon

def skipItems : Nat → List Bracket → Reader Unit
  | _, [] => return
  | 0, _ => failHere .outOfBudget
  | rounds + 1, bracket :: outer => do
    if bracket = .object then skipKey
    skipItems rounds (← skipStart (bracket :: outer))

def skipValue (rounds : Nat) : Reader Unit := do
  skipItems rounds (← skipStart [])

end BlobRetrieval.Json
