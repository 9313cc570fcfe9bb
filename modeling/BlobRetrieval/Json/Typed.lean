import BlobRetrieval.Json.Skip

/-!
# Values of known types

Readers for numbers, texts, arrays and records. A record is read from an object or,
field by field in order, from an array. Unknown members are passed over, and no
member may come twice.
-/

set_option autoImplicit false

namespace BlobRetrieval.Json

open Reader

def scalar (front : UInt8) : Reader Found := do
  if front = 110 then
    advance
    word [117, 108, 108]
    return .null
  else if front = 116 then
    advance
    word [114, 117, 101]
    return .bool true
  else if front = 102 then
    advance
    word [97, 108, 115, 101]
    return .bool false
  else if front = 34 then
    advance
    return .string (← stringText)
  else if front = 45 then
    advance
    return .number (← readNumber true)
  else if isDigit front then
    return .number (← readNumber false)
  else failNext .noValue

def startValue : Reader Found := do
  match ← peekToken with
  | none => failNext .endInValue
  | some 91 => advance; return .array
  | some 123 => advance; return .object
  | some b => scalar b

def refuse {α : Type} (wanted : Wanted) (front : UInt8) : Reader α :=
  placed do
    if front = 91 then failUnplaced (.wrongType .array wanted)
    else if front = 123 then failUnplaced (.wrongType .object wanted)
    else failUnplaced (.wrongType (← scalar front) wanted)

def refuseStarted {α : Type} (wanted : Wanted) (found : Found) : Reader α :=
  match found with
  | .array => within closeArray (failUnplaced (.wrongType .array wanted))
  | .object => within closeObject (failUnplaced (.wrongType .object wanted))
  | other => failUnplaced (.wrongType other wanted)

/-- Reads a number that has to be an integer below `bound`. -/
def boundedNumber (wanted : Wanted) (bound : Nat) : Reader Nat := do
  match ← peekToken with
  | none => failNext .endInValue
  | some b =>
    if b = 45 ∨ isDigit b then
      placed do
        if b = 45 then advance
        match ← readNumber (b = 45) with
        | .unsigned n =>
          if n.toNat < bound then return n.toNat
          else failUnplaced (.wrongValue (.number (.unsigned n)) wanted)
        | .negative n => failUnplaced (.wrongValue (.number (.negative n)) wanted)
        | .float f => failUnplaced (.wrongType (.number (.float f)) wanted)
    else refuse wanted b

def readOctet : Reader UInt8 :=
  UInt8.ofNat <$> boundedNumber .octet 256

def readUInt64 : Reader UInt64 :=
  UInt64.ofNat <$> boundedNumber .uint64 UInt64.size

def readQuoted : Reader UInt64 :=
  placed do
    match ← startValue with
    | .number (.unsigned n) => return n
    | .string text =>
      match Decimal.readUInt64? text with
      | some n => return n
      | none => failUnplaced (.wrongValue (.string text) .quotedNumber)
    | other => refuseStarted .quotedNumber other

def textAs {α : Type} (wanted : Wanted) (convert : List Char → Except Cause α) : Reader α := do
  match ← peekToken with
  | none => failNext .endInValue
  | some b =>
    if b = 34 then
      placed do
        advance
        match convert (← stringText) with
        | .ok a => return a
        | .error cause => failUnplaced cause
    else refuse wanted b

def readText : Reader (List Char) :=
  textAs .text .ok

def orNull {α : Type} (r : Reader α) : Reader (Option α) := do
  match ← peekToken with
  | some 110 =>
    advance
    word [117, 108, 108]
    return none
  | _ => return some (← r)

def elements {α : Type} (item : Reader α) : Nat → List α → Reader (List α)
  | 0, _ => failHere .outOfBudget
  | rounds + 1, done => do
    if ← moreElements done.isEmpty then
      let a ← item
      elements item rounds (a :: done)
    else return done.reverse

def exactly {α : Type} (item : Reader α) (wanted : Wanted) : Nat → List α → Reader (List α)
  | 0, done => return done.reverse
  | count + 1, done => do
    if ← moreElements done.isEmpty then
      let a ← item
      exactly item wanted count (a :: done)
    else failUnplaced (.wrongLength done.length wanted)

def arrayOf {α : Type} (wanted : Wanted) (inside : Reader α) : Reader α := do
  match ← peekToken with
  | none => failNext .endInValue
  | some b =>
    if b = 91 then
      advance
      within closeArray inside
    else refuse wanted b

def listOf {α : Type} (item : Reader α) : Reader (List α) :=
  arrayOf .sequence do
    elements item (← budget) []

structure Field (δ : Type) where
  name : String
  optional : Bool
  isSet : δ → Bool
  read : δ → Reader δ

structure Record (δ α : Type) where
  name : String
  empty : δ
  fields : List (Field δ)
  finish : δ → Except Cause α

def present {α : Type} (name : String) : Option α → Except Cause α
  | some a => .ok a
  | none => .error (.missingField name)

def Field.required {δ α : Type} (name : String) (get : δ → Option α) (put : δ → α → δ)
    (read : Reader α) : Field δ where
  name := name
  optional := false
  isSet d := (get d).isSome
  read d := put d <$> read

def Field.defaulted {δ α : Type} (name : String) (get : δ → Option α) (put : δ → α → δ)
    (read : Reader α) : Field δ :=
  { Field.required name get put read with optional := true }

namespace Record

variable {δ α : Type}

def positional (r : Record δ α) : List (Field δ) → Nat → δ → Reader δ
  | [], _, draft => return draft
  | field :: rest, position, draft => do
    if ← moreElements (position = 0) then
      positional r rest (position + 1) (← field.read draft)
    else if field.optional then positional r rest position draft
    else failUnplaced (.wrongLength position (.fields r.name r.fields.length))

def key : Reader (List Char) := do
  advance
  stringText

def members (r : Record δ α) : Nat → Bool → δ → Reader δ
  | 0, _, _ => failHere .outOfBudget
  | rounds + 1, first, draft => do
    if ← moreMembers first then
      let name ← key
      match r.fields.find? fun f => f.name.toList == name with
      | some field =>
        if field.isSet draft then failUnplaced (.duplicateField field.name)
        else
          colon
          members r rounds false (← field.read draft)
      | none =>
        colon
        skipValue rounds
        members r rounds false draft
    else return draft

def finished (r : Record δ α) (draft : δ) : Reader α :=
  match r.finish draft with
  | .ok a => return a
  | .error cause => failUnplaced cause

def read (r : Record δ α) : Reader α := do
  match ← peekToken with
  | none => failNext .endInValue
  | some b =>
    if b = 91 then
      advance
      within closeArray do
        r.finished (← r.positional r.fields 0 r.empty)
    else if b = 123 then
      advance
      within closeObject do
        r.finished (← r.members (← budget) true r.empty)
    else refuse (.record r.name) b

end Record

def decode {α : Type} (r : Reader α) (input : Bytes) : Except Error α :=
  let whole : Reader α := do
    let a ← r
    match ← peekToken with
    | none => return a
    | some _ => failNext .trailingText
  match (whole.on input).1 with
  | .ok a => .ok a
  | .error fault => .error (fault.report input)

end BlobRetrieval.Json
