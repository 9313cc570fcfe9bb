import BlobRetrieval.Json.Fault

/-!
# Readers

A reader takes bytes off the front of a text and yields a value or a fault. What is
unread stays known after a fault as well, since some callers go on from there.
Faults are placed at the bytes read so far, or at the byte that was looked at.
-/

set_option autoImplicit false

namespace BlobRetrieval.Json

abbrev Reader := ExceptT Fault (StateM Bytes)

namespace Reader

variable {α : Type}

def on (r : Reader α) (text : Bytes) : Except Fault α × Bytes :=
  StateT.run (ExceptT.run r) text

def peek : Reader (Option UInt8) := do
  return (← get).head?

def advance : Reader Unit :=
  modify List.tail

def failUnplaced (cause : Cause) : Reader α :=
  throw ⟨cause, none⟩

def failHere (cause : Cause) : Reader α := do
  throw ⟨cause, some ⟨(← get).length, 0⟩⟩

def failNext (cause : Cause) : Reader α := do
  throw ⟨cause, some ⟨(← get).length - 1, 0⟩⟩

def attempt (r : Reader α) : Reader (Except Fault α) :=
  fun text =>
    let (result, rest) := r.on text
    (.ok result, rest)

def placed (r : Reader α) : Reader α := do
  match ← attempt r with
  | .ok a => return a
  | .error ⟨cause, none⟩ => failHere cause
  | .error fault => throw fault

/-- One more than the bytes left: no loop that reads on in every round takes as many rounds. -/
def budget : Reader Nat := do
  return (← get).length + 1

end Reader

open Reader

def isBlank (b : UInt8) : Bool :=
  b == 32 || b == 9 || b == 10 || b == 13

def isDigit (b : UInt8) : Bool :=
  48 ≤ b && b ≤ 57

def skipBlanks : Reader Unit :=
  modify (List.dropWhile isBlank)

def peekToken : Reader (Option UInt8) := do
  skipBlanks
  peek

def word : Bytes → Reader Unit
  | [] => return
  | wanted :: more => do
    match ← peek with
    | none => failHere .endInValue
    | some b =>
      advance
      if b = wanted then word more else failHere .noWord

def closeArray : Reader Unit := do
  match ← peekToken with
  | some 93 => advance
  | some 44 =>
    advance
    match ← peekToken with
    | some 93 => failNext .trailingComma
    | _ => failNext .trailingText
  | some _ => failNext .trailingText
  | none => failNext .endInList

def closeObject : Reader Unit := do
  match ← peekToken with
  | some 125 => advance
  | some 44 => failNext .trailingComma
  | some _ => failNext .trailingText
  | none => failNext .endInObject

/-- Reads what stands between brackets and then the closing one. After a fault inside the
closing bracket is tried all the same, and the fault gets its place behind it. -/
def within {α : Type} (close : Reader Unit) (inside : Reader α) : Reader α :=
  placed do
    let result ← attempt inside
    let closed ← attempt close
    match result, closed with
    | .error fault, _ => throw fault
    | .ok _, .error fault => throw fault
    | .ok a, .ok () => return a

def moreElements (first : Bool) : Reader Bool := do
  match ← peekToken with
  | none => failNext .endInList
  | some 93 => return false
  | some b =>
    if first then return true
    else if b = 44 then
      advance
      match ← peekToken with
      | some 93 => failNext .trailingComma
      | some _ => return true
      | none => failNext .endInValue
    else failNext .noListEnd

def startsKey : Option UInt8 → Reader Bool
  | some 34 => return true
  | some 125 => failNext .trailingComma
  | some _ => failNext .keyNotString
  | none => failNext .endInValue

def moreMembers (first : Bool) : Reader Bool := do
  match ← peekToken with
  | none => failNext .endInObject
  | some 125 => return false
  | some b =>
    if first then startsKey (some b)
    else if b = 44 then
      advance
      startsKey (← peekToken)
    else failNext .noObjectEnd

def colon : Reader Unit := do
  match ← peekToken with
  | some 58 => advance
  | some _ => failNext .noColon
  | none => failNext .endInObject

end BlobRetrieval.Json
