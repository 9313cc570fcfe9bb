import BlobRetrieval.Hex
import BlobRetrieval.Pattern.Basic
import BlobRetrieval.Text.Blank
import BlobRetrieval.Text.Scan

/-!
# Reading escapes and bracketed classes

A backslash names a character, a kind of characters or a place. Between brackets
stand characters, ranges, named sets and more brackets, with operators between
them. Where blanks and comments are switched to mean nothing, they are passed over.
-/

set_option autoImplicit false

namespace BlobRetrieval.Pattern

open Scan

def pastSpace (inComment : Bool) : List Char → List Char
  | [] => []
  | c :: rest =>
    if inComment then pastSpace (c ≠ '\n') rest
    else if Blank c then pastSpace false rest
    else if c = '#' then pastSpace true rest
    else c :: rest

def skip (spaced : Bool) : Scan Unit :=
  if spaced then modify (pastSpace false) else pure ()

def hexDigit : Scan Nat := do
  let c ← next
  if c.toNat < 0x80 then (Hex.digit? (UInt8.ofNat c.toNat) : Option Nat) else failure

def hexNumber (spaced : Bool) : Nat → Nat → Scan Nat
  | 0, value => return value
  | count + 1, value => do
    skip spaced
    hexNumber spaced count (16 * value + (← hexDigit))

def numbered (spaced : Bool) (count : Nat) : Scan Pattern := do
  let n ← hexNumber spaced count 0
  guard n.isValidChar
  return .literal ⟨Char.ofNat n, count = 2⟩

def control? (c : Char) : Option Char :=
  if c = 'a' then some '\x07'
  else if c = 'f' then some '\x0c'
  else if c = 't' then some '\t'
  else if c = 'n' then some '\n'
  else if c = 'r' then some '\r'
  else if c = 'v' then some '\x0b'
  else none

def escape (spaced : Bool) : Scan Pattern := do
  let c ← next
  if c = 'x' then numbered spaced 2
  else if c = 'u' then numbered spaced 4
  else if c = 'U' then numbered spaced 8
  else if c = 'd' || c = 's' || c = 'w' then return .kind false
  else if c = 'D' || c = 'S' || c = 'W' then return .kind true
  else if c = 'A' || c = 'z' then return .edge
  else if c = 'b' || c = 'B' || c = '<' || c = '>' then return .wordEdge
  else match control? c with
    | some control => return .literal ⟨control, false⟩
    | none =>
      guard (c.toNat < 0x80 && !c.isAlphanum)
      return .literal ⟨c, false⟩

def setNames : List String :=
  ["alnum", "alpha", "ascii", "blank", "cntrl", "digit", "graph", "lower", "print", "punct",
    "space", "upper", "word", "xdigit"]

def namedSet : Scan ClassSet := do
  word ['[', ':']
  let negated ← flag ['^']
  let name ← many (· ≠ ':')
  guard (setNames.contains (String.ofList name))
  word [':', ']']
  return .named negated

def member (spaced : Bool) : Scan ClassSet := do
  let c ← next
  if c = '\\' then
    match ← escape spaced with
    | .literal value => return .literal value
    | .kind negated => return .kind negated
    | _ => failure
  else return .literal ⟨c, false⟩

def rangeFollows (spaced : Bool) : Scan Bool := do
  match ← get with
  | '-' :: rest =>
    match if spaced then (pastSpace false rest).head? else rest.head? with
    | some ']' => return false
    | some '-' => return false
    | _ => return true
  | _ => return false

def memberOrRange (spaced : Bool) : Scan ClassSet := do
  let first ← member spaced
  skip spaced
  if ← rangeFollows spaced then
    char '-'
    skip spaced
    match first, ← member spaced with
    | .literal a, .literal b =>
      guard (a.char ≤ b.char)
      return .range a b
    | _, _ => failure
  else return first

def setOperator : Scan Bool := do
  if ← flag ['&', '&'] then return true
  if ← flag ['-', '-'] then return true
  flag ['~', '~']

/-- The set made of what is left of the last operator and the members behind it. -/
def joined (left : Option ClassSet) (done : List ClassSet) : ClassSet :=
  match left with
  | none => .ofItems done.reverse
  | some left => .operation left (.ofItems done.reverse)

def classBody (nested : Scan ClassSet) (spaced : Bool) :
    Nat → Option ClassSet → List ClassSet → Scan ClassSet
  | 0, _, _ => failure
  | n + 1, left, done => do
    skip spaced
    match ← peek with
    | none => failure
    | some ']' =>
      char ']'
      return joined left done
    | some '[' =>
      let item ← namedSet <|> nested
      classBody nested spaced n left (item :: done)
    | some _ =>
      if ← setOperator then classBody nested spaced n (some (joined left done)) []
      else
        let item ← memberOrRange spaced
        classBody nested spaced n left (item :: done)

def hyphens (spaced : Bool) : Nat → List ClassSet → Scan (List ClassSet)
  | 0, _ => failure
  | n + 1, done => do
    if ← flag ['-'] then
      skip spaced
      hyphens spaced n (.literal ⟨'-', false⟩ :: done)
    else return done

/-- The members that stand in front of a class without meaning what they mean elsewhere: hyphens,
or one closing bracket. -/
def classFront (rounds : Nat) (spaced : Bool) : Scan (List ClassSet) := do
  let done ← hyphens spaced rounds []
  if done.isEmpty then
    if ← flag [']'] then return [.literal ⟨']', false⟩]
  return done

def classIn (rounds : Nat) (spaced : Bool) : Nat → Scan (Bool × ClassSet)
  | 0 => failure
  | depth + 1 => do
    char '['
    skip spaced
    let negated ← flag ['^']
    skip spaced
    let front ← classFront rounds spaced
    let nested : Scan ClassSet := do
      let (negated, set) ← classIn rounds spaced depth
      return .nested negated set
    return (negated, ← classBody nested spaced rounds none front)

end BlobRetrieval.Pattern
