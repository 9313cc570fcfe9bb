import BlobRetrieval.Pattern.Class

/-!
# Reading a pattern

A pattern is read from left to right; only groups are read by going deeper. Patterns
stand in front of a closing brace and hold none, so there is no repetition by a
count.
-/

set_option autoImplicit false

namespace BlobRetrieval.Pattern

open Scan

def switch? (c : Char) : Option Switch :=
  if c = 'i' then some .caseless
  else if c = 'm' then some .lineAnchors
  else if c = 's' then some .dotAll
  else if c = 'U' then some .lazy
  else if c = 'u' then some .unicode
  else if c = 'R' then some .carriageReturns
  else if c = 'x' then some .spaced
  else none

def readSwitches (on : Bool) (done : Switches) : List Char → Option (Switches × List Char)
  | [] => none
  | c :: rest =>
    if c = ':' || c = ')' then some (done.reverse, c :: rest)
    else if c = '-' then
      if on && (rest.head?.bind switch?).isSome then readSwitches false done rest else none
    else match switch? c with
      | none => none
      | some switch =>
        if done.any (·.1 = switch) then none else readSwitches on ((switch, on) :: done) rest

def groupName : Scan (List Char) := do
  let first ← one fun c => c = '_' || Alphabetic c
  let rest ← many fun c =>
    c = '_' || c = '.' || c = '[' || c = ']' || Alphanumeric c
  char '>'
  return first :: rest

def groupFront (spaced : Bool) : Scan (Option (List Char) × Option Switches) := do
  skip spaced
  if ← flag ['?', 'P', '<'] then return (some (← groupName), none)
  if ← flag ['?', '<'] then return (some (← groupName), none)
  if ← flag ['?'] then return (none, some (← (readSwitches true [] : Scan Switches)))
  return (none, none)

def Switches.spaced (turned : Switches) (before : Bool) : Bool :=
  (turned.lookup .spaced).getD before

def isRepeatable : Pattern → Bool
  | .empty => false
  | .switches _ => false
  | _ => true

def repeatLast : List Pattern → Scan (List Pattern)
  | [] => failure
  | last :: done => do
    guard last.isRepeatable
    let _ ← flag ['?']
    return .repeated last :: done

def endsWithSwitches (front : Option Switches) : Scan Bool := do
  match front with
  | none => return false
  | some turned =>
    if ← flag [')'] then
      guard !turned.isEmpty
      return true
    else
      char ':'
      return false

def primitive (spaced : Bool) : Scan Pattern := do
  let c ← next
  if c = '\\' then escape spaced
  else if c = '.' then return .dot
  else if c = '^' || c = '$' then return .edge
  else return .literal ⟨c, false⟩

def body (rounds : Nat) (inner : Bool → Scan Pattern) :
    Nat → Bool → List Pattern → List Pattern → Scan Pattern
  | 0, _, _, _ => failure
  | n + 1, spaced, done, branches => do
    skip spaced
    match ← peek with
    | none => return .ofBranches (Pattern.ofItems done.reverse :: branches).reverse
    | some ')' => return .ofBranches (Pattern.ofItems done.reverse :: branches).reverse
    | some '|' =>
      char '|'
      body rounds inner n spaced [] (Pattern.ofItems done.reverse :: branches)
    | some '(' =>
      char '('
      let (name, front) ← groupFront spaced
      let turned := front.getD []
      if ← endsWithSwitches front then
        body rounds inner n (Switches.spaced turned spaced) (.switches turned :: done) branches
      else
        let pattern ← inner (Switches.spaced turned spaced)
        char ')'
        body rounds inner n spaced (.group name turned pattern :: done) branches
    | some '[' =>
      let (negated, set) ← classIn rounds spaced heightLimit
      body rounds inner n spaced (.bracketed negated set :: done) branches
    | some c =>
      if c = '*' || c = '+' || c = '?' then
        char c
        body rounds inner n spaced (← repeatLast done) branches
      else if c = '\x7b' then failure
      else
        let item ← primitive spaced
        body rounds inner n spaced (item :: done) branches

def groupIn (rounds : Nat) : Nat → Bool → Scan Pattern
  | 0, _ => failure
  | depth + 1, spaced => body rounds (groupIn rounds depth) rounds spaced [] []

def ofText? (text : List Char) : Option Pattern :=
  whole? (groupIn (text.length + 1) (heightLimit + 1) false) text

end BlobRetrieval.Pattern
