/-!
# Scanning a text

A scan reads something off the front of a text and gives back what is behind it.
Two scans can be alternatives, of which the second begins where the first did.
-/

set_option autoImplicit false

namespace BlobRetrieval

abbrev Scan (α : Type) := StateT (List Char) Option α

namespace Scan

def one (p : Char → Bool) : Scan Char
  | c :: rest => if p c then some (c, rest) else none
  | [] => none

def next : Scan Char :=
  one fun _ => true

def char (c : Char) : Scan Unit
  | d :: rest => if d = c then some ((), rest) else none
  | [] => none

def word : List Char → Scan Unit
  | [] => pure ()
  | c :: cs => do
    char c
    word cs

def many (p : Char → Bool) : Scan (List Char) :=
  fun text => some (text.takeWhile p, text.dropWhile p)

def many1 (p : Char → Bool) : Scan (List Char) := do
  let c ← one p
  return c :: (← many p)

def peek : Scan (Option Char) := do
  return (← get).head?

def flag (cs : List Char) : Scan Bool :=
  (do word cs; return true) <|> return false

def atEnd : Scan Unit
  | [] => some ((), [])
  | _ :: _ => none

def whole? {α : Type} (scan : Scan α) (text : List Char) : Option α :=
  match scan text with
  | some (a, []) => some a
  | _ => none

end Scan

end BlobRetrieval
