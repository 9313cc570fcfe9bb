import BlobRetrieval.Toml.Text

/-!
# Numbers, dates and times in a configuration document

A decimal number has no leading zeros. Underscores stand between two digits only.
Integers have 64 bits with a sign, and a number with a fraction or an exponent may
not be too large for a double. Dates and times are those of the calendar and the
clock.
-/

set_option autoImplicit false

namespace BlobRetrieval.Toml

open Scan

def digitOf (base : Nat) (c : Char) : Bool :=
  match digit? c with
  | some d => d < base
  | none => false

def isDecimal (c : Char) : Bool :=
  c.isDigit

def moreDigits (digit : Char → Bool) (done : List Char) : Scan (List Char)
  | ['_'] => none
  | '_' :: c :: rest => if digit c then moreDigits digit (c :: done) rest else none
  | c :: rest =>
    if digit c then moreDigits digit (c :: done) rest else some (done.reverse, c :: rest)
  | [] => some (done.reverse, [])

def digitRun (digit : Char → Bool) : Scan (List Char) := do
  let first ← one digit
  moreDigits digit [first]

def sign : Scan Bool :=
  (do char '-'; return true) <|> (do char '+'; return false) <|> return false

def wholeDigits : Scan (List Char) :=
  (do char '0'; return ['0']) <|> digitRun isDecimal

def valueOf (base : Nat) (digits : List Char) : Nat :=
  digits.foldl (fun n c => n * base + (digit? c).getD 0) 0

def signed (negative : Bool) (n : Nat) : Int :=
  if negative then -(n : Int) else n

def inRange (n : Int) : Bool :=
  -Int.ofNat (Nat.pow 2 63) ≤ n && n < Int.ofNat (Nat.pow 2 63)

def basedInteger (mark : Char) (base : Nat) : Scan Int := do
  word ['0', mark]
  return (valueOf base (← digitRun (digitOf base)) : Int)

def decimalInteger : Scan Int := do
  let negative ← sign
  return signed negative (valueOf 10 (← wholeDigits))

def integer : Scan Int := do
  let n ← basedInteger 'x' 16 <|> basedInteger 'o' 8 <|> basedInteger 'b' 2 <|> decimalInteger
  guard (inRange n)
  return n

def doubleLimit : Nat := Nat.pow 2 1024 - Nat.pow 2 970

def exceedsDouble (digits : List Char) (exponent : Int) : Bool :=
  let digits := digits.dropWhile (· = '0')
  let size := digits.length + exponent
  if digits.isEmpty || size < 300 then false
  else if 400 < size then true
  else if 0 ≤ exponent then doubleLimit ≤ valueOf 10 digits * Nat.pow 10 exponent.toNat
  else doubleLimit * Nat.pow 10 (-exponent).toNat ≤ valueOf 10 digits

def fraction : Scan (List Char) := do
  char '.'
  digitRun isDecimal

def exponent : Scan Int := do
  let _ ← one fun c => c = 'e' || c = 'E'
  let negative ← sign
  return signed negative (valueOf 10 (← digitRun isDecimal))

def fractionAndExponent : Scan (List Char × Int) :=
  (do
    let power ← exponent
    return ([], power))
  <|> (do
    let digits ← fraction
    let power ← exponent <|> pure 0
    return (digits, power))

def finiteFloat : Scan Unit := do
  let negative ← sign
  let whole ← wholeDigits
  let (digits, power) ← fractionAndExponent
  guard (negative || !exceedsDouble (whole ++ digits) (power - digits.length))

def specialFloat : Scan Unit := do
  let _ ← sign
  word ['i', 'n', 'f'] <|> word ['n', 'a', 'n']

def float : Scan Unit :=
  finiteFloat <|> specialFloat

def fixedNumber : Nat → Scan Nat
  | 0 => return 0
  | n + 1 => do
    let c ← one isDecimal
    return ((digit? c).getD 0) * Nat.pow 10 n + (← fixedNumber n)

def twoDigits (low high : Nat) : Scan Nat := do
  let n ← fixedNumber 2
  guard (low ≤ n && n ≤ high)
  return n

def isLeapYear (year : Nat) : Bool :=
  year % 4 = 0 && (year % 100 ≠ 0 || year % 400 = 0)

def daysIn (year month : Nat) : Nat :=
  if month = 2 then if isLeapYear year then 29 else 28
  else if month = 4 || month = 6 || month = 9 || month = 11 then 30
  else 31

def date : Scan Unit := do
  let year ← fixedNumber 4
  char '-'
  let month ← twoDigits 1 12
  char '-'
  let _ ← twoDigits 1 (daysIn year month)

def hourMinute : Scan Unit := do
  let _ ← twoDigits 0 23
  char ':'
  let _ ← twoDigits 0 59

def timeOfDay : Scan Unit := do
  hourMinute
  char ':'
  let _ ← twoDigits 0 60
  (do char '.'; let _ ← many1 isDecimal) <|> pure ()

def offset : Scan Unit :=
  (do let _ ← one fun c => c = 'Z' || c = 'z')
  <|> (do
    let _ ← one fun c => c = '+' || c = '-'
    hourMinute)

def dateTail : Scan Unit := do
  let _ ← one fun c => c = 'T' || c = 't' || c = ' '
  timeOfDay
  offset <|> pure ()

def moment : Scan Unit :=
  (do
    date
    dateTail <|> pure ())
  <|> timeOfDay

end BlobRetrieval.Toml
