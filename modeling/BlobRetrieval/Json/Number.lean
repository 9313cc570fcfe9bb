import BlobRetrieval.Json.Reader

/-!
# Numbers in JSON

A number keeps as many of its digits as fit into 64 bits; the digits after those
only scale it. Without fraction and exponent it stays an integer if it fits one of
64 bits. Anything else is the kept digits multiplied or divided by a power of ten,
rounded to a binary number of 64 bits.
-/

set_option autoImplicit false

namespace BlobRetrieval.Json

open Reader

structure Scaled where
  negative : Bool
  significand : Nat
  exponent : Int

def digitValue (b : UInt8) : Nat :=
  b.toNat - 48

/-- Takes digits into a significand as long as it stays within 64 bits. Yields the
significand, the number of digits taken, and the digits that were left. -/
def takeDigits (significand taken : Nat) : Bytes → Nat × Nat × Bytes
  | [] => (significand, taken, [])
  | b :: rest =>
    if significand * 10 + digitValue b < Nat.pow 2 64 then
      takeDigits (significand * 10 + digitValue b) (taken + 1) rest
    else (significand, taken, b :: rest)

def digits : Reader Bytes := do
  let text ← get
  set (text.dropWhile isDigit)
  return text.takeWhile isDigit

def scaleDown (f : Float) (power : Nat) : Float :=
  if power ≤ 308 then f / Float.ofScientific 1 false power
  else if f == 0 then f
  else scaleDown (f / Float.ofScientific 1 false 308) (power - 308)
  termination_by power

def Scaled.value? (s : Scaled) : Option Float :=
  let f := Float.ofNat s.significand
  let scaled :=
    match s.exponent with
    | .ofNat power =>
      if power ≤ 308 then
        let g := f * Float.ofScientific 1 false power
        if g.isInf then none else some g
      else if f == 0 then some f
      else none
    | .negSucc power => some (scaleDown f (power + 1))
  scaled.map fun f => if s.negative then -f else f

def finishFloat (s : Scaled) : Reader Number := do
  match s.value? with
  | some f => return .float f.toBits
  | none => failHere .numberTooLarge

def exponentDigits (value : Nat) : Bytes → Except Bytes Nat
  | [] => .ok value
  | b :: rest =>
    if value * 10 + digitValue b < Nat.pow 2 31 then exponentDigits (value * 10 + digitValue b) rest
    else .error rest

def exponentSign : Reader Bool := do
  match ← peek with
  | some 43 => advance; return true
  | some 45 => advance; return false
  | _ => return true

def exponent (s : Scaled) : Reader Number := do
  advance
  let positive ← exponentSign
  match ← peek with
  | none => failHere .endInValue
  | some b =>
    if isDigit b then
      match exponentDigits 0 (← digits) with
      | .ok n => finishFloat { s with exponent := s.exponent + (if positive then (n : Int) else -n) }
      | .error rest =>
        if s.significand = 0 || !positive then
          return .float (if s.negative then (-0.0 : Float) else 0.0).toBits
        else
          modify (rest ++ ·)
          failHere .numberTooLarge
    else
      advance
      failHere .badNumber

def fractionEnd (s : Scaled) : Reader Number := do
  match ← peek with
  | some 101 => exponent s
  | some 69 => exponent s
  | _ => finishFloat s

def fraction (s : Scaled) : Reader Number := do
  advance
  match ← digits with
  | [] =>
    match ← peek with
    | some _ => failNext .badNumber
    | none => failNext .endInValue
  | ds =>
    let (significand, taken, _) := takeDigits s.significand 0 ds
    fractionEnd { s with significand := significand, exponent := s.exponent - taken }

def wholeNumber (s : Scaled) : Reader Number := do
  if s.exponent = 0 then
    if !s.negative then return .unsigned (UInt64.ofNat s.significand)
    else if 0 < s.significand ∧ s.significand ≤ Nat.pow 2 63 then return .negative s.significand
    else finishFloat s
  else finishFloat s

def afterInteger (s : Scaled) : Reader Number := do
  match ← peek with
  | some 46 => fraction s
  | some 101 => exponent s
  | some 69 => exponent s
  | _ => wholeNumber s

def readNumber (negative : Bool) : Reader Number := do
  match ← peek with
  | none => failHere .endInValue
  | some 48 =>
    advance
    match ← peek with
    | some b => if isDigit b then failNext .badNumber else afterInteger ⟨negative, 0, 0⟩
    | none => afterInteger ⟨negative, 0, 0⟩
  | some b =>
    if isDigit b then
      let (significand, _, left) := takeDigits 0 0 (← digits)
      afterInteger ⟨negative, significand, left.length⟩
    else
      advance
      failHere .badNumber

def skipDigits : Reader Unit :=
  modify (List.dropWhile isDigit)

def skipExponent : Reader Unit := do
  advance
  let _ ← exponentSign
  match ← peek with
  | none => failHere .badNumber
  | some b =>
    advance
    if isDigit b then skipDigits else failHere .badNumber

def skipFraction : Reader Unit := do
  advance
  match ← digits with
  | [] => failNext .badNumber
  | _ =>
    match ← peek with
    | some 101 => skipExponent
    | some 69 => skipExponent
    | _ => pure ()

def skipInteger (first : UInt8) : Reader Unit := do
  if first = 48 then
    match ← peek with
    | some next => if isDigit next then failNext .badNumber else return
    | none => return
  else skipDigits

def skipNumber : Reader Unit := do
  match ← peek with
  | none => failHere .badNumber
  | some b =>
    advance
    if !isDigit b then failHere .badNumber
    else
      skipInteger b
      match ← peek with
      | some 46 => skipFraction
      | some 101 => skipExponent
      | some 69 => skipExponent
      | _ => return

end BlobRetrieval.Json
