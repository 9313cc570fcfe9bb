import BlobRetrieval.Text.Unprintable
import BlobRetrieval.Text.CaseTable

/-!
# Names in other letters

A label of a name that begins with `xn--` stands for a text with other than ASCII
letters: those that are ASCII come first, and a row of digits tells where each of
the others goes in, in the order of their numbers.
-/

set_option autoImplicit false

namespace BlobRetrieval.Punycode

def digit? (c : Char) : Option Nat :=
  if 'a' ≤ c && c ≤ 'z' then some (c.toNat - 97)
  else if '0' ≤ c && c ≤ '9' then some (c.toNat - 22)
  else none

def threshold (place bias : Nat) : Nat :=
  if place ≤ bias then 1 else if bias + 26 ≤ place then 26 else place - bias

def shrink (delta count : Nat) : Nat × Nat :=
  if 455 < delta then shrink (delta / 35) (count + 36) else (delta, count)
  termination_by delta

def adapt (delta length : Nat) (isFirst : Bool) : Nat :=
  let delta := if isFirst then delta / 700 else delta / 2
  let (rest, count) := shrink (delta + delta / length) 0
  count + 36 * rest / (rest + 38)

structure Progress where
  text : List Char
  code : Nat := 128
  index : Nat := 0
  bias : Nat := 72
  part : Nat := 0
  weight : Nat := 1
  place : Nat := 36

def Progress.insert (p : Progress) : Option Progress :=
  let length := p.text.length + 1
  let total := p.index + p.part
  let code := p.code + total / length
  let index := total % length
  if code.isValidChar then
    some {
      text := p.text.take index ++ Char.ofNat code :: p.text.drop index
      code
      index := index + 1
      bias := adapt p.part length (p.index = 0) }
  else none

def Progress.take (p : Progress) (c : Char) : Option Progress := do
  let d ← digit? c
  let t := threshold p.place p.bias
  let p := { p with part := p.part + d * p.weight }
  guard (p.part < Nat.pow 2 32 && p.weight < Nat.pow 2 32)
  if d < t then p.insert
  else return { p with weight := p.weight * (36 - t), place := p.place + 36 }

def decode? (label : List Char) : Option (List Char) := do
  let digits := (label.reverse.takeWhile (· ≠ '-')).reverse
  let basic := (label.take (label.length - digits.length)).dropLast
  guard (digits.length = label.length || !basic.isEmpty)
  let p ← digits.foldlM Progress.take { text := basic }
  guard (p.place = 36)
  return p.text

def digitChar (d : Nat) : Char :=
  if d < 26 then Char.ofNat (97 + d) else Char.ofNat (22 + d)

theorem threshold_pos (place bias : Nat) : 0 < threshold place bias := by
  unfold threshold
  grind

def row (bias place value : Nat) : List Char :=
  let t := threshold place bias
  if value < t then [digitChar value]
  else digitChar (t + (value - t) % (36 - t)) :: row bias (place + 36) ((value - t) / (36 - t))
  termination_by value
  decreasing_by
    have hpos := threshold_pos place bias
    have hle := Nat.div_le_self (value - threshold place bias) (36 - threshold place bias)
    omega

structure Rows where
  text : List Char
  basic : Nat
  done : Nat
  code : Nat := 128
  delta : Nat := 0
  bias : Nat := 72

def Rows.take (r : Rows) (c : Char) : Rows :=
  if c.toNat < r.code then { r with delta := r.delta + 1 }
  else if c.toNat = r.code then
    { r with
      text := r.text ++ row r.bias 36 r.delta
      done := r.done + 1
      delta := 0
      bias := adapt r.delta (r.done + 1) (r.done = r.basic) }
  else r

def Rows.takeCode (text : List Char) (r : Rows) (code : Nat) : Rows :=
  let r := text.foldl take { r with delta := r.delta + (code - r.code) * (r.done + 1), code }
  { r with delta := r.delta + 1, code := code + 1 }

def encode (text : List Char) : List Char :=
  let basic := text.filter (·.toNat < 0x80)
  let codes := (((text.map Char.toNat).filter (0x80 ≤ ·)).mergeSort (· ≤ ·)).eraseDups
  let front := if basic.isEmpty then [] else basic ++ ['-']
  let rows : Rows := { text := front, basic := basic.length, done := basic.length }
  (codes.foldl (Rows.takeCode text) rows).text

def isNameChar (c : Char) : Bool :=
  c.toNat < 0x80 || (lowerChar c = c && (!Unprintable c || CaseIgnorable c))

def isLabel (label : List Char) : Bool :=
  match decode? label with
  | none => false
  | some text =>
    text.any (0x80 ≤ ·.toNat) && text.all isNameChar && !(text.take 1).any Unprintable

end BlobRetrieval.Punycode
