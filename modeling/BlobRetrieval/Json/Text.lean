import BlobRetrieval.Json.Reader
import BlobRetrieval.Text.Utf8

/-!
# Strings in JSON

A string is read byte by byte from behind its opening quote. An escaped code unit
takes four hexadecimal digits, and a leading surrogate has to be followed at once
by an escaped trailing one. What the bytes and escapes spell has to be UTF-8.
-/

set_option autoImplicit false

namespace BlobRetrieval.Json

open Reader

/-- What a string reader is in the middle of. A code unit may be the second half of a pair, and
carries the leading surrogate then; its value is `none` once a digit was bad. -/
inductive StringState where
  | plain
  | escape
  | unit (lead : Option Nat) (left : Nat) (value : Option Nat)
  | wantBackslash (lead : Nat)
  | wantU (lead : Nat)

def shortUnescape? (b : UInt8) : Option UInt8 :=
  match b with
  | 34 => some 34
  | 92 => some 92
  | 47 => some 47
  | 98 => some 8
  | 102 => some 12
  | 110 => some 10
  | 114 => some 13
  | 116 => some 9
  | _ => none

def addDigit (value : Option Nat) (b : UInt8) : Option Nat :=
  match value, Hex.digit? b with
  | some v, some d => some (16 * v + d)
  | _, _ => none

def reversedUtf8 (n : Nat) : Bytes :=
  (String.utf8EncodeChar (Char.ofNat n)).reverse

def finishUnit (lead : Option Nat) (n : Nat) (done : Bytes) :
    Except Cause (StringState × Bytes) :=
  let trailing := 0xDC00 ≤ n && n ≤ 0xDFFF
  match lead with
  | none =>
    if trailing then .error .loneSurrogate
    else if 0xD800 ≤ n && n ≤ 0xDBFF then .ok (.wantBackslash n, done)
    else .ok (.plain, reversedUtf8 n ++ done)
  | some high =>
    if trailing then
      .ok (.plain, reversedUtf8 (0x10000 + (high - 0xD800) * 0x400 + (n - 0xDC00)) ++ done)
    else .error .loneSurrogate

def stringStep (state : StringState) (done : Bytes) (b : UInt8) :
    Except Cause (StringState × Bytes) :=
  match state with
  | .plain =>
    if b = 92 then .ok (.escape, done)
    else if b < 32 then .error .controlCharacter
    else .ok (.plain, b :: done)
  | .escape =>
    if b = 117 then .ok (.unit none 4 (some 0), done)
    else match shortUnescape? b with
      | some c => .ok (.plain, c :: done)
      | none => .error .badEscape
  | .unit lead left value =>
    if 1 < left then .ok (.unit lead (left - 1) (addDigit value b), done)
    else match addDigit value b with
      | some n => finishUnit lead n done
      | none => .error .badEscape
  | .wantBackslash lead => if b = 92 then .ok (.wantU lead, done) else .error .unpairedSurrogate
  | .wantU lead => if b = 117 then .ok (.unit (some lead) 4 (some 0), done)
    else .error .unpairedSurrogate

def StringState.ends (state : StringState) (b : UInt8) : Bool :=
  match state with
  | .plain => b == 34
  | _ => false

/-- Reads up to and including the closing quote. A fault leaves unread what follows the byte
that caused it. -/
def scanString (state : StringState) (done : Bytes) : Bytes → Except Cause Bytes × Bytes
  | [] => (.error .endInString, [])
  | b :: rest =>
    if state.ends b then (.ok done.reverse, rest)
    else match stringStep state done b with
      | .ok (next, done) => scanString next done rest
      | .error cause => (.error cause, rest)

def stringText : Reader (List Char) := do
  let (result, rest) := scanString .plain [] (← get)
  set rest
  match result with
  | .error cause => failHere cause
  | .ok bytes =>
    match Utf8.decode bytes with
    | .ok text => return text
    | .error offset => throw ⟨.badUnicode, some ⟨rest.length, bytes.length - offset⟩⟩

inductive SkipState where
  | plain
  | escape
  | unit (left : Nat) (good : Bool)

def scanSkipped (state : SkipState) : Bytes → Except Cause Unit × Bytes
  | [] => (.error .endInString, [])
  | b :: rest =>
    match state with
    | .plain =>
      if b = 34 then (.ok (), rest)
      else if b = 92 then scanSkipped .escape rest
      else if b < 32 then (.error .controlCharacter, b :: rest)
      else scanSkipped .plain rest
    | .escape =>
      if b = 117 then scanSkipped (.unit 4 true) rest
      else if (shortUnescape? b).isSome then scanSkipped .plain rest
      else (.error .badEscape, rest)
    | .unit left good =>
      let good := good && (Hex.digit? b).isSome
      if 1 < left then scanSkipped (.unit (left - 1) good) rest
      else if good then scanSkipped .plain rest
      else (.error .badEscape, rest)

def skipString : Reader Unit := do
  let (result, rest) := scanSkipped .plain (← get)
  set rest
  match result with
  | .error cause => failHere cause
  | .ok () => return

end BlobRetrieval.Json
