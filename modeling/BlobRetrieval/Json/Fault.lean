import BlobRetrieval.Hex
import BlobRetrieval.Sidecar.Basic
import BlobRetrieval.Text.Quoted
import BlobRetrieval.Decimal.Shortest

/-!
# Why a JSON text is refused

The causes of a refusal, the place that goes with them, and their wording. Places
are lines and columns, both counted in bytes read.
-/

set_option autoImplicit false

namespace BlobRetrieval.Json

inductive Number where
  | unsigned (value : UInt64)
  | negative (magnitude : Nat)
  | float (bits : UInt64)
  deriving DecidableEq

inductive Found where
  | null
  | bool (value : Bool)
  | number (value : Number)
  | string (text : List Char)
  | array
  | object
  deriving DecidableEq

inductive Wanted where
  | quotedNumber
  | octet
  | uint64
  | text
  | unit
  | variantName
  | sequence
  | byteVector (size : Nat)
  | byteString
  | hexText
  | record (name : String)
  | exactlyBytes (size : Nat)
  | items (count : Nat)
  | fields (name : String) (count : Nat)
  deriving DecidableEq

inductive Cause where
  | endInValue
  | endInList
  | endInObject
  | endInString
  | noValue
  | noWord
  | noColon
  | noListEnd
  | noObjectEnd
  | trailingComma
  | trailingText
  | keyNotString
  | badNumber
  | numberTooLarge
  | badEscape
  | controlCharacter
  | loneSurrogate
  | unpairedSurrogate
  | badUnicode
  | outOfBudget
  | wrongType (found : Found) (wanted : Wanted)
  | wrongValue (found : Found) (wanted : Wanted)
  | wrongLength (length : Nat) (wanted : Wanted)
  | missingField (name : String)
  | duplicateField (name : String)
  | unknownVariant (name : List Char)
  | hex (error : Hex.Error)
  | blobLength (error : LengthError)
  deriving DecidableEq

def Number.describe : Number → String
  | .unsigned value => "integer `" ++ toString value.toNat ++ "`"
  | .negative magnitude => "integer `-" ++ toString magnitude ++ "`"
  | .float bits => "floating point `" ++ String.ofList (Decimal.ofBits bits) ++ "`"

def Found.describe : Found → String
  | .null => "null"
  | .bool true => "boolean `true`"
  | .bool false => "boolean `false`"
  | .number value => value.describe
  | .string text => "string " ++ Quoted.text text
  | .array => "sequence"
  | .object => "map"

def Wanted.describe : Wanted → String
  | .quotedNumber => "a u64 as a decimal string or number"
  | .octet => "u8"
  | .uint64 => "u64"
  | .text => "a string"
  | .unit => "unit"
  | .variantName => "variant identifier"
  | .sequence => "a sequence"
  | .byteVector size =>
    toString size ++ " bytes, represented as a hex string of length " ++ toString (2 * size)
      ++ ", an array of u8, or raw bytes"
  | .byteString =>
    "a variable number of bytes represented as a hex string, an array of u8, or raw bytes"
  | .hexText => "a valid hex string"
  | .record name => "struct " ++ name
  | .exactlyBytes size => "exactly " ++ toString size ++ " bytes"
  | .items count => "an array of length " ++ toString count
  | .fields name count =>
    "struct " ++ name ++ " with " ++ toString count
      ++ (if count = 1 then " element" else " elements")

def hexMessage : Hex.Error → String
  | .oddLength => "odd number of digits"
  | .wrongLength => "invalid string length"
  | .badDigit byte position =>
    "invalid character " ++ Quoted.char (Char.ofNat byte.toNat) ++ " at position "
      ++ toString position

def Cause.message : Cause → String
  | .endInValue => "EOF while parsing a value"
  | .endInList => "EOF while parsing a list"
  | .endInObject => "EOF while parsing an object"
  | .endInString => "EOF while parsing a string"
  | .noValue => "expected value"
  | .noWord => "expected ident"
  | .noColon => "expected `:`"
  | .noListEnd => "expected `,` or `]`"
  | .noObjectEnd => "expected `,` or `\x7d`"
  | .trailingComma => "trailing comma"
  | .trailingText => "trailing characters"
  | .keyNotString => "key must be a string"
  | .badNumber => "invalid number"
  | .numberTooLarge => "number out of range"
  | .badEscape => "invalid escape"
  | .controlCharacter =>
    "control character (\\u0000-\\u001F) found while parsing a string"
  | .loneSurrogate => "lone leading surrogate in hex escape"
  | .unpairedSurrogate => "unexpected end of hex escape"
  | .badUnicode => "invalid unicode code point"
  | .outOfBudget => "recursion limit exceeded"
  | .wrongType found wanted =>
    "invalid type: " ++ found.describe ++ ", expected " ++ wanted.describe
  | .wrongValue found wanted =>
    "invalid value: " ++ found.describe ++ ", expected " ++ wanted.describe
  | .wrongLength length wanted =>
    "invalid length " ++ toString length ++ ", expected " ++ wanted.describe
  | .missingField name => "missing field `" ++ name ++ "`"
  | .duplicateField name => "duplicate field `" ++ name ++ "`"
  | .unknownVariant name =>
    "unknown variant `" ++ String.ofList name ++ "`, expected `json` or `ssz`"
  | .hex error => hexMessage error
  | .blobLength error => error.message

/-- A place in a text, given by the number of bytes not yet read there. The column that is
reported lies `back` columns before it. -/
structure Place where
  unread : Nat
  back : Nat
  deriving DecidableEq

/-- A refusal inside a reader. One without a place gets the place of the value around it. -/
structure Fault where
  cause : Cause
  place : Option Place
  deriving DecidableEq

structure Error where
  cause : Cause
  position : Option (Nat × Nat)
  deriving DecidableEq

def lineAndColumn (read : Bytes) : Nat × Nat :=
  (1 + read.count 10, (read.reverse.takeWhile (· ≠ 10)).length)

def Fault.report (input : Bytes) (fault : Fault) : Error :=
  ⟨fault.cause, fault.place.map fun p =>
    let (line, column) := lineAndColumn (input.take (input.length - p.unread))
    (line, column - p.back)⟩

def Error.message (e : Error) : String :=
  match e.position with
  | none => e.cause.message
  | some (line, column) =>
    e.cause.message ++ " at line " ++ toString line ++ " column " ++ toString column

end BlobRetrieval.Json
