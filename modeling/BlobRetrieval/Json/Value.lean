import BlobRetrieval.Text.Utf8
import BlobRetrieval.Hex
import BlobRetrieval.Decimal

/-!
# JSON values

The tree of a JSON text, and its two written forms. The compact one has no space
between tokens. The indented one gives every element and every member a line of
its own, two spaces deeper than the bracket that holds it.
-/

set_option autoImplicit false

namespace BlobRetrieval

inductive Json where
  | null
  | bool (value : Bool)
  | number (literal : List Char)
  | string (text : List Char)
  | array (items : List Json)
  | object (members : List (List Char × Json))

namespace Json

def shortEscape? (c : Char) : Option Char :=
  if c = '"' then some '"'
  else if c = '\\' then some '\\'
  else if c = '\x08' then some 'b'
  else if c = '\x0c' then some 'f'
  else if c = '\n' then some 'n'
  else if c = '\r' then some 'r'
  else if c = '\t' then some 't'
  else none

def escaped (c : Char) : List Char :=
  match shortEscape? c with
  | some letter => ['\\', letter]
  | none =>
    if c.toNat < 0x20 then '\\' :: 'u' :: '0' :: '0' :: Hex.pair (UInt8.ofNat c.toNat) else [c]

def quoted (text : List Char) : List Char :=
  '"' :: (text.flatMap escaped ++ ['"'])

def separated (separator : List Char) : List (List Char) → List Char
  | [] => []
  | [item] => item
  | item :: rest => item ++ (separator ++ separated separator rest)

mutual

def compact : Json → List Char
  | .null => "null".toList
  | .bool true => "true".toList
  | .bool false => "false".toList
  | .number literal => literal
  | .string text => quoted text
  | .array items => '[' :: (separated [','] (compactItems items) ++ [']'])
  | .object members => '{' :: (separated [','] (compactMembers members) ++ ['}'])

def compactItems : List Json → List (List Char)
  | [] => []
  | item :: rest => compact item :: compactItems rest

def compactMembers : List (List Char × Json) → List (List Char)
  | [] => []
  | (name, value) :: rest =>
    (quoted name ++ ':' :: compact value) :: compactMembers rest

end

def newline (depth : Nat) : List Char :=
  '\n' :: List.replicate (2 * depth) ' '

def block (depth : Nat) (opening closing : Char) : List (List Char) → List Char
  | [] => [opening, closing]
  | lines =>
    opening :: (newline (depth + 1)
      ++ (separated (',' :: newline (depth + 1)) lines ++ (newline depth ++ [closing])))

mutual

def indented (depth : Nat) : Json → List Char
  | .null => "null".toList
  | .bool true => "true".toList
  | .bool false => "false".toList
  | .number literal => literal
  | .string text => quoted text
  | .array items => block depth '[' ']' (indentedItems (depth + 1) items)
  | .object members => block depth '{' '}' (indentedMembers (depth + 1) members)

def indentedItems (depth : Nat) : List Json → List (List Char)
  | [] => []
  | item :: rest => indented depth item :: indentedItems depth rest

def indentedMembers (depth : Nat) : List (List Char × Json) → List (List Char)
  | [] => []
  | (name, value) :: rest =>
    (quoted name ++ ':' :: ' ' :: indented depth value) :: indentedMembers depth rest

end

def pretty (value : Json) : List Char :=
  indented 0 value

def ofBytes (bytes : Bytes) : Json :=
  .string (Hex.marked bytes)

def ofQuoted (n : UInt64) : Json :=
  .string (Decimal.digits n.toNat)

def ofNumber (n : UInt64) : Json :=
  .number (Decimal.digits n.toNat)

def ofText (text : String) : Json :=
  .string text.toList

end Json

end BlobRetrieval
