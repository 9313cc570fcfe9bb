import BlobRetrieval.Toml.Number
import BlobRetrieval.Toml.Table

/-!
# Reading a configuration document

A document is a list of statements, one to a line: a key with its value, or the
header of a table or of one more table of an array. Comments and blank lines may
stand between them, and a byte-order mark in front.
-/

set_option autoImplicit false

namespace BlobRetrieval.Toml

open Scan

def isBareKey (c : Char) : Bool :=
  c.isAlphanum || c = '_' || c = '-'

def simpleKey : Scan Key :=
  String.ofList <$> (lineText <|> many1 isBareKey)

def spacedKey : Scan Key := do
  spaces
  let key ← simpleKey
  spaces
  return key

def depthLimit : Nat := 80

def moreKeys : Nat → Scan (List Key)
  | 0 => return []
  | n + 1 => do
    if ← flag ['.'] then
      let key ← spacedKey
      return key :: (← moreKeys n)
    else return []

def keyPath : Scan (List Key × Key) := do
  let first ← spacedKey
  let more ← moreKeys depthLimit
  guard (more.length + 1 < depthLimit)
  return ((first :: more).dropLast, (first :: more).getLast (by simp))

def scalar : Scan Node :=
  (do return .text (← text))
  <|> (do word "true".toList; return .boolean true)
  <|> (do word "false".toList; return .boolean false)
  <|> (do moment; return .time)
  <|> (do float; return .float)
  <|> (do return .integer (← integer))

def elements (value : Scan Node) : Nat → List Node → Scan (List Node)
  | 0, _ => none
  | n + 1, done => do
    layout
    if ← flag [']'] then return done.reverse
    let item ← value
    layout
    if ← flag [','] then elements value n (item :: done)
    else
      char ']'
      return (item :: done).reverse

def array (rounds : Nat) (value : Scan Node) : Scan Node := do
  char '['
  return .array (← elements value rounds [])

def assignment (value : Scan Node) : Scan ((List Key × Key) × Node) := do
  let path ← keyPath
  char '='
  spaces
  return (path, ← value)

def members (value : Scan Node) : Nat → Entries → Scan Entries
  | 0, _ => none
  | n + 1, entries => do
    let ((path, key), item) ← assignment value
    let entries ← (entries.insertDotted path key item : Option Entries)
    spaces
    if ← flag [','] then members value n entries
    else
      char '\x7d'
      return entries

def inlineTable (rounds : Nat) (value : Scan Node) : Scan Node := do
  char '\x7b'
  spaces
  if ← flag ['\x7d'] then return .table .inline []
  return .table .inline (← members value rounds [])

def value (rounds : Nat) : Nat → Scan Node
  | 0 => scalar
  | n + 1 => scalar <|> array rounds (value rounds n) <|> inlineTable rounds (value rounds n)

def statement (rounds : Nat) : Scan Statement :=
  (do
    word ['[', '[']
    let (path, key) ← keyPath
    word [']', ']']
    return .arrayHeader path key)
  <|> (do
    char '['
    let (path, key) ← keyPath
    char ']'
    return .header path key)
  <|> (do
    let ((path, key), item) ← assignment (value rounds (depthLimit - 1))
    return .assign path key item)

def line (rounds : Nat) : Scan (Option Statement) :=
  (do lineEnd; return none)
  <|> (do
    spaces
    let statement ← statement rounds
    lineEnd
    return some statement)

def lines (rounds : Nat) : Nat → List Statement → Scan (List Statement)
  | 0, done => do
    atEnd
    return done.reverse
  | n + 1, done => do
    if (← get).isEmpty then return done.reverse
    match ← line rounds with
    | some statement => lines rounds n (statement :: done)
    | none => lines rounds n done

def dropMark : List Char → List Char
  | '\ufeff' :: rest => rest
  | text => text

def statements (text : List Char) : Option (List Statement) :=
  let size := text.length
  (lines size size []).run' (dropMark text)

def parse (text : List Char) : Option Entries := do
  assemble (← statements text)

end BlobRetrieval.Toml
