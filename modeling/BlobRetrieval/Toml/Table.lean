/-!
# Tables in a configuration document

The values of a document and the rules by which its statements fill tables: no key
is set twice, a header opens a table once, and a dotted key extends only tables
that dotted keys or deeper headers brought into being.
-/

set_option autoImplicit false

namespace BlobRetrieval.Toml

inductive Origin where
  | header
  | implied
  | dotted
  | inline
  deriving DecidableEq

abbrev Key := String

inductive Node where
  | text (value : List Char)
  | integer (value : Int)
  | boolean (value : Bool)
  | float
  | time
  | array (items : List Node)
  | table (origin : Origin) (entries : List (Key × Node))
  | tables (before : List (List (Key × Node))) (last : List (Key × Node))

abbrev Entries := List (Key × Node)

namespace Entries

def find? : Entries → Key → Option Node
  | [], _ => none
  | (k, node) :: rest, key => if k = key then some node else find? rest key

def put : Entries → Key → Node → Entries
  | [], _, _ => []
  | (k, old) :: rest, key, node =>
    if k = key then (k, node) :: rest else (k, old) :: put rest key node

def insertDotted : List Key → Key → Node → Entries → Option Entries
  | [], key, node, entries =>
    if (entries.find? key).isSome then none else some ((key, node) :: entries)
  | step :: path, key, node, entries =>
    match entries.find? step with
    | none => do
      return (step, .table .dotted (← insertDotted path key node [])) :: entries
    | some (.table .dotted inner) => do
      return entries.put step (.table .dotted (← insertDotted path key node inner))
    | some (.table .implied inner) => do
      if path.isEmpty then none
      return entries.put step (.table .implied (← insertDotted path key node inner))
    | some (.tables before last) => do
      if path.isEmpty then none
      return entries.put step (.tables before (← insertDotted path key node last))
    | some _ => none

def modifyAt (change : Entries → Option Entries) : List Key → Entries → Option Entries
  | [], entries => change entries
  | step :: path, entries =>
    match entries.find? step with
    | none => do
      return (step, .table .implied (← modifyAt change path [])) :: entries
    | some (.table .inline _) => none
    | some (.table origin inner) => do
      return entries.put step (.table origin (← modifyAt change path inner))
    | some (.tables before last) => do
      return entries.put step (.tables before (← modifyAt change path last))
    | some _ => none

def openTable (key : Key) (entries : Entries) : Option Entries :=
  match entries.find? key with
  | none => some ((key, .table .header []) :: entries)
  | some (.table .implied inner) => some (entries.put key (.table .header inner))
  | some _ => none

def openElement (key : Key) (entries : Entries) : Option Entries :=
  match entries.find? key with
  | none => some ((key, .tables [] []) :: entries)
  | some (.tables before last) => some (entries.put key (.tables (last :: before) []))
  | some _ => none

end Entries

inductive Statement where
  | assign (path : List Key) (key : Key) (value : Node)
  | header (path : List Key) (key : Key)
  | arrayHeader (path : List Key) (key : Key)

structure Document where
  entries : Entries := []
  current : List Key := []

def Document.add (d : Document) : Statement → Option Document
  | .assign path key value => do
    return { d with entries :=
      ← Entries.modifyAt (Entries.insertDotted path key value) d.current d.entries }
  | .header path key => do
    return ⟨← Entries.modifyAt (Entries.openTable key) path d.entries, path ++ [key]⟩
  | .arrayHeader path key => do
    return ⟨← Entries.modifyAt (Entries.openElement key) path d.entries, path ++ [key]⟩

def assemble (statements : List Statement) : Option Entries :=
  (statements.foldlM Document.add {}).map (·.entries)

end BlobRetrieval.Toml
