import BlobRetrieval.Text.Scan

/-!
# Lines of a configuration document

The characters that may stand on a line, and what is passed over: blanks,
comments and the ends of lines.
-/

set_option autoImplicit false

namespace BlobRetrieval.Toml

open Scan

def isPlain (c : Char) : Bool :=
  c = '\t' || (' ' ≤ c && c ≠ '\x7f')

def isSpace (c : Char) : Bool :=
  c = ' ' || c = '\t'

def spaces : Scan Unit := do
  let _ ← many isSpace

def newline : Scan Unit :=
  char '\n' <|> word ['\r', '\n']

def comment : Scan Unit := do
  char '#'
  let _ ← many isPlain

def lineEnd : Scan Unit := do
  spaces
  comment <|> pure ()
  newline <|> atEnd

def pastLayout (inComment : Bool) : List Char → List Char
  | [] => []
  | c :: rest =>
    if c = '\n' || (c = '\r' && rest.head? = some '\n') then pastLayout false rest
    else if inComment && isPlain c then pastLayout true rest
    else if !inComment && isSpace c then pastLayout false rest
    else if !inComment && c = '#' then pastLayout true rest
    else c :: rest

def layout : Scan Unit :=
  modify (pastLayout false)

end BlobRetrieval.Toml
