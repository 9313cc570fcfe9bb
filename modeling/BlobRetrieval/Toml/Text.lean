import BlobRetrieval.Hex
import BlobRetrieval.Toml.Line

/-!
# Strings in a configuration document

Strings stand between single or double quotes, or between three of them and then
over several lines. Only double quotes know escapes.
-/

set_option autoImplicit false

namespace BlobRetrieval.Toml

inductive TextState where
  | plain
  | escape
  | code (left value : Nat)
  | quotes (count : Nat)
  | carriageReturn
  | lineEnd
  | lineReturn
  | indent

def shortEscape? (c : Char) : Option Char :=
  if c = 'b' then some '\x08'
  else if c = 't' then some '\t'
  else if c = 'n' then some '\n'
  else if c = 'f' then some '\x0c'
  else if c = 'r' then some '\r'
  else if c = '"' then some '"'
  else if c = '\\' then some '\\'
  else none

def digit? (c : Char) : Option Nat :=
  if c.toNat < 0x80 then Hex.digit? (UInt8.ofNat c.toNat) else none

def codeStep (left value : Nat) (done : List Char) (c : Char) :
    Option (TextState × List Char) :=
  match digit? c with
  | none => none
  | some d =>
    let n := 16 * value + d
    if 1 < left then some (.code (left - 1) n, done)
    else if n.isValidChar then some (.plain, Char.ofNat n :: done)
    else none

def escapeStep (done : List Char) (c : Char) : Option (TextState × List Char) :=
  if c = 'u' then some (.code 4 0, done)
  else if c = 'U' then some (.code 8 0, done)
  else (shortEscape? c).map fun e => (.plain, e :: done)

def basicText (state : TextState) (done : List Char) :
    List Char → Option (List Char × List Char)
  | [] => none
  | c :: rest =>
    match state with
    | .plain =>
      if c = '"' then some (done.reverse, rest)
      else if c = '\\' then basicText .escape done rest
      else if isPlain c then basicText .plain (c :: done) rest
      else none
    | .escape =>
      match escapeStep done c with
      | some (next, done) => basicText next done rest
      | none => none
    | .code left value =>
      match codeStep left value done c with
      | some (next, done) => basicText next done rest
      | none => none
    | _ => none

def blockPlain (escapes : Bool) (done : List Char) (c : Char) :
    Option (TextState × List Char) :=
  if c = '\n' then some (.plain, '\n' :: done)
  else if c = '\r' then some (.carriageReturn, done)
  else if c = '\\' && escapes then some (.escape, done)
  else if isPlain c then some (.plain, c :: done)
  else none

def blockStep (escapes : Bool) (state : TextState) (done : List Char) (c : Char) :
    Option (TextState × List Char) :=
  match state with
  | .plain => blockPlain escapes done c
  | .escape =>
    if isSpace c then some (.lineEnd, done)
    else if c = '\n' then some (.indent, done)
    else if c = '\r' then some (.lineReturn, done)
    else escapeStep done c
  | .code left value => codeStep left value done c
  | .lineEnd =>
    if c = '\n' then some (.indent, done)
    else if c = '\r' then some (.lineReturn, done)
    else if isSpace c then some (.lineEnd, done)
    else none
  | .lineReturn => if c = '\n' then some (.indent, done) else none
  | .indent =>
    if isSpace c || c = '\n' then some (.indent, done)
    else if c = '\r' then some (.lineReturn, done)
    else blockPlain escapes done c
  | .carriageReturn => if c = '\n' then some (.plain, '\n' :: done) else none
  | .quotes _ => none

def TextState.betweenCharacters : TextState → Bool
  | .plain => true
  | .indent => true
  | _ => false

def blockText (quote : Char) (escapes : Bool) (state : TextState) (done : List Char) :
    List Char → Option (List Char × List Char)
  | [] =>
    match state with
    | .quotes count =>
      if 3 ≤ count then some ((List.replicate (count - 3) quote ++ done).reverse, []) else none
    | _ => none
  | c :: rest =>
    match state with
    | .quotes count =>
      if c = quote then
        if count = 4 then some ((quote :: quote :: done).reverse, rest)
        else blockText quote escapes (.quotes (count + 1)) done rest
      else if 3 ≤ count then
        some ((List.replicate (count - 3) quote ++ done).reverse, c :: rest)
      else
        match blockPlain escapes (List.replicate count quote ++ done) c with
        | some (next, done) => blockText quote escapes next done rest
        | none => none
    | _ =>
      if c = quote && state.betweenCharacters then
        blockText quote escapes (.quotes 1) done rest
      else
        match blockStep escapes state done c with
        | some (next, done) => blockText quote escapes next done rest
        | none => none

def dropNewline : List Char → List Char
  | '\n' :: rest => rest
  | '\r' :: '\n' :: rest => rest
  | text => text

def literalText (done : List Char) : List Char → Option (List Char × List Char)
  | [] => none
  | c :: rest =>
    if c = '\'' then some (done.reverse, rest)
    else if isPlain c then literalText (c :: done) rest
    else none

def lineText : Scan (List Char)
  | '"' :: rest => basicText .plain [] rest
  | '\'' :: rest => literalText [] rest
  | _ => none

def text : Scan (List Char)
  | '"' :: '"' :: '"' :: rest => blockText '"' true .plain [] (dropNewline rest)
  | '\'' :: '\'' :: '\'' :: rest => blockText '\'' false .plain [] (dropNewline rest)
  | input => lineText input

end BlobRetrieval.Toml
