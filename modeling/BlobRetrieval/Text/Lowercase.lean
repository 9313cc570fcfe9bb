import BlobRetrieval.Text.CaseTable

/-!
# Lower case

A text in lower case. One character becomes two, a capital I with a dot, and a
capital sigma becomes a final sigma at the end of a word.
-/

set_option autoImplicit false

namespace BlobRetrieval

def nextIsCased (text : List Char) : Bool :=
  match text.dropWhile CaseIgnorable with
  | [] => false
  | c :: _ => Cased c

def lowerSigma (before after : List Char) : Char :=
  if nextIsCased before && !nextIsCased after then '\u03c2' else '\u03c3'

def lowercaseFrom (before : List Char) : List Char → List Char
  | [] => []
  | c :: after =>
    if c = '\u0130' then 'i' :: '\u0307' :: lowercaseFrom (c :: before) after
    else if c = '\u03a3' then lowerSigma before after :: lowercaseFrom (c :: before) after
    else lowerChar c :: lowercaseFrom (c :: before) after

def lowercase (text : String) : String :=
  String.ofList (lowercaseFrom [] text.toList)

end BlobRetrieval
