import BlobRetrieval.Text.Unprintable

/-!
# Quoted text

A text between quotes with its line breaks, quotes, backslashes and unprintable
characters escaped, as reports show it.
-/

set_option autoImplicit false

namespace BlobRetrieval.Quoted

def numbered (c : Char) : List Char :=
  "\\u\x7b".toList ++ Nat.toDigits 16 c.toNat ++ ['\x7d']

def escape (quote c : Char) : List Char :=
  if c = '\x00' then ['\\', '0']
  else if c = '\t' then ['\\', 't']
  else if c = '\r' then ['\\', 'r']
  else if c = '\n' then ['\\', 'n']
  else if c = '\\' ∨ c = quote then ['\\', c]
  else if Unprintable c then numbered c
  else [c]

def text (cs : List Char) : String :=
  String.ofList ('"' :: (cs.flatMap (escape '"') ++ ['"']))

def char (c : Char) : String :=
  String.ofList ('\'' :: (escape '\'' c ++ ['\'']))

end BlobRetrieval.Quoted
