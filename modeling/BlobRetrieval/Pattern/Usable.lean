import BlobRetrieval.Pattern.Reader

/-!
# Patterns that can be used

A matcher works on the bytes of a text and has no tables of characters. So it knows
digits, blanks, words and letter case in ASCII only, where Unicode is switched off,
and there it may not match a part of a character.
-/

set_option autoImplicit false

namespace BlobRetrieval

structure PatternMode where
  caseless : Bool := false
  unicode : Bool := true

namespace PatternMode

def turn (m : PatternMode) : Switch × Bool → PatternMode
  | (.caseless, on) => { m with caseless := on }
  | (.unicode, on) => { m with unicode := on }
  | _ => m

def after (m : PatternMode) (turned : Switches) : PatternMode :=
  turned.foldl turn m

def takesLiteral (m : PatternMode) (value : Literal) : Bool :=
  if m.unicode then !m.caseless else !(value.isByte && 0x80 ≤ value.char.toNat)

def takesMember (m : PatternMode) (value : Literal) : Bool :=
  if m.unicode then !m.caseless else value.char.toNat < 0x80

def takesComplement (m : PatternMode) (negated : Bool) : Bool :=
  m.unicode || !negated

mutual

def takesSet (m : PatternMode) : ClassSet → Bool
  | .empty => true
  | .literal value => m.takesMember value
  | .range first last => m.takesMember first && m.takesMember last
  | .named negated => if m.unicode then !m.caseless else !negated
  | .kind negated => !m.unicode && !negated
  | .nested negated set => m.takesComplement negated && m.takesSet set
  | .union items => m.takesSets items
  | .operation left right => m.takesSet left && m.takesSet right

def takesSets (m : PatternMode) : List ClassSet → Bool
  | [] => true
  | item :: rest => m.takesSet item && m.takesSets rest

end

mutual

def behind? (m : PatternMode) : Pattern → Option PatternMode
  | .empty => some m
  | .literal value => if m.takesLiteral value then some m else none
  | .dot => if m.unicode then some m else none
  | .edge => some m
  | .wordEdge => if m.unicode then none else some m
  | .kind negated => if !m.unicode && !negated then some m else none
  | .bracketed negated set =>
    if m.takesComplement negated && m.takesSet set then some m else none
  | .switches turned => some (m.after turned)
  | .group _ turned inner => ((m.after turned).behind? inner).map fun _ => m
  | .repeated inner => m.behind? inner
  | .sequence items => m.behindAll? items
  | .choice branches => m.behindAll? branches

def behindAll? (m : PatternMode) : List Pattern → Option PatternMode
  | [] => some m
  | item :: rest =>
    match m.behind? item with
    | some m => m.behindAll? rest
    | none => none

end

end PatternMode

namespace Pattern

def isUsable (p : Pattern) : Bool :=
  p.height ≤ heightLimit && p.names.Nodup && (({} : PatternMode).behind? p).isSome

def usableText (text : List Char) : Bool :=
  match ofText? text with
  | some p => p.isUsable
  | none => false

end Pattern

end BlobRetrieval
