import BlobRetrieval.Text.Alphanumeric

/-!
# Patterns

Regular expressions, as far as it takes to tell which of them a matcher can be
built for: their form, how deeply they are nested, and the names of their groups.
-/

set_option autoImplicit false

namespace BlobRetrieval

inductive Switch where
  | caseless
  | lineAnchors
  | dotAll
  | lazy
  | unicode
  | carriageReturns
  | spaced
  deriving DecidableEq

abbrev Switches := List (Switch × Bool)

structure Literal where
  char : Char
  isByte : Bool := false
  deriving DecidableEq

inductive ClassSet where
  | empty
  | literal (value : Literal)
  | range (first last : Literal)
  | named (negated : Bool)
  | kind (negated : Bool)
  | nested (negated : Bool) (set : ClassSet)
  | union (items : List ClassSet)
  | operation (left right : ClassSet)

inductive Pattern where
  | empty
  | literal (value : Literal)
  | dot
  | edge
  | wordEdge
  | kind (negated : Bool)
  | bracketed (negated : Bool) (set : ClassSet)
  | switches (turned : Switches)
  | group (name : Option (List Char)) (turned : Switches) (inner : Pattern)
  | repeated (inner : Pattern)
  | sequence (items : List Pattern)
  | choice (branches : List Pattern)

namespace ClassSet

def ofItems : List ClassSet → ClassSet
  | [] => .empty
  | [item] => item
  | items => .union items

mutual

def height : ClassSet → Nat
  | .nested _ set => set.height + 1
  | .union items => heights items + 1
  | .operation left right => max left.height right.height + 1
  | _ => 0

def heights : List ClassSet → Nat
  | [] => 0
  | item :: rest => max item.height (heights rest)

end

end ClassSet

namespace Pattern

def ofItems : List Pattern → Pattern
  | [] => .empty
  | [item] => item
  | items => .sequence items

def ofBranches : List Pattern → Pattern
  | [branch] => branch
  | branches => .choice branches

mutual

def height : Pattern → Nat
  | .bracketed _ set => set.height + 1
  | .group _ _ inner => inner.height + 1
  | .repeated inner => inner.height + 1
  | .sequence items => heights items + 1
  | .choice branches => heights branches + 1
  | _ => 0

def heights : List Pattern → Nat
  | [] => 0
  | item :: rest => max item.height (heights rest)

end

mutual

def names : Pattern → List (List Char)
  | .group name _ inner => name.toList ++ inner.names
  | .repeated inner => inner.names
  | .sequence items => namesIn items
  | .choice branches => namesIn branches
  | _ => []

def namesIn : List Pattern → List (List Char)
  | [] => []
  | item :: rest => item.names ++ namesIn rest

end

def heightLimit : Nat := 250

end Pattern

end BlobRetrieval
