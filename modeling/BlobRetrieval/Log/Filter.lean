import BlobRetrieval.Log.Directive

/-!
# Log filters

A filter is a list of directives. Of the directives that apply to an event the most
specific one decides. A filter that is given but malformed is passed over for the level.
-/

set_option autoImplicit false

namespace BlobRetrieval

abbrev Filter := List Directive

inductive FilterFault where
  | unknownLevel
  | crash
  deriving DecidableEq

namespace Filter

def pieces (text : List Char) : List (List Char) :=
  text.splitOn ','

def ofText (text : String) : Except DirectiveFault Filter :=
  ((pieces text.toList).filter (!·.isEmpty)).mapM Directive.ofText

def deciding? (filter : Filter) (e : Event) : Option Directive :=
  (filter.filter (·.applies e)).foldl
    (fun best d => match best with
      | none => some d
      | some b => if d.outranks b then some d else some b) none

def allows (filter : Filter) (e : Event) : Bool :=
  match filter with
  | [] => Level.error.shows e.level
  | _ =>
    match filter.deciding? e with
    | none => false
    | some d => d.level.shows e.level

def targets : List String :=
  ["blob_sidecar_fetcher", "sidecar_client"]

def defaultText (level : Level) : String :=
  String.intercalate "," ("warn" :: targets.map fun target => target ++ "=" ++ level.name)

def ofLevel (level : Level) : Filter :=
  { level := .warn } :: targets.map fun target => { target := some target.toList, level }

def forLevel (level : String) : Except FilterFault Filter :=
  (Level.ofText? level.toList).elim (.error .unknownLevel) fun level => .ok (ofLevel level)

def choose (given : Option String) (level : String) : Except FilterFault Filter :=
  match given.map ofText with
  | some (.ok filter) => .ok filter
  | some (.error .split) => .error .crash
  | some (.error .malformed) => forLevel level
  | none => forLevel level

end Filter

end BlobRetrieval
