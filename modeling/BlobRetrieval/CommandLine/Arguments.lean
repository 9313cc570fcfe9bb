import BlobRetrieval.CommandLine.Basic

/-!
# Reading a command line

Arguments are read from left to right. An option takes its value behind an equals
sign or from the next argument; a value that came in the next argument is looked at
only when something else is accepted behind it, so an argument that is not accepted
is reported in its place. Behind two hyphens everything is a plain word.
-/

set_option autoImplicit false

namespace BlobRetrieval

inductive Argument where
  | separator
  | long (name : String) (value : Option String)
  | short (letter : Char)
  | word
  deriving DecidableEq

def valuePart? (text : List Char) : Option String :=
  match text.dropWhile (· ≠ '=') with
  | [] => none
  | _ :: value => some (String.ofList value)

def Argument.ofText (text : String) : Argument :=
  match text.toList with
  | ['-', '-'] => .separator
  | '-' :: '-' :: rest => .long (String.ofList (rest.takeWhile (· ≠ '='))) (valuePart? rest)
  | '-' :: letter :: _ => .short letter
  | _ => .word

structure Gathered where
  values : List (Flag × String) := []
  words : List String := []
  pending : Option (Flag × Option String) := none

namespace Gathered

def value? (g : Gathered) (flag : Flag) : Option String :=
  g.values.lookup flag

def format? (g : Gathered) : Option Format :=
  (g.value? .format).bind fun text => (Format.ofText text).toOption

def awaiting? (g : Gathered) : Option Flag :=
  match g.pending with
  | some (flag, none) => some flag
  | _ => none

def settle (g : Gathered) : Except UsageError Gathered :=
  match g.pending with
  | none => .ok g
  | some (_, none) => .error .noValue
  | some (flag, some value) =>
    if (g.value? flag).isSome then .error .givenTwice
    else match flag.objection? value with
      | some error => .error error
      | none => .ok { g with values := g.values ++ [(flag, value)], pending := none }

def help (g : Gathered) : Except UsageError Gathered := do
  let _ ← g.settle
  .error .helpWanted

def takeFlag (g : Gathered) (flag : Flag) (value : Option String) :
    Except UsageError Gathered := do
  let g ← g.settle
  let g : Gathered := { g with pending := some (flag, value) }
  if value.isSome then g.settle else return g

def takeLong (known : List Flag) (g : Gathered) (name : String) (value : Option String) :
    Except UsageError Gathered :=
  if name = "help" then
    if value.isSome then .error .unwantedValue else g.help
  else
    match known.find? (·.name = name) with
    | none => .error .unknownArgument
    | some flag => g.takeFlag flag value

def takeShort (g : Gathered) (letter : Char) : Except UsageError Gathered :=
  if letter = 'h' then g.help else .error .unknownArgument

def takeWord (command : CommandName) (g : Gathered) (word : String) :
    Except UsageError Gathered :=
  if command.hasRoom g.words then do
    let g ← g.settle
    return { g with words := word :: g.words }
  else .error .unknownArgument

def take (command : CommandName) (g : Gathered) (text : String) : Except UsageError Gathered :=
  match Argument.ofText text with
  | .long name value => g.takeLong command.flags name value
  | .short letter => g.takeShort letter
  | _ =>
    match g.awaiting? with
    | some flag => .ok { g with pending := some (flag, some text) }
    | none => g.takeWord command text

def takeAll (command : CommandName) (g : Gathered) : List String → Except UsageError Gathered
  | [] => g.settle
  | text :: rest =>
    if Argument.ofText text = .separator then do
      (← rest.foldlM (takeWord command) g).settle
    else do
      (← g.take command text).takeAll command rest

end Gathered

def CommandName.command (name : CommandName) (g : Gathered) : Except UsageError Command :=
  match name, g.words.reverse with
  | _, [] => .error .noIdentifier
  | .fetch, id :: _ => .ok (.fetch id g.format? (g.value? .url) (g.value? .output))
  | .compare, ids =>
    .ok (.compare ids g.format? (g.value? .beaconUrl) (g.value? .archiverUrl))

def helpAbout : List String → UsageError
  | [] => .helpWanted
  | [name] =>
    if name = "help" || (CommandName.ofText? name).isSome then .helpWanted else .unknownCommand
  | _ => .unknownCommand

namespace CommandLine

/-- Reads the arguments behind the name of a command. An option that stands in front of the
name as well is the one behind it; those in front are looked at last. -/
def behind (name : CommandName) (front : Gathered) (arguments : List String) :
    Except UsageError CommandLine := do
  let g ← Gathered.takeAll name {} arguments
  let command ← name.command g
  let front ← front.settle
  return {
    config := (g.value? .config).or (front.value? .config)
    logLevel := (g.value? .logLevel).or (front.value? .logLevel)
    command }

def misplaced (front : Gathered) : List String → Except UsageError CommandLine
  | [] => do
    let front ← front.settle
    .error (if front.values.isEmpty then .nothingGiven else .noCommand)
  | text :: _ =>
    if text = "help" || (CommandName.ofText? text).isSome then .error .unknownArgument
    else .error .unknownCommand

def extend (front : Gathered) : List String → Except UsageError CommandLine
  | [] => misplaced front []
  | text :: rest =>
    match Argument.ofText text with
    | .separator => misplaced front rest
    | .long name value => do
      extend (← front.takeLong Flag.anywhere name value) rest
    | .short letter => do
      extend (← front.takeShort letter) rest
    | .word =>
      match front.awaiting? with
      | some flag => extend { front with pending := some (flag, some text) } rest
      | none =>
        if text = "help" then .error (helpAbout rest)
        else match CommandName.ofText? text with
          | some name => behind name front rest
          | none => .error .unknownCommand

def ofArguments (arguments : List String) : Except UsageError CommandLine :=
  extend {} arguments

end CommandLine

end BlobRetrieval
