import BlobRetrieval.Bytes

/-!
# Files

Files by their names, seen from the folder that the program runs in: a name inside it is a
relative one, and any other begins with a slash. A path is walked from folder to folder,
through links too, and leads to a file under its name, however it spells the way there. A
write empties the file and then fills it, so where it breaks off, a front of the content is
left. What the system does about a write is a parameter, and a device keeps nothing.
-/

set_option autoImplicit false

namespace BlobRetrieval

inductive FileError where
  | nulInPath
  | nameTooLong
  | notFound
  | notDirectory
  | isDirectory
  | tooManyLinks
  | system (text : String)
  deriving DecidableEq

def FileError.message : FileError → String
  | .nulInPath => "file name contained an unexpected NUL byte"
  | .nameTooLong => "File name too long (os error 36)"
  | .notFound => "No such file or directory (os error 2)"
  | .notDirectory => "Not a directory (os error 20)"
  | .isDirectory => "Is a directory (os error 21)"
  | .tooManyLinks => "Too many levels of symbolic links (os error 40)"
  | .system text => text

/-- Why a write fails: the file cannot be opened, or there is room for so many bytes only. -/
inductive WriteFault where
  | refused (error : FileError)
  | full (room : Nat) (error : FileError)
  deriving DecidableEq

-- The fault that a write to the file of a name meets with.
abbrev WriteFaults := String → Option WriteFault

def noFaults : WriteFaults := fun _ => none

-- The names of the folders around, from the root on.
abbrev Place := List String

-- Names of files and folders are those that `Files.name` gives. `links` lead on to another path,
-- and `twins` are further names of files. The folder that the program runs in is at `here`; by
-- default that is a place which no path can spell.
structure Files where
  contents : List (String × Bytes) := []
  folders : List String := ["/dev"]
  links : List (String × String) := []
  twins : List (String × String) := []
  devices : List String := ["/dev/null"]
  here : Place := [""]

namespace Files

def find? : List (String × Bytes) → String → Option Bytes
  | [], _ => none
  | f :: rest, name => if f.1 = name then some f.2 else find? rest name

def nameLimit : Nat := 255

def pathLimit : Nat := 4095

def linkLimit : Nat := 40

def steps (path : String) : List String :=
  (path.toList.splitOn '/').map String.ofList

-- A name that leads nowhere else: nothing between two slashes, or a folder's own entry.
def isIdle (step : String) : Bool :=
  step.isEmpty || step = "."

def name (files : Files) (place : Place) : String :=
  if files.here.isPrefixOf place then "/".intercalate (place.drop files.here.length)
  else "/" ++ "/".intercalate place

def isFolder (files : Files) (place : Place) : Bool :=
  place.isPrefixOf files.here || files.folders.contains (files.name place)

def own (files : Files) (name : String) : String :=
  (files.twins.lookup name).getD name

def isThere (files : Files) (name : String) : Bool :=
  files.devices.contains name || (find? files.contents name).isSome

def start (files : Files) (path : String) : Place :=
  if path.toList.head? = some '/' then [] else files.here

inductive Step where
  | enter (place : Place)
  | jump (place : Place) (steps : List String)
  | file (name : String)
  | through (name : String)
  | blocked (error : FileError)

-- Takes a step from a folder, with `rest` still to go.
def step (files : Files) (place : Place) (step : String) (rest : List String) : Step :=
  let there := place ++ [step]
  let name := files.name there
  if isIdle step then .enter place
  else if step = ".." then .enter place.dropLast
  else if !rest.isEmpty && rest.all (·.isEmpty) then .blocked .isDirectory
  else if nameLimit < step.utf8ByteSize then .blocked .nameTooLong
  else match files.links.lookup name with
    | some target => .jump (if target.toList.head? = some '/' then [] else place)
        (steps target ++ rest)
    | none =>
      if files.isFolder there then .enter there
      else if rest.isEmpty then .file (files.own name)
      else .through (files.own name)

-- The file that a path leads to may or may not be there. `jump` goes on behind a link.
def walk (files : Files) (jump : Place → List String → Except FileError String) :
    Place → List String → Except FileError String
  | _, [] => .error .isDirectory
  | place, step :: rest =>
    match files.step place step rest with
    | .enter place => files.walk jump place rest
    | .jump place steps => jump place steps
    | .file name => .ok name
    | .through name => .error (if files.isThere name then .notDirectory else .notFound)
    | .blocked error => .error error

def follow (files : Files) : Nat → Place → List String → Except FileError String
  | 0 => files.walk fun _ _ => .error .tooManyLinks
  | links + 1 => files.walk (files.follow links)

def locate (files : Files) (path : String) : Except FileError String :=
  if path.toList.contains '\x00' then .error .nulInPath
  else if pathLimit < path.utf8ByteSize then .error .nameTooLong
  else if path.isEmpty then .error .notFound
  else files.follow linkLimit (files.start path) (steps path)

def held? (files : Files) (name : String) : Option Bytes :=
  if files.devices.contains name then some [] else find? files.contents name

def content? (files : Files) (path : String) : Option Bytes :=
  (files.locate path).toOption.bind files.held?

def put : List (String × Bytes) → String → Bytes → List (String × Bytes)
  | [], name, content => [(name, content)]
  | f :: rest, name, content =>
    if f.1 = name then (name, content) :: rest else f :: put rest name content

def store (files : Files) (name : String) (content : Bytes) : Files :=
  if files.devices.contains name then files
  else { files with contents := put files.contents name content }

def write (files : Files) (faults : WriteFaults) (path : String) (content : Bytes) :
    Files × Option FileError :=
  match files.locate path with
  | .error error => (files, some error)
  | .ok name =>
    match faults name with
    | none => (files.store name content, none)
    | some (.refused error) => (files, some error)
    | some (.full room error) =>
      if content.length ≤ room then (files.store name content, none)
      else (files.store name (content.take room), some error)

def changes (before after : Files) : List (String × Bytes) :=
  after.contents.filter fun f => find? before.contents f.1 ≠ some f.2

end Files

end BlobRetrieval
