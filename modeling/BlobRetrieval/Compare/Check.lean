import BlobRetrieval.Compare.Verdict

/-!
# Checking identifiers

Every identifier is asked for on both sides, beacon first, and the two answers are
compared. The report has one line for each identifier given, in the order given.
-/

set_option autoImplicit false

namespace BlobRetrieval

/-- One question to one side; `position` tells apart identifiers that are given twice. -/
structure Query where
  position : Nat
  side : Side
  id : String
  format : Format
  deriving DecidableEq

namespace Query

def both (format : Format) (position : Nat) (id : String) : List Query :=
  [⟨position, .beacon, id, format⟩, ⟨position, .archiver, id, format⟩]

end Query

def queries (ids : List String) (format : Format) : List Query :=
  ids.zipIdx.flatMap fun (id, position) => Query.both format position id

def check (answer : Query → Outcome) (ids : List String) (format : Format) :
    List (String × Verdict) :=
  ids.zipIdx.map fun (id, position) =>
    (id, verdict (answer ⟨position, .beacon, id, format⟩)
      (answer ⟨position, .archiver, id, format⟩))

def verdictLine (result : String × Verdict) : String :=
  result.1 ++ ": " ++ result.2.message ++ "\n"

def report (results : List (String × Verdict)) : String :=
  String.join (results.map verdictLine)

def mismatches (results : List (String × Verdict)) : Nat :=
  results.countP fun result => !result.2.isMatch

structure CheckError where
  mismatched : Nat
  total : Nat
  deriving DecidableEq

def CheckError.message (e : CheckError) : String :=
  toString e.mismatched ++ " of " ++ toString e.total ++ " identifiers did not match"

def checkError? (results : List (String × Verdict)) : Option CheckError :=
  if 0 < mismatches results then some ⟨mismatches results, results.length⟩ else none

end BlobRetrieval
