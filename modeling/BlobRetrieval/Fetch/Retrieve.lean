import BlobRetrieval.Files
import BlobRetrieval.Log.Event
import BlobRetrieval.Sidecar.Summary

/-!
# Retrieving the sidecars of one identifier

What is done with the outcome of a fetch: sidecars that were found are summarized
and perhaps written to a file, a missing block is no failure, and anything else is.
-/

set_option autoImplicit false

namespace BlobRetrieval

inductive RetrieveError where
  | fetch (id : String) (error : FetchError)
  | otherStatus (id : String) (code : UInt16)
  | write (path : String) (error : FileError)
  deriving DecidableEq

namespace RetrieveError

def message : RetrieveError → String
  | .fetch id _ => "fetching sidecars for " ++ id
  | .otherStatus id code =>
    "beacon API returned HTTP " ++ toString code.toNat ++ " for " ++ id
  | .write path _ => "failed to write " ++ path

def causes : RetrieveError → List String
  | .fetch _ error => [error.message]
  | .otherStatus _ _ => []
  | .write _ error => [error.message]

end RetrieveError

structure Retrieval where
  stdout : String
  log : List Event
  files : Files
  result : Except RetrieveError Unit

def notFoundLine (id : String) : String :=
  "No sidecars for " ++ id ++ " (HTTP " ++ toString notFoundStatus.toNat ++ ")\n"

def save (files : Files) (path : String) (format : Format) (sidecars : List Sidecar)
    (stdout : String) (faults : WriteFaults := noFaults) : Retrieval :=
  let content := format.encode sidecars
  match files.write faults path content with
  | (files, some error) => ⟨stdout, [], files, .error (.write path error)⟩
  | (files, none) => ⟨stdout, [.wrote path content.length format], files, .ok ()⟩

def retrieve (files : Files) (id : String) (format : Format) (output : Option String)
    (outcome : Outcome) (faults : WriteFaults := noFaults) : Retrieval :=
  match outcome.toExcept with
  | .error error => ⟨"", [], files, .error (.fetch id error)⟩
  | .ok (status, sidecars) =>
    if status = okStatus then
      let stdout := summarize id sidecars
      match output with
      | none => ⟨stdout, [], files, .ok ()⟩
      | some path => save files path format sidecars stdout faults
    else if status = notFoundStatus then ⟨notFoundLine id, [], files, .ok ()⟩
    else ⟨"", [], files, .error (.otherStatus id status)⟩

end BlobRetrieval
