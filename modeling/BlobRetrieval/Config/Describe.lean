import BlobRetrieval.Config.Basic

/-!
# A configuration in a log line

The settings by name, with texts in quotes.
-/

set_option autoImplicit false

namespace BlobRetrieval

def describeFormat : Format → String
  | .json => "Json"
  | .ssz => "Ssz"

def describeText (text : String) : String :=
  Quoted.text text.toList

def Config.describe (c : Config) : String :=
  "AppConfig \x7b beacon_url: " ++ describeText c.beaconUrl
    ++ ", archiver_url: " ++ (match c.archiverUrl with
      | some url => "Some(" ++ describeText url ++ ")"
      | none => "None")
    ++ ", format: " ++ describeFormat c.format
    ++ ", timeout_secs: " ++ toString c.timeoutSecs.toNat
    ++ ", log_level: " ++ describeText c.logLevel ++ " \x7d"

end BlobRetrieval
