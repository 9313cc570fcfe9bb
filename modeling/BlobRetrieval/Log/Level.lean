import BlobRetrieval.Decimal
import BlobRetrieval.Text.AsciiCase

/-!
# Log levels

The levels from `off` to `trace`, each of which shows the events up to itself.
-/

set_option autoImplicit false

namespace BlobRetrieval

inductive Level where
  | off
  | error
  | warn
  | info
  | debug
  | trace
  deriving DecidableEq

namespace Level

def all : List Level :=
  [.off, .error, .warn, .info, .debug, .trace]

def rank : Level → Nat
  | .off => 0
  | .error => 1
  | .warn => 2
  | .info => 3
  | .debug => 4
  | .trace => 5

def name : Level → String
  | .off => "off"
  | .error => "error"
  | .warn => "warn"
  | .info => "info"
  | .debug => "debug"
  | .trace => "trace"

def label : Level → String
  | .off => "OFF"
  | .error => "ERROR"
  | .warn => "WARN"
  | .info => "INFO"
  | .debug => "DEBUG"
  | .trace => "TRACE"

def shows (limit event : Level) : Bool :=
  event.rank ≤ limit.rank

def ofText? (text : List Char) : Option Level :=
  match Decimal.readUInt64? text with
  | some n => all.find? fun level => level.rank = n.toNat
  | none =>
    if text.isEmpty then some .error
    else all.find? fun level => sameIgnoringCase level.name.toList text

def unknownMessage (text : String) : String :=
  "invalid log level `" ++ text ++ "`"

end Level

end BlobRetrieval
