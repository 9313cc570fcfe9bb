import BlobRetrieval.Sidecar.Basic
import BlobRetrieval.Decimal

/-!
# Summaries

One line that says how many sidecars there are, then one line for each of them.
Numbers are padded to the right up to the width of their column and may outgrow it.
-/

set_option autoImplicit false

namespace BlobRetrieval.Summary

def padTo (width : Nat) (text : List Char) : List Char :=
  text ++ List.replicate (width - text.length) ' '

def line (s : Sidecar) : List Char :=
  "  index=".toList ++ padTo 4 (Decimal.digits s.index.toNat)
    ++ " slot=".toList ++ padTo 10 (Decimal.digits s.slot.toNat)
    ++ " commitment=".toList ++ Hex.marked s.commitment.bytes ++ ['\n']

def heading (id : String) (count : Nat) : List Char :=
  "Sidecars for ".toList ++ id.toList ++ ": ".toList ++ Decimal.digits count ++ ['\n']

end Summary

def summarize (id : String) (sidecars : List Sidecar) : String :=
  String.ofList (Summary.heading id sidecars.length ++ sidecars.flatMap Summary.line)

end BlobRetrieval
