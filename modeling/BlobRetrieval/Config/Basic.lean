import BlobRetrieval.Fetch.Format

/-!
# Configuration

The five settings and their defaults, with the reader and the value for JSON.
-/

set_option autoImplicit false

namespace BlobRetrieval

structure Config where
  beaconUrl : String := "http://localhost:5052"
  archiverUrl : Option String := none
  format : Format := .json
  timeoutSecs : UInt64 := 30
  logLevel : String := "info"
  deriving DecidableEq

namespace Config

def default : Config := {}

structure Draft where
  beaconUrl : Option String := none
  archiverUrl : Option (Option String) := none
  format : Option Format := none
  timeoutSecs : Option UInt64 := none
  logLevel : Option String := none

def Draft.complete (d : Draft) : Config where
  beaconUrl := d.beaconUrl.getD default.beaconUrl
  archiverUrl := d.archiverUrl.getD default.archiverUrl
  format := d.format.getD default.format
  timeoutSecs := d.timeoutSecs.getD default.timeoutSecs
  logLevel := d.logLevel.getD default.logLevel

open Json Reader

def exactFormat (name : List Char) : Except Cause Format :=
  if name = Format.json.name.toList then .ok .json
  else if name = Format.ssz.name.toList then .ok .ssz
  else .error (.unknownVariant name)

def unitValue : Reader Unit := do
  match ← peekToken with
  | none => failNext .endInValue
  | some b =>
    if b = 110 then
      advance
      word [117, 108, 108]
    else refuse .unit b

def variantName : Reader Format := do
  match ← peekToken with
  | some 34 => textAs .variantName exactFormat
  | some 125 => failNext .noValue
  | some _ => failNext .keyNotString
  | none => failNext .endInObject

def readFormat : Reader Format := do
  match ← peekToken with
  | none => failNext .endInValue
  | some 34 => textAs .variantName exactFormat
  | some 123 =>
    advance
    let format ← variantName
    colon
    unitValue
    match ← peekToken with
    | some 125 => advance; return format
    | some _ => failHere .noValue
    | none => failHere .endInObject
  | some _ => failNext .noValue

def record : Record Draft Config where
  name := "AppConfig"
  empty := {}
  finish d := .ok d.complete
  fields := [
    .defaulted "beacon_url" (·.beaconUrl)
      (fun d v => { d with beaconUrl := some v }) (String.ofList <$> readText),
    .defaulted "archiver_url" (·.archiverUrl)
      (fun d v => { d with archiverUrl := some v }) (orNull (String.ofList <$> readText)),
    .defaulted "format" (·.format) (fun d v => { d with format := some v }) readFormat,
    .defaulted "timeout_secs" (·.timeoutSecs)
      (fun d v => { d with timeoutSecs := some v }) readUInt64,
    .defaulted "log_level" (·.logLevel)
      (fun d v => { d with logLevel := some v }) (String.ofList <$> readText)]

def toJson (c : Config) : Json :=
  .object [
    ("beacon_url".toList, .ofText c.beaconUrl),
    ("archiver_url".toList, match c.archiverUrl with
      | some url => .ofText url
      | none => .null),
    ("format".toList, .ofText c.format.name),
    ("timeout_secs".toList, .ofNumber c.timeoutSecs),
    ("log_level".toList, .ofText c.logLevel)]

end Config

end BlobRetrieval
