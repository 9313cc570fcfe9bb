import BlobRetrieval.Proofs.Program.Faults

/-!
# Runs that compare

A run that compares asks both sides for every identifier given, whatever came before, and
prints one line for each. Its exit status and its error count the lines that are no match. A
side is asked once for each time that an identifier is given, and again just where it answers
with a redirect.
-/

set_option autoImplicit false

namespace BlobRetrieval

-- What a comparison goes by.
structure Comparison where
  beacon : String
  archiver : String
  format : Format
  transport : Transport

namespace Comparison

variable (c : Comparison) (servers : Servers)

def base : Side → String
  | .beacon => c.beacon
  | .archiver => c.archiver

def client (side : Side) : Client :=
  Task.client (c.base side) c.transport

def task (ids : List String) : Task :=
  .compare (c.client .beacon) (c.client .archiver) ids c.format

def request (side : Side) (id : String) : Request :=
  ⟨"GET", trimSlashes (c.base side) ++ sidecarsPath ++ "/" ++ id, c.format.mediaType,
    some userAgent⟩

def Sendable (side : Side) (id : String) : Prop :=
  (c.transport.address (trimSlashes (c.base side) ++ sidecarsPath ++ "/" ++ id)).isOk = true

def turn (side : Side) (asked : String × Nat) : Turn :=
  ⟨asked.1, c.format, servers ⟨asked.2, side, asked.1, c.format⟩⟩

def call (side : Side) (asked : String × Nat) : Client.Call :=
  (c.turn servers side asked).call (c.client side)

def verdicts (ids : List String) : List Verdict :=
  ids.zipIdx.map fun asked =>
    verdict (c.call servers .beacon asked).outcome (c.call servers .archiver asked).outcome

section Calls

variable {c servers} {side : Side} {asked : String × Nat}

variable (servers) in
theorem place_turn (h : c.Sendable side asked.1) :
    ∃ place, (c.turn servers side asked).place (c.client side) = .ok place := by
  rw [Turn.place]
  unfold Sendable at h
  cases hp : c.transport.address (trimSlashes (c.base side) ++ sidecarsPath ++ "/" ++ asked.1) with
  | error error =>
    rw [hp] at h
    cases h
  | ok place => exact ⟨place, hp⟩

theorem chain_call (h : c.Sendable side asked.1) :
    ∃ more, (c.call servers side asked).sent = c.request side asked.1 :: more ∧
      (∀ r ∈ more, r.AsksSame (c.request side asked.1)) ∧ more.length ≤ c.transport.hops := by
  obtain ⟨place, hp⟩ := place_turn servers h
  rw [call, Turn.sent_sendable hp]
  exact c.transport.chain_follow _ _ place (c.request side asked.1)

theorem sent_unredirected (h : c.Sendable side asked.1)
    (hr : ¬(c.turn servers side asked).Redirected (c.client side)) :
    (c.call servers side asked).sent = [c.request side asked.1] := by
  obtain ⟨place, hp⟩ := place_turn servers h
  rw [call, (Turn.unredirected hr).2, Turn.requests_of_ok hp]
  rfl

end Calls

theorem sent_task (ids : List String) : (c.task ids).sent servers =
    ids.zipIdx.flatMap fun asked =>
      (c.call servers .beacon asked).sent ++ (c.call servers .archiver asked).sent := by
  rw [Task.sent, task, Task.questions, queries, List.flatMap_assoc]
  apply List.flatMap_congr
  rintro ⟨id, position⟩ -
  simp only [Query.both, List.flatMap_cons, List.flatMap_nil, List.append_nil]
  rfl

theorem sent_single {ids : List String} (h : ∀ asked ∈ ids.zipIdx, ∀ side,
      (c.call servers side asked).sent = [c.request side asked.1]) :
    (c.task ids).sent servers =
      ids.flatMap fun id => [c.request .beacon id, c.request .archiver id] := by
  have hids := List.flatMap_map Prod.fst
    (fun id => [c.request .beacon id, c.request .archiver id]) ids.zipIdx
  rw [List.zipIdx_map_fst] at hids
  rw [sent_task, hids]
  apply List.flatMap_congr
  intro asked hasked
  rw [h asked hasked .beacon, h asked hasked .archiver]
  rfl

theorem length_verdicts (ids : List String) : (c.verdicts servers ids).length = ids.length := by
  rw [verdicts, List.length_map, List.length_zipIdx]

theorem check_task (ids : List String) :
    check ((c.task ids).answer servers) ids c.format = ids.zip (c.verdicts servers ids) := by
  have hzip : (ids.zipIdx.map Prod.fst).zip (c.verdicts servers ids) =
      check ((c.task ids).answer servers) ids c.format := List.zip_map'
  rw [← hzip, List.zipIdx_map_fst]

end Comparison

theorem mismatches_zip {ids : List String} {vs : List Verdict} (h : vs.length = ids.length) :
    mismatches (ids.zip vs) = vs.countP (!·.isMatch) := by
  have hsnd : (ids.zip vs).map Prod.snd = vs := List.map_snd_zip (Nat.le_of_eq h)
  calc mismatches (ids.zip vs)
      = ((ids.zip vs).map Prod.snd).countP (!·.isMatch) := by
        rw [List.countP_map]
        rfl
    _ = vs.countP (!·.isMatch) := by rw [hsnd]

namespace Comparison

variable (c : Comparison) (servers : Servers)

/-- What a comparison prints, sends and fails with, by its verdicts. -/
theorem perform_task (ids : List String) (files : Files) (faults : WriteFaults) :
    let p := (c.task ids).perform servers files faults
    let m := (c.verdicts servers ids).countP (!·.isMatch)
    p.stdout = report (ids.zip (c.verdicts servers ids)) ∧ p.sent = (c.task ids).sent servers ∧
      p.error = (if 0 < m then some (.check ⟨m, ids.length⟩) else none) := by
  intro p m
  have hlength := c.length_verdicts servers ids
  have hzip : (ids.zip (c.verdicts servers ids)).length = ids.length := by
    rw [List.length_zip, hlength, Nat.min_self]
  obtain ⟨hstdout, hsent, -, herror⟩ := perform_compare (c.client .beacon) (c.client .archiver) ids
    c.format servers files faults
  rw [← task, check_task] at hstdout herror
  refine ⟨hstdout, hsent, herror.trans ?_⟩
  rw [checkError?, mismatches_zip hlength, hzip]
  split <;> rfl

end Comparison

structure Run.Compares (r : Run) (c : Comparison) (servers : Servers) (ids : List String) :
    Prop where
  sent : r.sent = ids.zipIdx.flatMap fun asked =>
    (c.call servers .beacon asked).sent ++ (c.call servers .archiver asked).sent
  chains : ∀ asked ∈ ids.zipIdx, ∀ side, ∃ more,
    (c.call servers side asked).sent = c.request side asked.1 :: more ∧
      (∀ r ∈ more, r.AsksSame (c.request side asked.1)) ∧ more.length ≤ c.transport.hops
  single : (∀ asked ∈ ids.zipIdx, ∀ side,
      ¬(c.turn servers side asked).Redirected (c.client side)) →
    r.sent = ids.flatMap fun id => [c.request .beacon id, c.request .archiver id]
  lines : r.stdout = String.join
    ((ids.zip (c.verdicts servers ids)).map fun (id, v) => id ++ ": " ++ v.message ++ "\n")
  succeeds : r.status = 0 ↔ ∀ v ∈ c.verdicts servers ids, v.isMatch = true
  fails : ¬(∀ v ∈ c.verdicts servers ids, v.isMatch = true) →
    r.status = 1 ∧ ∃ m error,
      m = (c.verdicts servers ids).countP (!·.isMatch) ∧ 1 ≤ m ∧ m ≤ ids.length ∧
      r.error = some error ∧ error.causes = [] ∧
      error.message = toString m ++ " of " ++ toString ids.length ++ " identifiers did not match"

theorem isMatch_iff_countP (vs : List Verdict) :
    (∀ v ∈ vs, v.isMatch = true) ↔ vs.countP (!·.isMatch) = 0 := by
  simp [List.countP_eq_zero]

theorem compares_of_effects {r : Run} {c : Comparison} {servers : Servers} {files : Files}
    {faults : WriteFaults} {ids : List String} (hurls : ∀ id ∈ ids, ∀ side, c.Sendable side id)
    (h : r.effects = ((c.task ids).perform servers files faults).effects) :
    r.Compares c servers ids := by
  have hsendable : ∀ asked ∈ ids.zipIdx, ∀ side, c.Sendable side asked.1 :=
    fun asked hasked side => hurls asked.1 (List.fst_mem_of_mem_zipIdx hasked) side
  obtain ⟨hstdout, hsent, herror⟩ := c.perform_task servers ids files faults
  replace hstdout := (congrArg Effects.stdout h).trans hstdout
  replace hsent := (congrArg Effects.sent h).trans hsent
  replace herror := (congrArg Effects.error h).trans (congrArg (Option.map ProgramError.task) herror)
  have hcrashed : r.crashed = false := congrArg Effects.crashed h
  change r.error = _ at herror
  refine ⟨hsent.trans (c.sent_task servers ids), ?_, ?_, hstdout, ?_, ?_⟩
  · intro asked hasked side
    exact Comparison.chain_call (hsendable asked hasked side)
  · intro hstay
    exact hsent.trans (c.sent_single servers fun asked hasked side =>
      Comparison.sent_unredirected (hsendable asked hasked side) (hstay asked hasked side))
  · rw [isMatch_iff_countP]
    by_cases hm : (c.verdicts servers ids).countP (!·.isMatch) = 0
    · simp [Run.status, herror, hcrashed, hm]
    · simp [Run.status, herror, hcrashed, hm, Nat.pos_of_ne_zero hm, ProgramError.status]
  · rw [isMatch_iff_countP]
    intro hm
    have hle : (c.verdicts servers ids).countP (!·.isMatch) ≤ ids.length :=
      c.length_verdicts servers ids ▸ List.countP_le_length
    rw [if_pos (Nat.pos_of_ne_zero hm)] at herror
    refine ⟨?_, _, _, rfl, Nat.pos_of_ne_zero hm, hle, herror, rfl, rfl⟩
    rw [Run.status, herror, hcrashed]
    rfl

namespace Program

variable {env : Environment} {arguments : List String} {line : CommandLine}
  {loaded : Config.Loaded}

/-- Whatever the servers do, a run that has two sides to compare asks both for every identifier
given, prints a line for each, and fails if one of the lines is no match. Each side is asked once
for each, unless it redirects. Without a client, nobody is asked. -/
theorem run_compare (h : Accepts env arguments line loaded) {filter : Filter}
    (hfilter : (line.settings loaded.config).filter env = .ok filter) {ids : List String}
    {format : Option Format} {beaconUrl archiverUrl : Option String}
    (hcommand : line.command = .compare ids format beaconUrl archiverUrl) {archiver : String}
    (harchiver : archiverUrl.or loaded.config.archiverUrl = some archiver) (servers : Servers)
    (system : System) :
    let c : Comparison := ⟨beaconUrl.getD loaded.config.beaconUrl, archiver,
      format.getD loaded.config.format, system.transport⟩
    let r := run env servers arguments system
    (∀ cause, system.noClient = some cause → r.Unstarted env.files (.noClient cause)) ∧
      (system.noClient = none → (∀ id ∈ ids, ∀ side, c.Sendable side id) →
        r.Compares c servers ids) := by
  intro c r
  have heffects : r.effects = _ := run_effects h servers system
  have htask : (line.settings loaded.config).task? system.transport line.command =
      some (c.task ids) := by
    rw [CommandLine.task?_settings, hcommand, Task.ofCommand, harchiver]
    rfl
  simp only [Settings.effects, hfilter, Settings.loggedEffects, htask] at heffects
  constructor
  · intro cause hcause
    rw [hcause] at heffects
    exact Run.unstarted_of_effects heffects rfl
  · intro hclient hurls
    rw [hclient] at heffects
    exact compares_of_effects hurls heffects

/-- Of three identifiers the first is given again in the end. Neither side has anything for it,
and nobody answers to the one in between. -/
theorem run_compare_unanswered :
    let arguments := ["compare", "7", "8", "7", "--archiver-url", "http://archiver/"]
    let line : CommandLine := ⟨none, none, .compare ["7", "8", "7"] none none "http://archiver/"⟩
    let servers : Servers := fun q _ =>
      if q.id = "7" then .answered { status := 404 } else .unreachable
    let c : Comparison := ⟨"http://localhost:5052", "http://archiver/", .json, .standard⟩
    let r := run {} servers arguments
    Accepts {} arguments line { config := {} } ∧ r.Compares c servers ["7", "8", "7"] ∧
      r.status = 1 ∧ ∃ error, r.error = some error ∧
        error.message = "1 of 3 identifiers did not match" := by
  intro arguments line servers c r
  have haccepts : Accepts {} arguments line { config := {} } := ⟨by rfl, by rfl⟩
  have hurls : ∀ id ∈ ["7", "8", "7"], ∀ side, c.Sendable side id := by
    have hboth : ∀ id ∈ ["7", "8", "7"], (c.transport.address (trimSlashes (c.base .beacon) ++
        sidecarsPath ++ "/" ++ id)).isOk = true ∧ (c.transport.address (trimSlashes
        (c.base .archiver) ++ sidecarsPath ++ "/" ++ id)).isOk = true := by
      decide +kernel
    intro id hid side
    cases side with
    | beacon => exact (hboth id hid).1
    | archiver => exact (hboth id hid).2
  have hfilter : (line.settings {}).filter {} = .ok (.ofLevel .info) :=
    show Filter.choose none "info" = .ok (.ofLevel .info) from rfl
  have hcompares : r.Compares c servers ["7", "8", "7"] :=
    (run_compare haccepts hfilter rfl rfl servers {}).2 rfl hurls
  have hcount : (c.verdicts servers ["7", "8", "7"]).countP (!·.isMatch) = 1 := by
    decide +kernel
  have hsome : ¬∀ v ∈ c.verdicts servers ["7", "8", "7"], v.isMatch = true := by
    rw [isMatch_iff_countP, hcount]
    decide
  obtain ⟨hstatus, m, error, hm, -, -, herror, -, hmessage⟩ := hcompares.fails hsome
  rw [hm.trans hcount] at hmessage
  exact ⟨haccepts, hcompares, hstatus, error, herror, hmessage⟩

/-- The beacon node moves on to a server that has nothing, like the archiver. Three requests are
sent for one identifier, and what was a redirect on one side counts as a match. -/
theorem run_compare_moved :
    let arguments := ["compare", "7", "--beacon-url", "http://beacon.example", "--archiver-url",
      "http://archiver.example"]
    let line : CommandLine := ⟨none, none,
      .compare ["7"] none "http://beacon.example" "http://archiver.example"⟩
    let missing : Response := { status := 404 }
    let servers : Servers := fun q _ => match q.side with
      | .beacon => .redirected { status := 302 } "http://elsewhere.example/".toUTF8.toList
          fun _ => .answered missing
      | .archiver => .answered missing
    let r := run {} servers arguments
    Accepts {} arguments line { config := {} } ∧
      r.sent.length = 3 ∧ r.stdout = "7: ok (HTTP 404, 0 sidecars)\n" ∧ r.status = 0 := by
  intro arguments line missing servers r
  have haccepts : Accepts {} arguments line { config := {} } := ⟨by rfl, by rfl⟩
  exact ⟨haccepts, by decide +kernel⟩

end Program

end BlobRetrieval
