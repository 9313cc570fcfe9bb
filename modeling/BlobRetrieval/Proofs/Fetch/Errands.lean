import BlobRetrieval.Fetch.Retrieve
import BlobRetrieval.Proofs.Files.Writing

/-!
# Errands in one folder

An errand is a retrieval of which the fetch has been settled. Errands are run one after
another on the same files. Each ends in one of seven ways, of which only two touch a file,
and what is in a file after all of them is what was there before or what the last errand
that opened it has left: the sidecars that it found or, where the write broke off, the front
of them.
-/

set_option autoImplicit false

namespace BlobRetrieval

structure Errand where
  id : String
  format : Format
  output : Option String
  outcome : Outcome
  faults : WriteFaults := noFaults

namespace Errand

def carry (files : Files) (e : Errand) : Retrieval :=
  retrieve files e.id e.format e.output e.outcome e.faults

def run (files : Files) : List Errand → List Retrieval
  | [] => []
  | e :: rest => e.carry files :: run (e.carry files).files rest

def after (files : Files) : List Errand → Files
  | [] => files
  | e :: rest => after (e.carry files).files rest

def encoding (e : Errand) : Bytes :=
  e.format.encode e.outcome.sidecars

-- That an errand has sidecars to write to a path.
structure Aims (e : Errand) (path : String) : Prop where
  found : e.outcome.isFound = true
  output : e.output = some path

structure Saves (e : Errand) (before : Files) (path name : String) : Prop extends e.Aims path where
  writable : before.Writable e.faults path name e.encoding

inductive Ends (before : Files) (e : Errand) : Retrieval → Prop
  | fetchFailed (error : FetchError) : e.outcome.error? = some error →
      Ends before e ⟨"", [], before, .error (.fetch e.id error)⟩
  | missing : e.outcome.error? = none → e.outcome.status = 404 →
      Ends before e ⟨notFoundLine e.id, [], before, .ok ()⟩
  | otherStatus : e.outcome.error? = none → e.outcome.status ≠ 200 → e.outcome.status ≠ 404 →
      Ends before e ⟨"", [], before, .error (.otherStatus e.id e.outcome.status)⟩
  | shown : e.outcome.isFound = true → e.output = none →
      Ends before e ⟨summarize e.id e.outcome.sidecars, [], before, .ok ()⟩
  | unopened (path : String) (error : FileError) : e.Aims path →
      before.Unopened e.faults path error →
      Ends before e
        ⟨summarize e.id e.outcome.sidecars, [], before, .error (.write path error)⟩
  | broken (path name : String) (room : Nat) (error : FileError) (files : Files) : e.Aims path →
      before.Overfull e.faults path name e.encoding room error →
      before.Left files name (e.encoding.take room) →
      Ends before e
        ⟨summarize e.id e.outcome.sidecars, [], files, .error (.write path error)⟩
  | saved (path name : String) (files : Files) : e.Saves before path name →
      before.Left files name e.encoding →
      Ends before e
        ⟨summarize e.id e.outcome.sidecars, [.wrote path e.encoding.length e.format], files,
          .ok ()⟩

end Errand

theorem Outcome.isFound_eq {o : Outcome} (he : o.error? = none) (hs : o.status = okStatus) :
    o.isFound = true := by
  simp [isFound, he, hs]

theorem Outcome.of_isFound {o : Outcome} (h : o.isFound = true) :
    o.error? = none ∧ o.status = okStatus := by
  simpa [isFound] using h

namespace Errand

theorem ends_save (before : Files) {e : Errand} {path : String} (h : e.Aims path) :
    e.Ends before (save before path e.format e.outcome.sidecars
      (summarize e.id e.outcome.sidecars) e.faults) := by
  have hw := Files.written_write before e.faults path e.encoding
  rw [encoding] at hw
  rw [save]
  generalize before.write e.faults path (e.format.encode e.outcome.sidecars) = written at hw
  cases hw with
  | unopened error hu => exact .unopened path error h hu
  | broken name room error files ho hl => exact .broken path name room error files h ho hl
  | whole name files hwritable hl => exact .saved path name files ⟨h, hwritable⟩ hl

theorem ends_carry (before : Files) (e : Errand) : e.Ends before (e.carry before) := by
  rw [carry, retrieve, Outcome.toExcept]
  cases he : e.outcome.error? with
  | some error => exact .fetchFailed error he
  | none =>
    by_cases hok : e.outcome.status = okStatus
    · have hf := Outcome.isFound_eq he hok
      simp only [if_pos hok]
      cases hp : e.output with
      | none => exact .shown hf hp
      | some path => exact ends_save before ⟨hf, hp⟩
    · by_cases hmissing : e.outcome.status = notFoundStatus
      · simp only [if_neg hok, if_pos hmissing]
        exact .missing he hmissing
      · simp only [if_neg hok, if_neg hmissing]
        exact .otherStatus he hok hmissing

-- What an errand leaves in the file of a name, if it opens that file.
def left? (before : Files) (e : Errand) (name : String) : Option Bytes :=
  if e.outcome.isFound = true ∧
      (e.output.bind fun path => (before.locate path).toOption) = some name then
    match e.faults name with
    | none => some (before.lasting name e.encoding)
    | some (.refused _) => none
    | some (.full room _) => some (before.lasting name (e.encoding.take room))
  else none

section Left

variable {before : Files} {e : Errand} {path name : String}

theorem left?_eq_none (h : ∀ path, ¬e.Aims path) (name : String) : e.left? before name = none := by
  rw [left?, if_neg]
  rintro ⟨hf, hp⟩
  obtain ⟨path, hpath, -⟩ := Option.bind_eq_some_iff.mp hp
  exact h path ⟨hf, hpath⟩

theorem not_aims (h : e.outcome.error? ≠ none ∨ e.outcome.status ≠ 200 ∨ e.output = none)
    (path : String) : ¬e.Aims path := by
  rintro ⟨hf, hp⟩
  obtain ⟨he, hs⟩ := Outcome.of_isFound hf
  rcases h with h | h | h
  · exact h he
  · exact h hs
  · rw [hp] at h
    cases h

theorem left?_of_aims (h : e.Aims path) (name : String) : e.left? before name =
    if (before.locate path).toOption = some name then
      match e.faults name with
      | none => some (before.lasting name e.encoding)
      | some (.refused _) => none
      | some (.full room _) => some (before.lasting name (e.encoding.take room))
    else none := by
  simp only [left?, h.found, h.output, true_and, Option.bind_some]

theorem left?_of_saves (h : e.Saves before path name) (other : String) :
    e.left? before other =
      if name = other then some (before.lasting name e.encoding) else none := by
  obtain ⟨hl, hf⟩ := h.writable
  rw [left?_of_aims h.toAims, hl, Except.toOption]
  by_cases hname : name = other
  · subst hname
    cases hfault : e.faults name with
    | none => simp
    | some fault =>
      obtain ⟨room, error, rfl, hroom⟩ := hf fault hfault
      simp [List.take_of_length_le hroom]
  · simp [hname]

theorem left?_of_overfull (h : e.Aims path) {room : Nat} {error : FileError}
    (ho : before.Overfull e.faults path name e.encoding room error) (other : String) :
    e.left? before other =
      if name = other then some (before.lasting name (e.encoding.take room)) else none := by
  obtain ⟨hl, hf, -⟩ := ho
  rw [left?_of_aims h, hl, Except.toOption]
  by_cases hname : name = other
  · subst hname
    simp [hf]
  · simp [hname]

theorem left?_of_unopened (h : e.Aims path) {error : FileError}
    (hu : before.Unopened e.faults path error) (name : String) : e.left? before name = none := by
  rw [left?_of_aims h]
  rcases hu with hl | ⟨other, hl, hf⟩
  · simp [hl, Except.toOption]
  · rw [hl, Except.toOption]
    by_cases hname : other = name
    · subst hname
      simp [hf]
    · simp [hname]

theorem left?_congr {files : Files} (h : files.frame = before.frame) :
    e.left? files = e.left? before := by
  have hlasting : files.lasting = before.lasting := by
    funext name content
    have hdevices : files.devices = before.devices := congrArg (·.devices) h
    rw [Files.lasting, Files.lasting, hdevices]
  funext name
  simp only [left?, hlasting, Files.locate_congr h.symm]

end Left

section Ends

variable {before : Files} {e : Errand} {r : Retrieval}

theorem Ends.frame_eq (h : e.Ends before r) : r.files.frame = before.frame := by
  cases h with
  | broken path name room error files _ _ hl => exact hl.frame
  | saved path name files _ hl => exact hl.frame
  | _ => rfl

/-- A file that an errand does not open is as it was. -/
theorem Ends.held?_eq (h : e.Ends before r) (name : String) :
    r.files.held? name = (e.left? before name).or (before.held? name) := by
  cases h with
  | fetchFailed error he =>
    rw [left?_eq_none (not_aims (.inl (by simp [he]))), Option.none_or]
  | missing he hs =>
    rw [left?_eq_none (not_aims (.inr (.inl (by simp [hs])))), Option.none_or]
  | otherStatus he hs _ =>
    rw [left?_eq_none (not_aims (.inr (.inl hs))), Option.none_or]
  | shown _ hp => rw [left?_eq_none (not_aims (.inr (.inr hp))), Option.none_or]
  | unopened path error h hu => rw [left?_of_unopened h hu, Option.none_or]
  | broken path there room error files h ho hl =>
    rw [left?_of_overfull h ho, hl.held]
    split <;> simp
  | saved path there files hs hl =>
    rw [left?_of_saves hs, hl.held]
    split <;> simp

theorem Ends.of_saves (h : e.Ends before r) {path name : String} (hs : e.Saves before path name) :
    r.result = .ok () ∧ r.log = [.wrote path e.encoding.length e.format] ∧
      before.Left r.files name e.encoding := by
  obtain ⟨he, hstatus⟩ := Outcome.of_isFound hs.found
  cases h with
  | fetchFailed error hfailed => simp [he] at hfailed
  | missing _ hmissing => simp [hstatus, okStatus] at hmissing
  | otherStatus _ hother _ => exact absurd hstatus hother
  | shown _ hp => simp [hs.output] at hp
  | unopened output error ha hu =>
    cases hs.output.symm.trans ha.output
    exact absurd hu hs.writable.not_unopened
  | broken output there room error files ha ho _ =>
    cases hs.output.symm.trans ha.output
    exact absurd ho hs.writable.not_overfull
  | saved output there files hs' hl =>
    cases hs.output.symm.trans hs'.output
    cases hs.writable.1.symm.trans hs'.writable.1
    exact ⟨rfl, rfl, hl⟩

theorem Ends.log_eq_nil (h : e.Ends before r) (hs : ∀ path name, ¬e.Saves before path name) :
    r.log = [] := by
  cases h with
  | saved path name files hsaves _ => exact absurd hsaves (hs path name)
  | _ => rfl

end Ends

-- What the last of some errands that open a file leaves in it.
def lastLeft? (files : Files) (errands : List Errand) (name : String) : Option Bytes :=
  (errands.filterMap fun e => e.left? files name).getLast?

theorem lastLeft?_cons (files : Files) (e : Errand) (rest : List Errand) (name : String) :
    lastLeft? files (e :: rest) name = (lastLeft? files rest name).or (e.left? files name) := by
  rw [lastLeft?, lastLeft?]
  cases he : e.left? files name with
  | none => simp [he]
  | some content => simp [he, List.getLast?_cons]

theorem frame_after (files : Files) (errands : List Errand) :
    (after files errands).frame = files.frame := by
  induction errands generalizing files with
  | nil => rfl
  | cons e rest ih => rw [after, ih, (ends_carry files e).frame_eq]

theorem held?_after (files : Files) (errands : List Errand) (name : String) :
    (after files errands).held? name = (lastLeft? files errands name).or (files.held? name) := by
  induction errands generalizing files with
  | nil => rfl
  | cons e rest ih =>
    have hframe := (ends_carry files e).frame_eq
    have hleft : lastLeft? (e.carry files).files rest = lastLeft? files rest := by
      funext name
      simp only [lastLeft?, left?_congr hframe]
    rw [after, ih, hleft, (ends_carry files e).held?_eq, lastLeft?_cons, Option.or_assoc]

/-- A shorter content leaves nothing of the one that it takes the place of, by whatever way its
path goes. -/
example : (after { contents := [("out", [1, 2, 3, 4, 5, 6])], here := ["work"] }
    [⟨"7", .ssz, some "../work/out", .found [], noFaults⟩,
      ⟨"8", .ssz, some "out", .notFound, noFaults⟩]).content? "./out" = some [4, 0, 0, 0] := by
  decide +kernel

-- What comes of an errand on the files that it finds.
structure Settled (before : Files) (e : Errand) (r : Retrieval) : Prop where
  ends : e.Ends before r
  frame : r.files.frame = before.frame
  held : ∀ name, r.files.held? name = (e.left? before name).or (before.held? name)
  logged : ∀ path, (∃ length format, .wrote path length format ∈ r.log) ↔
    ∃ name, e.Saves before path name
  length : ∀ path length format, .wrote path length format ∈ r.log →
    length = e.encoding.length ∧ ∃ name, before.locate path = .ok name ∧
      r.files.content? path = some (before.lasting name e.encoding)

theorem Ends.settled {before : Files} {e : Errand} {r : Retrieval} (h : e.Ends before r) :
    e.Settled before r := by
  by_cases hs : ∃ output name, e.Saves before output name
  · obtain ⟨output, name, hs⟩ := hs
    obtain ⟨-, hlog, hleft⟩ := h.of_saves hs
    refine ⟨h, h.frame_eq, h.held?_eq, ?_, ?_⟩
    · intro path
      rw [hlog]
      constructor
      · rintro ⟨length, format, hmem⟩
        cases List.mem_singleton.mp hmem
        exact ⟨name, hs⟩
      · rintro ⟨_, hp⟩
        cases hs.output.symm.trans hp.output
        exact ⟨_, _, List.mem_singleton_self _⟩
    · intro path length format hmem
      rw [hlog] at hmem
      cases List.mem_singleton.mp hmem
      exact ⟨rfl, name, hs.writable.1, hleft.content? hs.writable.1⟩
  · have hlog := h.log_eq_nil fun path name hp => hs ⟨path, name, hp⟩
    refine ⟨h, h.frame_eq, h.held?_eq, ?_, ?_⟩
    · intro path
      rw [hlog]
      constructor
      · rintro ⟨length, format, hmem⟩
        cases hmem
      · rintro ⟨name, hp⟩
        exact absurd ⟨path, name, hp⟩ hs
    · intro path length format hmem
      rw [hlog] at hmem
      cases hmem

inductive SettledRun : Files → List Errand → List Retrieval → Files → Prop
  | nil (files : Files) : SettledRun files [] [] files
  | cons (before last : Files) (e : Errand) (r : Retrieval) (rest : List Errand)
      (results : List Retrieval) : e.Settled before r → SettledRun r.files rest results last →
      SettledRun before (e :: rest) (r :: results) last

theorem settledRun_run (files : Files) (errands : List Errand) :
    SettledRun files errands (run files errands) (after files errands) := by
  induction errands generalizing files with
  | nil => exact .nil files
  | cons e rest ih => exact .cons _ _ _ _ _ _ (ends_carry files e).settled (ih _)

/-- Whatever the errands, the files and the faults of their writes are, each errand ends in one
of the seven ways, and each path leads to the same file in the end as at first. What the file
holds is what it held at first, or what the last errand that opened it has left there. -/
theorem run_settled (files : Files) (errands : List Errand) :
    SettledRun files errands (run files errands) (after files errands) ∧
      ∀ path, (after files errands).content? path = (files.locate path).toOption.bind fun name =>
        (lastLeft? files errands name).or (files.held? name) := by
  refine ⟨settledRun_run files errands, fun path => ?_⟩
  rw [Files.content?, Files.locate_congr (frame_after files errands).symm]
  exact congrArg _ (funext fun name => held?_after files errands name)

/-- Where there is room for three bytes, the file of six is left with those, and the errand fails.
A device takes everything and keeps nothing, and the event has the length of what it was given. -/
theorem run_settled_full :
    let files : Files := { contents := [("out", [1, 2, 3, 4, 5, 6])] }
    let error := FileError.system "No space left on device (os error 28)"
    let full : Errand := ⟨"7", .ssz, some "out", .found [], fun _ => some (.full 3 error)⟩
    let device : Errand := ⟨"7", .ssz, some "/dev/null", .found [], noFaults⟩
    (full.carry files).result = .error (.write "out" error) ∧
      (full.carry files).files.content? "out" = some [4, 0, 0] ∧
      (device.carry files).result = .ok () ∧
      (device.carry files).log = [.wrote "/dev/null" 4 .ssz] ∧
      (device.carry files).files.content? "/dev/null" = some [] := by
  exact ⟨rfl, by decide +kernel, rfl, by decide +kernel, by decide +kernel⟩

end Errand

end BlobRetrieval
