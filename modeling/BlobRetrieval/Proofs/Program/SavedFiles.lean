import BlobRetrieval.Program.Task
import BlobRetrieval.Proofs.Fetch.Errands
import BlobRetrieval.Proofs.Fetch.Format
import BlobRetrieval.Proofs.Fetch.Session

/-!
# Files from served bodies

An order is a retrieval with what the server answers to it. Orders are carried out one
after another on the same files. The file that an order leaves depends on the collection
in the body alone: in binary it is the body itself, and in JSON every spelling of a
collection ends in one file, which is a spelling of it too.
-/

set_option autoImplicit false

namespace BlobRetrieval

structure Order where
  turn : Turn
  output : Option String
  faults : WriteFaults := noFaults

namespace Order

def perform (client : Client) (files : Files) (o : Order) : Performance :=
  (Task.retrieve client o.turn.id o.turn.format o.output).perform (fun _ => o.turn.network) files
    o.faults

def after (client : Client) (files : Files) : List Order → Files
  | [] => files
  | o :: rest => after client (o.perform client files).files rest

def errand (client : Client) (o : Order) : Errand :=
  ⟨o.turn.id, o.turn.format, o.output, (o.turn.call client).outcome, o.faults⟩

structure Leaves (client : Client) (before : Files) (o : Order) (path : String)
    (body file : Bytes) : Prop where
  receives : o.turn.Receives client body
  output : o.output = some path
  keeps : before.Keeps o.faults path (o.errand client).encoding
  error : (o.perform client before).error = none
  content : (o.perform client before).files.content? path = some file

variable {client : Client} {before : Files} {o : Order} {path : String} {body : Bytes}
  {sidecars : List Sidecar}

theorem ask_eq (client : Client) (o : Order) :
    (Task.retrieve client o.turn.id o.turn.format o.output).ask (fun _ => o.turn.network)
      ⟨0, .beacon, o.turn.id, o.turn.format⟩ = o.turn.call client := by
  rw [Task.ask, Task.asker, Turn.call]

theorem perform_files (client : Client) (before : Files) (o : Order) :
    (o.perform client before).files = ((o.errand client).carry before).files := by
  simp only [perform, Task.perform, ask_eq, Errand.carry, errand]

theorem perform_error (h : ((o.errand client).carry before).result = .ok ()) :
    (o.perform client before).error = none := by
  simp only [Errand.carry, errand] at h
  simp only [perform, Task.perform, ask_eq, h]

theorem encoding_of_receives (h : o.turn.Receives client body)
    (hd : o.turn.format.decode body = .ok sidecars) :
    (o.errand client).encoding = o.turn.format.encode sidecars := by
  rw [Errand.encoding, errand, h.outcome_found hd]
  rfl

theorem leaves_of_receives (h : o.turn.Receives client body)
    (hd : o.turn.format.decode body = .ok sidecars) (hp : o.output = some path)
    (hk : before.Keeps o.faults path (o.errand client).encoding) :
    o.Leaves client before path body (o.turn.format.encode sidecars) := by
  obtain ⟨name, hw, hdevice⟩ := hk
  have hs : (o.errand client).Saves before path name := by
    refine ⟨⟨?_, hp⟩, hw⟩
    rw [errand, h.outcome_found hd]
    rfl
  obtain ⟨hresult, -, hleft⟩ := (Errand.ends_carry before (o.errand client)).of_saves hs
  refine ⟨h, hp, ⟨name, hw, hdevice⟩, perform_error hresult, ?_⟩
  rw [perform_files, hleft.content? hw.1, Files.lasting_of_not_device hdevice,
    encoding_of_receives h hd]

theorem Leaves.eq_encode {file : Bytes} (h : o.Leaves client before path body file)
    (hd : o.turn.format.decode body = .ok sidecars) : file = o.turn.format.encode sidecars := by
  have hwritten := (leaves_of_receives h.receives hd h.output h.keeps).content
  exact Option.some.inj (h.content.symm.trans hwritten)

structure Kept (client : Client) (before : Files) (o : Order) (path : String)
    (body file : Bytes) (sidecars : List Sidecar) : Prop where
  leaves : o.Leaves client before path body file
  decode_body : o.turn.format.decode body = .ok sidecars
  decode_file : o.turn.format.decode file = .ok sidecars
  binary : o.turn.format = .ssz → file = body
  canonical : o.turn.format = .json → ∀ otherClient otherBefore other otherPath otherBody otherFile,
    Leaves otherClient otherBefore other otherPath otherBody otherFile →
    other.turn.format = .json → Format.json.decode otherBody = .ok sidecars → otherFile = file
  again : ∀ (next : Order) (nextPath : String), next.turn.format = o.turn.format →
    next.turn.Receives client file → next.output = some nextPath →
    (o.perform client before).files.Keeps next.faults nextPath file →
    next.Leaves client (o.perform client before).files nextPath file file

theorem kept_of_receives (h : o.turn.Receives client body)
    (hd : o.turn.format.decode body = .ok sidecars) (hp : o.output = some path)
    (hk : before.Keeps o.faults path (o.errand client).encoding) :
    o.Kept client before path body (o.turn.format.encode sidecars) sidecars where
  leaves := leaves_of_receives h hd hp hk
  decode_body := hd
  decode_file := Format.decode_encode_of_decode hd
  binary hf := by
    rw [hf] at hd ⊢
    exact Format.encode_of_decode_ssz hd
  canonical hf otherClient otherBefore other otherPath otherBody otherFile hl hof hod := by
    rw [← hof] at hod
    rw [hl.eq_encode hod, hof, hf]
  again next nextPath hf hr hn hk := by
    have hnext : next.turn.format.decode (o.turn.format.encode sidecars) = .ok sidecars := by
      rw [hf]
      exact Format.decode_encode_of_decode hd
    have hfile := encoding_of_receives hr hnext
    rw [hf] at hfile
    rw [← hfile] at hk
    have hl := leaves_of_receives hr hnext hn hk
    rw [hf] at hl
    exact hl

/-- An order that finds sidecars, and whose file keeps what is written to it, leaves a file that is
read as the body is. -/
theorem file_of_body (client : Client) (files : Files) (done : List Order) (o : Order)
    (path : String) (hf : (o.turn.call client).outcome.isFound = true) (hp : o.output = some path)
    (hk : (after client files done).Keeps o.faults path (o.errand client).encoding) :
    ∃ body file sidecars, o.Kept client (after client files done) path body file sidecars := by
  obtain ⟨body, sidecars, hr, hd⟩ := Turn.receives_of_isFound hf
  exact ⟨body, _, sidecars, kept_of_receives hr hd hp hk⟩

/-- The second of two orders for one file; its body has blanks that the file does not have. -/
theorem file_of_body_spaced :
    let client := Client.new "http://beacon"
    let missing : Order :=
      ⟨⟨"6", .json, fun _ => .answered { status := 404 }⟩, some "out", noFaults⟩
    let spaced := Utf8.encode " \x7b\"data\" :[ ] \x7d".toList
    let served : Response := { status := 200, body := spaced }
    let o : Order := ⟨⟨"7", .json, fun _ => .answered served⟩, some "./out", noFaults⟩
    (o.turn.call client).outcome.isFound = true ∧ o.output = some "./out" ∧
      (after client {} [missing]).Keeps o.faults "./out" (o.errand client).encoding ∧
      ∃ body file sidecars,
        o.Kept client (after client {} [missing]) "./out" body file sidecars := by
  intro client missing spaced served o
  have hfound : (o.turn.call client).outcome.isFound = true := by decide +kernel
  have hkeeps : (after client {} [missing]).Keeps o.faults "./out" (o.errand client).encoding :=
    ⟨"out", ⟨Files.locate_eq_ok.mpr (by decide +kernel), nofun⟩, by decide +kernel⟩
  exact ⟨hfound, rfl, hkeeps, file_of_body client {} [missing] o "./out" hfound rfl hkeeps⟩

end Order

end BlobRetrieval
