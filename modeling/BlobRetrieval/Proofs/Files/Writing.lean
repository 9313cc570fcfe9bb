import BlobRetrieval.Proofs.Files.Paths

/-!
# Writing files

A write opens the file that its path leads to, or fails and changes nothing. An open file is
left with the content, or with the front of it that there was room for. No other file is
touched, and no path leads elsewhere afterwards.
-/

set_option autoImplicit false

namespace BlobRetrieval

namespace Files

theorem find?_put (contents : List (String × Bytes)) (name : String) (content : Bytes)
    (other : String) :
    find? (put contents name content) other
      = if name = other then some content else find? contents other := by
  induction contents with
  | nil => simp [put, find?]
  | cons f rest ih =>
    by_cases hf : f.1 = name
    · subst hf
      by_cases h : f.1 = other <;> simp [put, find?, h]
    · by_cases h : f.1 = other
      · subst h
        simp [put, find?, hf, Ne.symm hf]
      · simp [put, find?, hf, h, ih]

-- What stays of what is written: a device keeps nothing.
def lasting (files : Files) (name : String) (content : Bytes) : Bytes :=
  if name ∈ files.devices then [] else content

-- That a file is left with a content, and all else as it was.
structure Left (before after : Files) (name : String) (content : Bytes) : Prop where
  frame : after.frame = before.frame
  held : ∀ other, after.held? other =
    if name = other then some (before.lasting name content) else before.held? other

theorem left_store (files : Files) (name : String) (content : Bytes) :
    files.Left (files.store name content) name content := by
  by_cases hdevice : name ∈ files.devices
  · refine ⟨by simp [store, hdevice], fun other => ?_⟩
    by_cases hother : name = other
    · subst hother
      simp [store, held?, lasting, hdevice]
    · simp [store, hother, hdevice]
  · refine ⟨by simp [store, hdevice, frame], fun other => ?_⟩
    by_cases hother : name = other
    · subst hother
      simp [store, held?, lasting, hdevice, find?_put]
    · simp [store, held?, hother, hdevice, find?_put]

def Unopened (files : Files) (faults : WriteFaults) (path : String) (error : FileError) : Prop :=
  files.locate path = .error error ∨
    ∃ name, files.locate path = .ok name ∧ faults name = some (.refused error)

-- That there is no room for the whole of a content in the file that a path leads to.
def Overfull (files : Files) (faults : WriteFaults) (path name : String) (content : Bytes)
    (room : Nat) (error : FileError) : Prop :=
  files.locate path = .ok name ∧ faults name = some (.full room error) ∧ room < content.length

-- That the file that a path leads to can be opened, and has room for a content.
def Writable (files : Files) (faults : WriteFaults) (path name : String) (content : Bytes) :
    Prop :=
  files.locate path = .ok name ∧
    ∀ fault, faults name = some fault → ∃ room error, fault = .full room error ∧
      content.length ≤ room

-- That the file that a path leads to keeps the whole of a content that is written to it.
def Keeps (files : Files) (faults : WriteFaults) (path : String) (content : Bytes) : Prop :=
  ∃ name, files.Writable faults path name content ∧ name ∉ files.devices

inductive Written (files : Files) (faults : WriteFaults) (path : String) (content : Bytes) :
    Files × Option FileError → Prop
  | unopened (error : FileError) : files.Unopened faults path error →
      Written files faults path content (files, some error)
  | broken (name : String) (room : Nat) (error : FileError) (after : Files) :
      files.Overfull faults path name content room error →
      files.Left after name (content.take room) →
      Written files faults path content (after, some error)
  | whole (name : String) (after : Files) : files.Writable faults path name content →
      files.Left after name content → Written files faults path content (after, none)

variable {files : Files} {faults : WriteFaults} {path name : String} {content : Bytes}

theorem written_write (files : Files) (faults : WriteFaults) (path : String) (content : Bytes) :
    files.Written faults path content (files.write faults path content) := by
  rw [write]
  cases hl : files.locate path with
  | error error => exact .unopened error (.inl hl)
  | ok name =>
    dsimp only
    cases hf : faults name with
    | none =>
      exact .whole name _ ⟨hl, fun fault h => by rw [hf] at h; cases h⟩ (left_store files name _)
    | some fault =>
      cases fault with
      | refused error => exact .unopened error (.inr ⟨name, hl, hf⟩)
      | full room error =>
        dsimp only
        split
        · rename_i hroom
          refine .whole name _ ⟨hl, fun fault h => ?_⟩ (left_store files name _)
          rw [hf] at h
          exact ⟨room, error, (Option.some.inj h).symm, hroom⟩
        · rename_i hroom
          exact .broken name room error _ ⟨hl, hf, Nat.lt_of_not_le hroom⟩
            (left_store files name _)

theorem Writable.not_unopened (h : files.Writable faults path name content) {error : FileError} :
    ¬files.Unopened faults path error := by
  obtain ⟨hl, hf⟩ := h
  rintro (he | ⟨other, ho, hr⟩)
  · rw [hl] at he
    cases he
  · rw [hl] at ho
    cases ho
    obtain ⟨room, error, hfull, -⟩ := hf _ hr
    cases hfull

theorem Writable.not_overfull (h : files.Writable faults path name content) {other : String}
    {room : Nat} {error : FileError} :
    ¬files.Overfull faults path other content room error := by
  obtain ⟨hl, hf⟩ := h
  rintro ⟨ho, hr, hlt⟩
  rw [hl] at ho
  cases ho
  obtain ⟨_, _, hfull, hle⟩ := hf _ hr
  cases hfull
  omega

theorem content?_of_locate (h : files.locate path = .ok name) :
    files.content? path = files.held? name := by
  rw [content?, h]
  rfl

theorem lasting_of_not_device (h : name ∉ files.devices) (content : Bytes) :
    files.lasting name content = content :=
  if_neg h

theorem Left.content? {after : Files} (h : files.Left after name content)
    (hl : files.locate path = .ok name) :
    after.content? path = some (files.lasting name content) := by
  rw [content?_of_locate ((locate_ok_congr h.frame.symm).mpr hl), h.held, if_pos rfl]

end Files

end BlobRetrieval
