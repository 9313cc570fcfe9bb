import BlobRetrieval.Files

/-!
# Where paths lead

Where a path leads is a matter of the folders, the links and the further names of files, and
not of what any file holds. The files decide no more than which error a path has that leads
nowhere, and that only by being there.
-/

set_option autoImplicit false

namespace BlobRetrieval.Files

-- Everything but the contents of the files.
def frame (files : Files) : Files :=
  { files with contents := [] }

structure SameNames (files others : Files) : Prop where
  frame : files.frame = others.frame
  isSome_find? : ∀ name,
    (find? files.contents name).isSome = (find? others.contents name).isSome

theorem SameNames.refl (files : Files) : files.SameNames files :=
  ⟨rfl, fun _ => rfl⟩

theorem eq_of_frame {files others : Files} (h : files.frame = others.frame) :
    others = { files with contents := others.contents } := by
  cases files
  cases others
  cases h
  rfl

section Contents

variable (files : Files) (contents : List (String × Bytes))

theorem step_contents (place : Place) (step : String) (rest : List String) :
    Files.step { files with contents } place step rest = files.step place step rest :=
  rfl

theorem walk_contents {jump other : Place → List String → Except FileError String}
    (hjump : ∀ place steps, (jump place steps).toOption = (other place steps).toOption)
    (place : Place) (steps : List String) :
    (walk { files with contents } jump place steps).toOption =
      (files.walk other place steps).toOption := by
  induction steps generalizing place with
  | nil => rfl
  | cons step rest ih =>
    rw [walk, walk, step_contents]
    cases files.step place step rest with
    | enter place => exact ih place
    | jump place steps => exact hjump place steps
    | file name => rfl
    | through name => rfl
    | blocked error => rfl

theorem follow_contents (links : Nat) (place : Place) (steps : List String) :
    (follow { files with contents } links place steps).toOption =
      (files.follow links place steps).toOption := by
  induction links generalizing place steps with
  | zero => exact walk_contents files contents (fun _ _ => rfl) place steps
  | succ links ih => exact walk_contents files contents ih place steps

theorem locate_contents (path : String) :
    (locate { files with contents } path).toOption = (files.locate path).toOption := by
  rw [locate, locate]
  split
  · rfl
  · split
    · rfl
    · split
      · rfl
      · exact follow_contents files contents linkLimit _ _

end Contents

section Frame

variable {files others : Files}

/-- Files that differ in what they hold only have the same paths. -/
theorem locate_congr (h : files.frame = others.frame) (path : String) :
    (others.locate path).toOption = (files.locate path).toOption := by
  rw [eq_of_frame h]
  exact locate_contents files others.contents path

theorem locate_eq_ok {path name : String} :
    files.locate path = .ok name ↔ (files.locate path).toOption = some name := by
  cases files.locate path <;> simp [Except.toOption]

theorem locate_ok_congr (h : files.frame = others.frame) {path name : String} :
    others.locate path = .ok name ↔ files.locate path = .ok name := by
  rw [locate_eq_ok, locate_eq_ok, locate_congr h]

end Frame

end BlobRetrieval.Files
