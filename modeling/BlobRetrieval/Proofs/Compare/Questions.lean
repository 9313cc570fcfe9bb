import BlobRetrieval.Program.Task
import BlobRetrieval.Proofs.Fetch.Session

/-!
# The questions of a task

Each question of a task is a turn of the client that asks it. What a check finds depends on
the answers to its questions alone, and what a task sends is what its turns send, in the
order of the questions.
-/

set_option autoImplicit false

namespace BlobRetrieval

def Query.turn (q : Query) (servers : Servers) : Turn :=
  ⟨q.id, q.format, servers q⟩

namespace Task

def answer (task : Task) (servers : Servers) (q : Query) : Outcome :=
  ((q.turn servers).call (task.asker q.side)).outcome

def sent (task : Task) (servers : Servers) : List Request :=
  task.questions.flatMap fun q => ((q.turn servers).call (task.asker q.side)).sent

theorem sent_calls (task : Task) (servers : Servers) :
    (task.calls servers).flatMap (·.sent) = task.sent servers := by
  rw [calls, List.flatMap_map, sent]
  rfl

end Task

theorem perform_compare (beacon archiver : Client) (ids : List String) (format : Format)
    (servers : Servers) (files : Files) (faults : WriteFaults) :
    let task := Task.compare beacon archiver ids format
    let p := task.perform servers files faults
    let results := check (task.answer servers) ids format
    p.stdout = report results ∧ p.sent = task.sent servers ∧ p.files = files ∧
      p.error = (checkError? results).map .check :=
  ⟨rfl, Task.sent_calls _ servers, rfl, rfl⟩

end BlobRetrieval
