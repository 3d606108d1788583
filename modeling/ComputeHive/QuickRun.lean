import ComputeHive.Submit
import ComputeHive.Wait

/-! `quick_run_docker`: submit a docker job and, when asked to, wait on it
with no callback and fetch its result if the status the wait ended on is
`completed`, raising `JobError` with that status otherwise.
-/

set_option autoImplicit false

namespace ComputeHive

open Sdk

def createClient (apiKey : Option String) : Sdk Client := Client.init none apiKey

/-- The keyword arguments `quick_run_docker` passes on to `submit_docker_job`. -/
structure DockerOptions extends SubmitOptions where
  cpuCores : Int := 1
  memoryMb : Int := 1024
  gpuCount : Int := 0
  env : Option StrDict := none

namespace Client

variable (client : Client)

/-- The lines of `quick_run_docker` after its wait: the result when the
status is `completed`, `JobError` with the status otherwise. -/
def fetchIfCompleted (job result : Value) : Sdk Value := do
  let status ← ofExcept (result.getItem "status")
  if status.isStr "completed" then
    let id ← ofExcept (job.getItem "id")
    client.getJobResult id.pyStr
  else
    let status ← ofExcept (result.getItem "status")
    raise (.job ("Job failed with status: " ++ status.pyStr))

def dockerRequest (image : String) (command : List String) (kwargs : DockerOptions) : Request :=
  client.request "POST" "/api/v1/jobs"
    (some (dockerJobData image command kwargs.cpuCores kwargs.memoryMb kwargs.gpuCount kwargs.env
      kwargs.toSubmitOptions)) none

def resultRequest (jobId : String) : Request :=
  client.request "GET" ("/api/v1/jobs/" ++ jobId ++ "/result") none none

end Client

/-- `quick_run_docker`; `fuel` bounds the deadline checks of its wait. -/
def quickRunDocker (image : String) (command : List String) (apiKey : Option String := none)
    (wait : Bool := true) (kwargs : DockerOptions := {}) (fuel : Nat) : Sdk Value := do
  let client ← createClient apiKey
  let job ← client.submitDockerJob image command kwargs.cpuCores kwargs.memoryMb kwargs.gpuCount
    kwargs.env kwargs.toSubmitOptions
  if wait then
    let id ← ofExcept (job.getItem "id")
    print ("Job " ++ id.pyStr ++ " submitted, waiting for completion...")
    let id ← ofExcept (job.getItem "id")
    let result ← client.waitForJob id.pyStr 3600 5 false fuel
    client.fetchIfCompleted job result
  else pure job

/-! ## The status the wait ends on -/

/-- The status of the first record whose status is in the spec's terminal set. -/
def firstTerminalStatus (records : List Value) : Option String :=
  records.findSome? fun r => r.statusText.filter terminalStatuses.contains

theorem Value.Terminal.getItem {job : Value} (terminal : job.Terminal) :
    ∃ s, job.getItem "status" = .ok (.str s) ∧ job.statusText = some s := by
  obtain ⟨s, -, found⟩ := terminal.found
  cases job with
  | dict entries =>
    have lookup : entries.lookup "status" = some (.str s) := by simpa using found
    exact ⟨s, by simp [Value.getItem, lookup], by simp [Value.statusText, found]⟩
  | _ => simp [Value.get] at found

theorem filter_statusText_of_terminal {x : Value} (terminal : x.Terminal) :
    x.statusText.filter terminalStatuses.contains = x.statusText := by
  obtain ⟨s, member, text⟩ := terminal
  simp [text, Option.filter, member]

theorem filter_statusText_of_not_terminal {x : Value} (running : ¬ x.Terminal) :
    x.statusText.filter terminalStatuses.contains = none := by
  cases text : x.statusText with
  | none => rfl
  | some s => simpa [Option.filter, Value.Terminal, text] using running

theorem firstTerminalStatus_of_last {pre : List Value} {w : Value}
    (earlier : ∀ x ∈ pre, ¬ x.Terminal) (terminal : w.Terminal) :
    firstTerminalStatus (pre ++ [w]) = w.statusText := by
  induction pre with
  | nil =>
    rw [List.nil_append, firstTerminalStatus, List.findSome?_cons, filter_statusText_of_terminal terminal]
    cases w.statusText <;> rfl
  | cons x pre ih =>
    simp only [firstTerminalStatus, List.cons_append, List.findSome?_cons,
      filter_statusText_of_not_terminal (earlier x (List.mem_cons_self _ _))]
    exact ih fun y member => earlier y (List.mem_cons_of_mem _ member)

theorem firstTerminalStatus_eq_none {records : List Value}
    (running : ∀ x ∈ records, ¬ x.Terminal) : firstTerminalStatus records = none := by
  induction records with
  | nil => rfl
  | cons x records ih =>
    simp only [firstTerminalStatus, List.findSome?_cons,
      filter_statusText_of_not_terminal (running x (List.mem_cons_self _ _))]
    exact ih fun y member => running y (List.mem_cons_of_mem _ member)

namespace Client

variable (client : Client)

theorem submitDockerJob_bind {β : Type} (image : String) (command : List String)
    (kwargs : DockerOptions) (f : Value → Sdk β) (world : World) (trace : List Event) :
    (client.submitDockerJob image command kwargs.cpuCores kwargs.memoryMb kwargs.gpuCount kwargs.env
        kwargs.toSubmitOptions >>= f) world trace =
      match classify (world.exchange trace (client.dockerRequest image command kwargs)) with
      | .ok job => f job world (trace ++ [.exchange (client.dockerRequest image command kwargs)
          (world.exchange trace (client.dockerRequest image command kwargs))])
      | .error e => (.raised e, trace ++ [.exchange (client.dockerRequest image command kwargs)
          (world.exchange trace (client.dockerRequest image command kwargs))]) :=
  client.makeRequest_bind _ _ _ _ f world trace

theorem fetchIfCompleted_apply (job w id : Value) (identified : job.getItem "id" = .ok id)
    (terminal : w.Terminal) (world : World) (h : List Event) :
    (w.statusText = some "completed" →
      client.fetchIfCompleted job w world h =
        (Outcome.ofExcept (classify (world.exchange h (client.resultRequest id.pyStr))),
          h ++ [.exchange (client.resultRequest id.pyStr) (world.exchange h (client.resultRequest id.pyStr))])) ∧
    ∀ s, w.statusText = some s → s ≠ "completed" →
      client.fetchIfCompleted job w world h = (.raised (.job ("Job failed with status: " ++ s)), h) := by
  obtain ⟨s, status, text⟩ := terminal.getItem
  rw [text]
  refine ⟨fun completed => ?_, fun s' same other => ?_⟩
  · cases completed
    simp only [fetchIfCompleted, status, identified, ofExcept_ok, pure_bind, Value.isStr_str,
      beq_self_eq_true, if_true]
    exact client.makeRequest_apply _ _ _ _ world h
  · cases same
    simp only [fetchIfCompleted, status, ofExcept_ok, pure_bind, Value.isStr_str,
      beq_eq_false_iff_ne.mpr other, Bool.false_eq_true, if_false, raise_apply]
    rfl

end Client

def completedSubmission : World where
  clock _ := 0
  exchange _ _ := .ok ⟨200, "OK", "https://api.computehive.io/api/v1/jobs",
    "\x7b\"id\": \"j\", \"status\": \"completed\"\x7d"⟩
  callback _ _ := .ok ()
  environ _ := none

end ComputeHive
