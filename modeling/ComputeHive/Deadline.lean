import ComputeHive.Wait

/-! How long `wait_for_job` waits for a job that never finishes. Against a
`SteadyClock` every pass takes at least `poll_interval`, so the pass count is
bounded by `⌈timeout / poll_interval⌉`, the loop ends in `JobError` once that
many checks fit in its budget, and the failing check comes at most one sleep
and one probe after the deadline.
-/

set_option autoImplicit false

namespace ComputeHive

open Sdk

/-- A clock that stands still while read, moves by exactly the slept time
during a sleep, and never runs back during an exchange or a callback. -/
structure SteadyClock (world : World) : Prop where
  reading : ∀ h t, world.clock (h ++ [.time t]) = world.clock h
  sleeping : ∀ h (s : Int), world.clock (h ++ [.sleep s]) = world.clock h + s
  exchanging : ∀ h request answer, world.clock h ≤ world.clock (h ++ [.exchange request answer])
  calling : ∀ h job answer, world.clock h ≤ world.clock (h ++ [.callback job answer])

theorem SteadyClock.le_probed {world : World} (steady : SteadyClock world) (h : List Event)
    (probe : Request) (answer : Except TransportError Response) (callback : Bool) (job : Value) :
    world.clock h ≤ world.clock (h ++ [.time (world.clock h), .exchange probe answer] ++
      notified callback job) := by
  have probing := steady.exchanging (h ++ [.time (world.clock h)]) probe answer
  rw [steady.reading] at probing
  cases callback
  · simpa [notified] using probing
  · simpa [notified] using probing.trans (steady.calling _ job (.ok ()))

/-- A server that answers every probe with a record whose status is not
terminal. -/
def AlwaysPending (world : World) (probe : Request) : Prop :=
  ∀ h, ∃ job status, classify (world.exchange h probe) = .ok job ∧ job.get "status" = .ok status ∧
    isTerminal status = false

def Accepting (world : World) : Prop := ∀ h job, world.callback h job = .ok ()

/-- The pass count `max(0, ceil(timeout / poll_interval))`. -/
def passBound (timeout pollInterval : Int) : Nat := ⌈(timeout : ℚ) / pollInterval⌉.toNat

theorem lt_passBound {k : Nat} {timeout pollInterval : Int} {elapsed : ℚ}
    (positive : 0 < pollInterval) (after : (k : ℚ) * pollInterval ≤ elapsed)
    (inTime : elapsed < timeout) : k < passBound timeout pollInterval := by
  have : (k : ℚ) < timeout / pollInterval := by
    rw [lt_div_iff₀ (by exact_mod_cast positive)]
    linarith
  exact Int.lt_toNat.mpr (Int.lt_ceil.mpr (by exact_mod_cast this))

namespace Client

variable (client : Client) (jobId : String) (timeout pollInterval : Int) (callback : Bool)
  {world : World} (start : ℚ)

theorem waitLoop_expired {fuel : Nat} {h : List Event} (late : ¬ world.clock h - start < timeout) :
    client.waitLoop jobId timeout pollInterval callback start (fuel + 1) world h =
      (.raised (.job (timeoutMessage jobId timeout)), h ++ [.time (world.clock h)]) := by
  rw [waitLoop_succ]
  exact if_neg late

theorem waitLoop_pass_cases (fuel : Nat) {h : List Event} (inTime : world.clock h - start < timeout) :
    ∃ answer pass, pass.countP Event.isExchange = 0 ∧
      ((∃ r, client.waitLoop jobId timeout pollInterval callback start (fuel + 1) world h = (r,
          h ++ [.time (world.clock h), .exchange (client.probe jobId) answer] ++ pass) ∧
          r ≠ .exhausted) ∨
        ∃ job, pass = notified callback job ++ [.sleep pollInterval] ∧
          client.waitLoop jobId timeout pollInterval callback start (fuel + 1) world h =
            client.waitLoop jobId timeout pollInterval callback start fuel world
              (h ++ [.time (world.clock h), .exchange (client.probe jobId) answer] ++ pass)) := by
  rw [waitLoop_succ]
  dsimp only
  rw [if_pos inTime]
  refine ⟨world.exchange (h ++ [.time (world.clock h)]) (client.probe jobId), ?_⟩
  have quiet : ∀ job, (notified callback job).countP Event.isExchange = 0 := by
    intro job
    cases callback <;> rfl
  split
  · next e _ => exact ⟨[], rfl, .inl ⟨.raised e, by simp, Outcome.noConfusion⟩⟩
  · next job _ =>
    split
    · next e _ => exact ⟨[.callback job (.error e)], rfl, .inl ⟨.raised e, by simp, Outcome.noConfusion⟩⟩
    · split
      · next e _ => exact ⟨notified callback job, quiet job, .inl ⟨.raised e, rfl, Outcome.noConfusion⟩⟩
      · split
        · exact ⟨notified callback job, quiet job, .inl ⟨.ok job, rfl, Outcome.noConfusion⟩⟩
        · split
          · exact ⟨notified callback job, quiet job, .inl ⟨_, rfl, Outcome.noConfusion⟩⟩
          · exact ⟨notified callback job ++ [.sleep pollInterval], by simp [quiet, Event.isExchange],
              .inr ⟨job, rfl, by simp⟩⟩

theorem waitLoop_pass (pending : AlwaysPending world (client.probe jobId)) (accepting : Accepting world)
    (nonneg : 0 ≤ pollInterval) (fuel : Nat) {h : List Event} (inTime : world.clock h - start < timeout) :
    ∃ answer job, client.waitLoop jobId timeout pollInterval callback start (fuel + 1) world h =
      client.waitLoop jobId timeout pollInterval callback start fuel world
        (h ++ [.time (world.clock h), .exchange (client.probe jobId) answer] ++ notified callback job ++
          [.sleep pollInterval]) := by
  obtain ⟨job, status, probed, found, running⟩ := pending (h ++ [.time (world.clock h)])
  refine ⟨world.exchange (h ++ [.time (world.clock h)]) (client.probe jobId), job, ?_⟩
  rw [waitLoop_succ]
  dsimp only
  rw [if_pos inTime, probed]
  cases callback <;> simp [accepting _ job, found, running, not_lt.mpr nonneg]

section Termination

variable {client jobId pollInterval}
variable (steady : SteadyClock world) (positive : 0 < pollInterval)

include steady positive in
/-- From a check at least `k` passes after the start, with budget for the
remaining passes, the loop ends with a value or an exception after at most
`passBound - k` more probes, whatever the server and the callback do. -/
theorem waitLoop_terminates (fuel : Nat) (h : List Event) (k : Nat)
    (after : start + k * pollInterval ≤ world.clock h) (done : k ≤ passBound timeout pollInterval)
    (enough : passBound timeout pollInterval < fuel + k) :
    (client.waitLoop jobId timeout pollInterval callback start fuel world h).1 ≠ .exhausted ∧
      ∃ new, (client.waitLoop jobId timeout pollInterval callback start fuel world h).2 = h ++ new ∧
        new.countP Event.isExchange + k ≤ passBound timeout pollInterval := by
  induction fuel generalizing h k with
  | zero => omega
  | succ fuel ih =>
    by_cases inTime : world.clock h - start < timeout
    · have fresh : k < passBound timeout pollInterval :=
        lt_passBound positive (by linarith) inTime
      obtain ⟨answer, pass, quiet, ⟨r, ended, running⟩ | ⟨job, rfl, continued⟩⟩ :=
        waitLoop_pass_cases client jobId timeout pollInterval callback start fuel inTime
      · rw [ended]
        exact ⟨running, [.time (world.clock h), .exchange (client.probe jobId) answer] ++ pass, by simp,
          by simp [quiet, Event.isExchange]; omega⟩
      · -- the pass takes at least the sleep
        have grown : start + ↑(k + 1) * pollInterval ≤ world.clock (h ++ [.time (world.clock h),
            .exchange (client.probe jobId) answer] ++ (notified callback job ++ [.sleep pollInterval])) := by
          rw [← List.append_assoc, steady.sleeping]
          have := steady.le_probed h (client.probe jobId) answer callback job
          push_cast
          linarith
        obtain ⟨running, new, grows, count⟩ := ih _ (k + 1) grown fresh (by omega)
        rw [continued]
        refine ⟨running, [.time (world.clock h), .exchange (client.probe jobId) answer] ++
          (notified callback job ++ [.sleep pollInterval]) ++ new, by rw [grows]; simp, ?_⟩
        simp only [List.countP_append, quiet] at count ⊢
        simp [Event.isExchange]
        omega
    · rw [waitLoop_expired client jobId timeout pollInterval callback start inTime]
      exact ⟨Outcome.noConfusion, [.time (world.clock h)], rfl, by simp [Event.isExchange]; omega⟩

end Termination

section Expiry

variable {client jobId pollInterval}
variable (steady : SteadyClock world) (positive : 0 < pollInterval)
  (pending : AlwaysPending world (client.probe jobId)) (accepting : Accepting world)

include steady positive pending accepting in
theorem waitLoop_expires (fuel : Nat) (h : List Event) (k : Nat)
    (after : start + k * pollInterval ≤ world.clock h) (done : k ≤ passBound timeout pollInterval)
    (enough : passBound timeout pollInterval < fuel + k) :
    ∃ new final, client.waitLoop jobId timeout pollInterval callback start fuel world h =
        (.raised (.job (timeoutMessage jobId timeout)), h ++ new ++ [.time final]) ∧
      ¬ final - start < timeout ∧ new.countP Event.isExchange + k ≤ passBound timeout pollInterval ∧
      (new = [] ∧ final = world.clock h ∨
        ∃ before answer job, h ++ new = before ++ [.time (world.clock before),
            .exchange (client.probe jobId) answer] ++ notified callback job ++ [.sleep pollInterval] ∧
          world.clock h ≤ world.clock before ∧ world.clock before - start < timeout ∧
          final = world.clock (before ++ [.time (world.clock before),
            .exchange (client.probe jobId) answer] ++ notified callback job) + pollInterval) := by
  induction fuel generalizing h k with
  | zero => omega
  | succ fuel ih =>
    by_cases inTime : world.clock h - start < timeout
    · obtain ⟨answer, job, step⟩ := waitLoop_pass client jobId timeout pollInterval callback start
        pending accepting positive.le fuel inTime
      set next := h ++ [.time (world.clock h), .exchange (client.probe jobId) answer] ++
        notified callback job ++ [.sleep pollInterval]
      -- the pass takes at least the sleep
      have probing := steady.le_probed h (client.probe jobId) answer callback job
      have slept : world.clock next = world.clock (h ++ [.time (world.clock h),
          .exchange (client.probe jobId) answer] ++ notified callback job) + pollInterval :=
        steady.sleeping _ _
      have fresh : k < passBound timeout pollInterval :=
        lt_passBound positive (by linarith) inTime
      obtain ⟨new, final, run, late, count, last⟩ := ih next (k + 1)
        (by push_cast; linarith) fresh (by omega)
      refine ⟨[.time (world.clock h), .exchange (client.probe jobId) answer] ++
        notified callback job ++ [.sleep pollInterval] ++ new, final, ?_, late, ?_, .inr ?_⟩
      · rw [step, run]
        simp [next]
      · simp only [List.countP_append] at count ⊢
        cases callback <;> simp [notified, Event.isExchange] at count ⊢ <;> omega
      · rcases last with ⟨rfl, rfl⟩ | ⟨before, answer', job', grows, later, inTime', rfl⟩
        · exact ⟨h, answer, job, by simp [next], le_rfl, inTime, slept⟩
        · refine ⟨before, answer', job', by rw [← grows]; simp [next], ?_, inTime', rfl⟩
          have : (0 : ℚ) < pollInterval := by exact_mod_cast positive
          linarith
    · refine ⟨[], world.clock h, ?_, inTime, by simpa using done, .inl ⟨rfl, rfl⟩⟩
      rw [waitLoop_expired client jobId timeout pollInterval callback start inTime]
      simp

end Expiry

end Client

def Event.slept : Event → ℚ
  | .sleep s => s
  | _ => 0

def runningJob : World where
  clock h := h.foldl (fun t e => t + e.slept) 0
  exchange _ _ := .ok ⟨200, "OK", "https://api.computehive.io/api/v1/jobs/j",
    "\x7b\"status\": \"running\"\x7d"⟩
  callback _ _ := .ok ()
  environ _ := none

theorem runningJob_steady : SteadyClock runningJob :=
  ⟨fun _ _ => by simp [runningJob, Event.slept], fun _ _ => by simp [runningJob, Event.slept],
    fun _ _ _ => by simp [runningJob, Event.slept], fun _ _ _ => by simp [runningJob, Event.slept]⟩

/-- Against a steady clock and a `poll_interval > 0`, `wait_for_job` ends with
a value or an exception once its budget covers `max(0, ceil(timeout /
poll_interval))` passes, after at most that many probes, whatever the server
answers and the callback does. -/
theorem waitForJob_terminates (client : Client) (jobId : String) (timeout pollInterval : Int)
    (callback : Bool) (fuel : Nat) (world : World) (trace : List Event)
    (steady : SteadyClock world) (positive : 0 < pollInterval)
    (enough : passBound timeout pollInterval < fuel) :
    let run := client.waitForJob jobId timeout pollInterval callback fuel world trace
    run.1 ≠ .exhausted ∧ ∃ new, run.2 = trace ++ new ∧
      new.countP Event.isExchange ≤ passBound timeout pollInterval := by
  intro run
  obtain ⟨running, new, grows, count⟩ := Client.waitLoop_terminates timeout callback
    (world.clock trace) steady positive fuel (trace ++ [.time (world.clock trace)]) 0
    (by simp [steady.reading]) (Nat.zero_le _) (by omega)
  exact ⟨running, .time (world.clock trace) :: new, by simp [run, Client.waitForJob_apply, grows],
    by simpa [Event.isExchange] using count⟩

theorem waitForJob_terminates_of_runningJob :
    SteadyClock runningJob ∧ passBound 10 5 < 3 ∧
      (Client.example.waitForJob "j" 10 5 true 3 runningJob []).1 ≠ .exhausted :=
  have bound : passBound 10 5 < 3 := by norm_num [passBound]
  ⟨runningJob_steady, bound, (waitForJob_terminates Client.example "j" 10 5 true 3 runningJob []
    runningJob_steady (by decide) bound).1⟩

end ComputeHive
