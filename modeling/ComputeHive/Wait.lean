import ComputeHive.Api
import Mathlib.Data.Rat.Floor
import Mathlib.Tactic.Linarith

/-! `wait_for_job`: the polling loop, and `Polls`, its runs stated in the
spec's terms: passes of one deadline reading, one probe and at most one
callback, ended by the spec's terminal set. `waitLoop_polls` proves that the
code's runs are runs of `Polls`. A callback only observes the records it is
handed.
-/

set_option autoImplicit false

namespace ComputeHive

open Sdk

/-- `status in ["completed", "failed", "cancelled"]` for `status = job.get("status")`. -/
def isTerminal : Option Value → Bool
  | some (.str s) => s == "completed" || s == "failed" || s == "cancelled"
  | _ => false

/-- The spec's terminal set. -/
def terminalStatuses : List String := ["completed", "failed", "cancelled"]

def Value.statusText (job : Value) : Option String :=
  match job.get "status" with
  | .ok (some (.str s)) => some s
  | _ => Option.none

/-- A record whose status is in the spec's terminal set. -/
def Value.Terminal (job : Value) : Prop := ∃ s ∈ terminalStatuses, job.statusText = some s

instance (job : Value) : Decidable job.Terminal :=
  inferInstanceAs (Decidable (∃ s ∈ terminalStatuses, job.statusText = some s))

theorem Value.Terminal.found {job : Value} (terminal : job.Terminal) :
    ∃ s ∈ terminalStatuses, job.get "status" = .ok (some (.str s)) := by
  obtain ⟨s, member, text⟩ := terminal
  refine ⟨s, member, ?_⟩
  unfold Value.statusText at text
  split at text
  · next found => cases text; exact found
  · cases text

/-- The code's test is the spec's terminal set, on every record whose status
it can read. -/
theorem isTerminal_iff {job : Value} {status : Option Value} (found : job.get "status" = .ok status) :
    isTerminal status = true ↔ job.Terminal := by
  rcases status with _ | (_ | _ | _ | _ | s | _ | _) <;>
    simp [isTerminal, Value.Terminal, Value.statusText, found, terminalStatuses, or_assoc]

def timeoutMessage (jobId : String) (timeout : Int) : String :=
  "Job " ++ jobId ++ " did not complete within " ++ toString timeout ++ " seconds"

def notified (callback : Bool) (job : Value) : List Event :=
  if callback then [.callback job (.ok ())] else []

namespace Client

variable (client : Client) (jobId : String) (timeout pollInterval : Int) (callback : Bool)

/-- The `while` loop, for at most `fuel` deadline checks. `callback` says
whether a callback was passed; what it does is the world's. -/
def waitLoop (start : ℚ) : Nat → Sdk Value
  | 0 => exhausted
  | fuel + 1 => do
    let now ← time
    if now - start < timeout then
      let job ← client.getJob jobId
      if callback then notify job
      let status ← ofExcept (job.get "status")
      if isTerminal status then pure job
      else do
        sleep pollInterval
        waitLoop start fuel
    else raise (.job (timeoutMessage jobId timeout))

def waitForJob (fuel : Nat) : Sdk Value := do
  let start ← time
  client.waitLoop jobId timeout pollInterval callback start fuel

def probe : Request := client.request "GET" ("/api/v1/jobs/" ++ jobId) none none

theorem getJob_bind {β : Type} (f : Value → Sdk β) (world : World) (trace : List Event) :
    (client.getJob jobId >>= f) world trace =
      match classify (world.exchange trace (client.probe jobId)) with
      | .ok job => f job world
          (trace ++ [.exchange (client.probe jobId) (world.exchange trace (client.probe jobId))])
      | .error e => (.raised e,
          trace ++ [.exchange (client.probe jobId) (world.exchange trace (client.probe jobId))]) :=
  client.makeRequest_bind _ _ _ _ f world trace

theorem waitLoop_succ (start : ℚ) (fuel : Nat) (world : World) (h : List Event) :
    client.waitLoop jobId timeout pollInterval callback start (fuel + 1) world h =
      let t := world.clock h
      let answer := world.exchange (h ++ [.time t]) (client.probe jobId)
      let probed := h ++ [.time t, .exchange (client.probe jobId) answer]
      if t - start < timeout then
        match classify answer with
        | .error e => (.raised e, probed)
        | .ok job =>
          match (if callback then world.callback probed job else .ok ()) with
          | .error e => (.raised e, probed ++ [.callback job (.error e)])
          | .ok () =>
            match job.get "status" with
            | .error e => (.raised e, probed ++ notified callback job)
            | .ok status =>
              if isTerminal status then (.ok job, probed ++ notified callback job)
              else if pollInterval < 0 then
                (.raised (.foreign "ValueError" negativeSleepMessage), probed ++ notified callback job)
              else client.waitLoop jobId timeout pollInterval callback start fuel world
                (probed ++ notified callback job ++ [.sleep pollInterval])
      else (.raised (.job (timeoutMessage jobId timeout)), h ++ [.time t]) := by
  simp only [waitLoop, time_bind]
  by_cases inTime : world.clock h - start < timeout
  · simp only [if_pos inTime]
    rw [getJob_bind]
    cases classify (world.exchange (h ++ [.time (world.clock h)]) (client.probe jobId)) with
    | error e => simp
    | ok job =>
      cases callback
      · simp only [notified, Bool.false_eq_true, if_false, pure_bind, List.append_nil]
        cases job.get "status" with
        | error e => simp
        | ok status => cases terminal : isTerminal status <;> simp [terminal, sleep_bind]
      · simp only [notified, if_true, notify_bind]
        cases called : world.callback (h ++ [.time (world.clock h), .exchange (client.probe jobId)
            (world.exchange (h ++ [.time (world.clock h)]) (client.probe jobId))]) job with
        | error e => simp [called]
        | ok u =>
          cases job.get "status" with
          | error e => simp [called]
          | ok status => cases terminal : isTerminal status <;> simp [called, terminal, sleep_bind]
  · simp only [if_neg inTime]
    rfl

end Client

def probedRecords : List Event → List Value
  | [] => []
  | .exchange _ answer :: rest =>
    match classify answer with
    | .ok job => job :: probedRecords rest
    | .error _ => probedRecords rest
  | _ :: rest => probedRecords rest

def calledBack : List Event → List Value
  | [] => []
  | .callback job _ :: rest => job :: calledBack rest
  | _ :: rest => calledBack rest

@[simp] theorem calledBack_append (xs ys : List Event) :
    calledBack (xs ++ ys) = calledBack xs ++ calledBack ys := by
  induction xs with
  | nil => rfl
  | cons e xs ih => cases e <;> simp [calledBack, ih]

@[simp] theorem probedRecords_append (xs ys : List Event) :
    probedRecords (xs ++ ys) = probedRecords xs ++ probedRecords ys := by
  induction xs with
  | nil => rfl
  | cons e xs ih =>
    cases e with
    | exchange request answer => cases h : classify answer <;> simp [probedRecords, h, ih]
    | _ => simp [probedRecords, ih]

@[simp] theorem probedRecords_notified (callback : Bool) (job : Value) :
    probedRecords (notified callback job) = [] := by
  cases callback <;> rfl

section Polling

variable (probe : Request) (callback : Bool) (pollInterval : Int) (start : ℚ) (timeout : Int)
  (late : String)

/-- The runs of the polling loop after its start reading. `pending` is a run
cut short by the budget; every other run ends in the pass that decided it. -/
inductive Polls : List Event → Outcome Value → Prop
  | pending : Polls [] .exhausted
  | expired {t : ℚ} : ¬ t - start < timeout → Polls [.time t] (.raised (.job late))
  | probeRaised {t : ℚ} {answer : Except TransportError Response} {e : PyError} :
      t - start < timeout → classify answer = .error e → Polls [.time t, .exchange probe answer] (.raised e)
  | callbackRaised {t : ℚ} {answer : Except TransportError Response} {job : Value} {e : PyError} :
      t - start < timeout → classify answer = .ok job → callback = true →
      Polls [.time t, .exchange probe answer, .callback job (.error e)] (.raised e)
  | statusRaised {t : ℚ} {answer : Except TransportError Response} {job : Value} {e : PyError} :
      t - start < timeout → classify answer = .ok job → job.get "status" = .error e →
      Polls ([.time t, .exchange probe answer] ++ notified callback job) (.raised e)
  | returned {t : ℚ} {answer : Except TransportError Response} {job : Value} :
      t - start < timeout → classify answer = .ok job → job.Terminal →
      Polls ([.time t, .exchange probe answer] ++ notified callback job) (.ok job)
  | sleepRaised {t : ℚ} {answer : Except TransportError Response} {job : Value}
      {status : Option Value} :
      t - start < timeout → classify answer = .ok job → job.get "status" = .ok status →
      ¬ job.Terminal → pollInterval < 0 →
      Polls ([.time t, .exchange probe answer] ++ notified callback job)
        (.raised (.foreign "ValueError" negativeSleepMessage))
  | again {t : ℚ} {answer : Except TransportError Response} {job : Value} {status : Option Value}
      {rest : List Event} {outcome : Outcome Value} :
      t - start < timeout → classify answer = .ok job → job.get "status" = .ok status →
      ¬ job.Terminal → 0 ≤ pollInterval → Polls rest outcome →
      Polls ([.time t, .exchange probe answer] ++ notified callback job ++ [.sleep pollInterval] ++
        rest) outcome

section Outcomes

variable {probe : Request} {callback : Bool} {pollInterval : Int} {start : ℚ} {timeout : Int}
  {late : String} {new : List Event} {outcome : Outcome Value}

theorem Polls.exchange_probe (polls : Polls probe callback pollInterval start timeout late new outcome)
    {request : Request} {answer : Except TransportError Response}
    (member : .exchange request answer ∈ new) : request = probe := by
  induction polls with
  | pending => cases member
  | expired => simp at member
  | probeRaised | callbackRaised => simp_all
  | statusRaised | returned | sleepRaised => cases callback <;> simp_all [notified]
  | again _ _ _ _ _ _ ih =>
    cases callback <;> simp [notified] at member <;> obtain ⟨rfl, -⟩ | member := member
    all_goals first | rfl | exact ih member

theorem Polls.ok_last (polls : Polls probe callback pollInterval start timeout late new outcome)
    {r : Value} (returned : outcome = .ok r) :
    ∃ pre answer, new = pre ++ [.exchange probe answer] ++ notified callback r ∧
      classify answer = .ok r ∧ r.Terminal ∧ ∀ x ∈ probedRecords pre, ¬ x.Terminal := by
  induction polls with
  | pending | expired | probeRaised | callbackRaised | statusRaised | sleepRaised => cases returned
  | @returned t answer _ _ probed terminal =>
    cases returned
    exact ⟨[.time t], answer, by simp, probed, terminal, by simp [probedRecords]⟩
  | @again t answer job _ _ _ _ probed _ continuing _ _ ih =>
    obtain ⟨pre, last, rfl, probedR, terminalR, earlier⟩ := ih returned
    refine ⟨[.time t, .exchange probe answer] ++ notified callback job ++ [.sleep pollInterval] ++ pre,
      last, by simp, probedR, terminalR, ?_⟩
    intro x member
    simp [probedRecords, probed] at member
    rcases member with rfl | member
    · exact continuing
    · exact earlier x member

/-- Once a record with a terminal status is probed, the wait returns it,
unless the callback raised on it. -/
theorem Polls.terminal_decides (polls : Polls probe callback pollInterval start timeout late new outcome)
    {r : Value} (member : r ∈ probedRecords new) (terminal : r.Terminal) :
    outcome = .ok r ∨ ∃ e, new.getLast? = some (.callback r (.error e)) ∧ outcome = .raised e := by
  induction polls with
  | pending | expired => simp [probedRecords] at member
  | probeRaised _ failed => simp [probedRecords, failed] at member
  | @callbackRaised t answer job e _ probed =>
    simp [probedRecords, probed] at member
    subst member
    exact .inr ⟨e, rfl, rfl⟩
  | statusRaised _ probed found =>
    simp [probedRecords, probed] at member
    subst member
    obtain ⟨s, -, read⟩ := terminal.found
    rw [found] at read
    cases read
  | sleepRaised _ probed _ continuing =>
    simp [probedRecords, probed] at member
    subst member
    exact absurd terminal continuing
  | returned _ probed =>
    simp [probedRecords, probed] at member
    exact .inl (congrArg _ member.symm)
  | again _ probed _ continuing _ _ ih =>
    simp [probedRecords, probed] at member
    rcases member with rfl | member
    · exact absurd terminal continuing
    · rcases ih member with done | ⟨e, last, raised⟩
      · exact .inl done
      · exact .inr ⟨e, by rw [List.getLast?_append, last]; rfl, raised⟩

theorem Polls.failed_probe_last (polls : Polls probe callback pollInterval start timeout late new outcome)
    {request : Request} {answer : Except TransportError Response} {e : PyError}
    (member : .exchange request answer ∈ new) (failed : classify answer = .error e) :
    new.getLast? = some (.exchange request answer) ∧ outcome = .raised e := by
  induction polls with
  | pending | expired => simp at member
  | probeRaised _ raised =>
    obtain ⟨rfl, rfl⟩ : request = _ ∧ answer = _ := by simpa using member
    exact ⟨rfl, by rw [failed] at raised; cases raised; rfl⟩
  | callbackRaised _ probed | statusRaised _ probed | returned _ probed | sleepRaised _ probed =>
    cases callback <;> simp [notified] at member <;> (obtain ⟨rfl, rfl⟩ := member; simp_all)
  | again _ probed _ _ _ _ ih =>
    cases callback <;> simp [notified] at member <;> rcases member with ⟨rfl, rfl⟩ | member
    all_goals first
      | exact ⟨by rw [List.getLast?_append, (ih member).1]; rfl, (ih member).2⟩
      | simp_all

theorem Polls.failed_callback_last (polls : Polls probe callback pollInterval start timeout late new outcome)
    {job : Value} {e : PyError} (member : .callback job (.error e) ∈ new) :
    new.getLast? = some (.callback job (.error e)) ∧ outcome = .raised e := by
  induction polls with
  | pending | expired | probeRaised => simp at member
  | callbackRaised =>
    obtain ⟨rfl, rfl⟩ : job = _ ∧ e = _ := by simpa using member
    exact ⟨rfl, rfl⟩
  | statusRaised | returned | sleepRaised => cases callback <;> simp [notified] at member
  | again _ _ _ _ _ _ ih =>
    cases callback <;> simp [notified] at member <;>
      exact ⟨by rw [List.getLast?_append, (ih member).1]; rfl, (ih member).2⟩

theorem Polls.job_error_nonterminal (polls : Polls probe callback pollInterval start timeout late new outcome)
    {m : String} (raised : outcome = .raised (.job m)) :
    (∀ x ∈ probedRecords new, ¬ x.Terminal) ∨
      ∃ job, new.getLast? = some (.callback job (.error (.job m))) := by
  induction polls with
  | pending | returned | sleepRaised => cases raised
  | expired => exact .inl (by simp [probedRecords])
  | probeRaised _ failed =>
    cases raised
    exact absurd failed classify_ne_job
  | callbackRaised =>
    cases raised
    exact .inr ⟨_, rfl⟩
  | statusRaised _ _ found =>
    cases raised
    exact absurd found (Value.get_ne_job _ _)
  | again _ probed _ continuing _ _ ih =>
    rcases ih raised with earlier | ⟨job, last⟩
    · refine .inl fun x member => ?_
      simp [probedRecords, probed] at member
      rcases member with rfl | member
      · exact continuing
      · exact earlier x member
    · exact .inr ⟨job, by rw [List.getLast?_append, last]; rfl⟩

theorem Polls.single_probe_of_negative
    (polls : Polls probe callback pollInterval start timeout late new outcome)
    (negative : pollInterval < 0) : new.countP Event.isExchange ≤ 1 := by
  cases polls <;> first
    | omega
    | cases callback <;> simp [notified, Event.isExchange]

theorem Polls.calledBack_eq (polls : Polls probe callback pollInterval start timeout late new outcome) :
    calledBack new = if callback then probedRecords new else [] := by
  induction polls with
  | pending | expired => cases callback <;> rfl
  | probeRaised _ failed => cases callback <;> simp [calledBack, probedRecords, failed]
  | callbackRaised _ probed given => simp [calledBack, probedRecords, probed, given]
  | statusRaised _ probed | returned _ probed | sleepRaised _ probed =>
    cases callback <;> simp [calledBack, probedRecords, probed, notified]
  | again _ probed _ _ _ _ ih => cases callback <;> simp_all [calledBack, probedRecords, notified]

theorem Polls.no_callback (polls : Polls probe callback pollInterval start timeout late new outcome)
    (absent : callback = false) {job : Value} {answer : Except PyError Unit} :
    .callback job answer ∉ new := by
  induction polls with
  | pending | expired | probeRaised => simp
  | callbackRaised _ _ given => exact absurd (given.symm.trans absent) Bool.noConfusion
  | statusRaised | returned | sleepRaised => simp [notified, absent]
  | again _ _ _ _ _ _ ih => simpa [notified, absent] using ih

theorem Polls.nonterminal_of_not_ok (polls : Polls probe callback pollInterval start timeout late new outcome)
    (absent : callback = false) (notOk : ∀ r, outcome ≠ .ok r) :
    ∀ x ∈ probedRecords new, ¬ x.Terminal := by
  intro x member terminal
  rcases polls.terminal_decides member terminal with done | ⟨_, last, -⟩
  · exact notOk x done
  · exact polls.no_callback absent (List.mem_of_getLast?_eq_some last)

theorem Polls.first_pass (polls : Polls probe callback pollInterval start timeout late new outcome)
    {t : ℚ} (first : new.head? = some (.time t)) :
    (¬ t - start < timeout ∧ new = [.time t] ∧ outcome = .raised (.job late)) ∨
      (t - start < timeout ∧ ∃ answer rest, new = .time t :: .exchange probe answer :: rest ∧
        ∀ job, classify answer = .ok job → callback = true →
          ∃ result rest', rest = .callback job result :: rest') := by
  cases polls with
  | pending => cases first
  | expired late =>
    cases first
    exact .inl ⟨late, rfl, rfl⟩
  | probeRaised inTime failed =>
    cases first
    exact .inr ⟨inTime, _, [], rfl, fun job probed => by rw [failed] at probed; cases probed⟩
  | callbackRaised inTime probed =>
    cases first
    refine .inr ⟨inTime, _, _, rfl, fun job probed' _ => ?_⟩
    rw [probed] at probed'
    cases probed'
    exact ⟨_, _, rfl⟩
  | statusRaised inTime probed | returned inTime probed | sleepRaised inTime probed
  | again inTime probed =>
    cases first
    refine .inr ⟨inTime, _, _, rfl, fun job probed' given => ?_⟩
    rw [probed] at probed'
    cases probed'
    subst given
    exact ⟨_, _, rfl⟩

end Outcomes

end Polling

namespace Client

variable (client : Client) (jobId : String) (timeout pollInterval : Int) (callback : Bool)

/-- The code's runs of the loop are runs of `Polls`, in every world and for
every budget. -/
theorem waitLoop_polls (start : ℚ) (fuel : Nat) (world : World) (trace : List Event) :
    ∃ new, (client.waitLoop jobId timeout pollInterval callback start fuel world trace).2 =
        trace ++ new ∧
      Polls (client.probe jobId) callback pollInterval start timeout
        (timeoutMessage jobId timeout) new
        (client.waitLoop jobId timeout pollInterval callback start fuel world trace).1 ∧
      (fuel ≠ 0 → new.head? = some (.time (world.clock trace))) := by
  induction fuel generalizing trace with
  | zero => exact ⟨[], by simp [waitLoop, exhausted], .pending, absurd rfl⟩
  | succ fuel ih =>
    rw [waitLoop_succ]
    dsimp only
    set t := world.clock trace
    set answer := world.exchange (trace ++ [.time t]) (client.probe jobId)
    by_cases inTime : t - start < timeout
    · simp only [if_pos inTime]
      cases probed : classify answer with
      | error e => exact ⟨_, by simp, .probeRaised inTime probed, fun _ => rfl⟩
      | ok job =>
        dsimp only
        cases called : (if callback then world.callback (trace ++ [.time t,
            .exchange (client.probe jobId) answer]) job else .ok ()) with
        | error e =>
          obtain rfl : callback = true := by cases callback <;> simp_all
          exact ⟨_, by simp, .callbackRaised inTime probed rfl, fun _ => rfl⟩
        | ok u =>
          cases u
          cases found : job.get "status" with
          | error e => exact ⟨_, by simp, .statusRaised inTime probed found, fun _ => by rfl⟩
          | ok status =>
            dsimp only
            cases terminal : isTerminal status
            · have continuing : ¬ job.Terminal := fun reached => by
                rw [(isTerminal_iff found).mpr reached] at terminal
                cases terminal
              simp only [Bool.false_eq_true, if_false]
              by_cases negative : pollInterval < 0
              · simp only [if_pos negative]
                exact ⟨_, by simp, .sleepRaised inTime probed found continuing negative, fun _ => by rfl⟩
              · simp only [if_neg negative]
                obtain ⟨new, grows, polls, -⟩ := ih (trace ++ [.time t, .exchange (client.probe jobId) answer] ++
                  notified callback job ++ [.sleep pollInterval])
                exact ⟨_, by rw [grows]; simp, .again inTime probed found continuing (by omega) polls,
                  fun _ => rfl⟩
            · exact ⟨_, by simp, .returned inTime probed ((isTerminal_iff found).mp terminal),
                fun _ => by rfl⟩
    · simp only [if_neg inTime]
      exact ⟨[.time t], rfl, .expired inTime, fun _ => rfl⟩

theorem waitForJob_apply (fuel : Nat) (world : World) (trace : List Event) :
    client.waitForJob jobId timeout pollInterval callback fuel world trace =
      client.waitLoop jobId timeout pollInterval callback (world.clock trace) fuel world
        (trace ++ [.time (world.clock trace)]) := rfl

end Client

/-- The deadline is checked before the first probe: when the first check
finds the time up, the wait raises `JobError` with no probe and no callback;
otherwise it probes, and calls the callback on the probed record, before
anything else. -/
theorem waitForJob_checks_deadline_first (client : Client) (jobId : String)
    (timeout pollInterval : Int) (callback : Bool) (fuel : Nat) (world : World)
    (trace : List Event) :
    let run := client.waitForJob jobId timeout pollInterval callback (fuel + 1) world trace
    let start := world.clock trace
    let first := world.clock (trace ++ [.time start])
    (¬ first - start < timeout →
      run = (.raised (.job (timeoutMessage jobId timeout)), trace ++ [.time start, .time first])) ∧
    (first - start < timeout → ∃ answer rest,
      run.2 = trace ++ [.time start, .time first, .exchange (client.probe jobId) answer] ++ rest ∧
      ∀ job, classify answer = .ok job → callback = true →
        ∃ result rest', rest = .callback job result :: rest') := by
  obtain ⟨new, grows, polls, head⟩ := client.waitLoop_polls jobId timeout pollInterval callback
    (world.clock trace) (fuel + 1) world (trace ++ [.time (world.clock trace)])
  rw [Client.waitForJob_apply]
  refine ⟨fun late => ?_, fun inTime => ?_⟩
  · rcases polls.first_pass (head fuel.succ_ne_zero) with ⟨-, rfl, raised⟩ | ⟨inTime, -⟩
    · exact Prod.ext raised (by simp [grows])
    · exact absurd inTime late
  · rcases polls.first_pass (head fuel.succ_ne_zero) with ⟨late, -⟩ | ⟨-, answer, rest, rfl, next⟩
    · exact absurd inTime late
    · exact ⟨answer, rest, by simp [grows], next⟩

/-- `wait_for_job` hands every record it probes to the callback, once and in
probe order, in every world and for every budget. -/
theorem waitForJob_hands_records_to_callback (client : Client) (jobId : String)
    (timeout pollInterval : Int) (callback : Bool) (fuel : Nat) (world : World) (trace : List Event) :
    let run := client.waitForJob jobId timeout pollInterval callback fuel world trace
    ∃ new, run.2 = trace ++ new ∧ calledBack new = if callback then probedRecords new else [] := by
  obtain ⟨new, grows, polls, -⟩ := client.waitLoop_polls jobId timeout pollInterval callback
    (world.clock trace) fuel world (trace ++ [.time (world.clock trace)])
  refine ⟨.time (world.clock trace) :: new, by simp [Client.waitForJob_apply, grows], ?_⟩
  simpa [calledBack, probedRecords] using polls.calledBack_eq

def completedAtOnce : World where
  clock _ := 0
  exchange _ _ := .ok ⟨200, "OK", "https://api.computehive.io/api/v1/jobs/j",
    "\x7b\"status\": \"completed\"\x7d"⟩
  callback _ _ := .error (.foreign "ValueError" "stop")
  environ _ := none

theorem waitForJob_zero_timeout_never_probes :
    Client.example.waitForJob "j" 0 5 true 1 completedAtOnce [] =
      (.raised (.job "Job j did not complete within 0 seconds"), [.time 0, .time 0]) := by
  rw [Client.waitForJob_apply, Client.waitLoop, time_bind, if_neg (by norm_num [completedAtOnce])]
  rfl

end ComputeHive
