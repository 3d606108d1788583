import ComputeHive.Transport
import ComputeHive.Deadline

/-! The SDK's calls over the retrying session: a call that keeps getting a
status of `status_forcelist` ends in the network error naming the last one,
and a whole `wait_for_job` makes at most `max_retries + 1` attempts for each
of its probes.
-/

set_option autoImplicit false

namespace ComputeHive

open Sdk

namespace Session

/-- The attempts the session made for the exchanges of `events`, which
followed `before` in the SDK's trace. -/
def attempts (policy : RetryPolicy) (server : Server) : List Event → List Event → Nat
  | _, [] => 0
  | before, event :: rest =>
    (match event with
      | .exchange request _ => (Session.request policy server before request).2.countP Attempt.isSent
      | _ => 0) + attempts policy server (before ++ [event]) rest

theorem request_attempts_le (policy : RetryPolicy) {server : Server} (trace : List Event)
    (request : Request) (direct : server.Direct trace request) :
    (Session.request policy server trace request).2.countP Attempt.isSent ≤ policy.total.toNat + 1 := by
  cases refused : server.refusal request with
  | some e => simp [request_of_refused refused]
  | none =>
    obtain ⟨result, runs, -, -⟩ := @request_runs policy server trace request refused direct
    simpa [Retry.ofPolicy] using runs.attempts.2

theorem attempts_le (policy : RetryPolicy) {server : Server}
    (direct : ∀ trace request, server.Direct trace request) (before events : List Event) :
    attempts policy server before events ≤ events.countP Event.isExchange * (policy.total.toNat + 1) := by
  induction events generalizing before with
  | nil => simp [attempts]
  | cons event rest ih =>
    have bounded := ih (before ++ [event])
    cases event with
    | exchange request answer =>
      have one := request_attempts_le policy before request (direct before request)
      simp only [attempts, List.countP_cons, Event.isExchange, if_true]
      rw [Nat.add_mul, one_mul]
      omega
    | _ => simpa [attempts, Event.isExchange] using bounded

end Session

/-- The backoffs of the SDK's policy, `backoff_factor=1`, before the
attempts after the first two: 2, 4, ... seconds, at most 120. -/
theorem backoffs_of_factor_one (n : Nat) :
    ((List.range n).map fun i => backoffAfter 1 (i + 1)).filter (0 < ·) =
      (List.range (n - 1)).map fun i => min 120 (2 ^ (i + 1)) := by
  cases n with
  | zero => rfl
  | succ n =>
    rw [List.range_succ_eq_map, List.map_cons, List.filter_cons, List.map_map]
    simp only [backoffAfter, Nat.zero_add, le_refl, if_true, lt_self_iff_false, decide_False,
      Nat.add_sub_cancel]
    rw [List.filter_eq_self.mpr]
    · refine List.map_congr_left fun i _ => ?_
      simp [defaultBackoffMax, Nat.succ_eq_add_one]
    · intro x member
      obtain ⟨i, -, rfl⟩ := List.mem_map.mp member
      simp [defaultBackoffMax, Nat.succ_eq_add_one]

/-- An idempotent call, as every `GET` of the SDK, over a session with the
policy `ComputeHiveClient.__init__` builds for `max_retries = n ≥ 0`, for a
request the session accepts, against a server that answers every attempt with
a status of `[429, 500, 502, 503, 504]` and no `Retry-After`: the session
makes exactly `n + 1` attempts, sleeps nothing before the second and 2, 4,
... seconds (at most 120) before each later one, and `_make_request` raises
the network error that names the last attempt's status, never its `API
request failed` error. -/
theorem makeRequest_gives_up_on_persistent_status (client : Client) (n : Int) (nonneg : 0 ≤ n)
    (policy : client.retry = ⟨n, 1, [429, 500, 502, 503, 504]⟩) (server : Server) (base : World)
    (method endpoint : String) (data params : Option (List (String × Value))) (trace : List Event)
    (retryable : Retry.isMethodRetryable method = true)
    (accepted : server.refusal (client.request method endpoint data params) = none)
    (forced : ∀ before, ∃ raw,
      server.attempt trace (client.request method endpoint data params) before = .ok raw ∧
      raw.response.statusCode ∈ [429, 500, 502, 503, 504] ∧ raw.retryAfter = none) :
    let request := client.request method endpoint data params
    let attempts := (Session.request client.retry server trace request).2
    attempts.countP Attempt.isSent = n.toNat + 1 ∧
      attempts.filterMap Attempt.sleptFor = (List.range (n.toNat - 1)).map (fun i => min 120 (2 ^ (i + 1))) ∧
      ∃ raw, attempts.getLast? = some (.sent (.ok raw)) ∧
        (client.makeRequest method endpoint data params (Session.world client.retry server base) trace).1 =
          .raised (.computeHive ("Network error: " ++ maxRetryMessage (server.pool request)
            (server.url request) ("ResponseError('too many " ++ toString raw.response.statusCode ++
              " error responses')"))) := by
  intro request attempts
  have start : Retry.ofPolicy client.retry = ⟨n, 1, [429, 500, 502, 503, 504], []⟩ := by
    rw [policy]
    rfl
  have direct : server.Direct trace request := fun before raw answered => by
    obtain ⟨raw', same, status, -⟩ := forced before
    rw [answered] at same
    cases same
    simp only [List.mem_cons, List.mem_singleton, List.not_mem_nil, or_false] at status
    rcases status with code | code | code | code | code <;>
      simp [RawResponse.isRedirect, code]
  obtain ⟨result, runs, answered, fromServer⟩ :=
    @Session.request_runs client.retry server trace request accepted direct
  rw [start] at runs
  have everyForced : ∀ a, .sent a ∈ attempts → ∃ raw, a = .ok raw ∧
      raw.response.statusCode ∈ [429, 500, 502, 503, 504] ∧ raw.retryAfter = none := fun a member => by
    obtain ⟨before, rfl⟩ := fromServer a member
    exact forced before
  obtain ⟨count, slept, pre, last, ends, raised⟩ := runs.persistent retryable nonneg everyForced
  refine ⟨count, ?_, last, by rw [show attempts = _ from ends]; simp, ?_⟩
  · rw [← backoffs_of_factor_one]
    simpa using slept
  · rw [Client.makeRequest_apply]
    simp only [Session.world, answered, raised]
    rfl

def alwaysUnavailable : Server where
  pool _ := "HTTPSConnectionPool(host='api.computehive.io', port=443)"
  url _ := "/api/v1/jobs/j"
  refusal _ := none
  attempt _ request _ := .ok ⟨⟨503, "Service Unavailable", request.url, ""⟩, none, none, none⟩
  redirected _ _ _ := (.error ⟨"Exceeded 30 redirects."⟩, [])

theorem alwaysUnavailable_direct (trace : List Event) (request : Request) :
    alwaysUnavailable.Direct trace request := by
  rintro before raw ⟨⟩
  rfl

theorem makeRequest_gives_up_on_persistent_status_example :
    Client.example.retry = ⟨3, 1, [429, 500, 502, 503, 504]⟩ ∧ Retry.isMethodRetryable "GET" = true ∧
      (Session.request Client.example.retry alwaysUnavailable []
        (Client.example.request "GET" "/api/v1/jobs/j" none none)).2.countP Attempt.isSent = 4 ∧
      (Session.request Client.example.retry alwaysUnavailable []
        (Client.example.request "GET" "/api/v1/jobs/j" none none)).2.filterMap Attempt.sleptFor = [2, 4] :=
  have given := makeRequest_gives_up_on_persistent_status Client.example 3 (by decide) rfl alwaysUnavailable
    runningJob "GET" "/api/v1/jobs/j" none none [] (by decide) rfl fun _ => ⟨_, rfl, by decide, rfl⟩
  ⟨rfl, by decide, given.1, given.2.1⟩

/-- Over a session in front of a server that never redirects, against a
steady clock and a `poll_interval > 0`, a whole `wait_for_job` whose budget
covers `max(0, ceil(timeout / poll_interval))` passes makes at most
`max(max_retries, 0) + 1` attempts for each of at most that many probes,
whatever the server answers and the callback does. -/
theorem waitForJob_attempts_over_session (client : Client) (server : Server) (base : World)
    (jobId : String) (timeout pollInterval : Int) (callback : Bool) (fuel : Nat) (trace : List Event)
    (direct : ∀ trace request, server.Direct trace request)
    (steady : SteadyClock (Session.world client.retry server base)) (positive : 0 < pollInterval)
    (enough : passBound timeout pollInterval < fuel) :
    ∃ new, (client.waitForJob jobId timeout pollInterval callback fuel
        (Session.world client.retry server base) trace).2 = trace ++ new ∧
      Session.attempts client.retry server trace new ≤
        passBound timeout pollInterval * (client.retry.total.toNat + 1) := by
  set world := Session.world client.retry server base
  obtain ⟨-, new, grows, count⟩ := Client.waitLoop_terminates timeout callback (world.clock trace)
    steady positive fuel (trace ++ [.time (world.clock trace)]) 0 (by simp [steady.reading])
    (Nat.zero_le _) (by omega)
  refine ⟨.time (world.clock trace) :: new, by rw [Client.waitForJob_apply, grows]; simp, ?_⟩
  calc Session.attempts client.retry server trace (.time (world.clock trace) :: new)
      = Session.attempts client.retry server (trace ++ [.time (world.clock trace)]) new := by
        simp [Session.attempts]
    _ ≤ new.countP Event.isExchange * (client.retry.total.toNat + 1) := Session.attempts_le _ direct _ _
    _ ≤ passBound timeout pollInterval * (client.retry.total.toNat + 1) :=
        Nat.mul_le_mul_right _ (by omega)

theorem waitForJob_attempts_over_session_of_runningJob :
    (∀ trace request, alwaysUnavailable.Direct trace request) ∧
      SteadyClock (Session.world Client.example.retry alwaysUnavailable runningJob) ∧ passBound 10 5 < 3 ∧
      ∃ new, (Client.example.waitForJob "j" 10 5 false 3
          (Session.world Client.example.retry alwaysUnavailable runningJob) []).2 = [] ++ new ∧
        Session.attempts Client.example.retry alwaysUnavailable [] new ≤ passBound 10 5 * 4 :=
  have steady : SteadyClock (Session.world Client.example.retry alwaysUnavailable runningJob) :=
    ⟨runningJob_steady.1, runningJob_steady.2, runningJob_steady.3, runningJob_steady.4⟩
  have bound : passBound 10 5 < 3 := by norm_num [passBound]
  ⟨alwaysUnavailable_direct, steady, bound, waitForJob_attempts_over_session Client.example
    alwaysUnavailable runningJob "j" 10 5 false 3 [] alwaysUnavailable_direct steady (by decide) bound⟩

end ComputeHive
