import ComputeHive.Client
import Mathlib.Data.Rat.Floor

/-! The session behind `_make_request`: the `urllib3` `Retry` that
`ComputeHiveClient.__init__` mounts, `urlopen` applying it as `HTTPAdapter.send`
runs it, and `Session.request` around that. What `requests` does before the
first attempt and after a redirect is left open, as fields of `Server`; the
results about attempts assume a request the session accepts and a server that
never redirects.
-/

set_option autoImplicit false

namespace ComputeHive

/-- The class of an exception of one attempt, as `Retry` sorts it:
`ConnectTimeoutError` and `NewConnectionError` (the request was not sent),
`ReadTimeoutError` and `ProtocolError` (the server may have received it), and
the others, such as `SSLError`. -/
inductive ErrorKind where
  | connect
  | read
  | other
  deriving DecidableEq, Repr

structure AttemptError where
  kind : ErrorKind
  str : String
  repr : String

/-- A response of one attempt: its `Retry-After` header in whole seconds, its
`Location` header, and the `str` of the exception reading its body raises. -/
structure RawResponse where
  response : Response
  retryAfter : Option Nat
  location : Option String
  readError : Option String

def RawResponse.isRedirect (raw : RawResponse) : Bool :=
  raw.location.isSome && [301, 302, 303, 307, 308].contains raw.response.statusCode

def RawResponse.read (raw : RawResponse) : Except TransportError Response :=
  match raw.readError with
  | some message => .error ⟨message⟩
  | none => .ok raw.response

theorem RawResponse.read_eq_ok {raw : RawResponse} {response : Response} :
    raw.read = .ok response ↔ raw.readError = none ∧ raw.response = response := by
  unfold RawResponse.read
  split <;> simp_all

theorem RawResponse.read_eq_error {raw : RawResponse} {m : String} :
    raw.read = .error ⟨m⟩ ↔ raw.readError = some m := by
  unfold RawResponse.read
  split <;> simp_all

inductive Attempt where
  | sent (answer : Except AttemptError RawResponse)
  | slept (seconds : Int)

def Attempt.isSent : Attempt → Bool
  | .sent _ => true
  | .slept _ => false

def Attempt.sleptFor : Attempt → Option Int
  | .sent _ => none
  | .slept seconds => some seconds

/-- The server behind a session, and what `requests` does that the model
leaves open. For each request, given the SDK's trace before it: the `str` of
the connection pool serving it, the URL `urlopen` is given, the exception
`requests` raises before any attempt if it refuses the request (`MissingSchema`,
`InvalidURL`, `InvalidJSONError`, …), how each attempt ends given the
attempts so far, and what following a redirect ends with, with its attempts. -/
structure Server where
  pool : Request → String
  url : Request → String
  refusal : Request → Option TransportError
  attempt : List Event → Request → List Attempt → Except AttemptError RawResponse
  redirected : List Event → Request → RawResponse → Except TransportError Response × List Attempt

/-- A server that answers no attempt of `request` with a redirect. -/
def Server.Direct (server : Server) (trace : List Event) (request : Request) : Prop :=
  ∀ before raw, server.attempt trace request before = .ok raw → raw.isRedirect = false

inductive Failure where
  | error (e : AttemptError)
  | status (code : Nat)

def Failure.reason : Failure → String
  | .error e => e.repr
  | .status code => "ResponseError('too many " ++ toString code ++ " error responses')"

/-- `str(MaxRetryError(pool, url, reason))`, which is also the `str` of the
exception `requests` raises for it. -/
def maxRetryMessage (pool url reason : String) : String :=
  pool ++ ": Max retries exceeded with url: " ++ url ++ " (Caused by " ++ reason ++ ")"

def defaultAllowedMethods : List String := ["HEAD", "GET", "PUT", "DELETE", "OPTIONS", "TRACE"]

def retryAfterStatusCodes : List Nat := [413, 429, 503]

def defaultBackoffMax : Int := 120

def backoffAfter (factor : Int) (failures : Nat) : Int :=
  if failures ≤ 1 then 0 else min defaultBackoffMax (factor * 2 ^ (failures - 1))

/-- A `urllib3.util.Retry` as the SDK builds it: `total`, `backoff_factor`
and `status_forcelist` given; the other counters `None`, and
`allowed_methods`, `respect_retry_after_header` and `raise_on_status` at
their defaults. `history` holds the failures counted so far. -/
structure Retry where
  total : Int
  backoffFactor : Int
  statusForcelist : List Nat
  history : List Failure

inductive Increment where
  | reraise (e : AttemptError)
  | maxRetry (reason : String)
  | next (retries : Retry)

inductive Step where
  | done (answer : Except TransportError RawResponse)
  | again (next : Retry) (sleep : List Attempt)

namespace Retry

def ofPolicy (policy : RetryPolicy) : Retry :=
  ⟨policy.total, policy.backoffFactor, policy.statusForcelist, []⟩

def isMethodRetryable (method : String) : Bool := defaultAllowedMethods.contains method

variable (retries : Retry)

def isRetry (method : String) (statusCode : Nat) (hasRetryAfter : Bool) : Bool :=
  if !isMethodRetryable method then false
  else if retries.statusForcelist.contains statusCode then true
  else retries.total != 0 && hasRetryAfter && retryAfterStatusCodes.contains statusCode

/-- `Retry.is_exhausted`: `total` is the only counter set, and
`filter(None, ...)` drops it while it is 0. -/
def isExhausted : Bool := retries.total < 0

def count (failure : Failure) : Retry :=
  { retries with total := retries.total - 1, history := retries.history ++ [failure] }

/-- `Retry.increment`: a read error of a method that is not retried is raised
again; every other failure is counted. -/
def increment (method : String) (failure : Failure) : Increment :=
  let next := retries.count failure
  let counted := if next.isExhausted then Increment.maxRetry failure.reason else .next next
  match failure with
  | .error e => if e.kind = .read ∧ isMethodRetryable method = false then .reraise e else counted
  | .status _ => counted

def backoffTime : Int := backoffAfter retries.backoffFactor retries.history.length

def sleepBackoff : List Attempt :=
  if retries.backoffTime ≤ 0 then [] else [.slept retries.backoffTime]

def sleep (retryAfter : Option Nat) : List Attempt :=
  match retryAfter with
  | some seconds => if seconds = 0 then retries.sleepBackoff else [.slept seconds]
  | none => retries.sleepBackoff

def afterFailure (pool url method : String) (failure : Failure) (retryAfter : Option Nat) : Step :=
  match retries.increment method failure with
  | .reraise e => .done (.error ⟨e.str⟩)
  | .maxRetry reason => .done (.error ⟨maxRetryMessage pool url reason⟩)
  | .next next => .again next (next.sleep retryAfter)

def afterAttempt (pool url method : String) (answer : Except AttemptError RawResponse) : Step :=
  match answer with
  | .error e => retries.afterFailure pool url method (.error e) none
  | .ok raw =>
    if retries.isRetry method raw.response.statusCode raw.retryAfter.isSome then
      retries.afterFailure pool url method (.status raw.response.statusCode) raw.retryAfter
    else .done (.ok raw)

end Retry

namespace Retry

variable {retries next : Retry} {pool url method : String}

@[simp] theorem count_total (failure : Failure) : (retries.count failure).total = retries.total - 1 := rfl

@[simp] theorem count_history (failure : Failure) :
    (retries.count failure).history = retries.history ++ [failure] := rfl

@[simp] theorem count_statusForcelist (failure : Failure) :
    (retries.count failure).statusForcelist = retries.statusForcelist := rfl

@[simp] theorem count_backoffFactor (failure : Failure) :
    (retries.count failure).backoffFactor = retries.backoffFactor := rfl

theorem increment_cases (method : String) (failure : Failure) :
    (∃ e, failure = .error e ∧ e.kind = .read ∧ isMethodRetryable method = false ∧
        retries.increment method failure = .reraise e) ∨
      (∀ e, failure = .error e → e.kind = .read → isMethodRetryable method = true) ∧
        retries.increment method failure = if (retries.count failure).isExhausted then
          .maxRetry failure.reason else .next (retries.count failure) := by
  cases failure with
  | error e =>
    by_cases reraised : e.kind = .read ∧ isMethodRetryable method = false
    · exact .inl ⟨e, rfl, reraised.1, reraised.2, if_pos reraised⟩
    · refine .inr ⟨fun e' same read => ?_, if_neg reraised⟩
      cases same
      simpa [read] using reraised
  | status code => exact .inr ⟨fun _ same => Failure.noConfusion same, rfl⟩

theorem afterFailure_again {failure : Failure} {retryAfter : Option Nat} {sleep : List Attempt}
    (step : retries.afterFailure pool url method failure retryAfter = .again next sleep) :
    next = retries.count failure ∧ 0 ≤ next.total ∧ sleep = next.sleep retryAfter ∧
      ∀ e, failure = .error e → e.kind = .read → isMethodRetryable method = true := by
  rcases retries.increment_cases method failure with ⟨e, -, -, -, raised⟩ | ⟨read, counted⟩
  · rw [afterFailure, raised] at step
    cases step
  · rw [afterFailure, counted] at step
    by_cases exhausted : (retries.count failure).isExhausted
    · rw [if_pos exhausted] at step
      cases step
    · rw [if_neg exhausted] at step
      cases step
      simp only [isExhausted, count_total, decide_eq_true_eq] at exhausted
      exact ⟨rfl, by simp only [count_total]; omega, rfl, read⟩

theorem afterFailure_done {failure : Failure} {retryAfter : Option Nat}
    {result : Except TransportError RawResponse}
    (step : retries.afterFailure pool url method failure retryAfter = .done result) :
    (∃ e, failure = .error e ∧ e.kind = .read ∧ isMethodRetryable method = false ∧
        result = .error ⟨e.str⟩) ∨
      (retries.count failure).total < 0 ∧ result = .error ⟨maxRetryMessage pool url failure.reason⟩ := by
  rcases retries.increment_cases method failure with ⟨e, same, read, once, raised⟩ | ⟨-, counted⟩
  · rw [afterFailure, raised] at step
    cases step
    exact .inl ⟨e, same, read, once, rfl⟩
  · rw [afterFailure, counted] at step
    by_cases exhausted : (retries.count failure).isExhausted
    · rw [if_pos exhausted] at step
      cases step
      exact .inr ⟨by simpa [isExhausted] using exhausted, rfl⟩
    · rw [if_neg exhausted] at step
      cases step

theorem afterAttempt_again {answer : Except AttemptError RawResponse} {sleep : List Attempt}
    (step : retries.afterAttempt pool url method answer = .again next sleep) :
    0 ≤ next.total ∧ ∃ failure retryAfter, next = retries.count failure ∧
      sleep = next.sleep retryAfter ∧
      ((∃ e, answer = .error e ∧ failure = .error e ∧ retryAfter = none ∧
          (e.kind = .read → isMethodRetryable method = true)) ∨
        ∃ raw, answer = .ok raw ∧ failure = .status raw.response.statusCode ∧
          retryAfter = raw.retryAfter ∧
          retries.isRetry method raw.response.statusCode raw.retryAfter.isSome = true) := by
  cases answer with
  | error e =>
    obtain ⟨rfl, nonneg, rfl, read⟩ := afterFailure_again step
    exact ⟨nonneg, _, _, rfl, rfl, .inl ⟨e, rfl, rfl, rfl, read e rfl⟩⟩
  | ok raw =>
    simp only [afterAttempt] at step
    split at step
    · next retried =>
      obtain ⟨rfl, nonneg, rfl, -⟩ := afterFailure_again step
      exact ⟨nonneg, _, _, rfl, rfl, .inr ⟨raw, rfl, rfl, rfl, retried⟩⟩
    · cases step

theorem afterAttempt_done {answer : Except AttemptError RawResponse}
    {result : Except TransportError RawResponse}
    (step : retries.afterAttempt pool url method answer = .done result) :
    (∃ raw, answer = .ok raw ∧ result = .ok raw ∧
        retries.isRetry method raw.response.statusCode raw.retryAfter.isSome = false) ∨
      (∃ e, answer = .error e ∧ e.kind = .read ∧ isMethodRetryable method = false ∧
        result = .error ⟨e.str⟩) ∨
      ∃ failure, (retries.count failure).total < 0 ∧
        result = .error ⟨maxRetryMessage pool url failure.reason⟩ ∧
        ((∃ e, answer = .error e ∧ failure = .error e) ∨
          ∃ raw, answer = .ok raw ∧ failure = .status raw.response.statusCode) := by
  cases answer with
  | error e =>
    rcases afterFailure_done step with ⟨e, ⟨⟩, read, once, raised⟩ | ⟨exhausted, raised⟩
    · exact .inr (.inl ⟨e, rfl, read, once, raised⟩)
    · exact .inr (.inr ⟨_, exhausted, raised, .inl ⟨e, rfl, rfl⟩⟩)
  | ok raw =>
    simp only [afterAttempt] at step
    split at step
    · rcases afterFailure_done step with ⟨e, ⟨⟩, -⟩ | ⟨exhausted, raised⟩
      exact .inr (.inr ⟨_, exhausted, raised, .inr ⟨raw, rfl, rfl⟩⟩)
    · next declined =>
      cases step
      exact .inl ⟨raw, rfl, rfl, by simpa using declined⟩

end Retry

/-- `HTTPConnectionPool.urlopen(..., retries=retries, redirect=False)` after
the attempts in `log`: one attempt, then the end of the run or a retry. -/
def urlopen (server : Server) (trace : List Event) (request : Request) (retries : Retry)
    (log : List Attempt) : Except TransportError RawResponse × List Attempt :=
  match step : retries.afterAttempt (server.pool request) (server.url request) request.method
      (server.attempt trace request log) with
  | .done result => (result, log ++ [.sent (server.attempt trace request log)])
  | .again next sleep =>
    urlopen server trace request next (log ++ .sent (server.attempt trace request log) :: sleep)
termination_by retries.total.toNat
decreasing_by
  obtain ⟨nonneg, failure, _, rfl, -⟩ := Retry.afterAttempt_again step
  simp only [Retry.count_total] at nonneg
  simp_wf
  omega

namespace Retry

variable (retries : Retry)

theorem sent_not_mem_sleep (retryAfter : Option Nat) (answer : Except AttemptError RawResponse) :
    .sent answer ∉ retries.sleep retryAfter := by
  unfold sleep sleepBackoff
  split <;> split_ifs <;> simp

theorem countP_sleep (retryAfter : Option Nat) : (retries.sleep retryAfter).countP Attempt.isSent = 0 := by
  unfold sleep sleepBackoff
  split <;> split_ifs <;> rfl

theorem sleptFor_sleep_none :
    (retries.sleep none).filterMap Attempt.sleptFor = [retries.backoffTime].filter (0 < ·) := by
  unfold sleep sleepBackoff
  split_ifs with short
  · simp only [List.filterMap_nil, List.filter_cons, List.filter_nil]
    rw [if_neg (by simp only [decide_eq_true_eq]; omega)]
  · simp only [List.filterMap_cons, Attempt.sleptFor, List.filterMap_nil, List.filter_cons,
      List.filter_nil]
    rw [if_pos (by simp only [decide_eq_true_eq]; omega)]

end Retry

theorem urlopen_done {server : Server} {trace : List Event} {request : Request} {retries : Retry}
    {log : List Attempt} {result : Except TransportError RawResponse}
    (step : retries.afterAttempt (server.pool request) (server.url request) request.method
      (server.attempt trace request log) = .done result) :
    urlopen server trace request retries log = (result, log ++ [.sent (server.attempt trace request log)]) := by
  rw [urlopen]
  split
  · next same => rw [step] at same; cases same; rfl
  · next same => rw [step] at same; cases same

theorem urlopen_again {server : Server} {trace : List Event} {request : Request} {retries next : Retry}
    {log sleep : List Attempt}
    (step : retries.afterAttempt (server.pool request) (server.url request) request.method
      (server.attempt trace request log) = .again next sleep) :
    urlopen server trace request retries log =
      urlopen server trace request next (log ++ .sent (server.attempt trace request log) :: sleep) := by
  rw [urlopen]
  split
  · next same => rw [step] at same; cases same
  · next same => rw [step] at same; cases same; rfl

section Runs

variable (pool url method : String)

/-- The runs of `urlopen` from a `Retry`, for a request with `method` that
`pool` serves at `url`: attempts, each but the last followed by its sleep and
tried again with the next `Retry`. -/
inductive Runs : Retry → List Attempt → Except TransportError RawResponse → Prop
  | done {retries : Retry} {answer : Except AttemptError RawResponse}
      {result : Except TransportError RawResponse} :
      retries.afterAttempt pool url method answer = .done result → Runs retries [.sent answer] result
  | again {retries next : Retry} {answer : Except AttemptError RawResponse} {sleep rest : List Attempt}
      {result : Except TransportError RawResponse} :
      retries.afterAttempt pool url method answer = .again next sleep → Runs next rest result →
      Runs retries (.sent answer :: sleep ++ rest) result

end Runs

/-- The code's runs are runs of `Runs`, for every server, and every attempt
in them is one the server answered. -/
theorem urlopen_runs (server : Server) (trace : List Event) (request : Request) (retries : Retry)
    (log : List Attempt) :
    ∃ new, (urlopen server trace request retries log).2 = log ++ new ∧
      Runs (server.pool request) (server.url request) request.method retries new
        (urlopen server trace request retries log).1 ∧
      ∀ answer, .sent answer ∈ new → ∃ before, answer = server.attempt trace request before := by
  induction retries, log using urlopen.induct server trace request with
  | case1 retries log result step =>
    rw [urlopen_done step]
    exact ⟨_, rfl, .done step, fun answer member => ⟨log, by simpa using member⟩⟩
  | case2 retries log next sleep step ih =>
    obtain ⟨new, grows, runs, answered⟩ := ih
    rw [urlopen_again step]
    refine ⟨_ :: sleep ++ new, by rw [grows]; simp, .again step runs, fun answer member => ?_⟩
    rcases List.mem_cons.mp member with first | later
    · exact ⟨log, Attempt.sent.inj first⟩
    · rcases List.mem_append.mp later with slept | later
      · obtain ⟨-, _, _, rfl, -⟩ := (Retry.afterAttempt_again step).2
        exact absurd slept (Retry.sent_not_mem_sleep _ _ _)
      · exact answered answer later

section RunFacts

variable {pool url method : String} {retries : Retry} {new : List Attempt}
  {result : Except TransportError RawResponse}

theorem Runs.attempts (runs : Runs pool url method retries new result) :
    1 ≤ new.countP Attempt.isSent ∧ new.countP Attempt.isSent ≤ retries.total.toNat + 1 := by
  induction runs with
  | done => simp [Attempt.isSent]
  | again step _ ih =>
    obtain ⟨nonneg, failure, retryAfter, rfl, rfl, -⟩ := Retry.afterAttempt_again step
    simp only [Retry.count_total] at nonneg ih
    simp only [List.countP_cons, List.countP_append, Retry.countP_sleep, Attempt.isSent, if_true]
    omega

theorem Runs.last (runs : Runs pool url method retries new result) :
    ∃ pre answer, ∃ final : Retry, new = pre ++ [.sent answer] ∧
      final.statusForcelist = retries.statusForcelist ∧
      final.afterAttempt pool url method answer = .done result ∧
      ∀ a, .sent a ∈ pre → ∃ r : Retry, r.statusForcelist = retries.statusForcelist ∧
        ∃ next sleep, r.afterAttempt pool url method a = .again next sleep := by
  induction runs with
  | done step => exact ⟨[], _, _, rfl, rfl, step, fun _ member => absurd member (List.not_mem_nil _)⟩
  | @again retries next answer sleep rest result step _ ih =>
    obtain ⟨pre, last, final, rfl, forcelist, ended, retried⟩ := ih
    obtain ⟨-, failure, retryAfter, rfl, rfl, -⟩ := Retry.afterAttempt_again step
    refine ⟨.sent answer :: (retries.count failure).sleep retryAfter ++ pre, last, final, by simp,
      by simpa using forcelist, ended, fun a member => ?_⟩
    rcases List.mem_cons.mp member with first | later
    · cases first
      exact ⟨retries, rfl, _, _, step⟩
    · rcases List.mem_append.mp later with slept | earlier
      · exact absurd slept (Retry.sent_not_mem_sleep _ _ _)
      · obtain ⟨r, same, retry⟩ := retried a earlier
        exact ⟨r, by simpa using same, retry⟩

theorem Runs.resent_after_unread (runs : Runs pool url method retries new result)
    (once : Retry.isMethodRetryable method = false) :
    ∃ pre answer, new = pre ++ [.sent answer] ∧
      ∀ a, .sent a ∈ pre → ∃ e, a = .error e ∧ e.kind ≠ .read := by
  obtain ⟨pre, answer, -, rfl, -, -, retried⟩ := runs.last
  refine ⟨pre, answer, rfl, fun a member => ?_⟩
  obtain ⟨r, -, next, sleep, step⟩ := retried a member
  obtain ⟨_, _, _, _, ⟨e, rfl, -, -, read⟩ | ⟨raw, rfl, -, -, retry⟩⟩ := (Retry.afterAttempt_again step).2
  · exact ⟨e, rfl, fun isRead => by simp [read isRead] at once⟩
  · simp [Retry.isRetry, once] at retry

theorem Runs.ok_last (runs : Runs pool url method retries new result) {raw : RawResponse}
    (returned : result = .ok raw) :
    ∃ pre, new = pre ++ [.sent (.ok raw)] ∧
      (Retry.isMethodRetryable method = true → raw.response.statusCode ∉ retries.statusForcelist) := by
  obtain ⟨pre, answer, final, rfl, forcelist, ended, -⟩ := runs.last
  subst returned
  rcases Retry.afterAttempt_done ended with ⟨raw', rfl, same, declined⟩ | ⟨e, -, -, -, raised⟩ |
    ⟨failure, -, raised, -⟩
  · cases same
    refine ⟨pre, rfl, fun retryable forced => ?_⟩
    simp only [Retry.isRetry, retryable, forcelist, List.elem_eq_mem, forced] at declined
    simp at declined
  · cases raised
  · cases raised

theorem Runs.error_last (runs : Runs pool url method retries new result) {m : String}
    (raised : result = .error ⟨m⟩) :
    ∃ pre answer, new = pre ++ [.sent answer] ∧
      ((∃ e, answer = .error e ∧ e.kind = .read ∧ Retry.isMethodRetryable method = false ∧ m = e.str) ∨
        (∃ e, answer = .error e ∧ m = maxRetryMessage pool url (Failure.error e).reason) ∨
        ∃ raw, answer = .ok raw ∧
          m = maxRetryMessage pool url (Failure.status raw.response.statusCode).reason) := by
  obtain ⟨pre, answer, final, rfl, -, ended, -⟩ := runs.last
  subst raised
  refine ⟨pre, answer, rfl, ?_⟩
  rcases Retry.afterAttempt_done ended with ⟨raw, -, returned, -⟩ | ⟨e, same, read, once, raised⟩ |
    ⟨failure, -, raised, ⟨e, same, rfl⟩ | ⟨raw, same, rfl⟩⟩
  · cases returned
  · cases raised
    exact .inl ⟨e, same, read, once, rfl⟩
  · cases raised
    exact .inr (.inl ⟨e, same, rfl⟩)
  · cases raised
    exact .inr (.inr ⟨raw, same, rfl⟩)

/-- A method that is retried, against a server that answers every attempt
with a status in `status_forcelist` and no `Retry-After`: the run makes
`total + 1` attempts, sleeps the backoff after each failure but the first
and the last, and gives up with `MaxRetryError` on the last status. -/
theorem Runs.persistent (runs : Runs pool url method retries new result)
    (retryable : Retry.isMethodRetryable method = true) (nonneg : 0 ≤ retries.total)
    (forced : ∀ a, .sent a ∈ new → ∃ raw, a = .ok raw ∧
      raw.response.statusCode ∈ retries.statusForcelist ∧ raw.retryAfter = none) :
    new.countP Attempt.isSent = retries.total.toNat + 1 ∧
      new.filterMap Attempt.sleptFor = ((List.range retries.total.toNat).map fun i =>
        backoffAfter retries.backoffFactor (retries.history.length + i + 1)).filter (0 < ·) ∧
      ∃ pre raw, new = pre ++ [.sent (.ok raw)] ∧
        result = .error ⟨maxRetryMessage pool url (Failure.status raw.response.statusCode).reason⟩ := by
  induction runs with
  | @done retries answer result step =>
    obtain ⟨raw, rfl, status, -⟩ := forced answer (List.mem_singleton_self _)
    have retried : retries.isRetry method raw.response.statusCode raw.retryAfter.isSome := by
      simp [Retry.isRetry, retryable, status]
    simp only [Retry.afterAttempt, retried, if_true] at step
    rcases Retry.afterFailure_done step with ⟨e, ⟨⟩, -⟩ | ⟨exhausted, raised⟩
    simp only [Retry.count_total] at exhausted
    have zero : retries.total.toNat = 0 := by omega
    exact ⟨by simp [Attempt.isSent, zero], by simp [Attempt.sleptFor, zero], [], raw, rfl, raised⟩
  | @again retries next answer sleep rest result step _ ih =>
    obtain ⟨raw, rfl, status, noHeader⟩ := forced _ (List.mem_cons_self _ _)
    obtain ⟨nonneg', failure, retryAfter, rfl, rfl, ⟨e, ⟨⟩, -⟩ | ⟨raw', ⟨⟩, rfl, rfl, -⟩⟩ :=
      Retry.afterAttempt_again step
    obtain ⟨count, slept, pre, last, rfl, raised⟩ := ih nonneg' fun a member =>
      by simpa using forced a (List.mem_cons_of_mem _ (List.mem_append_right _ member))
    simp only [Retry.count_total] at nonneg' count slept
    have total : retries.total.toNat = (retries.total - 1).toNat + 1 := by omega
    refine ⟨?_, ?_, .sent (.ok raw) :: (retries.count (.status raw.response.statusCode)).sleep none ++ pre,
      last, by rw [noHeader]; simp, raised⟩
    · simp only [List.countP_cons, List.countP_append, Retry.countP_sleep, Attempt.isSent, if_true,
        count, total]
      omega
    · simp only [noHeader, List.filterMap_cons, Attempt.sleptFor, List.filterMap_append,
        Retry.sleptFor_sleep_none, slept, total, List.range_succ_eq_map]
      rw [← List.filter_append, List.singleton_append, List.map_cons, List.map_map]
      congr 3
      · simp [Retry.backoffTime]
      · funext i
        simp only [Function.comp_apply, Retry.count_backoffFactor, Retry.count_history,
          List.length_append, List.length_singleton, Nat.succ_eq_add_one]
        congr 1
        omega

end RunFacts

def HTTPAdapter.send (policy : RetryPolicy) (server : Server) (trace : List Event) (request : Request) :
    Except TransportError RawResponse × List Attempt :=
  urlopen server trace request (Retry.ofPolicy policy) []

namespace Session

/-- `session.request(...)`: the refusal before any attempt, or the adapter's
run, the redirect it may lead to, and the read of the final body. -/
def request (policy : RetryPolicy) (server : Server) (trace : List Event) (request : Request) :
    Except TransportError Response × List Attempt :=
  match server.refusal request with
  | some refused => (.error refused, [])
  | none =>
    match HTTPAdapter.send policy server trace request with
    | (.error e, attempts) => (.error e, attempts)
    | (.ok raw, attempts) =>
      if raw.isRedirect then
        ((server.redirected trace request raw).1, attempts ++ (server.redirected trace request raw).2)
      else (raw.read, attempts)

def world (policy : RetryPolicy) (server : Server) (base : World) : World :=
  { base with exchange := fun trace request => (Session.request policy server trace request).1 }

variable {policy : RetryPolicy} {server : Server} {trace : List Event} {request : Request}

theorem request_of_refused {refused : TransportError} (given : server.refusal request = some refused) :
    Session.request policy server trace request = (.error refused, []) := by
  rw [Session.request, given]

theorem request_runs (accepted : server.refusal request = none) (direct : server.Direct trace request) :
    ∃ result, Runs (server.pool request) (server.url request) request.method (Retry.ofPolicy policy)
        (Session.request policy server trace request).2 result ∧
      (Session.request policy server trace request).1 = result.bind RawResponse.read ∧
      ∀ answer, .sent answer ∈ (Session.request policy server trace request).2 →
        ∃ before, answer = server.attempt trace request before := by
  obtain ⟨new, grows, runs, answered⟩ := urlopen_runs server trace request (Retry.ofPolicy policy) []
  rw [List.nil_append] at grows
  have sent : HTTPAdapter.send policy server trace request =
      ((urlopen server trace request (Retry.ofPolicy policy) []).1, new) := Prod.ext rfl grows
  generalize (urlopen server trace request (Retry.ofPolicy policy) []).1 = result at sent runs
  refine ⟨result, ?_⟩
  rcases result with e | raw
  · simp only [Session.request, accepted, sent]
    exact ⟨runs, rfl, answered⟩
  · obtain ⟨pre, rfl, -⟩ := runs.ok_last rfl
    obtain ⟨before, last⟩ := answered (.ok raw) (by simp)
    have staying := direct before raw last.symm
    simp only [Session.request, accepted, sent, staying, Bool.false_eq_true, if_false]
    exact ⟨runs, rfl, answered⟩

end Session

/-- For a request the session accepts and a server that does not redirect it,
a method that `Retry` does not retry, as every `POST` of the SDK, is sent
again only after an attempt that ended with a connection error or another
exception that is not a read error: never after a response, and never after a
read timeout or a dropped connection, when the server may have received it. -/
theorem send_resends_only_unreceived (policy : RetryPolicy) (server : Server) (trace : List Event)
    (request : Request) (accepted : server.refusal request = none)
    (direct : server.Direct trace request) (once : Retry.isMethodRetryable request.method = false) :
    ∃ pre answer, (Session.request policy server trace request).2 = pre ++ [.sent answer] ∧
      ∀ a, .sent a ∈ pre → ∃ e, a = .error e ∧ e.kind ≠ .read := by
  obtain ⟨result, runs, -, -⟩ := @Session.request_runs policy server trace request accepted direct
  exact runs.resent_after_unread once

def refusingOnce : Server where
  pool _ := "HTTPSConnectionPool(host='api.computehive.io', port=443)"
  url _ := "/api/v1/jobs"
  refusal _ := none
  attempt _ _ before :=
    if before.isEmpty then
      .error ⟨.connect, "Failed to establish a new connection: [Errno 111] Connection refused",
        "NewConnectionError('Failed to establish a new connection: [Errno 111] Connection refused')"⟩
    else .ok ⟨⟨201, "Created", "https://api.computehive.io/api/v1/jobs", "\x7b\"id\": \"j\"\x7d"⟩,
      none, none, none⟩
  redirected _ _ _ := (.error ⟨"Exceeded 30 redirects."⟩, [])

theorem refusingOnce_direct (trace : List Event) (request : Request) :
    refusingOnce.Direct trace request := by
  intro before raw answered
  simp only [refusingOnce] at answered
  split at answered
  · cases answered
  · cases answered
    rfl

theorem send_resends_only_unreceived_example :
    refusingOnce.refusal (Client.example.request "POST" "/api/v1/jobs" none none) = none ∧
      Retry.isMethodRetryable "POST" = false ∧
      ∃ pre answer, (Session.request Client.example.retry refusingOnce []
          (Client.example.request "POST" "/api/v1/jobs" none none)).2 = pre ++ [.sent answer] ∧
        ∀ a, .sent a ∈ pre → ∃ e, a = .error e ∧ e.kind ≠ .read :=
  ⟨rfl, by decide, send_resends_only_unreceived _ _ _ _ rfl (refusingOnce_direct _ _) (by decide)⟩

end ComputeHive
