import ComputeHive.Sdk
import ComputeHive.Json

/-! `ComputeHiveClient`: construction, which refuses to build a client
without an API key, and `_make_request`: one exchange on the session, then
`raise_for_status()` and `response.json()`, with the handlers turning the
`requests` exceptions into the SDK's own.
-/

set_option autoImplicit false

namespace ComputeHive

open Sdk

structure RetryPolicy where
  total : Int
  backoffFactor : Int
  statusForcelist : List Nat

structure Client where
  apiUrl : String
  apiKey : String
  timeout : Int
  retry : RetryPolicy
  keyGiven : apiKey ≠ ""

/-- Python's `a or b` on optional strings. -/
def orElse (given : Option String) (fallback : Option String) : Option String :=
  match given with
  | some s => if s.isEmpty then fallback else some s
  | none => fallback

def apiKeyRequired : String :=
  "API key is required. Set COMPUTEHIVE_API_KEY environment variable or pass api_key parameter."

/-- `ComputeHiveClient.__init__`. -/
def Client.init (apiUrl apiKey : Option String := none) (timeout : Int := 30)
    (maxRetries : Int := 3) : Sdk Client := do
  let url ← getenv "COMPUTEHIVE_API_URL"
  let key ← getenv "COMPUTEHIVE_API_KEY"
  let apiUrl := (orElse apiUrl (some (url.getD "https://api.computehive.io"))).getD ""
  match orElse apiKey key with
  | some k =>
    if given : k = "" then raise (.authentication apiKeyRequired)
    else pure ⟨apiUrl, k, timeout, ⟨maxRetries, 1, [429, 500, 502, 503, 504]⟩, given⟩
  | none => raise (.authentication apiKeyRequired)

/-- The client `ComputeHiveClient(api_key="key")` builds with no
`COMPUTEHIVE_API_URL` set. -/
def Client.example : Client :=
  ⟨"https://api.computehive.io", "key", 30, ⟨3, 1, [429, 500, 502, 503, 504]⟩, by decide⟩

def Client.headers (client : Client) : List (String × String) :=
  [("Authorization", "Bearer " ++ client.apiKey), ("Content-Type", "application/json"),
    ("User-Agent", "ComputeHive-Python-SDK/1.0.0")]

def Client.request (client : Client) (method endpoint : String)
    (data params : Option (List (String × Value))) : Request :=
  ⟨method, client.apiUrl ++ endpoint, data, params, client.timeout, client.headers⟩

/-- `response.raise_for_status()`: the `HTTPError` message for a 4xx or 5xx
status. -/
def Response.raiseForStatus (response : Response) : Option String :=
  if 400 ≤ response.statusCode ∧ response.statusCode < 500 then
    some (toString response.statusCode ++ " Client Error: " ++ response.reason ++
      " for url: " ++ response.url)
  else if 500 ≤ response.statusCode ∧ response.statusCode < 600 then
    some (toString response.statusCode ++ " Server Error: " ++ response.reason ++
      " for url: " ++ response.url)
  else none

/-- The `try` block of `_make_request` and its two handlers, on the session's
answer. A `JSONDecodeError` of `requests` is a `RequestException`. -/
def classify (answer : Except TransportError Response) : Except PyError Value :=
  match answer with
  | .error e => .error (.computeHive ("Network error: " ++ e.message))
  | .ok response =>
    match response.raiseForStatus with
    | some message =>
      if response.statusCode = 401 then
        .error (.authentication "Invalid API key or authentication failed")
      else if response.statusCode = 400 then .error (.computeHive ("Bad request: " ++ response.text))
      else .error (.computeHive ("API request failed: " ++ message))
    | none =>
      match Json.loads response.text with
      | .ok value => .ok value
      | .error failure => .error (.computeHive ("Network error: " ++ failure.render response.text))

theorem classify_ne_job {answer : Except TransportError Response} {m : String} :
    classify answer ≠ .error (.job m) := by
  rcases answer with _ | response
  · simp [classify]
  · simp only [classify]
    split
    · split_ifs <;> simp
    · split <;> simp

def Client.makeRequest (client : Client) (method endpoint : String)
    (data params : Option (List (String × Value)) := none) : Sdk Value := do
  let answer ← exchange (client.request method endpoint data params)
  ofExcept (classify answer)

theorem Client.makeRequest_bind {β : Type} (client : Client) (method endpoint : String)
    (data params : Option (List (String × Value))) (f : Value → Sdk β) (world : World)
    (trace : List Event) :
    (client.makeRequest method endpoint data params >>= f) world trace =
      match classify (world.exchange trace (client.request method endpoint data params)) with
      | .ok value => f value world (trace ++ [.exchange (client.request method endpoint data params)
          (world.exchange trace (client.request method endpoint data params))])
      | .error e => (.raised e, trace ++ [.exchange (client.request method endpoint data params)
          (world.exchange trace (client.request method endpoint data params))]) := by
  rw [makeRequest, bind_assoc, exchange_bind]
  cases classify (world.exchange trace (client.request method endpoint data params)) <;> rfl

theorem Client.makeRequest_apply (client : Client) (method endpoint : String)
    (data params : Option (List (String × Value))) (world : World) (trace : List Event) :
    client.makeRequest method endpoint data params world trace =
      (Outcome.ofExcept (classify (world.exchange trace (client.request method endpoint data params))),
        trace ++ [.exchange (client.request method endpoint data params)
          (world.exchange trace (client.request method endpoint data params))]) :=
  ofExcept_apply _ world _

end ComputeHive
