import ComputeHive.Client

/-! The API surface: each operation builds its body or query map and makes
one call of `_make_request`. `list_jobs` and `submit_job` test values that
are always true, while `get_marketplace_offers` and `get_usage_stats` test
the argument's own truth value (`setIfTruthy`), dropping a given `0`, `0.0`
or `""` as if it were `None`.
-/

set_option autoImplicit false

namespace ComputeHive

open Sdk

/-- `if value: params[key] = value`, for a key not yet in `params`. -/
def setIfTruthy (params : List (String × Value)) (key : String) (value : Value) :
    List (String × Value) :=
  if value.truthy then params ++ [(key, value)] else params

namespace Client

variable (client : Client)

/-- The body of `submit_job`; `sla_requirements` is added when given, a
dataclass instance being always true. -/
def submitJobData (jobType : JobType) (requirements : ResourceRequirements) (payload : JobPayload)
    (priority timeout maxRetries : Int) (slaRequirements : Option SLARequirements) :
    List (String × Value) :=
  let data := [("type", .str jobType.value), ("requirements", .dict requirements.toDict),
    ("payload", .dict payload.toDict), ("priority", .int priority), ("timeout", .int timeout),
    ("max_retries", .int maxRetries)]
  match slaRequirements with
  | some sla => data ++ [("sla_requirements", .dict sla.toDict)]
  | none => data

def submitJob (jobType : JobType) (requirements : ResourceRequirements) (payload : JobPayload)
    (priority : Int := 5) (timeout : Int := 3600) (maxRetries : Int := 3)
    (slaRequirements : Option SLARequirements := none) : Sdk Value :=
  client.makeRequest "POST" "/api/v1/jobs"
    (some (submitJobData jobType requirements payload priority timeout maxRetries slaRequirements))

def getJob (jobId : String) : Sdk Value :=
  client.makeRequest "GET" ("/api/v1/jobs/" ++ jobId)

/-- The query map of `list_jobs`; `status` is added when given, an enum
member being always true. -/
def listJobsParams (status : Option JobStatus) (limit offset : Int) : List (String × Value) :=
  let params := [("limit", .int limit), ("offset", .int offset)]
  match status with
  | some s => params ++ [("status", .str s.value)]
  | none => params

def listJobs (status : Option JobStatus := none) (limit : Int := 100) (offset : Int := 0) :
    Sdk Value :=
  client.makeRequest "GET" "/api/v1/jobs" none (some (listJobsParams status limit offset))

def cancelJob (jobId : String) : Sdk Unit := do
  let _ ← client.makeRequest "POST" ("/api/v1/jobs/" ++ jobId ++ "/cancel")
  pure ()

def getJobResult (jobId : String) : Sdk Value :=
  client.makeRequest "GET" ("/api/v1/jobs/" ++ jobId ++ "/result")

def getJobLogs (jobId : String) (tail : Int := 100) : Sdk Value := do
  let response ← client.makeRequest "GET" ("/api/v1/jobs/" ++ jobId ++ "/logs") none
    (some [("tail", .int tail)])
  let logs ← ofExcept (response.get "logs")
  pure (logs.getD (.str ""))

def getAgents (activeOnly : Bool := true) : Sdk Value :=
  client.makeRequest "GET" "/api/v1/agents" none (some [("active", .bool activeOnly)])

def getAgent (agentId : String) : Sdk Value :=
  client.makeRequest "GET" ("/api/v1/agents/" ++ agentId)

def marketplaceParams (minCpu minMemory : Option Int) (maxPrice : Option PyFloat)
    (region : Option String) : List (String × Value) :=
  let params := setIfTruthy [] "min_cpu" (optional .int minCpu)
  let params := setIfTruthy params "min_memory" (optional .int minMemory)
  let params := setIfTruthy params "max_price" (optional .float maxPrice)
  setIfTruthy params "region" (optional .str region)

def getMarketplaceOffers (minCpu minMemory : Option Int := none) (maxPrice : Option PyFloat := none)
    (region : Option String := none) : Sdk Value :=
  client.makeRequest "GET" "/api/v1/marketplace/offers" none
    (some (marketplaceParams minCpu minMemory maxPrice region))

def getBillingInfo : Sdk Value :=
  client.makeRequest "GET" "/api/v1/billing"

def usageParams (startDate endDate : Option String) : List (String × Value) :=
  let params := setIfTruthy [] "start_date" (optional .str startDate)
  setIfTruthy params "end_date" (optional .str endDate)

def getUsageStats (startDate endDate : Option String := none) : Sdk Value :=
  client.makeRequest "GET" "/api/v1/stats/usage" none (some (usageParams startDate endDate))

end Client

/-! ## Query maps built by truth value -/

/-- Arguments given as `0`, `0.0` and `""` are not sent: both operations send
an empty query map. -/
theorem getMarketplaceOffers_drops_given_falsy (client : Client) (world : World)
    (trace : List Event) :
    (client.getMarketplaceOffers (some 0) (some 0) (some (.finite 0)) (some "") world trace).2 =
        trace ++ [.exchange (client.request "GET" "/api/v1/marketplace/offers" none (some []))
          (world.exchange trace (client.request "GET" "/api/v1/marketplace/offers" none (some [])))] ∧
      (client.getUsageStats (some "") (some "") world trace).2 =
        trace ++ [.exchange (client.request "GET" "/api/v1/stats/usage" none (some []))
          (world.exchange trace (client.request "GET" "/api/v1/stats/usage" none (some [])))] :=
  ⟨by rw [Client.getMarketplaceOffers, Client.makeRequest_apply]; rfl,
    by rw [Client.getUsageStats, Client.makeRequest_apply]; rfl⟩

/-! ## A success status with a body that is not JSON -/

theorem classify_success (response : Response) (success : response.statusCode < 400) :
    classify (.ok response) =
      match Json.loads response.text with
      | .ok value => .ok value
      | .error failure => .error (.computeHive ("Network error: " ++ failure.render response.text)) := by
  have accepted : response.raiseForStatus = none := by
    rw [Response.raiseForStatus, if_neg (by omega), if_neg (by omega)]
  cases decoded : Json.loads response.text <;> simp [classify, accepted, decoded]

def noContent : World where
  clock _ := 0
  exchange _ request := .ok ⟨204, "No Content", request.url, ""⟩
  callback _ _ := .ok ()
  environ _ := none

/-- `cancel_job` raises on a `204 No Content`: the empty body is decoded. -/
theorem cancelJob_raises_on_no_content (client : Client) (jobId : String) (trace : List Event) :
    client.cancelJob jobId noContent trace =
      (.raised (.computeHive "Network error: Expecting value: line 1 column 1 (char 0)"),
        trace ++ [.exchange (client.request "POST" ("/api/v1/jobs/" ++ jobId ++ "/cancel") none none)
          (.ok ⟨204, "No Content", client.apiUrl ++ ("/api/v1/jobs/" ++ jobId ++ "/cancel"), ""⟩)]) := by
  rw [Client.cancelJob, Client.makeRequest_bind, noContent]
  dsimp only
  rw [classify_success _ (show 204 < 400 by decide)]
  dsimp only
  rfl

end ComputeHive
