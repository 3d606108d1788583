import ComputeHive.Value

/-! The SDK's value model: job types and statuses, and the three dataclasses
whose `to_dict` builds the nested objects of a submission body.

Each `to_dict` is `asdict` followed by the same comprehension dropping the
fields that are `None`; `dropNone` is that comprehension, stated once.
-/

set_option autoImplicit false

namespace ComputeHive

inductive JobType where
  | docker
  | binary
  | script
  | wasm
  deriving DecidableEq, Repr

def JobType.value : JobType → String
  | .docker => "docker"
  | .binary => "binary"
  | .script => "script"
  | .wasm => "wasm"

inductive JobStatus where
  | pending
  | scheduled
  | running
  | completed
  | failed
  | cancelled
  deriving DecidableEq, Repr

def JobStatus.value : JobStatus → String
  | .pending => "pending"
  | .scheduled => "scheduled"
  | .running => "running"
  | .completed => "completed"
  | .failed => "failed"
  | .cancelled => "cancelled"

/-- An optional field as `asdict` holds it: `None` when unset. -/
def optional {α : Type} (wrap : α → Value) : Option α → Value
  | some a => wrap a
  | none => .none

def strList (items : List String) : Value := .list (items.map .str)

/-- `{k: v for k, v in data.items() if v is not None}`. -/
def dropNone (data : List (String × Value)) : List (String × Value) :=
  data.filter fun entry => entry.2.isNotNone

structure ResourceRequirements where
  cpuCores : Int
  memoryMb : Int
  gpuCount : Int := 0
  gpuType : Option String := none
  storageMb : Int := 1024
  networkMbps : Int := 100
  trustedExec : Bool := false
  capabilities : Option (List String) := none

def ResourceRequirements.asdict (r : ResourceRequirements) : List (String × Value) :=
  [("cpu_cores", .int r.cpuCores), ("memory_mb", .int r.memoryMb),
    ("gpu_count", .int r.gpuCount), ("gpu_type", optional .str r.gpuType),
    ("storage_mb", .int r.storageMb), ("network_mbps", .int r.networkMbps),
    ("trusted_exec", .bool r.trustedExec), ("capabilities", optional strList r.capabilities)]

def ResourceRequirements.toDict (r : ResourceRequirements) : List (String × Value) :=
  dropNone r.asdict

structure SLARequirements where
  maxLatencyMs : Option Int := none
  minAvailability : Option PyFloat := none
  maxCostPerHour : Option PyFloat := none
  preferredRegions : Option (List String) := none

def SLARequirements.asdict (r : SLARequirements) : List (String × Value) :=
  [("max_latency_ms", optional .int r.maxLatencyMs),
    ("min_availability", optional .float r.minAvailability),
    ("max_cost_per_hour", optional .float r.maxCostPerHour),
    ("preferred_regions", optional strList r.preferredRegions)]

def SLARequirements.toDict (r : SLARequirements) : List (String × Value) :=
  dropNone r.asdict

/-- The flat payload record: docker, binary and script fields, then input and
output. -/
structure JobPayload where
  image : Option String := none
  command : Option (List String) := none
  env : Option (List String) := none
  binaryUrl : Option String := none
  args : Option (List String) := none
  script : Option String := none
  language : Option String := none
  inputData : Option String := none
  outputPath : Option String := none

def JobPayload.asdict (p : JobPayload) : List (String × Value) :=
  [("image", optional .str p.image), ("command", optional strList p.command),
    ("env", optional strList p.env), ("binary_url", optional .str p.binaryUrl),
    ("args", optional strList p.args), ("script", optional .str p.script),
    ("language", optional .str p.language), ("input_data", optional .str p.inputData),
    ("output_path", optional .str p.outputPath)]

def JobPayload.toDict (p : JobPayload) : List (String × Value) :=
  dropNone p.asdict

/-! ## Dropping `None` -/

@[simp] theorem isNotNone_optional {α : Type} (wrap : α → Value)
    (keep : ∀ a, (wrap a).isNotNone) (o : Option α) :
    (optional wrap o).isNotNone = o.isSome := by
  cases o <;> simp [optional, keep]

theorem mem_dropNone {data : List (String × Value)} {entry : String × Value} :
    entry ∈ dropNone data ↔ entry ∈ data ∧ entry.2.isNotNone := by
  simp [dropNone]

end ComputeHive
