import ComputeHive.Api

/-! The convenience submissions `submit_docker_job` and `submit_script_job`.
A docker job's environment is flattened to `KEY=VALUE` strings in insertion
order; splitting at the first `=` gives it back when no key holds `=`.
-/

set_option autoImplicit false

namespace ComputeHive

open Sdk

/-- A `Dict[str, str]`: its items in insertion order, each key once. -/
structure StrDict where
  items : List (String × String)
  keysNodup : (items.map Prod.fst).Nodup

/-- `[f"{k}={v}" for k, v in (env or {}).items()]`. -/
def envList (env : Option StrDict) : List String :=
  ((env.map StrDict.items).getD []).map fun item => item.1 ++ "=" ++ item.2

structure SubmitOptions where
  priority : Int := 5
  timeout : Int := 3600
  maxRetries : Int := 3
  slaRequirements : Option SLARequirements := none

namespace Client

variable (client : Client)

def dockerPayload (image : String) (command : List String) (env : Option StrDict) : JobPayload :=
  { image := some image, command := some command, env := some (envList env) }

def submitDockerJob (image : String) (command : List String) (cpuCores : Int := 1)
    (memoryMb : Int := 1024) (gpuCount : Int := 0) (env : Option StrDict := none)
    (kwargs : SubmitOptions := {}) : Sdk Value :=
  client.submitJob .docker { cpuCores, memoryMb, gpuCount } (dockerPayload image command env)
    kwargs.priority kwargs.timeout kwargs.maxRetries kwargs.slaRequirements

def submitScriptJob (script language : String) (cpuCores : Int := 1) (memoryMb : Int := 1024)
    (kwargs : SubmitOptions := {}) : Sdk Value :=
  client.submitJob .script { cpuCores, memoryMb } { script := some script, language := some language }
    kwargs.priority kwargs.timeout kwargs.maxRetries kwargs.slaRequirements

def dockerJobData (image : String) (command : List String) (cpuCores memoryMb gpuCount : Int)
    (env : Option StrDict) (kwargs : SubmitOptions) : List (String × Value) :=
  submitJobData .docker { cpuCores, memoryMb, gpuCount } (dockerPayload image command env)
    kwargs.priority kwargs.timeout kwargs.maxRetries kwargs.slaRequirements

theorem submitDockerJob_apply (image : String) (command : List String)
    (cpuCores memoryMb gpuCount : Int) (env : Option StrDict) (kwargs : SubmitOptions)
    (world : World) (trace : List Event) :
    client.submitDockerJob image command cpuCores memoryMb gpuCount env kwargs world trace =
      client.makeRequest "POST" "/api/v1/jobs"
        (some (dockerJobData image command cpuCores memoryMb gpuCount env kwargs)) none world trace :=
  rfl

end Client

theorem dockerPayload_env_mem (image : String) (command : List String) (env : Option StrDict) :
    ("env", strList (envList env)) ∈ (Client.dockerPayload image command env).toDict := by
  simp [JobPayload.toDict, JobPayload.asdict, Client.dockerPayload, mem_dropNone, optional, strList,
    Value.isNotNone]

/-! ## Reading the environment back -/

/-- `s.partition("=")` without the separator: the text before the first `=`
and the text after it. -/
def splitFirstEq : List Char → List Char × List Char
  | [] => ([], [])
  | c :: rest =>
    if c = '=' then ([], rest)
    else (c :: (splitFirstEq rest).1, (splitFirstEq rest).2)

def decodeEnv (items : List String) : List (String × String) :=
  items.map fun s => (String.mk (splitFirstEq s.data).1, String.mk (splitFirstEq s.data).2)

theorem splitFirstEq_append {key : List Char} (plain : '=' ∉ key) (value : List Char) :
    splitFirstEq (key ++ '=' :: value) = (key, value) := by
  induction key with
  | nil => simp [splitFirstEq]
  | cons c key ih =>
    rw [List.mem_cons, not_or] at plain
    simp [splitFirstEq, Ne.symm plain.1, ih plain.2]

theorem decodeEnv_envList (env : StrDict) (plainKeys : ∀ item ∈ env.items, '=' ∉ item.1.data) :
    decodeEnv (envList (some env)) = env.items := by
  rw [decodeEnv, envList, Option.map_some', Option.getD_some, List.map_map]
  conv => rhs; rw [← List.map_id env.items]
  refine List.map_congr_left fun item member => ?_
  simp [splitFirstEq_append (plainKeys item member)]

/-- Splitting at the first `=` reads back every environment whose keys hold no
`=` from the `env` list of the payload `submit_docker_job` posts, so two such
environments with different items never post the same list. -/
theorem envList_decodes (env : StrDict) (plainKeys : ∀ item ∈ env.items, '=' ∉ item.1.data) :
    (∀ (client : Client) image command cpuCores memoryMb gpuCount kwargs world trace,
      (client.submitDockerJob image command cpuCores memoryMb gpuCount (some env) kwargs world trace).2 =
        trace ++ [.exchange (client.request "POST" "/api/v1/jobs"
          (some (Client.dockerJobData image command cpuCores memoryMb gpuCount (some env) kwargs)) none)
          (world.exchange trace (client.request "POST" "/api/v1/jobs"
            (some (Client.dockerJobData image command cpuCores memoryMb gpuCount (some env) kwargs)) none))] ∧
      ("payload", .dict (Client.dockerPayload image command (some env)).toDict) ∈
        Client.dockerJobData image command cpuCores memoryMb gpuCount (some env) kwargs ∧
      ("env", strList (envList (some env))) ∈ (Client.dockerPayload image command (some env)).toDict) ∧
    decodeEnv (envList (some env)) = env.items ∧
    ∀ other : StrDict, (∀ item ∈ other.items, '=' ∉ item.1.data) →
      envList (some other) = envList (some env) → other.items = env.items := by
  refine ⟨fun client image command cpuCores memoryMb gpuCount kwargs world trace => ⟨?_, ?_, ?_⟩,
    decodeEnv_envList env plainKeys, fun other plainOther same => ?_⟩
  · rw [Client.submitDockerJob_apply, Client.makeRequest_apply]
  · simp only [Client.dockerJobData, Client.submitJobData]
    split <;> simp
  · exact dockerPayload_env_mem image command (some env)
  · rw [← decodeEnv_envList other plainOther, same, decodeEnv_envList env plainKeys]

theorem envList_decodes_example :
    (∀ item ∈ [("A", "1"), ("B", "x=y")], '=' ∉ item.1.data) ∧
      decodeEnv (envList (some ⟨[("A", "1"), ("B", "x=y")], by decide⟩)) = [("A", "1"), ("B", "x=y")] :=
  ⟨by decide, (envList_decodes ⟨[("A", "1"), ("B", "x=y")], by decide⟩ (by decide)).2.1⟩

/-- A key holding `=`: the environments `\x7b"A=B": "C"\x7d` and
`\x7b"A": "B=C"\x7d` post the same list. -/
theorem envList_key_with_eq_collides :
    envList (some ⟨[("A=B", "C")], by decide⟩) = envList (some ⟨[("A", "B=C")], by decide⟩) ∧
      [("A=B", "C")] ≠ [("A", "B=C")] := by
  decide

end ComputeHive
