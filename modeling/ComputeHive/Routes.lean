import ComputeHive.Api
import Mathlib.Data.List.Basic

/-! The operations on one job or agent, and the resource their request
addresses. `route` reads a path back segment by segment; it recovers the
operation and the id whenever the id is plain: unreserved characters only and
not a dot segment, which is also what `requests` sends unchanged.
-/

set_option autoImplicit false

namespace ComputeHive

open Sdk

inductive ResourceOp where
  | getJob
  | cancelJob
  | getJobResult
  | getJobLogs
  | getAgent
  deriving DecidableEq, Repr

namespace ResourceOp

def method : ResourceOp → String
  | cancelJob => "POST"
  | _ => "GET"

def endpoint : ResourceOp → String → String
  | getJob, id => "/api/v1/jobs/" ++ id
  | cancelJob, id => "/api/v1/jobs/" ++ id ++ "/cancel"
  | getJobResult, id => "/api/v1/jobs/" ++ id ++ "/result"
  | getJobLogs, id => "/api/v1/jobs/" ++ id ++ "/logs"
  | getAgent, id => "/api/v1/agents/" ++ id

def params : ResourceOp → Option (List (String × Value))
  | getJobLogs => some [("tail", .int 100)]
  | _ => none

def request (op : ResourceOp) (client : Client) (id : String) : Request :=
  client.request op.method (op.endpoint id) none op.params

def call (op : ResourceOp) (client : Client) (id : String) : Sdk Unit :=
  match op with
  | getJob => do let _ ← client.getJob id
  | cancelJob => client.cancelJob id
  | getJobResult => do let _ ← client.getJobResult id
  | getJobLogs => do let _ ← client.getJobLogs id
  | getAgent => do let _ ← client.getAgent id

theorem call_sends (op : ResourceOp) (client : Client) (id : String) (world : World)
    (trace : List Event) :
    ∃ answer, (op.call client id world trace).2 =
      trace ++ [.exchange (op.request client id) answer] := by
  refine ⟨world.exchange trace (op.request client id), ?_⟩
  cases op <;>
    simp only [call, Client.getJob, Client.cancelJob, Client.getJobResult, Client.getJobLogs,
      Client.getAgent, bind_assoc, Client.makeRequest_bind] <;>
    split
  case getJobLogs.h_1 value _ => cases value.get "logs" <;> rfl
  all_goals rfl

def segments : ResourceOp → String → List String
  | getJob, id => ["", "api", "v1", "jobs", id]
  | cancelJob, id => ["", "api", "v1", "jobs", id, "cancel"]
  | getJobResult, id => ["", "api", "v1", "jobs", id, "result"]
  | getJobLogs, id => ["", "api", "v1", "jobs", id, "logs"]
  | getAgent, id => ["", "api", "v1", "agents", id]

theorem endpoint_data (op : ResourceOp) (id : String) :
    (op.endpoint id).data = ['/'].intercalate ((op.segments id).map String.data) := by
  cases op <;> simp [endpoint, segments, List.intercalate]

end ResourceOp

def inPath (c : Char) : Bool := c != '?' && c != '#'

/-- The path of a URL: what precedes its query and its fragment. -/
def urlPath (url : String) : List Char := url.data.takeWhile inPath

def isSegment (id : String) : Bool := id.data.all fun c => c != '/' && inPath c

/-- RFC 3986's unreserved characters: ASCII letters and digits, `-`, `.`, `_`
and `~`. URL preparation neither escapes nor unescapes them. -/
def isUnreserved (c : Char) : Bool := c.isAlphanum || c == '-' || c == '.' || c == '_' || c == '~'

/-- An id that `requests` sends as the SDK writes it: unreserved characters
only, and not `.` or `..`, which `urllib3` removes as dot segments. -/
def isPlainId (id : String) : Bool := id.data.all isUnreserved && id != "." && id != ".."

theorem isSegment_of_isPlainId {id : String} (plain : isPlainId id) : isSegment id := by
  have special : ∀ c, isUnreserved c = true → c ≠ '/' ∧ c ≠ '?' ∧ c ≠ '#' := fun c unreserved => by
    refine ⟨?_, ?_, ?_⟩ <;> rintro rfl <;> revert unreserved <;> decide
  simp only [isPlainId, Bool.and_eq_true, List.all_eq_true] at plain
  refine List.all_eq_true.mpr fun c member => ?_
  obtain ⟨slash, query, fragment⟩ := special c (plain.1.1 c member)
  simp [inPath, slash, query, fragment]

/-- The operation and id a method and a path address, read back segment by
segment. -/
def route (method : String) (path : List Char) : Option (ResourceOp × String) :=
  match method, (path.splitOn '/').map String.mk with
  | "GET", ["", "api", "v1", "jobs", id] => some (.getJob, id)
  | "POST", ["", "api", "v1", "jobs", id, "cancel"] => some (.cancelJob, id)
  | "GET", ["", "api", "v1", "jobs", id, "result"] => some (.getJobResult, id)
  | "GET", ["", "api", "v1", "jobs", id, "logs"] => some (.getJobLogs, id)
  | "GET", ["", "api", "v1", "agents", id] => some (.getAgent, id)
  | _, _ => none

namespace ResourceOp

variable (op : ResourceOp) {id : String}

theorem route_segments (single : isSegment id) :
    route op.method (['/'].intercalate ((op.segments id).map String.data)) = some (op, id) := by
  have noSlash : '/' ∉ id.data := fun member => by
    simpa using List.all_eq_true.mp single '/' member
  have separated : ∀ l ∈ (op.segments id).map String.data, '/' ∉ l := by
    cases op <;> simp [segments, noSlash]
  unfold route
  rw [List.splitOn_intercalate _ '/' separated (by cases op <;> simp [segments]), List.map_map]
  cases op <;> rfl

theorem endpoint_inPath (single : isSegment id) : (op.endpoint id).data.all inPath := by
  have inside : id.data.all inPath := List.all_eq_true.mpr fun c member =>
    (Bool.and_eq_true _ _).mp (List.all_eq_true.mp single c member) |>.2
  cases op <;> simp only [endpoint, String.data_append, List.all_append, inside, Bool.and_true] <;>
    decide

theorem urlPath_request (client : Client) (plainBase : client.apiUrl.data.all inPath)
    (single : isSegment id) :
    urlPath (op.request client id).url =
      client.apiUrl.data ++ ['/'].intercalate ((op.segments id).map String.data) := by
  rw [request, Client.request, urlPath, String.data_append,
    List.takeWhile_append_of_pos (by simpa using plainBase), ← endpoint_data,
    List.takeWhile_eq_self_iff.mpr (by simpa using op.endpoint_inPath single)]

end ResourceOp

end ComputeHive
