import ComputeHive.Models

/-! SDK code as computations against an outside world: every effect (clock,
sleep, one `session.request`, one callback, a print) is an event, answered by
the world as a function of the trace so far. A callback only observes: it is
handed the record by value and can raise, but not change what the SDK holds.
-/

set_option autoImplicit false

namespace ComputeHive

/-- What the session is asked to send: `session.request(method=…, url=…,
json=…, params=…, timeout=…)` with the session's default headers. -/
structure Request where
  method : String
  url : String
  json : Option (List (String × Value))
  params : Option (List (String × Value))
  timeout : Int
  headers : List (String × String)

structure Response where
  statusCode : Nat
  reason : String
  url : String
  text : String

/-- A `requests.exceptions.RequestException` raised by the session itself
(connection failure, timeout, retries exhausted, …), with its `str`. -/
structure TransportError where
  message : String

inductive Event where
  | time (reading : ℚ)
  | sleep (seconds : Int)
  | exchange (request : Request) (answer : Except TransportError Response)
  | callback (job : Value) (answer : Except PyError Unit)
  | print (text : String)

def Event.isExchange : Event → Bool
  | .exchange _ _ => true
  | _ => false

structure World where
  clock : List Event → ℚ
  exchange : List Event → Request → Except TransportError Response
  callback : List Event → Value → Except PyError Unit
  environ : String → Option String

inductive Outcome (α : Type) where
  | ok (a : α)
  | raised (e : PyError)
  | exhausted

/-- The outcome of a computation that returns or raises at once. -/
def Outcome.ofExcept {α : Type} : Except PyError α → Outcome α
  | .ok a => .ok a
  | .error e => .raised e

def negativeSleepMessage : String := "sleep length must be non-negative"

def Sdk (α : Type) : Type := World → List Event → Outcome α × List Event

namespace Sdk

variable {α β : Type}

protected def pure (a : α) : Sdk α := fun _ trace => (.ok a, trace)

protected def bind (x : Sdk α) (f : α → Sdk β) : Sdk β := fun world trace =>
  match x world trace with
  | (.ok a, trace') => f a world trace'
  | (.raised e, trace') => (.raised e, trace')
  | (.exhausted, trace') => (.exhausted, trace')

instance : Monad Sdk where
  pure := Sdk.pure
  bind := Sdk.bind

def raise (e : PyError) : Sdk α := fun _ trace => (.raised e, trace)

def exhausted : Sdk α := fun _ trace => (.exhausted, trace)

def ofExcept : Except PyError α → Sdk α
  | .ok a => pure a
  | .error e => raise e

/-- `time.time()`. -/
def time : Sdk ℚ := fun world trace =>
  (.ok (world.clock trace), trace ++ [.time (world.clock trace)])

/-- `time.sleep(seconds)`, which raises `ValueError` for a negative length
before sleeping. -/
def sleep (seconds : Int) : Sdk Unit := fun _ trace =>
  if seconds < 0 then (.raised (.foreign "ValueError" negativeSleepMessage), trace)
  else (.ok (), trace ++ [.sleep seconds])

/-- `session.request(...)`: the final response, or the exception raised. -/
def exchange (request : Request) : Sdk (Except TransportError Response) := fun world trace =>
  (.ok (world.exchange trace request), trace ++ [.exchange request (world.exchange trace request)])

/-- `callback(job)`: an exception the callback raises propagates. -/
def notify (job : Value) : Sdk Unit := fun world trace =>
  match world.callback trace job with
  | .ok () => (.ok (), trace ++ [.callback job (.ok ())])
  | .error e => (.raised e, trace ++ [.callback job (.error e)])

def print (text : String) : Sdk Unit := fun _ trace => (.ok (), trace ++ [.print text])

/-- `os.getenv(name)`. -/
def getenv (name : String) : Sdk (Option String) := fun world trace =>
  (.ok (world.environ name), trace)

/-! ## Running a composition -/

variable {x : Sdk α} {f : α → Sdk β} {world : World} {trace trace' : List Event}

@[simp] theorem pure_apply (a : α) (world : World) (trace : List Event) :
    (pure a : Sdk α) world trace = (.ok a, trace) := rfl

@[simp] theorem raise_apply (e : PyError) (world : World) (trace : List Event) :
    (raise e : Sdk α) world trace = (.raised e, trace) := rfl

theorem bind_apply (x : Sdk α) (f : α → Sdk β) (world : World) (trace : List Event) :
    (x >>= f) world trace =
      match x world trace with
      | (.ok a, trace') => f a world trace'
      | (.raised e, trace') => (.raised e, trace')
      | (.exhausted, trace') => (.exhausted, trace') := rfl

theorem bind_of_ok {a : α} (run : x world trace = (.ok a, trace')) :
    (x >>= f) world trace = f a world trace' := by
  rw [bind_apply, run]

theorem bind_assoc {γ : Type} (x : Sdk α) (f : α → Sdk β) (g : β → Sdk γ) :
    (x >>= f) >>= g = x >>= fun a => f a >>= g := by
  funext world trace
  simp only [bind, Sdk.bind]
  rcases x world trace with ⟨_ | _ | _, _⟩ <;> rfl

@[simp] theorem pure_bind (a : α) (f : α → Sdk β) : (pure a >>= f) = f a := rfl

@[simp] theorem raise_bind (e : PyError) (f : α → Sdk β) : (raise e >>= f) = raise e := rfl

@[simp] theorem time_bind (f : ℚ → Sdk β) (world : World) (trace : List Event) :
    (time >>= f) world trace = f (world.clock trace) world (trace ++ [.time (world.clock trace)]) :=
  rfl

theorem sleep_bind (seconds : Int) (f : Unit → Sdk β) (world : World) (trace : List Event) :
    (sleep seconds >>= f) world trace =
      if seconds < 0 then (.raised (.foreign "ValueError" negativeSleepMessage), trace)
      else f () world (trace ++ [.sleep seconds]) := by
  unfold sleep
  split_ifs <;> rfl

@[simp] theorem exchange_bind (request : Request) (f : Except TransportError Response → Sdk β)
    (world : World) (trace : List Event) :
    (exchange request >>= f) world trace =
      f (world.exchange trace request) world
        (trace ++ [.exchange request (world.exchange trace request)]) := rfl

theorem notify_bind (job : Value) (f : Unit → Sdk β) (world : World) (trace : List Event) :
    (notify job >>= f) world trace =
      match world.callback trace job with
      | .ok () => f () world (trace ++ [.callback job (.ok ())])
      | .error e => (.raised e, trace ++ [.callback job (.error e)]) := by
  simp only [bind, Sdk.bind, notify]
  cases world.callback trace job <;> rfl

@[simp] theorem print_bind (text : String) (f : Unit → Sdk β) (world : World) (trace : List Event) :
    (print text >>= f) world trace = f () world (trace ++ [.print text]) := rfl

@[simp] theorem getenv_bind (name : String) (f : Option String → Sdk β) (world : World)
    (trace : List Event) : (getenv name >>= f) world trace = f (world.environ name) world trace :=
  rfl

@[simp] theorem ofExcept_ok (a : α) : (ofExcept (.ok a) : Sdk α) = pure a := rfl

@[simp] theorem ofExcept_error (e : PyError) : (ofExcept (.error e) : Sdk α) = raise e := rfl

theorem ofExcept_apply (x : Except PyError α) (world : World) (trace : List Event) :
    (ofExcept x : Sdk α) world trace = (Outcome.ofExcept x, trace) := by
  cases x <;> rfl

end Sdk

end ComputeHive
