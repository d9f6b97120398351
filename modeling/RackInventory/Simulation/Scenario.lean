import RackInventory.Simulation.Server
import RackInventory.Text.Quoted

/-!
# Scenarios on a simulated server

A scenario is a simulated server with a list of what is expected of the requests that it receives.
Requests are counted by method and path; queries do not matter. A reset forgets the requests, what is
expected of them and a forced status, and keeps the holdings.
-/

namespace RackInventory

structure ExpectedRequests where
  method : String
  path : String
  count : Nat
deriving DecidableEq, Repr

inductive ScenarioFault where
  | invalidStatus
  | unmet (e : ExpectedRequests) (received : Nat)
  | missing (method path : String) (query : Option String)
deriving DecidableEq, Repr

namespace ScenarioFault

def queryText : Option String → String
  | some q => "Some(" ++ quoted q ++ ")"
  | none => "None"

def message : ScenarioFault → String
  | .invalidStatus => "invalid status code"
  | .unmet e received =>
    "Expectation failed for " ++ e.method ++ " " ++ e.path ++ ": expected " ++ toString e.count ++
      " requests, got " ++ toString received
  | .missing method path query =>
    "No " ++ method ++ " " ++ path ++ " with query " ++ queryText query ++ " was received"

end ScenarioFault

/-- How many requests there were, in all and by method and path. -/
structure Statistics where
  total : Nat
  counts : List (String × Nat)
deriving DecidableEq, Repr

namespace Statistics

def bump (label : String) : List (String × Nat) → List (String × Nat)
  | [] => [(label, 1)]
  | (l, n) :: rest => if l = label then (l, n + 1) :: rest else (l, n) :: bump label rest

def ofReceived (all : List Received) : Statistics :=
  ⟨all.length, all.foldl (fun counts r => bump r.label counts) []⟩

/-- The lines that show the numbers; those of the paths are sorted. -/
def lines (s : Statistics) : List String :=
  "📊 Backend statistics:" :: ("  Total requests: " ++ toString s.total) ::
    (s.counts.map fun (label, n) => "    " ++ label ++ ": " ++ toString n ++ " requests").mergeSort

end Statistics

structure Scenario where
  server : SimulatedServer
  expected : List ExpectedRequests

namespace Scenario

def usualVersion : String := "v0.5.0"

/-- A scenario in which nothing has happened. -/
def fresh (host version : String) (holdings : Holdings) : Scenario :=
  ⟨.fresh host version holdings, []⟩

def sample (host : String) : Scenario := fresh host usualVersion .sample

def configuration (s : Scenario) : Configuration := s.server.configuration

def pathOf (s : Scenario) (resource : String) : String := resourcePath s.server.version resource

def received (s : Scenario) : List Received := s.server.received

def receivedAt (s : Scenario) (method path : String) : List Received :=
  s.received.filter fun r => r.method = method && r.path = path

/-- Whether as many requests have been received as are expected. -/
def meets (s : Scenario) (e : ExpectedRequests) : Bool :=
  (s.receivedAt e.method e.path).length = e.count

/-- Succeeds when all that is expected is met; else the first that is not is at fault. -/
def check (s : Scenario) : Except ScenarioFault Unit :=
  match s.expected.find? (!s.meets ·) with
  | some e => .error (.unmet e (s.receivedAt e.method e.path).length)
  | none => .ok ()

/-- Succeeds when a request for a resource with exactly this query has been received. -/
def checkReceived (s : Scenario) (method resource : String) (query : Option String) :
    Except ScenarioFault Unit :=
  if (s.receivedAt method (s.pathOf resource)).any (·.query = query) then .ok ()
  else .error (.missing method (s.pathOf resource) query)

def statistics (s : Scenario) : Statistics := .ofReceived s.received

inductive Event where
  | receive (r : Received)
  | force (status : Status)
  | release
  | forget
  | hold (h : Holdings)
  | expect (method resource : String) (count : Nat)
  | reset

def step (s : Scenario) : Event → Scenario
  | .receive r => { s with server := (s.server.receive r).2 }
  | .force status => { s with server := { s.server with forced := some status } }
  | .release => { s with server := { s.server with forced := none } }
  | .forget => { s with server := { s.server with received := [] } }
  | .hold h => { s with server := { s.server with holdings := h } }
  | .expect method resource count =>
    { s with expected := s.expected ++ [⟨method, s.pathOf resource, count⟩] }
  | .reset => ⟨{ s.server with received := [], forced := none }, []⟩

def run (s : Scenario) (events : List Event) : Scenario := events.foldl step s

def force (s : Scenario) (code : Nat) : Except ScenarioFault Scenario :=
  match Status.ofNat? code with
  | some status => .ok (s.step (.force status))
  | none => .error .invalidStatus

def runSession {α : Type} (s : Scenario) (session : Session α) : α × Scenario :=
  let (a, server) := session.run SimulatedServer.world s.server
  (a, { s with server })

end Scenario

end RackInventory
