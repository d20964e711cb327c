import Testbed.Output.Capture
import Testbed.Requirement

/-!
# A simulated world

Clusters without processes, a network of fixed replies, and a launcher that builds what it is
told to, so that testsets can be run and watched anywhere. Whatever the testbed does to them is
recorded in the world.

## Main definitions

* `Simulation.World` — replies, settings of the launcher, and the record
* `Simulation.Cluster`, `Simulation.platform` — simulated clusters
* `Simulation.launcher` — their launcher
-/

namespace Testbed.Simulation

/-! ### The world -/

/-- Something that was recorded. -/
inductive Event where
  | note (text : String)
  | launched (options : LaunchOptions)
  /-- A phase sent requests, with this result. -/
  | exchanged (phase : String) (requests : List Http.Request) (result : Json)

/-- What the network answers to a request. -/
inductive Reply where
  | respond (status : Nat) (reason body : String)
  | fail (message : String)

/-- The reply to requests of a method to an address. -/
structure Route where
  method : Http.Method
  url : String
  reply : Reply

/-- How the launcher behaves. -/
structure LauncherSettings where
  /-- It fails with this text. -/
  fault : Option String := none
  /-- It starts at most so many nodes. -/
  cap : Option Nat := none
  /-- It starts so many processes, whatever the number of nodes. -/
  processes : Option Nat := none

/-- The replies of the network, the settings of the launcher, and the record. -/
structure World where
  /-- The latest route first. -/
  routes : List Route := []
  launcher : LauncherSettings := {}
  requests : List Http.Request := []
  events : List Event := []
  launches : Nat := 0
  teardowns : Nat := 0

namespace World

/-- Records an event. -/
def record (world : World) (event : Event) : World :=
  { world with events := world.events ++ [event] }

/-- Records an event in words. -/
def note (world : World) (text : String) : World :=
  world.record (.note text)

/-- Adds a route, which goes before earlier ones. -/
def addRoute (world : World) (route : Route) : World :=
  { world with routes := route :: world.routes }

/-- The requests recorded so far, and the world without them. -/
def takeRequests (world : World) : List Http.Request × World :=
  (world.requests, { world with requests := [] })

/-- The events recorded so far, and the world without them. -/
def takeEvents (world : World) : List Event × World :=
  (world.events, { world with events := [] })

/-- The usual reason for a status. -/
def reason (status : Nat) : String :=
  if status = 200 then "OK"
  else if status = 400 then "Bad Request"
  else if status = 404 then "Object Not Found"
  else "Error"

/-- The reply to a request; where there is no route, nothing is found. -/
def reply (world : World) (request : Http.Request) : Reply :=
  match world.routes.find? fun route =>
      route.method == request.method && route.url == request.url with
  | some route => route.reply
  | none => .respond 404 (reason 404) "Not found"

/-- Records a request and answers it. -/
def send (request : Http.Request) (world : World) : Except Fault Http.Response × World :=
  let answer : Except Fault Http.Response :=
    match world.reply request with
    | .respond status reason body => .ok ⟨request.method, request.url, status, reason, body⟩
    | .fail message => .error (.transport request.method request.url message)
  (answer, { world with requests := world.requests ++ [request] })

end World

/-! ### Clusters -/

/-- A simulated cluster. -/
structure Cluster where
  index : Nat
  /-- The indexes of the nodes. -/
  nodes : List Nat
  auth : Credentials
  timeout : Duration := .ofSecs 60
  /-- The number of processes, where it is not that of the nodes. -/
  processes : Option Nat := none
  settings : Table String := []
  /-- Buckets that cannot be deleted. -/
  undeletable : List String := []
  deleted : List String := []
  tornDown : Bool := false

namespace Cluster

/-- A cluster of so many nodes from an index on. -/
def start (index count : Nat) (auth : Credentials) : Cluster :=
  { index, nodes := (List.range count).map (index + ·), auth }

/-- The number of processes that were started for a cluster. -/
def processCount (cluster : Cluster) : Nat :=
  cluster.processes.getD cluster.nodes.length

/-- How to reach the node of an index. -/
def node (cluster : Cluster) (index : Nat) : Node World :=
  { index
    url := s!"http://127.0.0.1:{9000 + index}"
    auth := cluster.auth
    timeout := cluster.timeout
    send := World.send }

/-- Notes that a cluster is torn down; only the first time counts. -/
def teardown (cluster : Cluster) (world : World) : Cluster × World :=
  let world := world.note s!"teardown {cluster.index}"
  if cluster.tornDown then (cluster, world)
  else ({ cluster with tornDown := true }, { world with teardowns := world.teardowns + 1 })

/-- Deletes a bucket, unless it cannot be. -/
def deleteBucket (name : String) (cluster : Cluster) (world : World) :
    Except Fault Unit × Cluster × World :=
  if name ∈ cluster.undeletable then
    (.error (.cluster s!"cannot delete {name}"), cluster, world)
  else (.ok (), { cluster with deleted := cluster.deleted ++ [name] }, world)

end Cluster

/-- What can be done with simulated clusters. -/
def platform : Platform Cluster World where
  nodes cluster := cluster.nodes.map cluster.node
  auth := Cluster.auth
  index := Cluster.index
  processCount := Cluster.processCount
  teardown := Cluster.teardown
  deleteBucket := Cluster.deleteBucket

/-! ### The launcher -/

/-- Starts a simulated cluster, as the settings in the world say. -/
def launcher : Launcher Cluster World := fun options world =>
  match world.launcher.fault with
  | some text => ⟨.error (.cluster text), world, ""⟩
  | none =>
    let count := min options.numNodes (world.launcher.cap.getD options.numNodes)
    let cluster : Cluster :=
      { Cluster.start options.index count options.auth with
        timeout := options.httpTimeout
        processes := world.launcher.processes
        settings := options.settings }
    { result := .ok cluster
      world := { world.record (.launched options) with launches := world.launches + 1 }
      printed :=
        Output.line s!"launching {options.numNodes} nodes at index {options.index}" }

end Testbed.Simulation
