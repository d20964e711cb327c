import Testbed.Http.Management
import Testbed.Simulation.World

/-!
# Scripted exchanges

One call to a simulated cluster or to one of its nodes, and what it gives as a JSON value.

## Main definitions

* `Simulation.Exchange` — a call and what to make of the response
* `Simulation.Exchange.run` — its result
-/

namespace Testbed.Simulation

/-- What is called. -/
inductive Operation where
  | call (call : Http.Call)
  | deleteConfigKey
  | deleteAllBuckets
  | otpNodes

/-- A call and what to make of the response. -/
structure Exchange where
  operation : Operation
  path : String := ""
  /-- A node instead of the cluster. -/
  node : Option Nat := none
  options : Http.Options := {}
  /-- The body is to be JSON, or a fault says this. -/
  jsonContext : Option String := none
  /-- The key to look up, or to delete. -/
  key : Option String := none

namespace Exchange

/-- A response as a value. -/
def responseValue (response : Http.Response) : Json :=
  .ofMembers
    [("method", .text response.method.text), ("url", .text response.url),
     ("status", .whole response.status), ("reason", .text response.reason),
     ("body", .text response.body)]

/-- What is made of a response: the response itself, or its body, or a member of its body. -/
def interpret (exchange : Exchange) (response : Http.Response) : Except Fault Json :=
  match exchange.jsonContext with
  | none => .ok (responseValue response)
  | some context =>
    match Http.jsonBody response context, exchange.key with
    | .error fault, _ => .error fault
    | .ok json, none => .ok (.ofMembers [("value", .text json.compact)])
    | .ok json, some key =>
      (Http.requireKey key json context).map fun value =>
        .ofMembers [("value", .text value.compact)]

/-- Where a call goes. -/
def target (exchange : Exchange) (cluster : Cluster) : Except Fault (Http.Target World) :=
  match exchange.node with
  | none => .ok (.ofCluster platform cluster)
  | some i =>
    match (platform.nodes cluster)[i]? with
    | some node => .ok (.ofNode node)
    | none => .error (.cluster s!"driver: no node {i}")

/-- Makes the call. -/
def run (exchange : Exchange) (cluster : Cluster) (world : World) :
    Except Fault Json × Cluster × World :=
  match exchange.operation with
  | .call call =>
    match exchange.target cluster with
    | .error fault => (.error fault, cluster, world)
    | .ok target =>
      let answer := call.send target exchange.path exchange.options world
      (answer.1.bind exchange.interpret, cluster, answer.2)
  | .deleteConfigKey =>
    let answer := Http.deleteConfigKey platform cluster (exchange.key.getD "") world
    (answer.1.map responseValue, cluster, answer.2)
  | .deleteAllBuckets =>
    let (result, cluster, world) :=
      Http.deleteAllBuckets platform exchange.options cluster world
    (result.map fun _ => .null, cluster, world)
  | .otpNodes =>
    let answer := Http.otpNodes platform cluster world
    (answer.1.map fun names => .object (names.map fun (node, name) => (node, .text name)),
      cluster, answer.2)

end Exchange

end Testbed.Simulation
