import Testbed.Cluster

/-!
# Exchanges with a node

A request goes to a target: a cluster, which is reached through its first node under the
cluster's own credentials, or one node under its own. What a call does not set is taken from
there. Each call says which statuses it accepts; a response with any other is a fault that names
what was sent, what came back, and what would have been accepted.

## Main definitions

* `Http.Target` — where requests go
* `Http.Options` — what a call sets itself
* `Http.request` — one request and the check of its response
* `Http.Call` — the calls by name, with the methods and the statuses they stand for

## Main results

* `Http.checkStatus_eq_ok_iff` — a response is accepted exactly if its status is
-/

namespace Testbed.Http

/-! ### Targets -/

/-- Where requests go. -/
structure Target (W : Type) where
  endpoint : Except Fault (Node W)
  auth : Credentials

variable {C W : Type}

/-- A cluster, reached through its first node. -/
def Target.ofCluster (platform : Platform C W) (cluster : C) : Target W :=
  { endpoint :=
      match platform.nodes cluster with
      | [] => .error .noConnectedNodes
      | node :: _ => .ok node
    auth := platform.auth cluster }

/-- One node. -/
def Target.ofNode (node : Node W) : Target W :=
  { endpoint := .ok node, auth := node.auth }

/-- What a call sets itself. -/
structure Options where
  auth : Option Credentials := none
  body : Option Body := none
  timeout : Option Duration := none

/-! ### Statuses -/

/-- A response whose status is none of the accepted ones. -/
def statusFault (accepted : List Nat) (response : Response) : Fault :=
  .httpStatus response.method response.url response.status response.reason
    (" or ".intercalate (accepted.map toString)) response.body

/-- A response with an accepted status. -/
def checkStatus (accepted : List Nat) (response : Response) : Except Fault Response :=
  if response.status ∈ accepted then .ok response else .error (statusFault accepted response)

theorem checkStatus_eq_ok_iff (accepted : List Nat) (response : Response) :
    checkStatus accepted response = .ok response ↔ response.status ∈ accepted := by
  unfold checkStatus
  split <;> simp_all

/-! ### Requests -/

/-- The request that a call to a node makes. -/
def Request.make (method : Method) (node : Node W) (auth : Credentials) (path : String)
    (options : Options) : Request :=
  { method
    url := node.url ++ path
    auth := options.auth.getD auth
    body := options.body
    timeout := options.timeout.getD node.timeout }

/-- Sends one request and checks the status of the response, if any statuses are given. -/
def request (method : Method) (target : Target W) (path : String) (accepted : Option (List Nat))
    (options : Options) (world : W) : Except Fault Response × W :=
  match target.endpoint with
  | .error fault => (.error fault, world)
  | .ok node =>
    let sent := node.send (Request.make method node target.auth path options) world
    match sent.1, accepted with
    | .ok response, some codes => (checkStatus codes response, sent.2)
    | result, _ => (result, sent.2)

/-- The calls by name. -/
inductive Call where
  | request (method : Method) (code : Option Nat)
  | get
  | getSucc
  | getFail (code : Nat)
  | post
  | postSucc
  | postFail (code : Nat)
  | putSucc
  | delete
  | deleteSucc
  /-- Deletes what may be gone already. -/
  | ensureDeleted
  deriving DecidableEq, Repr

/-- The method of a call. -/
def Call.method : Call → Method
  | .request method _ => method
  | .get => .get
  | .getSucc => .get
  | .getFail _ => .get
  | .post => .post
  | .postSucc => .post
  | .postFail _ => .post
  | .putSucc => .put
  | .delete => .delete
  | .deleteSucc => .delete
  | .ensureDeleted => .delete

/-- The statuses that a call accepts, if not all. -/
def Call.accepted : Call → Option (List Nat)
  | .request _ code => code.map fun code => [code]
  | .get => none
  | .getSucc => some [200]
  | .getFail code => some [code]
  | .post => none
  | .postSucc => some [200]
  | .postFail code => some [code]
  | .putSucc => some [200]
  | .delete => none
  | .deleteSucc => some [200]
  | .ensureDeleted => some [200, 404]

/-- Makes a call. -/
def Call.send (call : Call) (target : Target W) (path : String) (options : Options) (world : W) :
    Except Fault Response × W :=
  Http.request call.method target path call.accepted options world

end Testbed.Http
