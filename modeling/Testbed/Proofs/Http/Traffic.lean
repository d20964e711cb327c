import Testbed.Http.Management
import Testbed.Proofs.View

/-!
# What is asked of a cluster

To say what a call did, the requests that go to the nodes of a cluster are taken down, and so are
the buckets that are to be deleted. Tapped in this way, a cluster behaves as it did before.

A call to a cluster sends one request to its first node, or nothing if there is none.

## Main definitions

* `Http.Deed`, `Platform.tapped` — what is asked of a cluster, and a platform that takes it down
* `Http.checked` — an answer, after its status was looked at

## Main results

* `Http.Call.send_of_endpoint` — a call is one request
* `Http.Call.send_tapped` — to tap a cluster changes no call
-/

namespace Testbed

variable {C W : Type}

/-! ### Tapping -/

/-- What is asked of a cluster. -/
inductive Http.Deed where
  | send (request : Http.Request)
  /-- A bucket is to be deleted. -/
  | deleteBucket (name : String)
  deriving DecidableEq

/-- The same node, with every request taken down. -/
def Node.tapped (node : Node W) : Node (Noted Http.Deed W) where
  index := node.index
  url := node.url
  auth := node.auth
  timeout := node.timeout
  send request noted :=
    let sent := node.send request noted.world
    (sent.1, ⟨sent.2, noted.notes ++ [.send request]⟩)

/-- The same platform, with all that is asked of its clusters taken down. -/
def Platform.tapped (platform : Platform C W) : Platform C (Noted Http.Deed W) :=
  { platform.through Noted.view with
    nodes := fun cluster => (platform.nodes cluster).map Node.tapped
    deleteBucket := fun name cluster noted =>
      let deleted := platform.deleteBucket name cluster noted.world
      (deleted.1, deleted.2.1, ⟨deleted.2.2, noted.notes ++ [.deleteBucket name]⟩) }

@[simp] theorem Platform.tapped_nodes (platform : Platform C W) (cluster : C) :
    platform.tapped.nodes cluster = (platform.nodes cluster).map Node.tapped := rfl

theorem Platform.tapped_nodes_of_cons {platform : Platform C W} {cluster : C} {node : Node W}
    {others : List (Node W)} (h : platform.nodes cluster = node :: others) :
    platform.tapped.nodes cluster = node.tapped :: others.map Node.tapped := by
  rw [tapped_nodes, h, List.map_cons]

@[simp] theorem Platform.tapped_deleteBucket (platform : Platform C W) (name : String)
    (cluster : C) (noted : Noted Http.Deed W) :
    platform.tapped.deleteBucket name cluster noted =
      let deleted := platform.deleteBucket name cluster noted.world
      (deleted.1, deleted.2.1, ⟨deleted.2.2, noted.notes ++ [.deleteBucket name]⟩) := rfl

namespace Http

variable {platform : Platform C W} {cluster : C} {node : Node W} {others : List (Node W)}

/-! ### Calls -/

/-- An answer, after the status of a response was looked at, if any statuses are given. -/
def checked (accepted : Option (List Nat)) (answer : Except Fault Response) :
    Except Fault Response :=
  match answer, accepted with
  | .ok response, some codes => checkStatus codes response
  | answer, _ => answer

@[simp] theorem checked_none (answer : Except Fault Response) : checked none answer = answer := by
  cases answer <;> rfl

@[simp] theorem checked_some (codes : List Nat) (response : Response) :
    checked (some codes) (.ok response) = checkStatus codes response := rfl

/-- A cluster without nodes is sent nothing. -/
theorem Call.send_of_nil (call : Call) (h : platform.nodes cluster = []) (path : String)
    (options : Options) (world : W) :
    call.send (.ofCluster platform cluster) path options world =
      (.error .noConnectedNodes, world) := by
  simp only [send, Http.request, Target.ofCluster, h]

/-- **A call is one request.** It goes to the endpoint of its target, and its answer is checked. -/
theorem Call.send_of_endpoint (call : Call) {target : Target W} (h : target.endpoint = .ok node)
    (path : String) (options : Options) (world : W) :
    call.send target path options world =
      let sent := node.send (Request.make call.method node target.auth path options) world
      (checked call.accepted sent.1, sent.2) := by
  simp only [send, Http.request, h]
  generalize node.send _ world = sent
  obtain ⟨answer, world⟩ := sent
  cases answer with
  | error fault => rfl
  | ok response => cases call.accepted <;> rfl

theorem Target.endpoint_ofCluster (h : platform.nodes cluster = node :: others) :
    (Target.ofCluster platform cluster).endpoint = .ok node := by
  simp only [ofCluster, h]

theorem Call.send_of_cons (call : Call) (h : platform.nodes cluster = node :: others)
    (path : String) (options : Options) (world : W) :
    call.send (.ofCluster platform cluster) path options world =
      let sent :=
        node.send (Request.make call.method node (platform.auth cluster) path options) world
      (checked call.accepted sent.1, sent.2) :=
  call.send_of_endpoint (Target.endpoint_ofCluster h) path options world

/-- The request of a call is taken down. -/
theorem Call.send_tapped_of_cons (call : Call) (h : platform.nodes cluster = node :: others)
    (path : String) (options : Options) (noted : Noted Deed W) :
    call.send (.ofCluster platform.tapped cluster) path options noted =
      let request := Request.make call.method node (platform.auth cluster) path options
      let sent := node.send request noted.world
      (checked call.accepted sent.1, ⟨sent.2, noted.notes ++ [.send request]⟩) :=
  call.send_of_cons (Platform.tapped_nodes_of_cons h) path options noted

theorem Call.send_tapped_of_nil (call : Call) (h : platform.nodes cluster = []) (path : String)
    (options : Options) (noted : Noted Deed W) :
    call.send (.ofCluster platform.tapped cluster) path options noted =
      (.error .noConnectedNodes, noted) := by
  have htapped : platform.tapped.nodes cluster = [] := by
    rw [Platform.tapped_nodes, h, List.map_nil]
  exact call.send_of_nil htapped path options noted

/-- To tap a cluster changes no call. -/
theorem Call.send_tapped (call : Call) (platform : Platform C W) (cluster : C) (path : String)
    (options : Options) (noted : Noted Deed W) :
    let sent := call.send (.ofCluster platform.tapped cluster) path options noted
    call.send (.ofCluster platform cluster) path options noted.world = (sent.1, sent.2.world) := by
  cases h : platform.nodes cluster with
  | nil => rw [call.send_of_nil h, call.send_tapped_of_nil h]
  | cons node others => rw [call.send_of_cons h, call.send_tapped_of_cons h]

/-- A cluster of one node, which answers every request with this body. All buckets but one can be
deleted. -/
def samplePlatform (body : String) : Platform Unit Unit where
  nodes _ :=
    [{ index := 0
       url := "http://127.0.0.1:9000"
       auth := ⟨"user", "secret"⟩
       timeout := Duration.ofSecs 60
       send := fun request world =>
        (.ok ⟨request.method, request.url, 200, "OK", body⟩, world) }]
  auth _ := ⟨"admin", "secret"⟩
  index _ := 0
  processCount _ := 1
  teardown cluster world := (cluster, world)
  deleteBucket name cluster world :=
    (if name = "kept" then .error (.cluster "cannot delete kept") else .ok (), cluster, world)

end Http

end Testbed
