import Testbed.Http.Exchange
import Testbed.Json.Parser

/-!
# Managing a cluster over its endpoint

## Main definitions

* `Http.jsonBody`, `Http.requireKey` — what a response holds, or a fault that says what is missing
* `Http.deleteConfigKey` — a key of the node configuration
* `Http.deleteAllBuckets` — every listed bucket, up to the first that cannot be deleted
* `Http.otpNodes` — the internal name of each node
-/

namespace Testbed.Http

variable {C W : Type}

/-! ### Bodies -/

/-- The body of a response as JSON; `context` is what a fault says. -/
def jsonBody (response : Response) (context : String) : Except Fault Json :=
  match Json.parse? response.body with
  | some json => .ok json
  | none => .error (.jsonDecode context response.body)

/-- The member of an object under a key. -/
def requireKey (key : String) (json : Json) (context : String) : Except Fault Json :=
  match json.get? key with
  | some value => .ok value
  | none => .error (.missingJsonKey key context json.compact)

/-! ### Configuration keys -/

/-- Deletes a key of the node configuration. -/
def deleteConfigKey (platform : Platform C W) (cluster : C) (key : String) (world : W) :
    Except Fault Response × W :=
  Call.postSucc.send (.ofCluster platform cluster) "/diag/eval"
    { body := some (.data s!"ns_config:delete({key})") } world

/-! ### Buckets -/

/-- The names of the buckets in a listing. An element without a name that is a text is passed
over, and so is a listing that is no array. -/
def bucketNames (listing : Json) : List String :=
  (listing.items?.getD []).filterMap fun bucket => (bucket.get? "name").bind Json.text?

/-- Deletes buckets in order, up to the first that cannot be deleted. -/
def deleteBuckets (platform : Platform C W) : List String → C → W → Except Fault Unit × C × W
  | [], cluster, world => (.ok (), cluster, world)
  | name :: rest, cluster, world =>
    match platform.deleteBucket name cluster world with
    | (.ok (), cluster, world) => deleteBuckets platform rest cluster world
    | (.error fault, cluster, world) => (.error fault, cluster, world)

/-- Deletes every listed bucket. -/
def deleteAllBuckets (platform : Platform C W) (options : Options) (cluster : C) (world : W) :
    Except Fault Unit × C × W :=
  let listed :=
    Call.getSucc.send (.ofCluster platform cluster) "/pools/default/buckets" options world
  match listed.1 with
  | .error fault => (.error fault, cluster, listed.2)
  | .ok response =>
    match jsonBody response "/pools/default/buckets response was not json" with
    | .error fault => (.error fault, cluster, listed.2)
    | .ok listing => deleteBuckets platform (bucketNames listing) cluster listed.2

/-! ### Node names -/

/-- The internal name of one node. -/
def otpNode (node : String) (status : Json) : Except Fault String :=
  match requireKey "otpNode" status "/nodeStatuses" with
  | .error fault => .error fault
  | .ok otp =>
    match otp.text? with
    | some name => .ok name
    | none => .error (.jsonDecode s!"otpNode of {node} is not a string" status.compact)

/-- The internal name of each node, or the first fault in the order of the nodes. -/
def otpTable : Table Json → Except Fault (Table String)
  | [] => .ok []
  | (node, status) :: rest =>
    match otpNode node status with
    | .error fault => .error fault
    | .ok name =>
      match otpTable rest with
      | .error fault => .error fault
      | .ok names => .ok ((node, name) :: names)

/-- The internal name of each node, as the cluster tells it. -/
def otpNodes (platform : Platform C W) (cluster : C) (world : W) :
    Except Fault (Table String) × W :=
  let told := Call.get.send (.ofCluster platform cluster) "/nodeStatuses" {} world
  match told.1 with
  | .error fault => (.error fault, told.2)
  | .ok response =>
    match jsonBody response "/nodeStatuses response was not json" with
    | .error fault => (.error fault, told.2)
    | .ok json =>
      match json.members? with
      | some statuses => (otpTable statuses, told.2)
      | none =>
        (.error (.jsonDecode "/nodeStatuses response was not an object" json.compact), told.2)

end Testbed.Http
