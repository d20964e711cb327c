import Testbed.Http.Message
import Testbed.Fault
import Testbed.Text.Quoted

/-!
# Clusters

The testbed runs no nodes of its own. A `Platform` says how a kind of cluster `C` is looked at
and driven; what lies outside the cluster value, the network and the node processes, is a world
`W` that every operation may change.

## Main definitions

* `Node` — how to reach one node of a running cluster
* `Platform` — what can be done with a kind of cluster
-/

namespace Testbed

/-- How to reach one node of a running cluster. -/
structure Node (W : Type) where
  index : Nat
  /-- The address of the node's endpoint, without a slash at the end. -/
  url : String
  auth : Credentials
  /-- How long a request may take that says nothing else. -/
  timeout : Duration
  /-- Sends a request and waits for the response. -/
  send : Http.Request → W → Except Fault Http.Response × W

namespace Node

/-- What is told of a node: the names of its fields and their values. -/
def fields {W : Type} (node : Node W) : List (String × String) :=
  [("index", toString node.index), ("url", Quoted.text node.url),
   ("timeout", node.timeout.text)]

/-- A node on one line. -/
def text {W : Type} (node : Node W) : String :=
  "NodeHandle \x7b " ++
    ", ".intercalate (node.fields.map fun (name, value) => name ++ ": " ++ value) ++ " \x7d"

/-- A node with one line for each field. -/
def prettyText {W : Type} (node : Node W) : String :=
  "NodeHandle \x7b\n" ++
    String.join (node.fields.map fun (name, value) => "    " ++ name ++ ": " ++ value ++ ",\n") ++
    "\x7d"

end Node

/-- What can be done with a kind of cluster. -/
structure Platform (C W : Type) where
  /-- The nodes that are joined, in order. -/
  nodes : C → List (Node W)
  auth : C → Credentials
  /-- The generation that a cluster was started as. -/
  index : C → Nat
  /-- How many node processes were started for a cluster. -/
  processCount : C → Nat
  /-- Stops the node processes. -/
  teardown : C → W → C × W
  deleteBucket : String → C → W → Except Fault Unit × C × W

/-- The first index that no process of a cluster has. -/
def Platform.nextIndex {C W : Type} (platform : Platform C W) (cluster : C) : Nat :=
  platform.index cluster + max (platform.processCount cluster) 1

end Testbed
