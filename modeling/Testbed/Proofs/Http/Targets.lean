import Testbed.Proofs.Http.Traffic

/-!
# Clusters and nodes as targets

A cluster is not asked anything itself: a call to it is a call to its first node. The address and
the time limit are the node's. The credentials are the cluster's, where the call sets none, and so
the node is asked under credentials that need not be its own.

The method and the accepted statuses do not depend on the target. Some calls accept any status, and pass on whatever
comes back; the others accept one status or two, and a response with any other is a fault that says
which were expected.

## Main definitions

* `Http.Call.verb` — the method of the request that a call makes
* `Http.Call.Accepts`, `Http.Call.expected` — the statuses that a call accepts, and how they are told
* `Http.Call.Settles` — what a call makes of an answer
* `Http.Call.Exchanges` — a call that is one request to a node

## Main results

* `Http.Call.settles_checked` — an answer is settled by the check of its status
* `Http.Call.exchanges_of_endpoint` — a call to a target with an endpoint is one request
* `Http.targets_agree`
-/

namespace Testbed.Http

variable {C W : Type} {node : Node W} {target : Target W} {tapped : Target (Noted Deed W)}

namespace Call

/-! ### Methods -/

/-- The method of the request that a call makes. -/
def verb : Call → Method
  | .request method _ => method
  | .get | .getSucc | .getFail _ => .get
  | .post | .postSucc | .postFail _ => .post
  | .putSucc => .put
  | .delete | .deleteSucc | .ensureDeleted => .delete

theorem method_eq_verb (call : Call) : call.method = call.verb := by
  cases call <;> rfl

/-! ### Answers -/

/-- The statuses that a call accepts. -/
def Accepts : Call → Nat → Prop
  | .request _ none, _ | .get, _ | .post, _ | .delete, _ => True
  | .request _ (some code), status | .getFail code, status | .postFail code, status =>
    status = code
  | .getSucc, status | .postSucc, status | .putSucc, status | .deleteSucc, status => status = 200
  | .ensureDeleted, status => status = 200 ∨ status = 404

/-- The statuses that a call accepts, in words. Of a call that accepts any there is nothing to
say. -/
def expected : Call → String
  | .request _ none | .get | .post | .delete => ""
  | .request _ (some code) | .getFail code | .postFail code => toString code
  | .getSucc | .postSucc | .putSucc | .deleteSucc => "200"
  | .ensureDeleted => "200 or 404"

/-- What a call makes of an answer. -/
structure Settles (call : Call) (answer result : Except Fault Response) : Prop where
  /-- What went wrong on the way is passed on as it is. -/
  transport : ∀ fault, answer = .error fault → result = .error fault
  accepted : ∀ response, answer = .ok response →
    (result = .ok response ↔ call.Accepts response.status)
  refused : ∀ response, answer = .ok response → ¬ call.Accepts response.status →
    result = .error (.httpStatus response.method response.url response.status response.reason
      call.expected response.body)

theorem accepts_of_none {call : Call} (h : call.accepted = none) (status : Nat) :
    call.Accepts status := by
  cases call with
  | request method code =>
    cases code with
    | none => trivial
    | some code => cases h
  | get | post | delete => trivial
  | _ => cases h

/-- A call that accepts some statuses tells just these. -/
theorem accepts_of_some {call : Call} {codes : List Nat} (h : call.accepted = some codes) :
    (∀ status, call.Accepts status ↔ status ∈ codes) ∧
      call.expected = " or ".intercalate (codes.map toString) := by
  cases call with
  | request method code =>
    cases code with
    | none => cases h
    | some code =>
      cases h
      exact ⟨by simp [Accepts], by simp [expected]⟩
  | getFail code | postFail code =>
    cases h
    exact ⟨by simp [Accepts], by simp [expected]⟩
  | get | post | delete => cases h
  | getSucc | postSucc | putSucc | deleteSucc | ensureDeleted =>
    cases h
    exact ⟨by simp [Accepts], by decide⟩

/-- An answer is settled by the check of its status. -/
theorem settles_checked (call : Call) (answer : Except Fault Response) :
    call.Settles answer (checked call.accepted answer) := by
  cases hcodes : call.accepted with
  | none =>
    rw [checked_none]
    have haccepts := accepts_of_none hcodes
    exact ⟨fun _ => id, fun response h => iff_of_true h (haccepts _),
      fun response _ h => absurd (haccepts _) h⟩
  | some codes =>
    obtain ⟨haccepts, hexpected⟩ := accepts_of_some hcodes
    refine ⟨?_, ?_, ?_⟩
    · rintro fault rfl
      rfl
    · rintro response rfl
      rw [checked_some, checkStatus_eq_ok_iff, haccepts]
    · rintro response rfl hrefused
      rw [checked_some, checkStatus, if_neg (mt (haccepts _).mpr hrefused), statusFault, hexpected]

/-! ### One request -/

/-- A call that is one request to a node: what it comes to in a world, and what is taken down. -/
structure Exchanges (call : Call) (node : Node W) (request : Request) (world : W)
    (got : Except Fault Response × W) (noted : Except Fault Response × Noted Deed W) : Prop where
  settles : call.Settles (node.send request world).1 got.1
  world : got.2 = (node.send request world).2
  /-- Nothing else was sent, and nothing deleted. -/
  noted : noted = (got.1, ⟨got.2, [.send request]⟩)

/-- A call to a target is the same call to its endpoint, under credentials that stand for those of
the target. -/
theorem send_override (call : Call) (h : target.endpoint = .ok node) (path : String)
    (options : Options) (world : W) :
    call.send target path options world =
      call.send (.ofNode node) path
        { options with auth := some (options.auth.getD target.auth) } world := by
  have hnode : (Target.ofNode node).endpoint = .ok node := rfl
  rw [call.send_of_endpoint h, call.send_of_endpoint hnode]
  rfl

/-- A call to a target with an endpoint is one request to it. -/
theorem exchanges_of_endpoint (call : Call) (h : target.endpoint = .ok node)
    (htapped : tapped.endpoint = .ok node.tapped) (hauth : tapped.auth = target.auth)
    (path : String) (options : Options) (world : W) :
    call.Exchanges node (Request.make call.verb node target.auth path options) world
      (call.send target path options world) (call.send tapped path options ⟨world, []⟩) := by
  rw [call.send_of_endpoint h, call.send_of_endpoint htapped, hauth, method_eq_verb]
  exact ⟨call.settles_checked _, rfl, rfl⟩

end Call

/-! ### Two targets -/

/-- **A cluster is asked through its first node.** A cluster without nodes is sent nothing. A call
to any other cluster is the same call to the first node, under the credentials that the call sets
or else the cluster's. Either way one request of the call's method is sent, to the node's address
and with the path after it, and with the time limit that the call sets or else the node's; a fault
on the way is passed on, and a response is taken if the call accepts its status, and is a fault
otherwise. -/
theorem targets_agree (call : Call) (path : String) (options : Options) (world : W) :
    (∀ (platform : Platform C W) (cluster : C),
      let got := call.send (.ofCluster platform cluster) path options world
      let noted := call.send (.ofCluster platform.tapped cluster) path options ⟨world, []⟩
      (platform.nodes cluster = [] →
        got = (.error .noConnectedNodes, world) ∧
          noted = (.error .noConnectedNodes, ⟨world, []⟩)) ∧
      ∀ node others, platform.nodes cluster = node :: others →
        let auth := options.auth.getD (platform.auth cluster)
        let request : Request :=
          { method := call.verb
            url := node.url ++ path
            auth
            body := options.body
            timeout := options.timeout.getD node.timeout }
        got = call.send (.ofNode node) path { options with auth := some auth } world ∧
          noted =
            call.send (.ofNode node.tapped) path { options with auth := some auth } ⟨world, []⟩ ∧
          call.Exchanges node request world got noted) ∧
    ∀ node : Node W,
      let request : Request :=
        { method := call.verb
          url := node.url ++ path
          auth := options.auth.getD node.auth
          body := options.body
          timeout := options.timeout.getD node.timeout }
      call.Exchanges node request world (call.send (.ofNode node) path options world)
        (call.send (.ofNode node.tapped) path options ⟨world, []⟩) := by
  refine ⟨?_, ?_⟩
  · intro platform cluster got noted
    refine ⟨?_, ?_⟩
    · intro hnodes
      exact ⟨call.send_of_nil hnodes path options world,
        call.send_tapped_of_nil hnodes path options ⟨world, []⟩⟩
    · intro node others hnodes auth request
      have hendpoint := Target.endpoint_ofCluster hnodes
      have htapped := Target.endpoint_ofCluster (Platform.tapped_nodes_of_cons hnodes)
      refine ⟨?_, ?_, call.exchanges_of_endpoint hendpoint htapped rfl path options world⟩
      · exact call.send_override hendpoint path options world
      · exact call.send_override htapped path options ⟨world, []⟩
  · intro node request
    have hendpoint : (Target.ofNode node).endpoint = .ok node := rfl
    have htapped : (Target.ofNode node.tapped).endpoint = .ok node.tapped := rfl
    exact call.exchanges_of_endpoint hendpoint htapped rfl path options world

/-- Cluster and node have credentials of their own. The call sets the time limit, and the answer
is not the one that it waits for. -/
theorem sample_targets_agree :
    let platform := samplePlatform "gone"
    let call := Call.postFail 404
    let options : Options := { timeout := some (.ofSecs 5) }
    let request (username : String) : Request :=
      { method := .post
        url := "http://127.0.0.1:9000/pools"
        auth := ⟨username, "secret"⟩
        body := none
        timeout := .ofSecs 5 }
    let fault : Fault := .httpStatus .post "http://127.0.0.1:9000/pools" 200 "OK" "404" "gone"
    ∃ node, platform.nodes () = [node] ∧ platform.auth () = ⟨"admin", "secret"⟩ ∧
      node.auth = ⟨"user", "secret"⟩ ∧ node.timeout = .ofSecs 60 ∧
      call.send (.ofCluster platform ()) "/pools" options () =
        call.send (.ofNode node) "/pools" { options with auth := some (platform.auth ()) } () ∧
      call.send (.ofCluster platform.tapped ()) "/pools" options ⟨(), []⟩ =
        (.error fault, ⟨(), [.send (request "admin")]⟩) ∧
      call.send (.ofNode node.tapped) "/pools" options ⟨(), []⟩ =
        (.error fault, ⟨(), [.send (request "user")]⟩) := by
  intro platform call options request fault
  obtain ⟨hcluster, hnode⟩ := targets_agree (C := Unit) (W := Unit) call "/pools" options ()
  have hrefused : ¬ call.Accepts 200 := by
    intro haccepts
    cases haccepts
  refine ⟨_, rfl, rfl, rfl, rfl, ?_⟩
  obtain ⟨hsame, -, hexchanges⟩ := (hcluster platform ()).2 _ _ rfl
  refine ⟨hsame, ?_, ?_⟩
  · rw [hexchanges.noted, hexchanges.settles.refused _ rfl hrefused]
    rfl
  · rw [(hnode _).noted, (hnode _).settles.refused _ rfl hrefused]
    rfl

end Testbed.Http
