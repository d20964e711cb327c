import Testbed.Proofs.Http.Traffic
import Testbed.Proofs.Json.Order

/-!
# The internal names of nodes

A cluster tells the status of each node, and a status tells the node's internal name. Either every
status does, and then the names are had, one for each node; or none is had, and the fault is that
of the first node, in the order of their names, whose status does not.

## Main definitions

* `Http.TellsName` — a status tells an internal name
* `Http.FirstOffending` — the first node whose status tells none
* `Http.EntryFault` — what is wrong with such a status
* `Http.TellAll` — a table of names is what a table of statuses tells

## Main results

* `Http.tellsName_or_entryFault`, `Http.otpNode_of_tellsName`, `Http.otpNode_of_entryFault` — one
  status
* `Http.exists_otpTable_iff`, `Http.otpTable_eq_error_iff` — any number of them
* `Http.node_names_all_or_none`
-/

namespace Testbed.Http

variable {C W : Type} {status : Json} {statuses : Table Json} {names : Table String}
  {node name : String} {fault : Fault}

/-! ### One status -/

/-- The status of a node tells its internal name. -/
def TellsName (status : Json) (name : String) : Prop :=
  status.HasMember "otpNode" (.text name)

/-- The status of a node tells no internal name, and this is what is wrong with it. -/
inductive EntryFault (node : String) (status : Json) : Fault → Prop where
  | missing (hmissing : ∀ value, ¬ status.HasMember "otpNode" value) :
      EntryFault node status (.missingJsonKey "otpNode" "/nodeStatuses" status.compact)
  | notText {value : Json} (hmember : status.HasMember "otpNode" value)
      (htext : ∀ text, value ≠ .text text) :
      EntryFault node status (.jsonDecode s!"otpNode of {node} is not a string" status.compact)

theorem otpNode_of_tellsName (h : status.Ordered) (htells : TellsName status name) (node : String) :
    otpNode node status = .ok name := by
  rw [otpNode, requireKey, h.get?_eq_some_iff.mpr htells]
  rfl

theorem otpNode_of_entryFault (h : status.Ordered) (hfault : EntryFault node status fault) :
    otpNode node status = .error fault := by
  cases hfault with
  | missing hmissing => rw [otpNode, requireKey, h.get?_eq_none_iff.mpr hmissing]
  | @notText value hmember htext =>
    have htext? : value.text? = none :=
      Option.eq_none_iff_forall_ne_some.mpr fun text => by
        simpa [Json.text?_eq_some_iff] using htext text
    rw [otpNode, requireKey, h.get?_eq_some_iff.mpr hmember]
    simp only [htext?]

/-- A status tells an internal name, or something is wrong with it. -/
theorem tellsName_or_entryFault (node : String) (status : Json) :
    (∃ name, TellsName status name) ∨ ∃ fault, EntryFault node status fault := by
  by_cases hmember : ∃ value, status.HasMember "otpNode" value
  · obtain ⟨value, hmember⟩ := hmember
    by_cases htext : ∃ text, value = .text text
    · obtain ⟨text, rfl⟩ := htext
      exact .inl ⟨text, hmember⟩
    · exact .inr ⟨_, .notText hmember (not_exists.mp htext)⟩
  · exact .inr ⟨_, .missing (not_exists.mp hmember)⟩

/-- Nothing is wrong with a status that tells an internal name. -/
theorem EntryFault.not_tellsName (hfault : EntryFault node status fault) (h : status.Ordered)
    (name : String) : ¬ TellsName status name := by
  intro htells
  have hok := otpNode_of_tellsName h htells node
  rw [otpNode_of_entryFault h hfault] at hok
  cases hok

/-- Only one thing is wrong with a status. -/
theorem EntryFault.unique {fault' : Fault} (hfault : EntryFault node status fault)
    (hfault' : EntryFault node status fault') (h : status.Ordered) : fault = fault' := by
  have herror := otpNode_of_entryFault h hfault
  rw [otpNode_of_entryFault h hfault'] at herror
  cases herror
  rfl

theorem tellsName_unique {name' : String} (h : status.Ordered) (htells : TellsName status name)
    (htells' : TellsName status name') : name = name' := by
  have hfound := h.get?_eq_some_iff.mpr htells
  rw [h.get?_eq_some_iff.mpr htells'] at hfound
  cases hfound
  rfl

/-! ### All of them -/

/-- The nodes are the same, and each one's status tells its name. -/
def TellAll (statuses : Table Json) (names : Table String) : Prop :=
  List.Forall₂ (fun entry named => named.1 = entry.1 ∧ TellsName entry.2 named.2) statuses names

theorem TellAll.keys (h : TellAll statuses names) :
    names.map Prod.fst = statuses.map Prod.fst := by
  induction h with
  | nil => rfl
  | cons hd _ ih => rw [List.map_cons, List.map_cons, hd.1, ih]

theorem TellAll.tells (h : TellAll statuses names) {entry : String × Json}
    (hmem : entry ∈ statuses) : ∃ name, TellsName entry.2 name := by
  induction h with
  | nil => cases hmem
  | @cons first named rest _ hd _ ih =>
    rcases List.mem_cons.mp hmem with rfl | hrest
    · exact ⟨named.2, hd.2⟩
    · exact ih hrest

/-- What is told is what stands in the table of names. -/
theorem TellAll.mem_iff (h : TellAll statuses names)
    (hordered : ∀ entry ∈ statuses, entry.2.Ordered) :
    (node, name) ∈ names ↔ ∃ status, (node, status) ∈ statuses ∧ TellsName status name := by
  induction h with
  | nil => simp
  | @cons entry named rest _ hd _ ih =>
    obtain ⟨hentry, hrest⟩ := List.forall_mem_cons.mp hordered
    obtain ⟨hnode, htells⟩ := hd
    have hfirst : (node, name) = named ↔
        ∃ status, (node, status) = entry ∧ TellsName status name := by
      constructor
      · rintro rfl
        exact ⟨entry.2, Prod.ext hnode rfl, htells⟩
      · rintro ⟨status, rfl, htold⟩
        exact Prod.ext hnode.symm (tellsName_unique hentry htold htells)
    rw [List.mem_cons, ih hrest, hfirst, ← exists_or]
    simp only [List.mem_cons, or_and_right]

/-- The first node, in the order of their names, whose status tells no internal name. -/
structure FirstOffending (statuses : Table Json) (node : String) (status : Json) : Prop where
  mem : (node, status) ∈ statuses
  offends : ∀ name, ¬ TellsName status name
  earlier : ∀ entry ∈ statuses, entry.1 < node → ∃ name, TellsName entry.2 name

/-- There is only one first offending node. -/
theorem FirstOffending.unique {node' : String} {status' : Json} (hstatuses : statuses.Ordered)
    (h : FirstOffending statuses node status) (h' : FirstOffending statuses node' status') :
    node = node' ∧ status = status' := by
  have hle : ∀ {node node' : String} {status status' : Json},
      FirstOffending statuses node status → FirstOffending statuses node' status' →
        ¬ node < node' := by
    intro node node' status status' h h' hlt
    obtain ⟨name, htells⟩ := h'.earlier _ h.mem hlt
    exact h.offends name htells
  obtain rfl : node = node' := String.le_antisymm (String.not_lt.mp (hle h' h))
    (String.not_lt.mp (hle h h'))
  exact ⟨rfl, hstatuses.value_eq h.mem h'.mem⟩

/-- Of a table in order, the first entry that tells no name is the first offending node. -/
theorem FirstOffending.of_append {before after : Table Json}
    (hordered : Table.Ordered (before ++ (node, status) :: after))
    (hbefore : ∀ entry ∈ before, ∃ name, TellsName entry.2 name)
    (hoffends : ∀ name, ¬ TellsName status name) :
    FirstOffending (before ++ (node, status) :: after) node status where
  mem := List.mem_append_right _ (List.mem_cons_self ..)
  offends := hoffends
  earlier := by
    intro entry hmem hlt
    obtain ⟨-, hrest, -⟩ := List.pairwise_append.mp hordered
    rcases List.mem_append.mp hmem with hmem | hmem
    · exact hbefore entry hmem
    · rcases List.mem_cons.mp hmem with rfl | hmem
      · exact absurd hlt (String.lt_irrefl _)
      · exact absurd hlt (String.lt_asymm ((List.pairwise_cons.mp hrest).1 entry hmem))

/-- Either all names are told, and then there is a table of them; or there is a first status that
tells none, and the fault is that of this one. -/
theorem otpTable_ways (hordered : ∀ entry ∈ statuses, entry.2.Ordered) :
    (∃ names, otpTable statuses = .ok names ∧ TellAll statuses names) ∨
      ∃ before node status after fault, statuses = before ++ (node, status) :: after ∧
        (∀ entry ∈ before, ∃ name, TellsName entry.2 name) ∧ EntryFault node status fault ∧
          otpTable statuses = .error fault := by
  induction statuses with
  | nil => exact .inl ⟨[], rfl, .nil⟩
  | cons entry rest ih =>
    obtain ⟨node, status⟩ := entry
    obtain ⟨hstatus, hrest⟩ := List.forall_mem_cons.mp hordered
    rw [otpTable]
    rcases tellsName_or_entryFault node status with ⟨name, htells⟩ | ⟨fault, hfault⟩
    · rw [otpNode_of_tellsName hstatus htells]
      rcases ih hrest with ⟨names, hnames, hall⟩ |
        ⟨before, node', status', after, fault, rfl, hbefore, hfault, herror⟩
      · exact .inl ⟨(node, name) :: names, by rw [hnames], .cons ⟨rfl, htells⟩ hall⟩
      · refine .inr ⟨(node, status) :: before, node', status', after, fault, rfl, ?_, hfault, ?_⟩
        · exact List.forall_mem_cons.mpr ⟨⟨name, htells⟩, hbefore⟩
        · rw [herror]
    · rw [otpNode_of_entryFault hstatus hfault]
      exact .inr ⟨[], node, status, rest, fault, rfl, by simp, hfault, rfl⟩

theorem tellAll_of_otpTable (hordered : ∀ entry ∈ statuses, entry.2.Ordered)
    (h : otpTable statuses = .ok names) : TellAll statuses names := by
  rcases otpTable_ways hordered with ⟨names', hnames, hall⟩ | ⟨_, _, _, _, _, -, -, -, herror⟩
  · rw [hnames] at h
    cases h
    exact hall
  · rw [herror] at h
    cases h

/-- There is a table of names if and only if each status tells one. -/
theorem exists_otpTable_iff (hordered : ∀ entry ∈ statuses, entry.2.Ordered) :
    (∃ names, otpTable statuses = .ok names) ↔
      ∀ entry ∈ statuses, ∃ name, TellsName entry.2 name := by
  constructor
  · rintro ⟨names, hnames⟩ entry hmem
    exact (tellAll_of_otpTable hordered hnames).tells hmem
  · intro htells
    rcases otpTable_ways hordered with ⟨names, hnames, -⟩ |
      ⟨before, node, status, after, fault, rfl, -, hfault, -⟩
    · exact ⟨names, hnames⟩
    · have hmem : (node, status) ∈ before ++ (node, status) :: after :=
        List.mem_append_right _ (List.mem_cons_self ..)
      obtain ⟨name, hname⟩ := htells _ hmem
      exact absurd hname (hfault.not_tellsName (hordered _ hmem) name)

/-- There is a fault if there is a first offending node, and it is the fault of its status. -/
theorem otpTable_eq_error_iff (hstatuses : statuses.Ordered)
    (hordered : ∀ entry ∈ statuses, entry.2.Ordered) :
    otpTable statuses = .error fault ↔
      ∃ node status, FirstOffending statuses node status ∧ EntryFault node status fault := by
  rcases otpTable_ways hordered with ⟨names, hnames, hall⟩ |
    ⟨before, node, status, after, fault', rfl, hbefore, hfault, herror⟩
  · rw [hnames]
    refine iff_of_false (by simp) ?_
    rintro ⟨node, status, hfirst, -⟩
    obtain ⟨name, htells⟩ := hall.tells hfirst.mem
    exact hfirst.offends name htells
  · have hstatus : status.Ordered :=
      hordered (node, status) (List.mem_append_right _ (List.mem_cons_self ..))
    have hfirst := FirstOffending.of_append hstatuses hbefore (hfault.not_tellsName hstatus)
    rw [herror]
    constructor
    · rintro ⟨⟩
      exact ⟨node, status, hfirst, hfault⟩
    · rintro ⟨node', status', hfirst', hfault''⟩
      obtain ⟨rfl, rfl⟩ := hfirst.unique hstatuses hfirst'
      rw [hfault.unique hfault'' hstatus]

/-! ### The whole call -/

variable {platform : Platform C W} {cluster : C} {world : W} {response : Response} {json : Json}

theorem otpNodes_of_object
    (hsent : (Call.get.send (.ofCluster platform cluster) "/nodeStatuses" {} world).1 =
      .ok response)
    (hjson : Json.parse? response.body = some (.object statuses)) :
    (otpNodes platform cluster world).1 = otpTable statuses := by
  simp only [otpNodes, hsent, jsonBody, hjson, Json.members?]

theorem otpNodes_of_other
    (hsent : (Call.get.send (.ofCluster platform cluster) "/nodeStatuses" {} world).1 =
      .ok response)
    (hjson : Json.parse? response.body = some json)
    (hother : ∀ statuses, json ≠ .object statuses) :
    (otpNodes platform cluster world).1 =
      .error (.jsonDecode "/nodeStatuses response was not an object" json.compact) := by
  have hmembers : json.members? = none := by
    cases json with
    | object statuses => exact absurd rfl (hother statuses)
    | _ => rfl
  simp only [otpNodes, hsent, jsonBody, hjson, hmembers]

/-- **The internal names of all nodes, or of none.** Where a cluster has a node and it answers with
JSON, there are names just if the JSON is an object in which every status tells one; then they are
the names of all nodes, each with what its status tells. If it is no object, that is the fault.
If some status tells no name, the fault is that of the first such node in the order of names: the
key is missing, or the node is named whose key is no text. -/
theorem node_names_all_or_none (platform : Platform C W) (cluster : C) (world : W)
    {endpoint : Node W} {others : List (Node W)}
    (hnodes : platform.nodes cluster = endpoint :: others)
    (hresponse : (endpoint.send
      (Request.make .get endpoint (platform.auth cluster) "/nodeStatuses" {}) world).1 =
        .ok response)
    (hjson : Json.parse? response.body = some json) :
    let got := (otpNodes platform cluster world).1
    ((∃ names, got = .ok names) ↔ ∃ statuses, json = .object statuses ∧
      ∀ entry ∈ statuses, ∃ name, TellsName entry.2 name) ∧
    ((∀ statuses, json ≠ .object statuses) →
      got = .error (.jsonDecode "/nodeStatuses response was not an object" json.compact)) ∧
    ∀ statuses : Table Json, json = .object statuses → statuses.Ordered ∧
      (∀ names, got = .ok names → names.map Prod.fst = statuses.map Prod.fst ∧
        ∀ node name, (node, name) ∈ names ↔
          ∃ status, (node, status) ∈ statuses ∧ TellsName status name) ∧
      ∀ fault, got = .error fault ↔
        ∃ node status, FirstOffending statuses node status ∧ EntryFault node status fault := by
  intro got
  have hsent : (Call.get.send (.ofCluster platform cluster) "/nodeStatuses" {} world).1 =
      .ok response := by
    rw [Call.get.send_of_cons hnodes]
    exact (checked_none _).trans hresponse
  have hobject {statuses : Table Json} (heq : json = .object statuses) :
      statuses.Ordered ∧ (∀ entry ∈ statuses, entry.2.Ordered) ∧ got = otpTable statuses := by
    subst heq
    cases Json.ordered_of_parse? hjson with
    | object hnames hmembers => exact ⟨hnames, hmembers, otpNodes_of_object hsent hjson⟩
  refine ⟨⟨?_, ?_⟩, otpNodes_of_other hsent hjson, ?_⟩
  · rintro ⟨names, hgot⟩
    by_cases hstatuses : ∃ statuses, json = .object statuses
    · obtain ⟨statuses, heq⟩ := hstatuses
      obtain ⟨-, hmembers, htable⟩ := hobject heq
      rw [htable] at hgot
      exact ⟨statuses, heq, (exists_otpTable_iff hmembers).mp ⟨names, hgot⟩⟩
    · rw [show got = _ from otpNodes_of_other hsent hjson (not_exists.mp hstatuses)] at hgot
      cases hgot
  · rintro ⟨statuses, heq, htells⟩
    obtain ⟨-, hmembers, htable⟩ := hobject heq
    rw [htable]
    exact (exists_otpTable_iff hmembers).mpr htells
  · intro statuses heq
    obtain ⟨hnames, hmembers, htable⟩ := hobject heq
    rw [htable]
    refine ⟨hnames, ?_, fun fault => otpTable_eq_error_iff hnames hmembers⟩
    intro names hgot
    have hall := tellAll_of_otpTable hmembers hgot
    exact ⟨hall.keys, fun _ _ => hall.mem_iff hmembers⟩

/-- The statuses of three nodes. -/
def sampleStatuses : Table Json :=
  [("a", .object [("otpNode", .text "n_0@a")]), ("b", .object [("otpNode", .null)]),
    ("c", .object [])]

/-- Of three nodes one tells no text and one tells nothing. The latter is written first, but the
fault is that of the former. -/
theorem sample_node_names :
    let body := (Json.object sampleStatuses.reverse).compact
    Json.parse? body = some (.object sampleStatuses) ∧
      (otpNodes (samplePlatform body) () ()).1 = .error
        (.jsonDecode "otpNode of b is not a string" (Json.object [("otpNode", .null)]).compact) := by
  intro body
  have hjson : Json.parse? body = some (.object sampleStatuses) := by
    decide +kernel
  refine ⟨hjson, ?_⟩
  have hall := node_names_all_or_none (samplePlatform body) () () rfl rfl hjson
  refine ((hall.2.2 sampleStatuses rfl).2.2 _).mpr
    ⟨"b", .object [("otpNode", .null)], ?_, .notText ⟨_, rfl, List.mem_singleton_self _⟩ ?_⟩
  · refine ⟨by simp [sampleStatuses], ?_, ?_⟩
    · rintro name ⟨members, hmembers, hmem⟩
      cases hmembers
      simp at hmem
    · intro entry hmem hlt
      simp only [sampleStatuses, List.mem_cons, List.not_mem_nil, or_false] at hmem
      rcases hmem with rfl | rfl | rfl
      · exact ⟨"n_0@a", _, rfl, List.mem_singleton_self _⟩
      · exact absurd hlt (by decide)
      · exact absurd hlt (by decide)
  · simp

end Testbed.Http
