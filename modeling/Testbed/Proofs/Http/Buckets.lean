import Testbed.Proofs.Http.Traffic
import Testbed.Proofs.Json.Order

/-!
# Deleting every bucket

The buckets of a cluster are listed by one request, and deleted one after the other in the order of
the listing, up to the first that cannot be deleted. If there is no listing, nothing is deleted.

## Main definitions

* `Http.ListingFault` — why there is no listing
* `Http.Lists` — the names that a listing gives
* `Http.Deletes`, `Http.DeletesUpTo` — buckets are deleted, all of them or up to one

## Main results

* `Http.bucketNames_listed` — the names that are taken from a listing are those that it gives
* `Http.deleteBuckets_upTo` — what is deleted, and what is not tried
* `Http.listed_buckets_deleted_upTo`
-/

namespace Testbed.Http

variable {C W : Type} {platform : Platform C W} {cluster : C}

/-! ### Listings -/

/-- The answer to the request for a listing is none, and this is what is wrong with it. -/
inductive ListingFault : Except Fault Response → Fault → Prop where
  | transport (fault : Fault) : ListingFault (.error fault) fault
  | status {response : Response} (hstatus : response.status ≠ 200) :
      ListingFault (.ok response) (statusFault [200] response)
  | notJson {response : Response} (hstatus : response.status = 200)
      (hjson : Json.parse? response.body = none) :
      ListingFault (.ok response)
        (.jsonDecode "/pools/default/buckets response was not json" response.body)

/-- The names that items give, in order: the texts under `name`. Any other item gives none. -/
inductive ItemNames : List Json → List String → Prop where
  | nil : ItemNames [] []
  | named {item : Json} {items : List Json} {name : String} {names : List String}
      (hitem : item.HasMember "name" (.text name)) (hrest : ItemNames items names) :
      ItemNames (item :: items) (name :: names)
  | unnamed {item : Json} {items : List Json} {names : List String}
      (hitem : ∀ name, ¬ item.HasMember "name" (.text name)) (hrest : ItemNames items names) :
      ItemNames (item :: items) names

/-- The names that a listing gives: those of its items, if it is an array. -/
inductive Lists : Json → List String → Prop where
  | array {items : List Json} {names : List String} (h : ItemNames items names) :
      Lists (.array items) names
  | other {listing : Json} (h : ∀ items, listing ≠ .array items) : Lists listing []

/-- The name that is taken from an item. -/
def itemName? (item : Json) : Option String :=
  (item.get? "name").bind Json.text?

theorem itemName?_eq_some_iff {item : Json} (hitem : item.Ordered) {name : String} :
    itemName? item = some name ↔ item.HasMember "name" (.text name) := by
  simp [itemName?, Option.bind_eq_some_iff, hitem.get?_eq_some_iff, Json.text?_eq_some_iff]

theorem itemNames_of_ordered {items : List Json} (h : ∀ item ∈ items, item.Ordered) :
    ItemNames items (items.filterMap itemName?) := by
  induction items with
  | nil => exact .nil
  | cons item items ih =>
    obtain ⟨hitem, hitems⟩ := List.forall_mem_cons.mp h
    cases hname : itemName? item with
    | some name =>
      rw [List.filterMap_cons_some hname]
      exact .named ((itemName?_eq_some_iff hitem).mp hname) (ih hitems)
    | none =>
      rw [List.filterMap_cons_none hname]
      refine .unnamed (fun name hmember => ?_) (ih hitems)
      rw [(itemName?_eq_some_iff hitem).mpr hmember] at hname
      cases hname

/-- The names that are taken from a listing are those that it gives. -/
theorem bucketNames_listed {listing : Json} (h : listing.Ordered) :
    Lists listing (bucketNames listing) := by
  cases h with
  | array hitems => exact .array (itemNames_of_ordered hitems)
  | _ => exact .other (by simp)

/-! ### Deletions -/

/-- Each of the buckets is deleted, one after the other. -/
inductive Deletes (platform : Platform C W) : List String → C × W → C × W → Prop where
  | nil (state : C × W) : Deletes platform [] state state
  | cons {name : String} {rest : List String} {state next last : C × W}
      (hname : platform.deleteBucket name state.1 state.2 = (.ok (), next))
      (hrest : Deletes platform rest next last) : Deletes platform (name :: rest) state last

/-- `DeletesUpTo platform names start tried result last`: the deletion of the buckets in `tried` is
asked for in order. They are all of them, each of which is deleted, or all up to the first that
cannot be deleted. -/
inductive DeletesUpTo (platform : Platform C W) (names : List String) (start : C × W) :
    List String → Except Fault Unit → C × W → Prop where
  | all {last : C × W} (h : Deletes platform names start last) :
      DeletesUpTo platform names start names (.ok ()) last
  | failed {before left : List String} {name : String} {fault : Fault} {state last : C × W}
      (hnames : names = before ++ name :: left) (hbefore : Deletes platform before start state)
      (hname : platform.deleteBucket name state.1 state.2 = (.error fault, last)) :
      DeletesUpTo platform names start (before ++ [name]) (.error fault) last

theorem DeletesUpTo.cons {names tried : List String} {name : String} {start next last : C × W}
    {result : Except Fault Unit}
    (hname : platform.deleteBucket name start.1 start.2 = (.ok (), next))
    (h : DeletesUpTo platform names next tried result last) :
    DeletesUpTo platform (name :: names) start (name :: tried) result last := by
  cases h with
  | all h => exact .all (.cons hname h)
  | failed hnames hbefore hfailed =>
    subst hnames
    exact .failed rfl (.cons hname hbefore) hfailed

/-- Buckets are deleted up to the first that cannot be, and what is asked for is taken down. -/
theorem deleteBuckets_upTo (platform : Platform C W) (names : List String) (cluster : C)
    (noted : Noted Deed W) :
    ∃ tried result last, DeletesUpTo platform names (cluster, noted.world) tried result last ∧
      deleteBuckets platform names cluster noted.world = (result, last) ∧
      deleteBuckets platform.tapped names cluster noted =
        (result, last.1, ⟨last.2, noted.notes ++ tried.map .deleteBucket⟩) := by
  induction names generalizing cluster noted with
  | nil => exact ⟨[], _, _, .all (.nil _), rfl, by simp [deleteBuckets]⟩
  | cons name rest ih =>
    rw [deleteBuckets, deleteBuckets, Platform.tapped_deleteBucket]
    rcases hname : platform.deleteBucket name cluster noted.world with ⟨fault | _, next⟩
    · have hfailed : DeletesUpTo platform (name :: rest) (cluster, noted.world) ([] ++ [name])
          (.error fault) next := .failed rfl (.nil _) hname
      exact ⟨[name], _, next, hfailed, rfl, rfl⟩
    · obtain ⟨tried, result, last, hupTo, hplain, hnoted⟩ :=
        ih next.1 ⟨next.2, noted.notes ++ [.deleteBucket name]⟩
      refine ⟨name :: tried, result, last, hupTo.cons hname, hplain, ?_⟩
      simpa using hnoted

/-- If each of the buckets can be deleted, then each one is. -/
theorem deleteBuckets_of_deletes {names : List String} {start last : C × W}
    (h : Deletes platform names start last) :
    deleteBuckets platform names start.1 start.2 = (.ok (), last) := by
  induction h with
  | nil state => rfl
  | cons hname _ ih => rw [deleteBuckets, hname]; exact ih

/-- The deletion of buckets succeeds if and only if each of them is deleted. -/
theorem deleteBuckets_eq_ok_iff {names : List String} {world : W} :
    (deleteBuckets platform names cluster world).1 = .ok () ↔
      ∃ last, Deletes platform names (cluster, world) last := by
  constructor
  · intro hok
    obtain ⟨_, _, last, hupTo, hplain, -⟩ :=
      deleteBuckets_upTo platform names cluster ⟨world, []⟩
    rw [show deleteBuckets platform names cluster world = _ from hplain] at hok
    cases hupTo with
    | all h => exact ⟨last, h⟩
    | failed => cases hok
  · rintro ⟨last, h⟩
    exact congrArg Prod.fst (deleteBuckets_of_deletes h)

/-! ### The whole call -/

/-- Where the call for a listing fails, nothing is deleted. -/
theorem deleteAllBuckets_of_error {fault : Fault} {world' : W} {options : Options} {world : W}
    (hsent : Call.getSucc.send (.ofCluster platform cluster) "/pools/default/buckets" options
      world = (.error fault, world')) :
    deleteAllBuckets platform options cluster world = (.error fault, cluster, world') := by
  rw [deleteAllBuckets, hsent]

/-- Where there is no listing, its fault is all there is. -/
theorem deleteAllBuckets_of_fault {answer : Except Fault Response} {fault : Fault} {world' : W}
    {options : Options} {world : W}
    (hsent : Call.getSucc.send (.ofCluster platform cluster) "/pools/default/buckets" options
      world = (checked (some [200]) answer, world'))
    (h : ListingFault answer fault) :
    deleteAllBuckets platform options cluster world = (.error fault, cluster, world') := by
  cases h with
  | transport => exact deleteAllBuckets_of_error hsent
  | status hstatus =>
    rw [checked_some, checkStatus, if_neg (by simpa using hstatus)] at hsent
    exact deleteAllBuckets_of_error hsent
  | notJson hstatus hjson =>
    rw [deleteAllBuckets, hsent]
    simp [checkStatus, hstatus, jsonBody, hjson]

/-- Where there is a listing, its buckets are deleted. -/
theorem deleteAllBuckets_of_listing {answer : Except Fault Response} {response : Response}
    {listing : Json} {world' : W} {options : Options} {world : W}
    (hsent : Call.getSucc.send (.ofCluster platform cluster) "/pools/default/buckets" options
      world = (checked (some [200]) answer, world'))
    (hanswer : answer = .ok response) (hstatus : response.status = 200)
    (hjson : Json.parse? response.body = some listing) :
    deleteAllBuckets platform options cluster world =
      deleteBuckets platform (bucketNames listing) cluster world' := by
  rw [deleteAllBuckets, hsent, hanswer]
  simp [checkStatus, hstatus, jsonBody, hjson]

/-- **Buckets are deleted in the order of their listing, up to the first that cannot be.** A
cluster without nodes is sent nothing. Otherwise one request asks for the listing. If it is not
answered, or not with status 200 and JSON, that is the fault and nothing is deleted. If it is, the
names in the listing are those that are to be deleted, each as often as it stands there, and the
call succeeds if and only if each one is. To take down what is asked for changes nothing. -/
theorem listed_buckets_deleted_upTo (platform : Platform C W) (options : Options) (cluster : C)
    (world : W) :
    let got := deleteAllBuckets platform options cluster world
    let tapped := deleteAllBuckets platform.tapped options cluster ⟨world, []⟩
    (platform.nodes cluster = [] →
      got = (.error .noConnectedNodes, cluster, world) ∧
        tapped = (.error .noConnectedNodes, cluster, ⟨world, []⟩)) ∧
    ∀ node others, platform.nodes cluster = node :: others →
      let request :=
        Request.make .get node (platform.auth cluster) "/pools/default/buckets" options
      let sent := node.send request world
      (∀ fault, ListingFault sent.1 fault →
        got = (.error fault, cluster, sent.2) ∧
          tapped = (.error fault, cluster, ⟨sent.2, [.send request]⟩)) ∧
      ∀ response listing, sent.1 = .ok response → response.status = 200 →
        Json.parse? response.body = some listing → ∃ names, Lists listing names ∧
          (∃ tried result last,
            DeletesUpTo platform names (cluster, sent.2) tried result last ∧
              got = (result, last) ∧
              tapped = (result, last.1,
                ⟨last.2, .send request :: tried.map .deleteBucket⟩)) ∧
          (got.1 = .ok () ↔ ∃ last, Deletes platform names (cluster, sent.2) last) := by
  intro got tapped
  refine ⟨?_, ?_⟩
  · intro hnodes
    have hplain := Call.getSucc.send_of_nil hnodes "/pools/default/buckets" options world
    have htapped := Call.getSucc.send_tapped_of_nil hnodes "/pools/default/buckets" options
      ⟨world, []⟩
    exact ⟨deleteAllBuckets_of_error hplain, deleteAllBuckets_of_error htapped⟩
  · intro node others hnodes request sent
    have hplain := Call.getSucc.send_of_cons hnodes "/pools/default/buckets" options world
    have htapped := Call.getSucc.send_tapped_of_cons hnodes "/pools/default/buckets" options
      ⟨world, []⟩
    refine ⟨?_, ?_⟩
    · intro fault hfault
      exact ⟨deleteAllBuckets_of_fault hplain hfault, deleteAllBuckets_of_fault htapped hfault⟩
    · intro response listing hresponse hstatus hjson
      have hgot : got = deleteBuckets platform (bucketNames listing) cluster sent.2 :=
        deleteAllBuckets_of_listing hplain hresponse hstatus hjson
      have hnoted : tapped = deleteBuckets platform.tapped (bucketNames listing) cluster
          ⟨sent.2, [.send request]⟩ :=
        deleteAllBuckets_of_listing htapped hresponse hstatus hjson
      refine ⟨bucketNames listing, bucketNames_listed (Json.ordered_of_parse? hjson), ?_, ?_⟩
      · rw [hgot, hnoted]
        exact deleteBuckets_upTo platform (bucketNames listing) cluster ⟨sent.2, [.send request]⟩
      · rw [hgot]
        exact deleteBuckets_eq_ok_iff

/-- One bucket is deleted, and the next one cannot be. The last one is not tried. -/
example :
    let listing := Json.array [.object [("name", .text "a")], .object [("name", .null)],
      .object [("name", .text "kept")], .object [("name", .text "a")]]
    let got := deleteAllBuckets (samplePlatform listing.compact).tapped {} () ⟨(), []⟩
    got.1 = .error (.cluster "cannot delete kept") ∧
      got.2.2.notes.drop 1 = [.deleteBucket "a", .deleteBucket "kept"] := by
  decide +kernel

end Testbed.Http
