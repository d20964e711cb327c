import Testbed.Proofs.Reconciler.Cleanup
import Testbed.Proofs.Reconciler.Fate

/-!
# The indexes of generations

The processes of a cluster take up the indexes from its own on. A cluster that is replaced moves
the next index past all of them, so that the next generation has indexes to itself. Two ways to
come to the end of a generation do not: a cluster that is released, and one that is given up while
it is started. After either the next cluster is started at an index that is taken.

So of the clusters that a reconciler has started or taken over, each has an index at least as high
as those before it, however the reconciler is used. That it lies past the processes of those before
it is true just as long as nothing is started after a generation has ended early.

## Design

Only three things count for indexes: the held cluster, the next index, and the clusters that were
started so far, which a launcher notes. `Standing` is these three, `Standing.Moves` is all that one
turn can do to them, and each invariant below is kept move by move.

## What is deliberately absent

Indexes are not compared with processes that are still running. Whether a cluster was stopped
before the next one took its indexes is a matter of the ledger.

## Main definitions

* `Turn`, `Turn.Regular` — what is done with a reconciler, by those who leave indexes alone
* `Turn.endsEarly` — a generation ends, and the next index stays
* `Reconciler.started` — the clusters that were started or taken over, in order
* `Standing`, `Standing.Moves` — what counts for indexes

## Main results

* `Turn.moves` — every turn makes one of the moves
* `Standing.Ordered.moves`, `Standing.Ahead.moves`, `Standing.Behind.moves` — the invariants
* `Reconciler.indexes_increase_iff`
-/

namespace Testbed

variable {C W : Type}

/-! ### Turns -/

/-- The two clusters take up the same indexes. -/
structure Platform.SameExtent (platform : Platform C W) (cluster' cluster : C) : Prop where
  index : platform.index cluster' = platform.index cluster
  processCount : platform.processCount cluster' = platform.processCount cluster

theorem Platform.SameExtent.nextIndex {platform : Platform C W} {cluster' cluster : C}
    (h : platform.SameExtent cluster' cluster) :
    platform.nextIndex cluster' = platform.nextIndex cluster := by
  rw [Platform.nextIndex, Platform.nextIndex, h.index, h.processCount]

theorem Platform.SameExtent.trans {platform : Platform C W} {first second third : C}
    (h : platform.SameExtent first second) (h' : platform.SameExtent second third) :
    platform.SameExtent first third :=
  ⟨h.index.trans h'.index, h.processCount.trans h'.processCount⟩

theorem Platform.index_lt_nextIndex (platform : Platform C W) (cluster : C) :
    platform.index cluster < platform.nextIndex cluster := by
  rw [Platform.nextIndex]
  omega

/-- To stop a cluster leaves its indexes alone. -/
def Platform.Regular (platform : Platform C W) : Prop :=
  ∀ cluster world, platform.SameExtent (platform.teardown cluster world).1 cluster

/-- Clusters are started at the index that is asked for, and mutations leave indexes alone. -/
structure RequirementSet.Regular (platform : Platform C W) (set : RequirementSet C W) : Prop where
  launcher : ∀ options world cluster,
    (set.launcher options world).result = .ok cluster → platform.index cluster = options.index
  configure : ∀ requirement ∈ set.requirements, ∀ options,
    (requirement.configure options).index = options.index
  makeMet : ∀ requirement ∈ set.requirements, ∀ cluster world,
    platform.SameExtent (requirement.makeMet cluster world).cluster cluster

namespace Reconciler

/-- What is done with a reconciler, where clusters are asked for by sets of requirements. -/
inductive Turn (C W : Type) where
  | reconcile (set : RequirementSet C W) (reuseAllowed : Bool)
  | release
  /-- The held cluster is changed by whoever was handed it. -/
  | change (body : C → W → C × W)

/-- A turn is a use of the reconciler. -/
def Turn.use : Turn C W → Use C W
  | .reconcile set reuseAllowed => .reconcile set.toRequirements reuseAllowed
  | .release => .release
  | .change body => .change body

/-- Nobody who has a part in the turn changes the indexes of a cluster. -/
def Turn.Regular (platform : Platform C W) : Turn C W → Prop
  | .reconcile set _ => set.Regular platform
  | .release => True
  | .change body => ∀ cluster world, platform.SameExtent (body cluster world).1 cluster

/-- A generation comes to its end, and the next index is not moved past it: a cluster is released,
or one is given up while it is started. -/
def Turn.endsEarly (platform : Platform C W) (turn : Turn C W) (state : Reconciler C × W) : Bool :=
  match turn with
  | .reconcile set reuseAllowed => state.1.givesUp platform set reuseAllowed state.2
  | .release => state.1.cluster.isSome
  | .change _ => false

end Reconciler

/-! ### Noting what is started -/

/-- The same launcher, which notes the clusters that it starts. -/
def Launcher.noting (launcher : Launcher C W) : Launcher C (Noted C W) :=
  fun options noted =>
    let launched := launcher options noted.world
    { result := launched.result
      world := ⟨launched.world, noted.notes ++ launched.result.toOption.toList⟩
      printed := launched.printed }

theorem Launcher.noting_shows (launcher : Launcher C W) :
    Launcher.Shows Noted.view launcher.noting launcher := by
  intro options noted
  rw [Launcher.noting]
  show _ = launcher options noted.world
  generalize launcher options noted.world = launched
  rcases launched with ⟨_ | _, world, printed⟩ <;> rfl

/-- The same requirements, with a launcher that notes what it starts. -/
def RequirementSet.noting (set : RequirementSet C W) : RequirementSet C (Noted C W) :=
  ⟨set.requirements.map (Requirement.through Noted.view), set.launcher.noting⟩

theorem RequirementSet.noting_shows (set : RequirementSet C W) :
    RequirementSet.Shows Noted.view set.noting set :=
  ⟨Requirement.map_through_shows Noted.view set.requirements, set.launcher.noting_shows⟩

namespace Reconciler

/-- The same turn, in a world where what is started is noted. -/
def Turn.noting : Turn C W → Turn C (Noted C W)
  | .reconcile set reuseAllowed => .reconcile set.noting reuseAllowed
  | .release => .release
  | .change body => .change fun cluster noted =>
    let changed := body cluster noted.world
    (changed.1, { noted with world := changed.2 })

theorem Turn.noting_shows (turn : Turn C W) :
    Use.Shows Noted.view turn.noting.use turn.use := by
  cases turn with
  | reconcile set _ => exact .reconcile set.noting_shows.toRequirements
  | release => exact .release
  | change _ => exact .change fun _ _ => rfl

theorem Turn.endsEarly_seen (platform : Platform C W) (turn : Turn C W)
    (state : Reconciler C × Noted C W) :
    turn.noting.endsEarly (platform.through Noted.view) state =
      turn.endsEarly platform (seenPair Noted.view state) := by
  cases turn with
  | reconcile set reuseAllowed =>
    exact givesUp_seen (platform.through_shows Noted.view) set.noting_shows state.1 reuseAllowed
      state.2
  | release =>
    show state.1.cluster.isSome = (state.1.cluster.map id).isSome
    rw [Option.isSome_map]
  | change _ => rfl

/-! ### Moves -/

/-- What counts for the indexes of generations. -/
structure Standing (C : Type) where
  held : Option C
  next : Nat
  /-- The clusters that were started or taken over, in order. -/
  started : List C

/-- The first index that the held cluster does not take up, or the next one, if none is held. -/
def Standing.past (platform : Platform C W) (standing : Standing C) : Nat :=
  match standing.held with
  | none => standing.next
  | some held => platform.nextIndex held

/-- `standing.Moves platform early standing'`: a turn can lead from the one to the other, and
`early` says whether it ends a generation early. -/
inductive Standing.Moves (platform : Platform C W) : Standing C → Bool → Standing C → Prop where
  /-- The held cluster is kept, and perhaps changed. -/
  | kept {held held' next started} (hextent : platform.SameExtent held' held) :
      Moves platform ⟨some held, next, started⟩ false ⟨some held', next, started⟩
  /-- The held cluster is released. -/
  | released {held next started} :
      Moves platform ⟨some held, next, started⟩ true ⟨none, next, started⟩
  /-- The held cluster, if there is one, is replaced, and nothing is started. -/
  | retired {standing} :
      Moves platform standing false ⟨none, standing.past platform, standing.started⟩
  /-- It is replaced by a cluster that is given up. -/
  | givenUp {standing cluster} (hindex : platform.index cluster = standing.past platform) :
      Moves platform standing true
        ⟨none, standing.past platform, standing.started ++ [cluster]⟩
  /-- It is replaced. -/
  | launched {standing cluster held} (hindex : platform.index cluster = standing.past platform)
      (hextent : platform.SameExtent held cluster) :
      Moves platform standing false
        ⟨some held, standing.past platform, standing.started ++ [cluster]⟩

/-- What counts for indexes of a reconciler and its world. -/
def standing (state : Reconciler C × Noted C W) : Standing C :=
  ⟨state.1.cluster, state.1.nextIndex, state.2.notes⟩

section

variable {platform : Platform C W} {set : RequirementSet C W} {r : Reconciler C}
  {noted : Noted C W}

theorem standing_eq {held : Option C} {next : Nat} {started : List C} (hheld : r.cluster = held)
    (hnext : r.nextIndex = next) (hstarted : noted.notes = started) :
    standing (r, noted) = ⟨held, next, started⟩ := by
  rw [standing, hheld, hnext, hstarted]

/-- A cluster that is launched has the next index, and is noted. -/
theorem launched_noting {base : LaunchOptions} {launched : Effect C (Noted C W)} {cluster : C}
    (h : set.Regular platform)
    (hlaunched : set.noting.launcher (set.noting.configure base) noted = launched)
    (hresult : launched.result = .ok cluster) :
    platform.index cluster = base.index ∧ launched.world.notes = noted.notes ++ [cluster] := by
  subst hlaunched
  have hplain : (set.launcher (set.configure base) noted.world).result = .ok cluster := by
    rw [← set.noting_shows.configure]
    exact hresult
  constructor
  · rw [h.launcher _ _ _ hplain]
    exact RequirementSet.configure_index h.configure base
  · show noted.notes ++ (set.launcher _ noted.world).result.toOption.toList = _
    rw [set.noting_shows.configure, hplain]
    rfl

theorem notLaunched_noting {base : LaunchOptions} {launched : Effect C (Noted C W)} {fault : Fault}
    (hlaunched : set.noting.launcher (set.noting.configure base) noted = launched)
    (hresult : launched.result = .error fault) : launched.world.notes = noted.notes := by
  subst hlaunched
  have hplain : (set.launcher (set.noting.configure base) noted.world).result = .error fault :=
    hresult
  show noted.notes ++ (set.launcher _ noted.world).result.toOption.toList = _
  rw [hplain]
  exact List.append_nil _

/-- Mutations note nothing, and leave indexes alone. -/
theorem made_noting {onlyUnmet : Bool} {requirements : List (Requirement C (Noted C W))}
    {cluster : C} {made : Mutation C (Noted C W)} (h : set.Regular platform)
    (hset : ∀ requirement ∈ requirements, requirement ∈ set.noting.requirements)
    (hmade : Requirement.makeAllMet onlyUnmet requirements cluster noted = made) :
    platform.SameExtent made.cluster cluster ∧ made.world.notes = noted.notes := by
  subst hmade
  refine Requirement.makeAllMet_keeps
    (P := fun cluster' (noted' : Noted C W) =>
      platform.SameExtent cluster' cluster ∧ noted'.notes = noted.notes)
    onlyUnmet ?_ ⟨⟨rfl, rfl⟩, rfl⟩
  rintro requirement hmem cluster' noted' ⟨hextent, hnotes⟩
  obtain ⟨plain, hplain, rfl⟩ := List.mem_map.mp (hset requirement hmem)
  exact ⟨(h.makeMet plain hplain cluster' noted'.world).trans hextent, hnotes⟩

/-- To retire a cluster moves the next index past it, and notes nothing. -/
theorem retire_standing (hplatform : platform.Regular) (r : Reconciler C) (noted : Noted C W) :
    standing (r.retire (platform.through Noted.view) noted) =
      ⟨none, (standing (r, noted)).past platform, noted.notes⟩ := by
  cases hheld : r.cluster with
  | none =>
    rw [retire_of_none _ hheld]
    simp only [standing, Standing.past, hheld]
  | some cluster =>
    rw [retire_of_some _ hheld]
    simp only [standing, Standing.past, hheld]
    have hnext := (hplatform cluster noted.world).nextIndex
    rw [← hnext]
    rfl

/-- A reconciliation makes one of the moves. -/
theorem reconcile_moves (h : set.Regular platform) (hplatform : platform.Regular)
    (r : Reconciler C) (reuseAllowed : Bool) (noted : Noted C W) :
    let got := r.reconcile (platform.through Noted.view) set.noting.toRequirements reuseAllowed noted
    (standing (r, noted)).Moves platform
      (r.givesUp (platform.through Noted.view) set.noting reuseAllowed noted)
      (standing (got.reconciler, got.world)) := by
  intro got
  have hfate : r.Fate (platform.through Noted.view) set.noting noted
      (r.givesUp (platform.through Noted.view) set.noting reuseAllowed noted) got.reconciler
      got.world := reconcile_fate ..
  -- The reconciler that retired its cluster is seen only through its standing.
  obtain ⟨hnone, hpast, hnotes⟩ := Standing.mk.inj (retire_standing hplatform r noted)
  generalize r.givesUp _ set.noting reuseAllowed noted = gaveUp, got.reconciler = r',
    got.world = noted' at hfate ⊢
  cases hfate with
  | @kept cluster made _ hheld hmade hcluster hnext =>
    have hunmet : ∀ requirement ∈ set.noting.unmet cluster,
        requirement ∈ set.noting.requirements :=
      fun requirement hmem => (List.mem_filter.mp hmem).1
    obtain ⟨hextent, hsame⟩ := made_noting h hunmet hmade
    rw [standing_eq hheld rfl rfl, standing_eq hcluster hnext hsame]
    exact .kept hextent
  | notLaunched hlaunched hresult =>
    have hsame := (notLaunched_noting hlaunched hresult).trans hnotes
    rw [standing_eq hnone hpast hsame]
    exact .retired
  | givenUp hlaunched hresult hmade _ =>
    obtain ⟨hindex, hnoted⟩ := launched_noting h hlaunched hresult
    obtain ⟨-, hsame⟩ := made_noting h (fun _ hmem => hmem) hmade
    rw [hnotes] at hnoted
    rw [standing_eq hnone hpast (hsame.trans hnoted)]
    exact .givenUp (hindex.trans hpast)
  | launched hlaunched hresult hmade _ hcluster hnext =>
    obtain ⟨hindex, hnoted⟩ := launched_noting h hlaunched hresult
    obtain ⟨hextent, hsame⟩ := made_noting h (fun _ hmem => hmem) hmade
    rw [hnotes] at hnoted
    rw [standing_eq hcluster (hnext.trans hpast) (hsame.trans hnoted)]
    exact .launched (hindex.trans hpast) hextent

/-- Where nothing is held, nothing has to happen. -/
theorem moves_of_none {state : Reconciler C × Noted C W} (hheld : state.1.cluster = none) :
    (standing state).Moves platform false (standing state) := by
  have hmove : (standing state).Moves platform false _ := .retired
  simpa only [standing, Standing.past, hheld] using hmove

/-- Every turn makes one of the moves. -/
theorem Turn.moves {turn : Turn C W} (h : turn.Regular platform) (hplatform : platform.Regular)
    (state : Reconciler C × Noted C W) :
    (standing state).Moves platform (turn.endsEarly platform (seenPair Noted.view state))
      (standing (turn.noting.use.apply (platform.through Noted.view) state)) := by
  rw [← turn.endsEarly_seen]
  cases turn with
  | reconcile set reuseAllowed =>
    exact reconcile_moves h hplatform state.1 reuseAllowed state.2
  | release =>
    show Standing.Moves platform _ state.1.cluster.isSome
      (standing (state.1.release (platform.through Noted.view) state.2))
    cases hheld : state.1.cluster with
    | none =>
      rw [release_of_none _ hheld]
      exact moves_of_none hheld
    | some cluster =>
      rw [release_of_some _ hheld, standing, hheld]
      exact .released
  | change body =>
    show Standing.Moves platform _ false (standing (Use.apply _ (.change _) state))
    rw [Use.apply]
    cases hheld : state.1.cluster with
    | none => exact moves_of_none hheld
    | some cluster =>
      simp only [standing, hheld]
      exact .kept (h cluster state.2.world)

end

/-! ### What the moves keep -/

/-- Each of the clusters lies past all that the ones before it take up. -/
def Apart (platform : Platform C W) (clusters : List C) : Prop :=
  clusters.Pairwise fun before cluster => platform.nextIndex before ≤ platform.index cluster

namespace Standing

/-- The clusters stand in the order of their indexes, up to the next one, which is that of the held
cluster. -/
structure Ordered (platform : Platform C W) (standing : Standing C) : Prop where
  pairwise : standing.started.Pairwise fun before cluster =>
    platform.index before ≤ platform.index cluster
  le_next : ∀ cluster ∈ standing.started, platform.index cluster ≤ standing.next
  held : ∀ held, standing.held = some held → platform.index held = standing.next ∧
    ∃ cluster ∈ standing.started, platform.SameExtent held cluster

/-- The clusters lie apart, and if the held one is replaced now, the next one will lie past all of
them. -/
structure Ahead (platform : Platform C W) (standing : Standing C) : Prop where
  apart : Apart platform standing.started
  le_past : ∀ cluster ∈ standing.started, platform.nextIndex cluster ≤ standing.past platform

/-- Nothing is held, and the next index is taken. -/
structure Behind (platform : Platform C W) (standing : Standing C) : Prop where
  held : standing.held = none
  taken : ∃ cluster ∈ standing.started, standing.next < platform.nextIndex cluster

variable {platform : Platform C W} {standing standing' : Standing C} {early : Bool}

theorem Moves.prefix_started (hmoves : standing.Moves platform early standing') :
    standing.started <+: standing'.started := by
  cases hmoves with
  | kept _ => exact List.prefix_rfl
  | released => exact List.prefix_rfl
  | retired => exact List.prefix_rfl
  | givenUp _ => exact List.prefix_append ..
  | launched _ _ => exact List.prefix_append ..

theorem Ordered.next_le_past (h : standing.Ordered platform) :
    standing.next ≤ standing.past platform := by
  rw [past]
  cases hheld : standing.held with
  | none => exact Nat.le_refl _
  | some held =>
    rw [← (h.held held hheld).1]
    exact Nat.le_of_lt (platform.index_lt_nextIndex held)

/-- A cluster that is started past the held one comes last. -/
theorem Ordered.start {cluster : C} (h : standing.Ordered platform)
    (hindex : platform.index cluster = standing.past platform) :
    ((standing.started ++ [cluster]).Pairwise fun before cluster =>
        platform.index before ≤ platform.index cluster) ∧
      ∀ before ∈ standing.started ++ [cluster],
        platform.index before ≤ standing.past platform := by
  have hle : ∀ before ∈ standing.started, platform.index before ≤ standing.past platform :=
    fun before hmem => (h.le_next before hmem).trans h.next_le_past
  constructor
  · rw [List.pairwise_append]
    refine ⟨h.pairwise, List.pairwise_singleton .., ?_⟩
    intro before hmem last hlast
    rw [List.mem_singleton.mp hlast, hindex]
    exact hle before hmem
  · intro before hmem
    rcases List.mem_append.mp hmem with hmem | hmem
    · exact hle before hmem
    · rw [List.mem_singleton.mp hmem, hindex]

theorem Ordered.moves (h : standing.Ordered platform)
    (hmoves : standing.Moves platform early standing') : standing'.Ordered platform := by
  cases hmoves with
  | kept hextent =>
    refine ⟨h.pairwise, h.le_next, ?_⟩
    rintro _ ⟨⟩
    obtain ⟨hindex, cluster, hmem, hsame⟩ := h.held _ rfl
    exact ⟨hextent.index.trans hindex, cluster, hmem, hextent.trans hsame⟩
  | released => exact ⟨h.pairwise, h.le_next, by simp⟩
  | retired =>
    exact ⟨h.pairwise, fun cluster hmem => (h.le_next cluster hmem).trans h.next_le_past, by simp⟩
  | givenUp hindex =>
    obtain ⟨hpairwise, hle⟩ := h.start hindex
    exact ⟨hpairwise, hle, by simp⟩
  | launched hindex hextent =>
    obtain ⟨hpairwise, hle⟩ := h.start hindex
    refine ⟨hpairwise, hle, ?_⟩
    rintro _ ⟨⟩
    exact ⟨hextent.index.trans hindex, _, List.mem_append_right _ (List.mem_singleton_self _),
      hextent⟩

/-- A cluster that is started past the held one lies past all of them. -/
theorem Ahead.start {cluster : C} (h : standing.Ahead platform)
    (hindex : platform.index cluster = standing.past platform) :
    Apart platform (standing.started ++ [cluster]) := by
  rw [Apart, List.pairwise_append]
  refine ⟨h.apart, List.pairwise_singleton .., ?_⟩
  intro before hmem last hlast
  rw [List.mem_singleton.mp hlast, hindex]
  exact h.le_past before hmem

theorem Ahead.apart_moves (h : standing.Ahead platform)
    (hmoves : standing.Moves platform early standing') : Apart platform standing'.started := by
  cases hmoves with
  | kept _ => exact h.apart
  | released => exact h.apart
  | retired => exact h.apart
  | givenUp hindex => exact h.start hindex
  | launched hindex _ => exact h.start hindex

/-- As long as no generation ends early, the next cluster will lie past all others. -/
theorem Ahead.moves (h : standing.Ahead platform)
    (hmoves : standing.Moves platform false standing') : standing'.Ahead platform := by
  refine ⟨h.apart_moves hmoves, ?_⟩
  cases hmoves with
  | @kept held held' next started hextent =>
    intro cluster hmem
    have hle : platform.nextIndex cluster ≤ platform.nextIndex held := h.le_past cluster hmem
    rwa [← hextent.nextIndex] at hle
  | retired => exact h.le_past
  | @launched _ last held hindex hextent =>
    intro cluster hmem
    show platform.nextIndex cluster ≤ platform.nextIndex held
    rw [hextent.nextIndex]
    rcases List.mem_append.mp hmem with hmem | hmem
    · have hle := h.le_past cluster hmem
      rw [← hindex] at hle
      exact hle.trans (Nat.le_of_lt (platform.index_lt_nextIndex last))
    · rw [List.mem_singleton.mp hmem]

/-- Where a generation ended early, the next index is taken by it. -/
theorem Ordered.behind (h : standing.Ordered platform)
    (hmoves : standing.Moves platform true standing') : standing'.Behind platform := by
  cases hmoves with
  | @released held next started =>
    obtain ⟨hindex, cluster, hmem, hsame⟩ := h.held _ rfl
    refine ⟨rfl, cluster, hmem, ?_⟩
    rw [← hsame.nextIndex]
    have hlt := platform.index_lt_nextIndex held
    rwa [hindex] at hlt
  | @givenUp _ cluster hindex =>
    refine ⟨rfl, cluster, List.mem_append_right _ (List.mem_singleton_self _), ?_⟩
    rw [← hindex]
    exact platform.index_lt_nextIndex cluster

/-- What is started at a taken index does not lie apart. -/
theorem Behind.not_apart {cluster : C} (h : standing.Behind platform)
    (hindex : platform.index cluster = standing.past platform) :
    ¬ Apart platform (standing.started ++ [cluster]) := by
  intro hapart
  obtain ⟨taken, hmem, hlt⟩ := h.taken
  have hle := (List.pairwise_append.mp hapart).2.2 taken hmem cluster (List.mem_singleton_self _)
  rw [hindex, past, h.held] at hle
  exact Nat.not_le.mpr hlt hle

/-- Behind it stays, until something is started that does not lie apart. -/
theorem Behind.moves (h : standing.Behind platform)
    (hmoves : standing.Moves platform early standing')
    (hapart : Apart platform standing'.started) :
    standing'.Behind platform ∧ standing'.started = standing.started := by
  cases hmoves with
  | kept _ => exact absurd h.held (Option.some_ne_none _)
  | released => exact absurd h.held (Option.some_ne_none _)
  | retired =>
    have hpast : standing.past platform = standing.next := by rw [past, h.held]
    exact ⟨⟨rfl, by rw [hpast]; exact h.taken⟩, rfl⟩
  | givenUp hindex => exact absurd hapart (h.not_apart hindex)
  | launched hindex _ => exact absurd hapart (h.not_apart hindex)

end Standing

/-! ### Any number of turns -/

/-- A reconciler and its world after some turns, where what is started is noted. -/
def afterNoting (platform : Platform C W) (turns : List (Turn C W))
    (state : Reconciler C × Noted C W) : Reconciler C × Noted C W :=
  after (platform.through Noted.view) (turns.map fun turn => turn.noting.use) state

theorem afterNoting_append (platform : Platform C W) (turns later : List (Turn C W))
    (state : Reconciler C × Noted C W) :
    afterNoting platform (turns ++ later) state =
      afterNoting platform later (afterNoting platform turns state) := by
  rw [afterNoting, List.map_append, after_append]
  rfl

theorem afterNoting_seen (platform : Platform C W) (turns : List (Turn C W))
    (state : Reconciler C × Noted C W) :
    seenPair Noted.view (afterNoting platform turns state) =
      after platform (turns.map Turn.use) (seenPair Noted.view state) := by
  refine after_seen (platform.through_shows Noted.view) ?_ state
  rw [List.forall₂_map_left_iff, List.forall₂_map_right_iff, List.forall₂_same]
  intro turn _
  exact turn.noting_shows

section

variable {platform : Platform C W} {turns : List (Turn C W)} {state : Reconciler C × Noted C W}

/-- What every move keeps, any number of turns keeps. -/
theorem afterNoting_induction {P : Standing C → Prop} (hplatform : platform.Regular)
    (hturns : ∀ turn ∈ turns, turn.Regular platform)
    (hmoves : ∀ {standing early standing'}, P standing →
      standing.Moves platform early standing' → P standing')
    (h : P (standing state)) : P (standing (afterNoting platform turns state)) := by
  refine after_induction (P := fun state => P (standing state)) h ?_
  intro use hmem state h
  obtain ⟨turn, hturn, rfl⟩ := List.mem_map.mp hmem
  exact hmoves h (Turn.moves (hturns turn hturn) hplatform state)

theorem prefix_started_afterNoting (hplatform : platform.Regular)
    (hturns : ∀ turn ∈ turns, turn.Regular platform) :
    state.2.notes <+: (afterNoting platform turns state).2.notes :=
  afterNoting_induction (P := fun standing => state.2.notes <+: standing.started) hplatform hturns
    (fun h hmoves => h.trans hmoves.prefix_started) List.prefix_rfl

/-- Once the next index is taken, nothing can be started apart from the others. -/
theorem started_eq_of_behind (hplatform : platform.Regular)
    (hturns : ∀ turn ∈ turns, turn.Regular platform) (h : (standing state).Behind platform)
    (hapart : Apart platform (afterNoting platform turns state).2.notes) :
    (afterNoting platform turns state).2.notes = state.2.notes := by
  induction turns generalizing state with
  | nil => rfl
  | cons turn rest ih =>
    have hrest : ∀ turn ∈ rest, turn.Regular platform :=
      fun turn hmem => hturns turn (List.mem_cons_of_mem _ hmem)
    have hmoves := Turn.moves (hturns turn List.mem_cons_self) hplatform state
    have hnow : Apart platform
        (turn.noting.use.apply (platform.through Noted.view) state).2.notes :=
      List.Pairwise.sublist (prefix_started_afterNoting hplatform hrest).sublist hapart
    obtain ⟨hbehind, hsame⟩ := h.moves hmoves hnow
    exact (ih hrest hbehind hapart).trans hsame

/-- As long as nothing is started after a generation ended early, the clusters lie apart. -/
theorem apart_of_ahead (hplatform : platform.Regular)
    (hturns : ∀ turn ∈ turns, turn.Regular platform) (h : (standing state).Ahead platform)
    (hearly : ∀ before turn later, turns = before ++ turn :: later →
      turn.endsEarly platform (seenPair Noted.view (afterNoting platform before state)) = true →
        (afterNoting platform (before ++ [turn]) state).2.notes =
          (afterNoting platform turns state).2.notes) :
    Apart platform (afterNoting platform turns state).2.notes := by
  induction turns generalizing state with
  | nil => exact h.apart
  | cons turn rest ih =>
    have hmoves := Turn.moves (hturns turn List.mem_cons_self) hplatform state
    cases hends : turn.endsEarly platform (seenPair Noted.view state) with
    | true =>
      -- Nothing is started from here on, and so far the clusters lie apart.
      have hsame := hearly [] turn rest rfl hends
      rw [← hsame]
      exact h.apart_moves hmoves
    | false =>
      rw [hends] at hmoves
      refine ih (fun turn hmem => hturns turn (List.mem_cons_of_mem _ hmem)) (h.moves hmoves) ?_
      intro before later after hsplit hearlier
      exact hearly (turn :: before) later after (congrArg (turn :: ·) hsplit) hearlier

end

/-! ### A whole run -/

section

variable (config : Config) (platform : Platform C W) (adopted : Option C) (world : W)

/-- A reconciler at its start, where a cluster that is taken over is noted. -/
def startingNoting : Reconciler C × Noted C W :=
  (starting config platform adopted, ⟨world, adopted.toList⟩)

/-- The clusters that a reconciler has started or taken over after some turns, in order. -/
def started (turns : List (Turn C W)) : List C :=
  (afterNoting platform turns (startingNoting config platform adopted world)).2.notes

theorem startingNoting_ordered :
    (standing (startingNoting config platform adopted world)).Ordered platform := by
  cases adopted with
  | none => exact ⟨.nil, by simp [startingNoting, standing], fun _ hheld => nomatch hheld⟩
  | some cluster =>
    refine ⟨List.pairwise_singleton .., ?_, ?_⟩
    · intro before hmem
      rw [List.mem_singleton.mp hmem]
      exact Nat.le_refl _
    · rintro _ ⟨⟩
      exact ⟨rfl, cluster, List.mem_singleton_self _, rfl, rfl⟩

theorem startingNoting_ahead :
    (standing (startingNoting config platform adopted world)).Ahead platform := by
  cases adopted with
  | none => exact ⟨.nil, by simp [startingNoting, standing]⟩
  | some cluster =>
    refine ⟨List.pairwise_singleton .., ?_⟩
    intro before hmem
    rw [List.mem_singleton.mp hmem]
    exact Nat.le_refl _

/-- **The indexes of generations.** However a reconciler is used, no cluster that it starts has a
lower index than one that it started or took over before. That the new one lies past all processes
of those before it is true just if nothing is started after a turn that ends a generation
early. -/
theorem indexes_increase_iff (hplatform : platform.Regular) (turns : List (Turn C W))
    (hturns : ∀ turn ∈ turns, turn.Regular platform) :
    let start := (starting config platform adopted, world)
    let noted := afterNoting platform turns (startingNoting config platform adopted world)
    let started := started config platform adopted world
    seenPair Noted.view noted = after platform (turns.map Turn.use) start ∧
      ((started turns).Pairwise fun before cluster =>
        platform.index before ≤ platform.index cluster) ∧
      (((started turns).Pairwise fun before cluster =>
          platform.index before + max (platform.processCount before) 1 ≤ platform.index cluster) ↔
        ∀ before turn later, turns = before ++ turn :: later →
          turn.endsEarly platform (after platform (before.map Turn.use) start) = true →
            started (before ++ [turn]) = started turns) := by
  intro start noted started
  have hseen (turns : List (Turn C W)) :
      seenPair Noted.view (afterNoting platform turns
          (startingNoting config platform adopted world)) =
        after platform (turns.map Turn.use) start := by
    rw [afterNoting_seen]
    cases adopted <;> rfl
  have hordered (turns : List (Turn C W)) (hturns : ∀ turn ∈ turns, turn.Regular platform) :
      (standing (afterNoting platform turns
        (startingNoting config platform adopted world))).Ordered platform :=
    afterNoting_induction hplatform hturns Standing.Ordered.moves
      (startingNoting_ordered config platform adopted world)
  refine ⟨hseen turns, (hordered turns hturns).pairwise, ?_, ?_⟩
  · rintro hapart before turn later rfl hends
    have hbefore : ∀ turn ∈ before, turn.Regular platform :=
      fun turn hmem => hturns turn (List.mem_append_left _ hmem)
    have hturn : turn.Regular platform := hturns turn (by simp)
    have hlater : ∀ turn ∈ later, turn.Regular platform :=
      fun turn hmem => hturns turn (by simp [hmem])
    have hmoves := Turn.moves hturn hplatform
      (afterNoting platform before (startingNoting config platform adopted world))
    rw [hseen, hends] at hmoves
    have hbehind : (standing (afterNoting platform (before ++ [turn])
        (startingNoting config platform adopted world))).Behind platform := by
      rw [afterNoting_append]
      exact (hordered before hbefore).behind hmoves
    have hsplit : started (before ++ turn :: later) =
        (afterNoting platform later (afterNoting platform (before ++ [turn])
          (startingNoting config platform adopted world))).2.notes := by
      rw [← afterNoting_append, List.append_assoc]
      rfl
    rw [hsplit] at hapart ⊢
    exact (started_eq_of_behind hplatform hlater hbehind hapart).symm
  · intro hearly
    refine apart_of_ahead hplatform hturns (startingNoting_ahead config platform adopted world) ?_
    intro before turn later hsplit hends
    rw [hseen] at hends
    exact hearly before turn later hsplit hends

end

/-! ### A sample

Clusters of the sample platform that are started with as many processes as are asked for. -/

/-- A cluster has so many processes, or is started with so many. -/
def sampleNodes (count : Nat) : Requirement (Nat × Nat) Unit where
  name := "Nodes"
  isMet cluster := cluster.2 == count
  canBeMet _ := false
  makeMet cluster world := ⟨.error (.cluster "a fresh cluster is needed"), cluster, world, ""⟩
  configure options := { options with numNodes := count }

/-- Asks for a cluster with so many processes. -/
def sampleTurn (count : Nat) : Turn (Nat × Nat) Unit :=
  .reconcile ⟨[sampleNodes count],
    fun options world => ⟨.ok (options.index, options.numNodes), world, ""⟩⟩ true

theorem samplePlatform_regular : samplePlatform.Regular :=
  fun _ _ => ⟨rfl, rfl⟩

theorem sampleTurn_regular (count : Nat) : (sampleTurn count).Regular samplePlatform where
  launcher := by
    rintro options world _ ⟨⟩
    rfl
  configure := by
    intro requirement hmem options
    rw [List.mem_singleton.mp hmem]
    rfl
  makeMet := by
    intro requirement hmem cluster world
    rw [List.mem_singleton.mp hmem]
    exact ⟨rfl, rfl⟩

/-- Each cluster replaces the one before it, so no generation ends early. -/
theorem sample_indexes_increase_iff :
    samplePlatform.Regular ∧
      (∀ turn ∈ [sampleTurn 2, sampleTurn 3, sampleTurn 1], turn.Regular samplePlatform) ∧
      (let turns := [sampleTurn 2, sampleTurn 3, sampleTurn 1]
      let start := (starting .plain samplePlatform none, ())
      let noted := afterNoting samplePlatform turns (startingNoting .plain samplePlatform none ())
      let started := started .plain samplePlatform none ()
      seenPair Noted.view noted = after samplePlatform (turns.map Turn.use) start ∧
        ((started turns).Pairwise fun before cluster =>
          samplePlatform.index before ≤ samplePlatform.index cluster) ∧
        (((started turns).Pairwise fun before cluster =>
            samplePlatform.index before + max (samplePlatform.processCount before) 1 ≤
              samplePlatform.index cluster) ↔
          ∀ before turn later, turns = before ++ turn :: later →
            turn.endsEarly samplePlatform (after samplePlatform (before.map Turn.use) start) =
                true →
              started (before ++ [turn]) = started turns)) ∧
      started .plain samplePlatform none () [sampleTurn 2, sampleTurn 3, sampleTurn 1] =
        [(0, 2), (2, 3), (5, 1)] := by
  have hturns : ∀ turn ∈ [sampleTurn 2, sampleTurn 3, sampleTurn 1],
      turn.Regular samplePlatform := by
    intro turn hmem
    obtain ⟨count, -, rfl⟩ : ∃ count ∈ [2, 3, 1], sampleTurn count = turn :=
      List.mem_map.mp hmem
    exact sampleTurn_regular count
  exact ⟨samplePlatform_regular, hturns,
    indexes_increase_iff .plain samplePlatform none () samplePlatform_regular _ hturns, rfl⟩

/-- A cluster is released, and the next one is started at the same index. -/
theorem sample_index_taken :
    (∀ turn ∈ [sampleTurn 2, .release, sampleTurn 2], turn.Regular samplePlatform) ∧
      ¬ ((started .plain samplePlatform none () [sampleTurn 2, .release, sampleTurn 2]).Pairwise
        fun before cluster =>
          samplePlatform.index before + max (samplePlatform.processCount before) 1 ≤
            samplePlatform.index cluster) := by
  constructor
  · simp only [List.forall_mem_cons]
    exact ⟨sampleTurn_regular 2, trivial, sampleTurn_regular 2, fun _ hmem => nomatch hmem⟩
  · have hstarted : started .plain samplePlatform none ()
        [sampleTurn 2, .release, sampleTurn 2] = [(0, 2), (0, 2)] := rfl
    rw [hstarted]
    decide

end Reconciler

end Testbed
