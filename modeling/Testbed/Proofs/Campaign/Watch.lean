import Testbed.Proofs.Campaign.View
import Testbed.Proofs.Reconciler.Ledger
import Testbed.Proofs.Testset.Course

/-!
# Watching a campaign

A campaign is watched by numbering its clusters, keeping a ledger of what is launched and
stopped, and noting each call of a body, with the cluster that it is made on and the ledger as it
stands. The campaign itself is as it was: with numbers, ledger and notes looked away from, it is
the campaign that nobody watches.

The notes lie over the ledger and not beside it. So a campaign is watched in two layers, and each
is a view of its own.

## Main definitions

* `Sighting` — what is noted of a call
* `Platform.watched`, `Launcher.watched`, `Testset.watched` — the same, watched
* `Campaign.afterWatched` — a watched campaign after some testsets

## Main results

* `Campaign.afterWatched_shows` — watching changes nothing else
-/

namespace Testbed

variable {E T C W : Type}

/-! ### Two layers -/

/-- The same launcher, in a world where calls are noted. -/
def Launcher.noted (launcher : Launcher C W) : Launcher C (Noted E W) :=
  fun options noted =>
    let launched := launcher options noted.world
    ⟨launched.result, { noted with world := launched.world }, launched.printed⟩

theorem Launcher.noted_shows (launcher : Launcher C W) :
    Launcher.Shows (Noted.view (E := E)) launcher.noted launcher := by
  intro options noted
  rw [Launcher.noted]
  show _ = launcher options noted.world
  generalize launcher options noted.world = launched
  rcases launched with ⟨_ | _, world, printed⟩ <;> rfl

theorem Launcher.tracked_shows (launcher : Launcher C W) :
    Launcher.Shows Ledger.view launcher.tracked launcher := by
  intro options ledger
  exact Effect.tracked_seen ledger _

theorem Testset.noting_fullyShows (note : Call T C W → E) (suite : Testset T C W) :
    Testset.FullyShows Noted.view (suite.noting note) suite where
  toShows := suite.noting_shows note
  typeName := rfl
  create _ := rfl
  requirements := Requirement.map_through_shows Noted.view suite.requirements

/-- What is noted of a call: the body, the cluster that it is given, and the ledger before it. -/
structure Sighting (C W : Type) where
  site : Site
  cluster : Tracked C
  ledger : Ledger W

/-- What is noted of a call. -/
def Sighting.ofCall (call : Call T (Tracked C) (Ledger W)) : Sighting C W :=
  ⟨call.site, call.entry.cluster, call.entry.world⟩

/-- A world with a ledger, in which calls are noted. -/
abbrev Watched (C W : Type) :=
  Noted (Sighting C W) (Ledger W)

/-- A world before anything was launched or called. -/
def Watched.blank (world : W) : Watched C W :=
  ⟨.blank world, []⟩

def Platform.watched (platform : Platform C W) : Platform (Tracked C) (Watched C W) :=
  platform.tracked.through Noted.view

def Launcher.watched (launcher : Launcher C W) : Launcher (Tracked C) (Watched C W) :=
  launcher.tracked.noted

def Testset.watched (suite : Testset T C W) : Testset T (Tracked C) (Watched C W) :=
  (suite.through Ledger.view).noting Sighting.ofCall

namespace Campaign

/-! ### Watched campaigns -/

section

variable (platform : Platform C W) (config : Config) (launcher : Launcher C W) (seed : Seed)
  (reuseAllowed : Bool) (filter : Option String) (world : W)

/-- A watched campaign and its world, once several testsets were run in order. -/
def afterWatched (orders : List (Order C W)) :
    Campaign (Tracked C) (Watched C W) × Watched C W :=
  after platform.watched (orders.map (Order.map Testset.watched))
    ((start config launcher.watched seed reuseAllowed filter).1, .blank world)

/-- A watched campaign is the campaign itself, under another one whose clusters have numbers. -/
theorem afterWatched_shows (orders : List (Order C W)) :
    ∃ tracked,
      ShowsPair Noted.view
          (afterWatched platform config launcher seed reuseAllowed filter world orders) tracked ∧
        ShowsPair Ledger.view tracked
          (after platform orders ((start config launcher seed reuseAllowed filter).1, world)) := by
  have htracked := after_shows platform.tracked_shows
    (Testset.through_fullyShows Ledger.view) orders
    (start_shows launcher.tracked_shows config seed reuseAllowed filter (.blank world))
  have hwatched := after_shows (platform.tracked.through_shows Noted.view)
    (Testset.noting_fullyShows Sighting.ofCall)
    (orders.map (Order.map (Testset.through Ledger.view)))
    (start_shows launcher.tracked.noted_shows config seed reuseAllowed filter
      (Watched.blank world))
  rw [List.map_map] at hwatched
  exact ⟨_, hwatched, htracked⟩

end

end Campaign

end Testbed
