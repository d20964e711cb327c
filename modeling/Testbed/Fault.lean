import Testbed.Decimal.Fixed
import Testbed.Http.Message
import Testbed.Seed.Basic

/-!
# Faults

Everything that the testbed itself finds wrong: an answer that is not the expected one, a
condition that was not met in time, a cluster that cannot be had. The kind of a fault heads its
one-line summary. All kinds but one are contained where a testset ends; an *internal* fault, a
requirement that does not hold after its own mutation, is a broken contract and is passed on.

## Main definitions

* `Fault` — what can be wrong
* `Fault.Kind`, `Fault.kind` — and of which kind it is
* `Fault.message`, `Fault.code`, `Fault.help?` — how it is told

## Main results

* `Fault.isInternal_iff` — only unmet requirements are internal
-/

namespace Testbed

/-- What the testbed finds wrong. -/
inductive Fault where
  /-- The status of a response is none of the expected ones. -/
  | httpStatus (method : Http.Method) (url : String) (status : Nat)
      (reason expected body : String)
  /-- A body is no JSON text, or not of the shape that is needed. -/
  | jsonDecode (context body : String)
  | missingJsonKey (key context json : String)
  /-- No response came. -/
  | transport (method : Http.Method) (url message : String)
  | assertion (text : String)
  /-- The time of a poll is over; times are in seconds. -/
  | pollTimeout (timeout elapsed : Binary64) (attempts : Nat)
  | pollAttemptsExhausted (attempts : Nat)
  /-- A poll without a bound. -/
  | pollUnbounded
  | noConnectedNodes
  /-- A cluster cannot be started or changed. -/
  | cluster (text : String)
  | invalidSeed (value reason : String)
  /-- Settings cannot be loaded. -/
  | config (path message : String)
  /-- These requirements do not hold although they were made to. -/
  | unmetAfterReconcile (unmet : List String)
  deriving DecidableEq, Repr, Inhabited

namespace Fault

/-! ### Kinds -/

/-- What part of the testbed a fault comes from. -/
inductive Kind where
  | assertion
  | poll
  | cluster
  | transport
  | config
  | internal
  deriving DecidableEq, Repr

/-- The word that heads a summary. -/
def Kind.text : Kind → String
  | .assertion => "AssertionError"
  | .poll => "PollError"
  | .cluster => "ClusterError"
  | .transport => "TransportError"
  | .config => "ConfigError"
  | .internal => "InternalError"

/-- The kind of a fault. -/
def kind : Fault → Kind
  | httpStatus .. => .assertion
  | jsonDecode .. => .assertion
  | missingJsonKey .. => .assertion
  | transport .. => .transport
  | assertion _ => .assertion
  | pollTimeout .. => .poll
  | pollAttemptsExhausted _ => .poll
  | pollUnbounded => .assertion
  | noConnectedNodes => .cluster
  | cluster _ => .cluster
  | invalidSeed .. => .config
  | config .. => .config
  | unmetAfterReconcile _ => .internal

/-- Whether a fault is a broken contract, which no testset contains. -/
def isInternal (fault : Fault) : Bool :=
  fault.kind = .internal

theorem isInternal_iff (fault : Fault) :
    fault.isInternal = true ↔ ∃ unmet, fault = .unmetAfterReconcile unmet := by
  cases fault <;> simp [isInternal, kind]

/-! ### Telling -/

/-- A fault in words. -/
def message : Fault → String
  | httpStatus method url status reason expected body =>
    s!"{method} {url} returned {status} {reason} (expected {expected}), response body: {body}"
  | jsonDecode context _ => context
  | missingJsonKey key context json => s!"({context}) '{key}' missing in json: {json}"
  | transport method url message => s!"{method} {url} failed: {message}"
  | assertion text => text
  | pollTimeout timeout elapsed attempts =>
    "Condition not met within " ++ timeout.fixed 1 ++ "s (elapsed " ++ elapsed.fixed 1 ++ "s, " ++
      toString attempts ++ " attempts)"
  | pollAttemptsExhausted attempts => s!"Condition not met after {attempts} attempts"
  | pollUnbounded => "Polling requires an attempt budget or a timeout"
  | noConnectedNodes => "Cluster has no connected nodes"
  | cluster text => s!"Cluster error: {text}"
  | invalidSeed value reason => s!"Invalid seed '{value}': {reason}"
  | config path message => s!"Failed to load config '{path}': {message}"
  | unmetAfterReconcile unmet =>
    "Requirements still unmet after reconciliation: " ++ ", ".intercalate unmet

/-- The code under which a fault can be looked up. -/
def code : Fault → String
  | httpStatus .. => "harness::http::status"
  | jsonDecode .. => "harness::http::json"
  | missingJsonKey .. => "harness::json::missing_key"
  | transport .. => "harness::http::transport"
  | assertion _ => "harness::assertion"
  | pollTimeout .. => "harness::poll::timeout"
  | pollAttemptsExhausted _ => "harness::poll::attempts"
  | pollUnbounded => "harness::poll::unbounded"
  | noConnectedNodes => "harness::cluster::no_nodes"
  | cluster _ => "harness::cluster"
  | invalidSeed .. => "harness::config::seed"
  | config .. => "harness::config::load"
  | unmetAfterReconcile _ => "harness::internal::unmet_requirements"

/-- Advice on a fault. -/
def help? : Fault → Option String
  | jsonDecode _ body => some s!"response body: {body}"
  | invalidSeed .. => some "seeds are 32 hexadecimal characters"
  | unmetAfterReconcile _ =>
    some "a requirement's make_met did not satisfy its own predicate"
  | _ => none

/-- A text that is no seed. -/
def ofSeed (value : String) (error : Seed.ParseError) : Fault :=
  .invalidSeed value error.reason

end Fault

/-- The seed that a text stands for, or what is wrong with the text. -/
def Seed.ofText (text : String) : Except Fault Seed :=
  (Seed.parse text).mapError (Fault.ofSeed text)

end Testbed
