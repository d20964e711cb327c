import Testbed.Poll
import Testbed.Simulation.Exchange
import Testbed.Simulation.Requirement
import Testbed.Testset.Basic

/-!
# Scripted testsets

A body is a list of actions: it prints, draws, looks at the cluster and changes it, and ends by
falling off the end, by failing, or by a panic. An instance of a testset counts.

Actions that enclose others lend them the generator under a seed, capture their output, or catch
their panics. The output that a capture holds when a panic passes it is lost.

## Main definitions

* `Simulation.Action`, `Simulation.Action.run` — what a body does
* `Simulation.TestsetScript`, `Simulation.TestsetScript.toTestset` — testsets of such bodies
-/

namespace Testbed.Simulation

/-! ### Actions -/

/-- One thing that a body does. -/
inductive Action where
  | print (text : String)
  | event (text : String)
  /-- Records random text of a length. -/
  | draw (length : Nat)
  | drawWord
  | drawHalf
  /-- Records what it sees of the configuration. -/
  | showConfig
  /-- Counts on, and records the count. -/
  | count
  | ifCount (count : Nat) (body : List Action)
  | ifHolds (condition : Condition) (body : List Action)
  | change (acts : List Act)
  | fail (report : Report)
  /-- Fails unless what is asserted holds. -/
  | check (holds : Bool) (text : String)
  /-- A panic with a message, if it has one in words, and its place, if that is recorded. -/
  | panic (message : Option String) (raisedAt : Option String)
  /-- Goes on after a panic or a failure of other actions, and records which it was. -/
  | caught (body : List Action)
  | exchange (exchange : Exchange)
  /-- Polls a condition with these answers, the last one for ever. -/
  | poll (bounds : Poll.Bounds) (answers : Array Bool)
  | capture (name : String) (stream : Bool) (body : List Action)
  /-- Lends the generator to other actions under the seed of a text, or as it is. -/
  | seeded (seed : Option String) (body : List Action)
  deriving Inhabited

/-- What actions leave behind. -/
structure Done where
  verdict : Verdict
  stage : Stage Nat Cluster World
  generator : Generator
  printed : String
  raisedAt : Option String

/-- Answers whose last one goes on for ever. -/
def answersOf (answers : Array Bool) (k : Nat) : Bool :=
  (answers[k]?).getD (answers.back?.getD false)

namespace Done

/-- Goes on without printing. -/
def silent (stage : Stage Nat Cluster World) (generator : Generator) : Done :=
  ⟨.passed, stage, generator, "", none⟩

/-- Records an event of a phase and goes on. -/
def noting (phase text : String) (stage : Stage Nat Cluster World) (generator : Generator) :
    Done :=
  silent { stage with world := stage.world.note (phase ++ ":" ++ text) } generator

/-- Fails with a fault. -/
def failing (fault : Fault) (stage : Stage Nat Cluster World) (generator : Generator) : Done :=
  ⟨.failed (.fault fault), stage, generator, "", none⟩

/-- Fails with a fault or goes on. -/
def ofResult (result : Except Fault Unit) (stage : Stage Nat Cluster World)
    (generator : Generator) (printed : String) : Done :=
  match result with
  | .ok _ => ⟨.passed, stage, generator, printed, none⟩
  | .error fault => ⟨.failed (.fault fault), stage, generator, printed, none⟩

/-- The output of captured actions: lost if a panic passes, and otherwise as for any body. -/
def captured (name : String) (stream : Bool) (done : Done) : Done :=
  match done.verdict with
  | .passed =>
    let body : Printed (Except Report Unit) := ⟨.ok (), done.printed⟩
    { done with printed := (Output.withCapture name stream body).text }
  | .failed report =>
    let body : Printed (Except Report Unit) := ⟨.error report, done.printed⟩
    { done with printed := (Output.withCapture name stream body).text }
  | .panicked _ => if stream then done else { done with printed := "" }

/-- What is recorded of actions whose panics and failures are caught. -/
def caught (phase : String) (done : Done) : Done :=
  let seen :=
    match done.verdict with
    | .panicked _ => "unwound"
    | _ => "returned"
  { done with
    verdict := .passed
    stage := { done.stage with world := done.stage.world.note (phase ++ ":" ++ seen) } }

end Done

namespace Action

/-- Polls, and records how often the condition was looked at. -/
def runPoll (phase : String) (bounds : Poll.Bounds) (answers : Array Bool)
    (stage : Stage Nat Cluster World) (generator : Generator) : Done :=
  let ending := Poll.run bounds (answersOf answers)
  let world := stage.world.note s!"{phase}:polled {ending.calls}"
  Done.ofResult ending.outcome { stage with world } generator ""

/-- Makes a call. The requests are recorded with the result, or are gone if there is none. -/
def runExchange (phase : String) (exchange : Exchange) (stage : Stage Nat Cluster World)
    (generator : Generator) : Done :=
  let (result, cluster, world) := exchange.run stage.cluster stage.world
  let (requests, world) := world.takeRequests
  match result with
  | .ok value =>
    Done.silent { stage with cluster, world := world.record (.exchanged phase requests value) }
      generator
  | .error fault => Done.failing fault { stage with cluster, world } generator

mutual

/-- Takes one action in a phase. -/
def run (config : Config) (phase : String) :
    Action → Stage Nat Cluster World → Generator → Done
  | .print text, stage, generator => ⟨.passed, stage, generator, text, none⟩
  | .event text, stage, generator => Done.noting phase text stage generator
  | .draw length, stage, generator =>
    let drawn := generator.text length
    Done.noting phase drawn.1 stage drawn.2
  | .drawWord, stage, generator =>
    Done.noting phase (toString generator.nextWord.1) stage generator.nextWord.2
  | .drawHalf, stage, generator =>
    Done.noting phase (toString generator.nextHalf.1) stage generator.nextHalf.2
  | .showConfig, stage, generator =>
    Done.noting phase s!"verbose={config.verbose} width={config.width}" stage generator
  | .count, stage, generator =>
    let stage := { stage with testset := stage.testset + 1 }
    Done.noting phase s!"count={stage.testset}" stage generator
  | .ifCount n body, stage, generator =>
    if stage.testset = n then runAll config phase body stage generator
    else Done.silent stage generator
  | .ifHolds condition body, stage, generator =>
    if condition.holds stage.cluster then runAll config phase body stage generator
    else Done.silent stage generator
  | .change acts, stage, generator =>
    let made := Act.runAll acts stage.cluster stage.world
    Done.ofResult made.result { stage with cluster := made.cluster, world := made.world }
      generator made.printed
  | .fail report, stage, generator => ⟨.failed report, stage, generator, "", none⟩
  | .check holds text, stage, generator =>
    if holds then Done.silent stage generator
    else Done.failing (.assertion text) stage generator
  | .panic message raisedAt, stage, generator =>
    ⟨.panicked message, stage, generator, "", raisedAt⟩
  | .caught body, stage, generator => (runAll config phase body stage generator).caught phase
  | .exchange call, stage, generator => runExchange phase call stage generator
  | .poll bounds answers, stage, generator => runPoll phase bounds answers stage generator
  | .capture name stream body, stage, generator =>
    (runAll config phase body stage generator).captured name stream
  | .seeded none body, stage, generator => runAll config phase body stage generator
  | .seeded (some text) body, stage, generator =>
    match Seed.ofText text with
    | .error fault => Done.failing fault stage generator
    | .ok seed =>
      let (done, generator) := Generator.callSeeded (some seed) generator fun generator =>
        let done := runAll config phase body stage generator
        (done, done.generator)
      { done with generator }

/-- Takes actions in order, up to the first that does not end well. -/
def runAll (config : Config) (phase : String) :
    List Action → Stage Nat Cluster World → Generator → Done
  | [], stage, generator => Done.silent stage generator
  | action :: rest, stage, generator =>
    let done := run config phase action stage generator
    match done.verdict with
    | .passed =>
      let later := runAll config phase rest done.stage done.generator
      { later with
        printed := done.printed ++ later.printed
        raisedAt := later.raisedAt.or done.raisedAt }
    | _ => done

end

/-- The body that takes actions in a phase, in no time. -/
def body (phase : String) (actions : List Action) : Body Nat Cluster World :=
  fun config generator stage =>
    let done := runAll config phase actions stage generator
    { verdict := done.verdict
      stage := done.stage
      generator := done.generator
      printed := done.printed
      elapsed := Duration.zero
      raisedAt := done.raisedAt }

end Action

/-! ### Testsets -/

/-- A testset of scripted bodies. -/
structure TestsetScript where
  /-- The full name of its type. -/
  typeName : String
  /-- A name of its own, instead of that of its type. -/
  name : Option String
  tests : List (String × List Action)
  setup : List Action
  teardown : List Action
  testTeardown : List Action
  requirements : List RequirementScript

/-- The testset that a script describes. -/
def TestsetScript.toTestset (script : TestsetScript) : Testset Nat Cluster World where
  typeName := TypeName.short script.typeName
  name _ := script.name.getD (TypeName.short script.typeName)
  create _ := 0
  requirements := script.requirements.map RequirementScript.toRequirement
  tests := script.tests.map fun (name, actions) => ⟨name, Action.body name actions⟩
  setup := Action.body "setup" script.setup
  teardown := Action.body "teardown" script.teardown
  testTeardown := Action.body "test_teardown" script.testTeardown

end Testbed.Simulation
