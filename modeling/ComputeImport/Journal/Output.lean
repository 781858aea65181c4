import ComputeImport.Journal.Engine
import ComputeImport.Journal.Timing

/-!
# Setting up the journal's output

A subscriber chooses events and prints them.  One subscriber can be installed for the whole
process, once.  Together with it the process-wide threshold for reports of durations is set.
-/

namespace ComputeImport

open Text

/-- Why setting up the output failed. -/
inductive SetupError where
  | invalidFilter (cause : DirectiveError)
  /-- Another subscriber has been installed before. -/
  | alreadyInstalled
  deriving DecidableEq, Repr

/-- The error as a message. -/
def SetupError.message : SetupError → String
  | invalidFilter cause => "invalid tracing directive: " ++ cause.message
  | alreadyInstalled =>
      "failed to install global tracing subscriber: " ++
        "a global default trace dispatcher has already been set"

/-- The style of settings.  Fields are masked where some are listed, but structured output has no colours
and no masks. -/
def JournalSettings.style (settings : JournalSettings) : Style :=
  let style : Style :=
    { output := some settings.output
      showsTargets := settings.showsTargets
      spanEvents := settings.spanEvents }
  match settings.output with
  | .json => { style with ansi := false }
  | .compact | .pretty =>
      { style with
          ansi := settings.ansi
          mask := if settings.redacted.isEmpty then none
            else some ⟨settings.redacted, settings.token⟩ }

/-- The process-wide part of the journal's output. -/
structure JournalOutput (φ : Type) where
  subscriber : Option (Subscriber φ) := none
  threshold : ThresholdCell := {}
  deriving DecidableEq, Repr

/-- A step of setting up.  A failing step keeps what it has changed. -/
abbrev SetupM (φ : Type) := EStateM SetupError (JournalOutput φ)

/-- Set the process-wide threshold. -/
def JournalOutput.setThreshold {φ : Type} (limit : Option UInt64) : SetupM φ Unit :=
  modify fun state => { state with threshold := .ofLimit limit }

namespace JournalEngine

variable {φ : Type} (engine : JournalEngine φ)

/-! ## Subscribers -/

/-- The filter that the environment asks for, if it asks for one and all of it is well-formed, or
else that of some other directives. -/
def filterOr (environment : Environment) (otherwise : String) : Except DirectiveError φ :=
  match engine.ofEnvironment environment with
  | .ok filter => .ok filter
  | .error .insideCharacter => .error .insideCharacter
  | .error (.refused _) => engine.parseLenient otherwise

/-- The filter of settings: their directives, else those of the environment, else the default. -/
def filter (settings : JournalSettings) (environment : Environment) : Except DirectiveError φ :=
  match settings.directives with
  | some directives => engine.parse directives
  | none => engine.filterOr environment settings.defaultDirective

/-- The subscriber of settings. -/
def subscriber (settings : JournalSettings) (environment : Environment) :
    Except SetupError (Subscriber φ) :=
  match engine.filter settings environment with
  | .ok filter => .ok ⟨filter, settings.style⟩
  | .error cause => .error (.invalidFilter cause)

/-- What a subscriber prints of an event, if it prints it at all. -/
def print? (subscriber : Subscriber φ) (event : TraceEvent) : Option Printed :=
  if engine.enables subscriber.filter event then some (engine.print subscriber.style event) else none

/-- The subscriber for tests: text without colours, by default the details of imports. -/
def testSubscriber (environment : Environment) : Except SetupError (Subscriber φ) :=
  match engine.filterOr environment "hologram_interop=debug,hologram_native=debug" with
  | .ok filter => .ok ⟨filter, { ansi := false }⟩
  | .error cause => .error (.invalidFilter cause)

/-! ## Setting up -/

/-- Install a subscriber for the process. -/
def install (subscriber : Subscriber φ) : SetupM φ Unit := do
  match engine.place (← get).subscriber subscriber with
  | some present => modify fun state => { state with subscriber := some present }
  | none => throw .alreadyInstalled

/-- Set the threshold of the settings, and then install their subscriber. -/
def initialise (settings : JournalSettings) (environment : Environment) : SetupM φ Unit := do
  JournalOutput.setThreshold settings.threshold
  match engine.subscriber settings environment with
  | .ok subscriber => engine.install subscriber
  | .error e => throw e

/-- Install the subscriber for tests; it does not matter whether that works. -/
def initialiseForTests (environment : Environment) : SetupM φ Unit := do
  match engine.testSubscriber environment with
  | .ok subscriber =>
      modify fun state =>
        { state with subscriber := (engine.place state.subscriber subscriber).or state.subscriber }
  | .error e => throw e

end JournalEngine

end ComputeImport
