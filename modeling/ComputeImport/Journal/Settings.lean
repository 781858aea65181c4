import ComputeImport.Text.Environment
import ComputeImport.Text.Numeral

/-!
# Settings of the journal's output

Three profiles of settings, and the settings that an environment chooses: a profile, and on top of
it single settings.  A variable that is blank or cannot be understood changes nothing.
-/

namespace ComputeImport

open Text

/-- The form in which events are printed. -/
inductive OutputForm where
  /-- One line for each event. -/
  | compact
  /-- Several lines for each event, for people. -/
  | pretty
  /-- One structured value for each event. -/
  | json
  deriving DecidableEq, Repr

namespace OutputForm

/-- The output form with a given name; case does not matter. -/
def ofName? (name : String) : Option OutputForm :=
  match lowerAscii name with
  | "compact" => some compact
  | "pretty" => some pretty
  | "json" => some json
  | _ => none

/-- An output form as inspection shows it. -/
def label : OutputForm → String
  | compact => "Compact"
  | pretty => "Pretty"
  | json => "Json"

end OutputForm

/-- Whether the end of an import is reported as an event of its own. -/
inductive SpanEvents where
  | none | close
  deriving DecidableEq, Repr

/-- The settings of the journal's output. -/
structure JournalSettings where
  /-- The directives that choose events; without them the environment is asked. -/
  directives : Option String := none
  /-- The directive for an environment that does not choose. -/
  defaultDirective : String := "info"
  /-- Whether the target of an event is printed. -/
  showsTargets : Bool := true
  /-- Whether the output is coloured. -/
  ansi : Bool := true
  spanEvents : SpanEvents := .none
  output : OutputForm := .pretty
  /-- The fields whose values are masked in text. -/
  redacted : List String := []
  /-- What is printed in place of a masked value. -/
  token : String := "***REDACTED***"
  /-- The shortest duration to report, in microseconds. -/
  threshold : Option UInt64 := none
  deriving DecidableEq, Repr

namespace JournalSettings

/-- For someone at a terminal. -/
def forTerminal : JournalSettings := {}

/-- For logs that are collected: structured, without colours, and with native handles masked. -/
def forCollection : JournalSettings :=
  { ansi := false, output := .json, redacted := ["native"] }

/-- For following single imports. -/
def forImports : JournalSettings :=
  { directives := some "hologram_interop=debug,hologram_native=trace"
    ansi := false
    spanEvents := .close
    output := .compact
    threshold := some 0 }

/-- The settings of the profile with a given name; an unknown name stands for the first one. -/
def ofProfile (name : Option String) : JournalSettings :=
  match name.map lowerAscii with
  | some "ci" => forCollection
  | some "import" => forImports
  | _ => forTerminal

/-- The same settings with another output form; structured output is never coloured. -/
def withOutput (settings : JournalSettings) (output : OutputForm) : JournalSettings :=
  { settings with ansi := settings.ansi && output != .json, output }

/-- The items of a comma-separated list, trimmed, without those that are blank. -/
def listItems (text : String) : List String :=
  ((text.toList.splitOn ',').map trimChars).filterMap fun item =>
    if item.isEmpty then none else some (String.ofList item)

/-- The settings that an environment chooses. -/
def ofEnvironment (environment : Environment) : JournalSettings :=
  let settings := ofProfile (environment.trimmed? "HOLOGRAM_TRACING_PROFILE")
  let settings := match environment.trimmed? "HOLOGRAM_TRACING_DIRECTIVES" with
    | some directives => { settings with directives := some directives }
    | none => settings
  let form := environment.trimmed? "HOLOGRAM_TRACING_FORMAT"
  let settings := match form.bind OutputForm.ofName? with
    | some output => settings.withOutput output
    | none => settings
  let settings := match (environment.trimmed? "HOLOGRAM_TRACING_REDACT_FIELDS").map listItems with
    | some (field :: fields) => { settings with redacted := field :: fields }
    | _ => settings
  let settings := match environment.trimmed? "HOLOGRAM_TRACING_REDACT_TOKEN" with
    | some token => { settings with token }
    | none => settings
  match (environment.trimmed? "HOLOGRAM_IMPORT_TIMING_THRESHOLD_US").bind readWord? with
  | some threshold => { settings with threshold := some threshold }
  | none => settings

end JournalSettings

end ComputeImport
