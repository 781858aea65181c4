import ComputeImport.Journal.Event
import ComputeImport.Text.Environment

/-!
# The engine behind the journal's output

An engine reads directives into filters, chooses events by a filter, prints events in a style, and keeps
the one subscriber of a process.  What is set up here is set up for any engine.  What is relied on of
engines is stated by itself: what a filter may go by, who writes the fields of an event, and that no
second subscriber is installed.
-/

namespace ComputeImport

open Text

/-- Why directives have not been read. -/
inductive DirectiveError where
  /-- They are refused, with a message. -/
  | refused (message : String)
  /-- The place of a mark falls inside a character.  This ends all reading, also where a list may
  have directives that are not well-formed. -/
  | insideCharacter
  deriving DecidableEq, Repr

/-- The error as a message. -/
def DirectiveError.message : DirectiveError → String
  | refused message => message
  | insideCharacter => "place inside a character"

/-- What chooses events by a filter, and prints them in a style. -/
structure Subscriber (φ : Type) where
  filter : φ
  style : Style
  deriving DecidableEq, Repr

/-- An engine, with its own filters. -/
structure JournalEngine (φ : Type) where
  /-- The filter of directives that all have to be well-formed. -/
  parse : String → Except DirectiveError φ
  /-- The filter of those directives that are well-formed. -/
  parseLenient : String → Except DirectiveError φ
  /-- The filter that an environment asks for. -/
  ofEnvironment : Environment → Except DirectiveError φ
  /-- Whether an event is printed. -/
  enables : φ → TraceEvent → Bool
  print : Style → TraceEvent → Printed
  /-- The subscriber of a process after one more has been offered to it, unless that is refused. -/
  place : Option (Subscriber φ) → Subscriber φ → Option (Subscriber φ)

namespace JournalEngine

variable {φ : Type}

/-- Filters go by the level and the target of an event, and by which fields it has. -/
def GoesByOutline (engine : JournalEngine φ) : Prop :=
  ∀ filter first second, TraceEvent.SameOutline first second →
    engine.enables filter first = engine.enables filter second

/-- Who writes the fields of an event, in each form. -/
structure WritesFields (engine : JournalEngine φ) : Prop where
  /-- On one line, they are written with the mask that is there. -/
  compact : ∀ style mask first second, style.output = some .compact → style.mask = some mask →
    TraceEvent.SameOutline first second → mask.writeAll first.fields = mask.writeAll second.fields →
    engine.print style first = engine.print style second
  /-- For people, they are written by the form itself. -/
  pretty : ∀ style mask event, style.output = some .pretty →
    engine.print { style with mask } event = engine.print style event
  /-- Structured output keeps their values. -/
  json : ∀ style event, style.output = some .json →
    ∃ target, engine.print style event = .value event.level target event.fields

/-- A process takes the first subscriber that it is offered, and no other. -/
structure InstallsOnce (engine : JournalEngine φ) : Prop where
  first : ∀ subscriber, engine.place none subscriber = some subscriber
  later : ∀ present subscriber, engine.place (some present) subscriber = none

end JournalEngine

end ComputeImport
