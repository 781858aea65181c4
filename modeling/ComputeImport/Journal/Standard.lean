import ComputeImport.Journal.Directive
import ComputeImport.Journal.Output

/-!
# The standard engine

The engine that runs goes by directives, and asks the environment for them under one name.  In text it
writes the fields of an event with the mask, if there is one and the form leaves room for it, or else by
itself: control characters of a message or an error do not reach a terminal then.
-/

namespace ComputeImport

open Text

/-! ## Printing -/

/-- How a character is shown that could steer a terminal: by its number. -/
def showControl (c : Char) : List Char :=
  let code := c.toNat
  if code = 0x1B then "\\x1b".toList
  else if code = 0x07 then "\\x07".toList
  else if code = 0x08 then "\\x08".toList
  else if code = 0x0C then "\\x0c".toList
  else if code = 0x7F then "\\x7f".toList
  else if 0x80 ≤ code && code ≤ 0x9F then numericEscape c
  else [c]

/-- A text without the characters that could steer a terminal. -/
def tame (text : String) : String :=
  String.ofList (text.toList.flatMap showControl)

/-- The value of the field `name` as text that may go to a terminal. -/
def FieldValue.writeTame (name : String) : FieldValue → String
  | plain written => if name = messageField then tame written else written
  | error message => tame message
  | value => value.write

/-- Text without sequences that colour it: an escape character, a bracket, and what follows up to
the next letter.  `inside` tells whether such a sequence is being skipped. -/
def dropColours (inside : Bool) : List Char → List Char
  | [] => []
  | c :: rest =>
      if inside then
        dropColours (!c.isAlpha) rest
      else if c.toNat = 0x1B then
        dropColours true rest
      else
        c :: dropColours false rest

namespace Style

/-- The text of an event, with the colours that its own fields bring. -/
def text (style : Style) (event : TraceEvent) : String :=
  match style.output, style.mask with
  | some .pretty, _ =>
      joinTexts ", " (event.fields.map fun (name, value) =>
        labelled ": " name (value.writeTame name))
  | _, some mask => mask.writeAll event.fields
  | _, none =>
      joinTexts " " (event.fields.map fun (name, value) =>
        labelled "=" name (value.writeTame name))

/-- What is printed of an event. -/
def print (style : Style) (event : TraceEvent) : Printed :=
  match style.output with
  | some .json =>
      .value event.level (if style.showsTargets then event.target else "") event.fields
  | _ =>
      let cs := (style.text event).toList
      .line (style.ansi || cs.any fun c => c.toNat = 0x1B) event.level
        (String.ofList (dropColours false cs))

end Style

/-! ## The engine -/

/-- The filter of the directives that the environment gives, all of which must be well-formed. -/
def environmentFilter (environment : Environment) : Except DirectiveError Filter :=
  match environment.text? "RUST_LOG" with
  | some text => Filter.parse text
  | none => .error .malformed

/-- The engine that runs. -/
def JournalEngine.standard : JournalEngine Filter where
  parse := Filter.parse
  parseLenient := Filter.parseLenient
  ofEnvironment := environmentFilter
  enables filter event := filter.enables event.level event.target (event.fields.map Prod.fst)
  print := Style.print
  place
    | none, subscriber => some subscriber
    | some _, _ => none

/-- The subscriber of settings, as it runs. -/
def JournalSettings.subscriber (settings : JournalSettings) (environment : Environment) :
    Except SetupError (Subscriber Filter) :=
  JournalEngine.standard.subscriber settings environment

/-- What a subscriber prints of an event as it runs, if it prints it at all. -/
def Subscriber.print? (subscriber : Subscriber Filter) (event : TraceEvent) : Option Printed :=
  JournalEngine.standard.print? subscriber event

end ComputeImport
