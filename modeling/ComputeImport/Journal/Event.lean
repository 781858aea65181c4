import ComputeImport.Journal.Level
import ComputeImport.Journal.Settings
import ComputeImport.Text.Quoted

/-!
# Events and their fields

An event has a level, a target and fields, the first of which is its message.  Where fields are masked,
they are written out here: the message by itself, every other field with its name, and the token in place
of every masked value.
-/

namespace ComputeImport

open Text

/-- The value of a field. -/
inductive FieldValue where
  /-- A text that is already written out. -/
  | plain (text : String)
  /-- A text that is quoted when it is printed. -/
  | text (text : String)
  | unsigned (number : Nat)
  | signed (number : Int)
  | flag (value : Bool)
  /-- An error, by its message. -/
  | error (message : String)
  deriving DecidableEq, Repr

/-- An event. -/
structure TraceEvent where
  level : Level
  target : String
  fields : List (String × FieldValue)
  deriving DecidableEq, Repr

/-- Two events have the same level, the same target, and fields of the same names. -/
structure TraceEvent.SameOutline (first second : TraceEvent) : Prop where
  level : first.level = second.level
  target : first.target = second.target
  names : first.fields.map Prod.fst = second.fields.map Prod.fst

/-- The name of the field that holds the message. -/
def messageField : String := "message"

/-- A value as text. -/
def FieldValue.write : FieldValue → String
  | plain written => written
  | text raw => quoted raw
  | unsigned number => toString number
  | signed number => toString number
  | flag true => "true"
  | flag false => "false"
  | error message => message

/-- Texts one after another, with `separator` between them. -/
def joinTexts (separator : String) : List String → String
  | [] => ""
  | text :: texts => text ++ texts.foldr (fun next rest => separator ++ next ++ rest) ""

/-- A field on a line of text: the message by itself, any other with its name. -/
def labelled (mark : String) (name text : String) : String :=
  if name = messageField then text else name ++ mark ++ text

/-- What is masked, and by what. -/
structure Mask where
  fields : List String
  token : String
  deriving DecidableEq, Repr

namespace Mask

/-- The text of a field when some are masked. -/
def write (mask : Mask) (name : String) (value : FieldValue) : String :=
  if name ∈ mask.fields then quoted mask.token else value.write

/-- The text of all fields of an event when some are masked. -/
def writeAll (mask : Mask) (fields : List (String × FieldValue)) : String :=
  joinTexts " " (fields.map fun (name, value) => labelled "=" name (mask.write name value))

end Mask

/-- How events are to be printed. -/
structure Style where
  /-- The form, if one has been chosen. -/
  output : Option OutputForm := none
  showsTargets : Bool := true
  ansi : Bool := true
  spanEvents : SpanEvents := .none
  /-- What the fields are to be written with in place of the usual way. -/
  mask : Option Mask := none
  deriving DecidableEq, Repr

/-- What is printed of an event. -/
inductive Printed where
  /-- A line of text; `coloured` tells whether colours were written. -/
  | line (coloured : Bool) (level : Level) (text : String)
  /-- A structured value. -/
  | value (level : Level) (target : String) (fields : List (String × FieldValue))
  deriving DecidableEq, Repr

end ComputeImport
