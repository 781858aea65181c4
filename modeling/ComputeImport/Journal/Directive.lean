import ComputeImport.Journal.Engine
import ComputeImport.Text.Alphanumeric
import ComputeImport.Text.Blank
import ComputeImport.Text.Numeral
import ComputeImport.Text.Pattern

/-!
# Directives that choose events

A directive sets the most detailed level at which events are printed: for everything, for the
targets that begin with a text, for events with certain fields, or inside certain spans.  Of the
directives that speak of an event the most specific one decides, and an event that none speaks of
is not printed.
-/

namespace ComputeImport

open Text

namespace DirectiveError

def malformed : DirectiveError :=
  .refused "invalid filter directive"

/-- What stands for a level is none. -/
def unknownLevel : DirectiveError :=
  .refused ("error parsing level filter: expected one of \"off\", \"error\", \"warn\", \"info\", " ++
    "\"debug\", \"trace\", or a number 0-5")

/-- The value of a field is no pattern that can be used. -/
def value (cause : PatternError) : DirectiveError :=
  .refused ("invalid field filter: " ++ cause.message)

end DirectiveError

/-- The most detailed level that is printed, `none` if nothing is. -/
abbrev LevelLimit := Option Level

namespace LevelLimit

/-- Whether a limit lets events of a level through. -/
def allows (limit : LevelLimit) (level : Level) : Bool :=
  match limit with
  | none => false
  | some most => level.rank ≤ most.rank

/-- The limit with a given number. -/
def ofNumber? : Nat → Option LevelLimit
  | 0 => some none
  | 1 => some (some .error)
  | 2 => some (some .warn)
  | 3 => some (some .info)
  | 4 => some (some .debug)
  | 5 => some (some .trace)
  | _ => none

/-- The limit with a given name; case does not matter. -/
def ofName? (name : String) : Option LevelLimit :=
  match lowerAscii name with
  | "off" => some none
  | "error" => some (some .error)
  | "warn" => some (some .warn)
  | "info" => some (some .info)
  | "debug" => some (some .debug)
  | "trace" => some (some .trace)
  | _ => none

/-- The limit that a text stands for, by its number or by its name. -/
def parse? (text : List Char) : Option LevelLimit :=
  ((readUnsigned? UInt64.size text).bind ofNumber?) <|> ofName? (String.ofList text)

end LevelLimit

/-- A field that a directive asks for, perhaps with a value, which is a number or a pattern. -/
structure FieldMatch where
  name : String
  value : Option String
  deriving DecidableEq, Repr

/-- A directive. -/
structure Directive where
  limit : LevelLimit := some .trace
  /-- What the targets that it speaks of begin with. -/
  target : Option String := none
  /-- The span inside which it holds. -/
  span : Option String := none
  fields : List FieldMatch := []
  deriving DecidableEq, Repr

namespace Directive

/-! ## Reading directives

A directive is read from left to right.  The marks are found in the trimmed text, and their places
are then counted from the beginning of the untrimmed one, so that they may fall inside a
character. -/

/-- What is being read, with the place where it begins, in bytes. -/
inductive Part where
  | start
  /-- A level, or a target that a level may follow. -/
  | levelOrTarget (start : Nat)
  | span (start : Nat)
  | field (start : Nat)
  /-- After the fields of a span. -/
  | fieldsEnd
  /-- After a target or a span. -/
  | targetEnd
  | level (start : Nat)
  deriving DecidableEq, Repr

/-- A text without its first `count` bytes, if they are whole characters. -/
def dropBytes? (count : Nat) : List Char → Option (List Char)
  | [] => if count = 0 then some [] else none
  | c :: cs =>
      if count = 0 then some (c :: cs)
      else if c.utf8Size ≤ count then dropBytes? (count - c.utf8Size) cs
      else none

/-- The first `count` bytes of a text, if they are whole characters. -/
def takeBytes? (count : Nat) : List Char → Option (List Char)
  | [] => if count = 0 then some [] else none
  | c :: cs =>
      if count = 0 then some []
      else if c.utf8Size ≤ count then (takeBytes? (count - c.utf8Size) cs).map (c :: ·)
      else none

/-- The characters from byte `start` to the end. -/
def sliceFrom (text : List Char) (start : Nat) : Except DirectiveError (List Char) :=
  match dropBytes? start text with
  | some rest => .ok rest
  | none => .error .insideCharacter

/-- The characters from byte `start` up to byte `stop`. -/
def slice (text : List Char) (start stop : Nat) : Except DirectiveError (List Char) :=
  match (dropBytes? start text).bind (takeBytes? (stop - start)) with
  | some part => .ok part
  | none => .error .insideCharacter

/-- Whether a directive may begin with a character. -/
def mayBegin (c : Char) : Bool :=
  c == '-' || c == ':' || c == '_' || isLetterOrNumber c

/-- What is wrong with the value of a field, which has to be a number or a pattern.  A truth value
is a pattern as well. -/
def valueFault? (value : List Char) : Option PatternError :=
  if isDecimal value then none else Pattern.fault? value

/-- A field, as it stands between braces: a name, and perhaps an equality sign and a value. -/
def readField (text : List Char) : Except DirectiveError FieldMatch :=
  if text.isEmpty then
    .error .malformed
  else
    match text.splitOn '=' with
    | name :: value :: _ =>
        match valueFault? value with
        | some cause => .error (.value cause)
        | none => .ok ⟨String.ofList name, some (String.ofList value)⟩
    | name :: [] => .ok ⟨String.ofList name, none⟩
    | [] => .error .malformed

/-- Read one more character, which begins at byte `place`. -/
def readChar (text : List Char) (place : Nat) (c : Char) (directive : Directive) :
    Part → Except DirectiveError (Part × Directive)
  | .start =>
      if c = '[' then .ok (.span (place + 1), directive)
      else if mayBegin c then .ok (.levelOrTarget place, directive)
      else .error .malformed
  | .levelOrTarget start =>
      if c = '=' || c = '[' then do
        let target := some (String.ofList (← slice text start place))
        let part : Part := if c = '=' then .level (place + 1) else .span (place + 1)
        .ok (part, { directive with target })
      else .ok (.levelOrTarget start, directive)
  | .targetEnd =>
      if c = '=' then .ok (.level (place + 1), directive) else .error .malformed
  | .span start =>
      if c = ']' then do
        let name ← slice text start place
        .ok (.targetEnd, { directive with span := some (String.ofList name) })
      else if c = '\x7b' then do
        let name ← slice text start place
        let span := if name.isEmpty then none else some (String.ofList name)
        .ok (.field (place + 1), { directive with span })
      else .ok (.span start, directive)
  | .field start =>
      if c = '\x7d' then do
        let field ← readField (← slice text start place)
        .ok (.fieldsEnd, { directive with fields := directive.fields ++ [field] })
      else .ok (.field start, directive)
  | .fieldsEnd =>
      if c = ']' then .ok (.targetEnd, directive) else .error .malformed
  | .level start => .ok (.level start, directive)

/-- A level at the end of a directive; a missing one lets everything through. -/
def readLevel (text : List Char) : Except DirectiveError LevelLimit :=
  if text.isEmpty then
    .ok (some .trace)
  else
    match LevelLimit.parse? text with
    | some limit => .ok limit
    | none => .error .unknownLevel

/-- The directive when the text is over.  A word that is no level is a target. -/
def finish (text : List Char) (directive : Directive) : Part → Except DirectiveError Directive
  | .levelOrTarget start => do
      let word ← sliceFrom text start
      match LevelLimit.parse? word with
      | some limit => .ok { directive with limit, target := none }
      | none =>
          .ok { directive with limit := some .trace, target := some (String.ofList word) }
  | .level start => do
      let limit ← readLevel (← sliceFrom text start)
      .ok { directive with limit }
  | .targetEnd => .ok directive
  | .start | .span _ | .field _ | .fieldsEnd => .error .malformed

/-- Read the rest of a directive, from byte `place` on. -/
def readRest (text : List Char) (place : Nat) (directive : Directive) (part : Part) :
    List Char → Except DirectiveError Directive
  | [] => finish text directive part
  | c :: cs =>
      match readChar text place c directive part with
      | .ok (part, directive) => readRest text (place + c.utf8Size) directive part cs
      | .error e => .error e

/-- Read one directive. -/
def parse (text : List Char) : Except DirectiveError Directive :=
  readRest text 0 {} .start (trimChars text)

/-- Whether a directive speaks of events by themselves, whatever span they are in. -/
def isStatic (directive : Directive) : Bool :=
  directive.span.isNone && directive.fields.all fun field => field.value.isNone

/-- How much of a target a directive names. -/
def targetSize (directive : Directive) : Nat :=
  match directive.target with
  | some target => target.utf8ByteSize + 1
  | none => 0

/-- The names of the fields that a directive asks for. -/
def fieldNames (directive : Directive) : List String :=
  directive.fields.map FieldMatch.name

/-- Whether `a` is at least as specific as `b`: it names more of the target, or more fields, or
fields that come later in order. -/
def atLeastAsSpecific (a b : Directive) : Bool :=
  if a.targetSize = b.targetSize then
    if a.fields.length = b.fields.length then !decide (a.fieldNames < b.fieldNames)
    else b.fields.length < a.fields.length
  else b.targetSize < a.targetSize

/-- Whether a directive speaks of events with a target and fields. -/
def speaksOf (directive : Directive) (target : String) (fields : List String) : Bool :=
  directive.isStatic &&
    (directive.target.all fun beginning => beginning.toList.isPrefixOf target.toList) &&
    directive.fieldNames.all fun name => fields.contains name

end Directive

/-- What chooses the events to print. -/
structure Filter where
  directives : List Directive := []
  deriving DecidableEq, Repr

namespace Filter

/-- The directives of a comma-separated list, as they stand. -/
def items (text : String) : List (List Char) :=
  (text.toList.splitOn ',').filter fun item => !item.isEmpty

/-- Read directives one after another; the first fault counts. -/
def parseAll : List (List Char) → Except DirectiveError (List Directive)
  | [] => .ok []
  | item :: items =>
      match Directive.parse item with
      | .error e => .error e
      | .ok directive =>
          match parseAll items with
          | .ok directives => .ok (directive :: directives)
          | .error e => .error e

/-- A filter with one directive in place of none. -/
def orDefault (directives : List Directive) (limit : LevelLimit) : Filter :=
  if directives.isEmpty then ⟨[{ limit }]⟩ else ⟨directives⟩

/-- The filter of a list in which every directive must be well-formed; without directives nothing
is printed. -/
def parse (text : String) : Except DirectiveError Filter :=
  match parseAll (items text) with
  | .ok directives => .ok (orDefault directives none)
  | .error e => .error e

/-- Read those directives of a list that are well-formed. -/
def parseWellFormed : List (List Char) → Except DirectiveError (List Directive)
  | [] => .ok []
  | item :: items =>
      match Directive.parse item with
      | .error .insideCharacter => .error .insideCharacter
      | .error _ => parseWellFormed items
      | .ok directive =>
          match parseWellFormed items with
          | .ok directives => .ok (directive :: directives)
          | .error e => .error e

/-- The filter of those directives of a list that are well-formed; without any, errors are
printed. -/
def parseLenient (text : String) : Except DirectiveError Filter :=
  match parseWellFormed (items text) with
  | .ok directives => .ok (orDefault directives (some .error))
  | .error e => .error e

/-- The directive that decides about events with a target and fields: of the most specific ones
the last. -/
def deciding? (filter : Filter) (target : String) (fields : List String) : Option Directive :=
  (filter.directives.filter fun directive => directive.speaksOf target fields).foldl
    (fun best directive =>
      match best with
      | none => some directive
      | some other => if directive.atLeastAsSpecific other then some directive else some other)
    none

/-- Whether events of a level with a target and fields are printed. -/
def enables (filter : Filter) (level : Level) (target : String) (fields : List String) : Bool :=
  match filter.deciding? target fields with
  | some directive => LevelLimit.allows directive.limit level
  | none => false

end Filter

end ComputeImport
