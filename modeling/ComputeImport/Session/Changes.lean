import ComputeImport.Native.Caller

/-!
# What a step changes in a backend

Two states of a backend are compared: the calls that came in between, and the objects whose number
of references differs.  Objects are numbered in the order of their creation, so that those which
exist before come first in the list of changes, and new ones follow.
-/

namespace ComputeImport

/-- What has changed in a backend. -/
structure Changes where
  /-- The entry points called since; when calls have been forgotten, every call in the log. -/
  calls : List EntryPoint
  /-- The native objects with another number of references; without one an object is gone. -/
  natives : List (NativeHandle × Option Nat)
  /-- The wrappers with another number of references. -/
  wrappers : List (Nat × Option Nat)
  /-- The latest options, when they are others than before. -/
  options : Option (Option String)
  deriving DecidableEq, Repr

namespace Changes

/-- The counts that differ between two ledgers, and the new counts. -/
def counts {κ : Type} [DecidableEq κ] (before after : Ledger κ Nat) : List (κ × Option Nat) :=
  let known := before.entries.filterMap fun (key, count) =>
    let now := after.get? key
    if now = some count then none else some (key, now)
  let new := after.entries.filterMap fun (key, count) =>
    if before.contains key then none else some (key, some count)
  known ++ new

/-- The calls that were recorded after those of `before`; the log may have been cleared. -/
def newCalls (before after : List Call) : List Call :=
  if after.length < before.length then after else after.drop before.length

/-- What has changed between two states of a backend. -/
def between (before after : Simulator) : Changes :=
  { calls := (newCalls before.calls after.calls).map Call.entryPoint
    natives := counts before.nativeCounts after.nativeCounts
    wrappers := counts before.wrapperCounts after.wrapperCounts
    options :=
      if after.lastOptions = before.lastOptions then none else some after.lastOptions }

/-- Whether nothing has changed. -/
def isEmpty (changes : Changes) : Bool :=
  changes.calls.isEmpty && changes.natives.isEmpty && changes.wrappers.isEmpty &&
    changes.options.isNone

end Changes

end ComputeImport
