import ComputeImport.Native.Call
import ComputeImport.Native.Store

/-!
# The reference backend

A compute backend in memory.  It keeps its objects in a store, remembers every native call, and can
be told to fail the next call of an entry point.  Its configuration says which of the differences
between real backends it shows: whether the entry points for chosen devices exist, whether wrapping
a native object takes a reference to the wrapper, and whether a kernel can be wrapped without its
program.
-/

namespace ComputeImport

/-- What a reference backend is like. -/
structure SimulatorConfig where
  /-- The name that the function table gives itself. -/
  name : String
  /-- The kind that its platforms report. -/
  platformKind : NativeKind
  /-- Whether the entry points for chosen devices exist. -/
  perDevice : Bool
  /-- Whether wrapping a native object takes a reference to the new wrapper. -/
  retainsOnImport : Bool
  /-- Whether a kernel is only wrapped together with its program. -/
  kernelNeedsProgram : Bool
  deriving DecidableEq, Repr

namespace SimulatorConfig

/-- Whole programs only, and no reference on import. -/
def openCl : SimulatorConfig := ⟨"opencl", .openCl, false, false, false⟩

/-- Chosen devices, and kernels only with their program. -/
def levelZero : SimulatorConfig := ⟨"level_zero", .levelZero, true, true, true⟩

/-- Chosen devices, and nothing else in particular. -/
def cuda : SimulatorConfig := ⟨"cuda", .cuda, true, true, false⟩

/-- As `cuda`, under another name. -/
def hip : SimulatorConfig := { cuda with name := "hip", platformKind := .hip }

/-- The same backend without the entry points for chosen devices. -/
def wholeProgramsOnly (config : SimulatorConfig) : SimulatorConfig :=
  { config with perDevice := false }

/-- The reference backend that stands for a linked backend. -/
def ofBackend? : Backend → Option SimulatorConfig
  | .openCl => some openCl
  | .levelZero => some levelZero
  | .cuda => some cuda
  | .hip => some hip
  | .nativeCpu | .esimdEmulator | .any => none

end SimulatorConfig

/-- A reference backend: its objects, and what has happened at its function table. -/
structure Simulator where
  config : SimulatorConfig := .cuda
  store : Store := {}
  /-- Every call so far, oldest first. -/
  calls : List Call := []
  /-- The entry points whose next call fails, with the error to report. -/
  failures : Ledger EntryPoint NativeError := {}
  /-- The options that the latest compile, build or link was given. -/
  lastOptions : Option String := none
  deriving DecidableEq

/-- A native call at work on a reference backend.  A failing call keeps what it has changed. -/
abbrev Native := EStateM NativeError Simulator

namespace Simulator

/-- Run a step on the object store. -/
def onStore {α : Type} (step : StoreM α) : Native α := fun backend =>
  match step backend.store with
  | .ok a store => .ok a { backend with store }
  | .error e store => .error e { backend with store }

/-- Record a call; then report the failure that is set for its entry point, if there is one, or
else do the work of the call. -/
def perform {α : Type} (call : Call) (body : Native α) : Native α := fun backend =>
  let recorded := { backend with calls := backend.calls ++ [call] }
  match backend.failures.get? call.entryPoint with
  | some error => .error error { recorded with failures := recorded.failures.erase call.entryPoint }
  | none => body recorded

/-- As `perform`, for an entry point that acts for chosen devices and may not exist. -/
def performFor {α : Type} (call : Call) (entryPoint : String) (body : Native α) : Native α :=
  perform call do
    if (← get).config.perDevice then body else throw (.unsupportedFeature entryPoint)

/-- The references that a new wrapper starts with. -/
def initialRefs (config : SimulatorConfig) : Nat :=
  if config.retainsOnImport then 1 else 0

/-- Wrap a native object on behalf of an import. -/
def wrapImported (data : WrapperData) (native : NativeHandle) (ownsNative : Bool) :
    Native (Handle data.kind) := do
  let refs := initialRefs (← get).config
  onStore (Store.wrap data native ownsNative refs)

end Simulator

end ComputeImport
