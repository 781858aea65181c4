import ComputeImport.Import.Host
import ComputeImport.Text.Environment

/-!
# Registries of function tables

A registry maps backends to the function tables that have been registered for them, and carries
the options for programs that are imported through it.  A backend that has no table of its own is
never resolved, whatever is registered for it.
-/

namespace ComputeImport

open Text

/-- The options for imported programs. -/
structure BuildOptions where
  /-- The options for compiling and building. -/
  compile : Option String := none
  /-- The options for linking. -/
  link : Option String := none
  deriving DecidableEq, Repr

namespace BuildOptions

/-- The options that the environment gives; blank ones count as absent. -/
def ofEnvironment (environment : Environment) : BuildOptions :=
  { compile := environment.nonBlank? "HOLOGRAM_PROGRAM_COMPILE_OPTIONS"
    link := environment.nonBlank? "HOLOGRAM_PROGRAM_LINK_OPTIONS" }

/-- The same options, apart from those that are given anew. -/
def override (options : BuildOptions) (compile link : Option String) :
    BuildOptions :=
  { compile := compile <|> options.compile
    link := link <|> options.link }

/-- Options under inspection. -/
def shape (options : BuildOptions) : Shape :=
  .record "InteropConfig"
    [("compile_options", .optional (options.compile.map .text)),
     ("link_options", .optional (options.link.map .text))]

end BuildOptions

/-- The function tables that have been registered, and the options for imported programs. -/
structure Registry where
  providers : Ledger Backend Provider := {}
  options : BuildOptions := {}
  deriving DecidableEq

namespace Registry

/-- Register a table; a later registration for the same backend takes the place of an earlier
one. -/
def register (registry : Registry) (provider : Provider) : Registry :=
  { registry with providers := registry.providers.set provider.backend provider }

/-- The table that is resolved for a backend. -/
def provider? (registry : Registry) (backend : Backend) : Option Provider :=
  if backend.isLinked then registry.providers.get? backend else none

/-- The backends that can be resolved, in the order in which linked backends are listed. -/
def backends (registry : Registry) : List Backend :=
  Backend.linked.filter registry.providers.contains

/-- The number of backends with a registered table. -/
def size (registry : Registry) : Nat :=
  registry.providers.size

/-- A registry under inspection. -/
def shape (registry : Registry) : Shape :=
  .record "BackendRegistry"
    [("backends", .sequence (registry.backends.map fun backend => .atom backend.label)),
     ("config", registry.options.shape)]

/-- The table for a backend. -/
def resolve (registry : Registry) (backend : Backend) : ImportM Provider := do
  match registry.provider? backend with
  | some provider =>
      notify (.resolved backend (provider.table.name (← get)))
      pure provider
  | none => throw (.unsupportedBackend backend)

end Registry

/-- What is registered: a table for a backend, perhaps with demands of its own. -/
structure Registration where
  backend : Backend
  table : Table
  demands : Option Demands := none
  deriving DecidableEq, Repr

/-- Register tables one after another. -/
def registerAll {ε : Type} (registry : Registry) :
    List Registration → EStateM ε Host Registry
  | [] => pure registry
  | registration :: registrations => do
      let provider : Provider :=
        { identity := ← freshIdentity
          backend := registration.backend
          demands := registration.demands.getD registration.backend.demands
          table := registration.table }
      if !registration.backend.isLinked then
        notify (.registeredUnlinked registration.backend)
      registerAll (registry.register provider) registrations

/-- Set up a backend that has not been used before. -/
def setUp {ε : Type} (config : SimulatorConfig) : EStateM ε Host Nat :=
  modifyGet fun host =>
    let number := host.simulators.size
    (number, { host with simulators := host.simulators.set number { config } })

/-- Set up the reference backends, with their registrations. -/
def setUpReferences {ε : Type} : List Backend → EStateM ε Host (List Registration)
  | [] => pure []
  | backend :: backends => do
      match SimulatorConfig.ofBackend? backend with
      | some config =>
          let number ← setUp config
          let registrations ← setUpReferences backends
          pure (⟨backend, { simulator := number }, none⟩ :: registrations)
      | none => setUpReferences backends

/-- A registry of reference backends, one for each linked backend, with the options that the
environment gives. -/
def referenceRegistry {ε : Type} (environment : Environment) : EStateM ε Host Registry := do
  registerAll { options := .ofEnvironment environment } (← setUpReferences Backend.linked)

end ComputeImport
