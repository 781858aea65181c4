import ComputeImport.Session.State

/-!
# Opening a session

A session starts with backends and registries, both numbered in the order in which they are given.
The backends of reference registries come after those that are given.
-/

namespace ComputeImport

open Text

/-- How a registry is filled. -/
inductive RegistryPlan where
  /-- With a reference backend for each linked backend, and the options of the environment. -/
  | reference
  /-- With tables that are registered one after another. -/
  | listed (registrations : List Registration) (options : BuildOptions)
  deriving DecidableEq, Repr

/-- Fill a registry. -/
def RegistryPlan.fill {ε : Type} (environment : Environment) :
    RegistryPlan → EStateM ε Host Registry
  | reference => referenceRegistry environment
  | listed registrations options => registerAll { options } registrations

namespace Session

/-- Set up several backends. -/
def setUpAll {ε : Type} : List SimulatorConfig → EStateM ε Host Unit
  | [] => pure ()
  | config :: configs => do
      let _ ← setUp config
      setUpAll configs

/-- Fill several registries, and number them from `next` on. -/
def fillAll {ε : Type} (environment : Environment) (next : Nat) :
    List RegistryPlan → EStateM ε Host (Ledger Nat Registry)
  | [] => pure {}
  | plan :: plans => do
      let registry ← plan.fill environment
      let more ← fillAll environment (next + 1) plans
      pure ⟨(next, registry) :: more.entries⟩

/-- A session over given backends and registries. -/
def opening (configs : List SimulatorConfig) (plans : List RegistryPlan)
    (environment : Environment) : Session :=
  let fill : EStateM Empty Host (Ledger Nat Registry) := do
    setUpAll configs
    fillAll environment 0 plans
  match fill {} with
  | .ok registries host => { host, given := configs.length, registries, environment }

end Session

end ComputeImport
