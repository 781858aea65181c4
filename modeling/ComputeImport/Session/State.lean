import ComputeImport.Session.Command

/-!
# The state of a session

A session holds managed objects under names.  What is made under a name takes the place of what was
held there, and what is made without one is let go at once.  The process-wide registry is made when
it is first needed.
-/

namespace ComputeImport

open Text

/-- The state of a session. -/
structure Session where
  host : Host := {}
  /-- How many backends were given.  Those with greater numbers belong to reference registries, and
  no command reaches them but through a registry. -/
  given : Nat := 0
  /-- The registries that can be used by number; one that has been installed is gone. -/
  registries : Ledger Nat Registry := {}
  /-- The process-wide registry, once there is one. -/
  processWide : Option Registry := none
  environment : Environment := {}

/-- A command at work.  A failing command keeps what it has changed. -/
abbrev SessionM := EStateM Failure Session

namespace Session

/-! ## Looking things up -/

/-- Do something with managed objects. -/
def managed {α : Type} (body : ImportM α) : SessionM α := fun session =>
  match body session.host with
  | .ok a host => .ok a { session with host }
  | .error e host => .error (.managed e) { session with host }

/-- Make a native call that no import needs. -/
def table {α : Type} (body : TableM α) : SessionM α := fun session =>
  match body session.host with
  | .ok a host => .ok a { session with host }
  | .error e host => .error (.table e) { session with host }

/-- Set up the journal's output. -/
def setup {α : Type} (body : SetupM Filter α) : SessionM α := fun session =>
  let put (output : JournalOutput Filter) : Session :=
    { session with host := { session.host with output } }
  match body session.host.output with
  | .ok a output => .ok a (put output)
  | .error e output => .error (.setup e) (put output)

/-- The object that is held under a name. -/
def lookup (name : String) : SessionM Managed := do
  match (← get).host.held.get? name with
  | some value => pure value
  | none => throw (.missing name)

/-- The context that is held under a name. -/
def lookupContext (name : String) : SessionM Context := do
  match ← lookup name with
  | .context context => pure context
  | _ => throw (.missing name)

/-- The device that is held under a name. -/
def lookupDevice (name : String) : SessionM Device := do
  match ← lookup name with
  | .device device => pure device
  | _ => throw (.missing name)

/-- The platform that is held under a name. -/
def lookupPlatform (name : String) : SessionM Platform := do
  match ← lookup name with
  | .platform platform => pure platform
  | _ => throw (.missing name)

/-- The queue that is held under a name. -/
def lookupQueue (name : String) : SessionM Queue := do
  match ← lookup name with
  | .queue queue => pure queue
  | _ => throw (.missing name)

/-- The bundle that is held under a name. -/
def lookupBundle (name : String) : SessionM KernelBundle := do
  match ← lookup name with
  | .bundle bundle => pure bundle
  | _ => throw (.missing name)

/-- The kernel that is held under a name. -/
def lookupKernel (name : String) : SessionM Kernel := do
  match ← lookup name with
  | .kernel kernel => pure kernel
  | _ => throw (.missing name)

/-- The bundles that are held under several names, in order. -/
def lookupBundles : List String → SessionM (List KernelBundle)
  | [] => pure []
  | name :: names => do
      let bundle ← lookupBundle name
      let bundles ← lookupBundles names
      pure (bundle :: bundles)

/-- The process-wide registry, which is made of the reference backends when it is first needed and
none has been installed. -/
def processWideRegistry : SessionM Registry := do
  match (← get).processWide with
  | some registry => pure registry
  | none =>
      let environment := (← get).environment
      let registry ← managed do
        notify .registryInitialised
        referenceRegistry environment
      modify fun session => { session with processWide := some registry }
      pure registry

/-- The registry with a number, or else the process-wide one. -/
def lookupRegistry : Option Nat → SessionM Registry
  | none => processWideRegistry
  | some number => do
      match (← get).registries.get? number with
      | some registry => pure registry
      | none => throw (.missing "registry")

/-! ## Holding what is made -/

/-- Hold an object under a name, and let go of what was held there; without a name let go of the
object itself. -/
def keep (name : Option String) (value : Managed) : SessionM Reply := do
  match name with
  | some name =>
      let old := (← get).host.held.get? name
      modify fun session =>
        { session with
            host := { session.host with held := session.host.held.set name value } }
      match old with
      | some old =>
          modify fun session => { session with host := session.host.letGo old }
      | none => pure ()
  | none => modify fun session => { session with host := session.host.letGo value }
  return .object value

/-- Let go of the object that is held under a name, if there is one. -/
def forget (name : String) (session : Session) : Session :=
  match session.host.held.get? name with
  | some value =>
      let host := { session.host with held := session.host.held.erase name }
      { session with host := host.letGo value }
  | none => session

end Session

end ComputeImport
