import ComputeImport.Import.Bundle
import ComputeImport.Import.Export
import ComputeImport.Import.Kernel
import ComputeImport.Import.Program
import ComputeImport.Native.Caller
import ComputeImport.Session.State

/-!
# Running a session

The commands of a session run one after another, and a command that fails does not stop the next
one.  At the end everything that is still held is let go, in the order of the names.
-/

namespace ComputeImport

open Text

namespace Session

/-! ## The caller's side -/

/-- What the caller does directly with a backend. -/
def act : CallerAction → Native Reply
  | .createPlatform => return .handle (← Simulator.createPlatform)
  | .createDevice platform => return .handle (← Simulator.createDevice platform)
  | .createContext devices => return .handle (← Simulator.createContext devices)
  | .createQueue device => return .handle (← Simulator.createQueue device)
  | .createEvent => return .handle (← Simulator.createEvent)
  | .createProgram devices stage kernels =>
      return .handle (← Simulator.createProgram devices stage kernels)
  | .createKernel program name => return .handle (← Simulator.createKernel program name)
  | .createMem => return .number (← Simulator.createMem).id
  | .setStage program device stage => do
      Simulator.setProgramStage program device stage
      return .nothing
  | .stage program device =>
      return .ofOption (fun stage => .text stage.text) ((← get).programStage? program device)
  | .retain handle => do
      Simulator.retainNative handle
      return .nothing
  | .release handle => do
      Simulator.releaseNative handle
      return .nothing
  | .nativeRefs handle => return .ofOption .number ((← get).nativeRefs? handle)
  | .isAlive handle => return .flag ((← get).isAlive handle)
  | .wrapperRefs id => return .ofOption .number ((← get).wrapperRefs? id)
  | .programNative program => return .ofOption .handle ((← get).programBehind? program)
  | .liveWrappers => return .number (← get).liveWrappers
  | .queueFlags queue => return .ofOption .flags ((← get).queueFlags? queue)
  | .callCount entryPoint => return .number ((← get).callCount entryPoint)
  | .clearCalls => do
      Simulator.clearCalls
      return .nothing
  | .inject entryPoint error => do
      Simulator.injectFailure entryPoint error
      return .nothing
  | .lastOptions => return .ofOption .text (← get).lastOptions
  | .config => return .config (← get).config

/-- Check that a backend was given. -/
def checkSimulator (number : Nat) : SessionM Unit := do
  if (← get).given ≤ number then throw (.missing "sim")

/-- The function table that is asked. -/
def targetTable : TableTarget → SessionM Table
  | .simulator number => do
      checkSimulator number
      pure { simulator := number }
  | .registered registry backend => do
      let registry ← lookupRegistry registry
      return (← managed (registry.resolve backend)).table

/-- Ask a function table. -/
def ask (target : TableTarget) (request : TableRequest) : SessionM Reply := do
  let asked ← targetTable target
  match request with
  | .name => return .text (asked.name (← get).host)
  | .call call => return .answer (← table (asked.answer call))

/-! ## Registries -/

/-- Make a registry the process-wide one, unless there is one; it is gone either way. -/
def install (number : Nat) : SessionM Reply := do
  match (← get).registries.get? number with
  | none => throw (.missing "registry")
  | some registry =>
      modify fun session => { session with registries := session.registries.erase number }
      match (← get).processWide with
      | some _ => throw (.managed .registryInstalled)
      | none =>
          modify fun session => { session with processWide := some registry }
          return .backends registry.backends

/-! ## Managed objects -/

/-- A part of a managed object, if it has that part. -/
def part? : Part → Managed → Option Managed
  | .platform, .device device => some (.platform device.platform)
  | .provider, .platform platform => some (.provider platform.provider)
  | .provider, .context context => some (.provider context.provider)
  | .device _, .queue queue => some (.device queue.device)
  | .device (some index), .bundle bundle => bundle.devices[index]?.map .device
  | .device (some index), .image image => image.devices[index]?.map .device
  | .context, .queue queue => some (.context queue.context)
  | .context, .event event => some (.context event.context)
  | .context, .kernel kernel => some (.context kernel.context)
  | .context, .bundle bundle => some (.context bundle.context)
  | .bundle, .kernel kernel => some (.bundle kernel.bundle)
  | _, _ => none

/-- Whether two managed objects are the same, where they are of one type that can tell. -/
def same? : Managed → Managed → Option Bool
  | .platform a, .platform b => some (a = b)
  | .device a, .device b => some (a = b)
  | .context a, .context b => some (a = b)
  | .provider a, .provider b => some (a = b)
  | _, _ => none

/-- A managed object under inspection. -/
def shape (host : Host) : Managed → Shape
  | .platform platform => platform.shape
  | .device device => device.shape
  | .context context => context.shape
  | .queue queue => queue.shape
  | .event event => event.shape
  | .image image => image.shape
  | .bundle bundle => bundle.shape
  | .kernel kernel => kernel.shape
  | .provider provider => provider.shape (provider.table.name host)

/-- The native object behind the managed one that is held under a name. -/
def nativeHandle (name : String) : SessionM Reply := do
  match ← lookup name with
  | .platform platform => return .handle (← managed platform.nativeHandle)
  | .device device => return .handle (← managed device.nativeHandle)
  | .context context => return .handle (← managed context.nativeHandle)
  | .queue queue => do
      let (handle, descriptor) ← managed queue.nativeHandle
      return .queue handle descriptor
  | .event event => return .handle (← managed event.nativeHandle)
  | .kernel kernel => return .handle (← managed kernel.nativeHandle)
  | .image _ | .bundle _ | .provider _ => throw (.missing name)

/-- The answer to a question of a command on a queue. -/
def answerQuestion (queue : Queue) (memory : List (Nat × MemHandle)) :
    Question → ImportM Reply
  | .backend => return .backend queue.provider.backend
  | .device => return .handle (← queue.device.nativeHandle)
  | .context => return .handle (← queue.context.nativeHandle)
  | .queue => do
      let (handle, descriptor) ← queue.nativeHandle
      return .queue handle descriptor
  | .memory requirement => return .handle (← queue.nativeMem memory requirement)

/-- The answers to several questions, in order; one that fails does not stop the others. -/
def answerQuestions (queue : Queue) (memory : List (Nat × MemHandle)) :
    List Question → ImportM (List (Except ImportError Reply))
  | [] => pure []
  | question :: questions => do
      let reply ← fun host =>
        match answerQuestion queue memory question host with
        | .ok reply host => .ok (.ok reply) host
        | .error e host => .ok (.error e) host
      let replies ← answerQuestions queue memory questions
      pure (reply :: replies)

/-! ## Commands -/

/-- Run a command; what it makes is held under `name`. -/
def execute (name : Option String) : Command → SessionM Reply
  | .caller number action => do
      checkSimulator number
      table (onSimulator number (act action))
  | .ask target request => ask target request
  | .resolve registry backend => do
      let registry ← lookupRegistry registry
      keep name (.provider (← managed (registry.resolve backend)))
  | .inspectRegistry registry => return .registry (← lookupRegistry registry)
  | .install number => install number
  | .makePlatform registry handle backend => do
      let registry ← lookupRegistry registry
      keep name (.platform (← managed (makePlatform registry handle backend)))
  | .makeDevice registry handle backend => do
      let registry ← lookupRegistry registry
      keep name (.device (← managed (makeDevice registry handle backend)))
  | .makeContext registry handle backend => do
      let registry ← lookupRegistry registry
      keep name (.context (← managed (makeContext registry handle backend)))
  | .makeQueue registry handle descriptor context device keeps properties backend => do
      let context ← lookupContext context
      let device ← match device with
        | some device => some <$> lookupDevice device
        | none => pure none
      let registry ← lookupRegistry registry
      keep name (.queue (← managed
        (makeQueue registry handle descriptor context device keeps properties backend)))
  | .makeEvent registry handle context keeps backend => do
      let context ← lookupContext context
      let registry ← lookupRegistry registry
      keep name (.event (← managed (makeEvent registry handle context keeps backend)))
  | .importProgram registry handle context keeps target backend => do
      let context ← lookupContext context
      let registry ← lookupRegistry registry
      keep name (.bundle (← managed
        (importProgram registry handle context keeps target backend)))
  | .importKernel registry handle context bundle keeps backend => do
      let context ← lookupContext context
      let bundle ← lookupBundle bundle
      let registry ← lookupRegistry registry
      keep name (.kernel (← managed
        (importKernel registry context bundle handle keeps backend)))
  | .makeKernel registry handle context backend => do
      let context ← lookupContext context
      let registry ← lookupRegistry registry
      keep name (.kernel (← managed (makeKernel registry handle context backend)))
  | .emptyBundle context state => do
      keep name (.bundle (.empty (← lookupContext context) state))
  | .join bundles => do
      match KernelBundle.join (← lookupBundles bundles) with
      | .ok bundle => keep name (.bundle bundle)
      | .error e => throw (.managed e)
  | .image bundle index => do
      match (← lookupBundle bundle).images[index]? with
      | some image => keep name (.image image)
      | none => throw (.missing "image")
  | .kernelNames value => do
      match ← lookup value with
      | .bundle bundle => return .texts (← managed bundle.kernelNames)
      | .image image => return .texts (← managed image.kernelNames)
      | _ => throw (.missing value)
  | .hasKernel value kernel => do
      match ← lookup value with
      | .bundle bundle => return .flag (← managed (bundle.hasKernel kernel))
      | .image image => return .flag (← managed (image.hasKernel kernel))
      | _ => throw (.missing value)
  | .part value part => do
      match part? part (← lookup value) with
      | some found => keep name found
      | none => throw (.missing part.name)
  | .deviceOfPlatform platform device => do
      let platform ← lookupPlatform platform
      keep name (.device (← managed (findOrMakeDevice platform device [])))
  | .platformBackend platform => do
      return .backend (← managed (← lookupPlatform platform).reportedBackend)
  | .nativeHandle value => nativeHandle value
  | .describe value => return .object (← lookup value)
  | .bundleOf kernel => return .object (.bundle (← lookupKernel kernel).bundle)
  | .inspect value spread => do
      let value ← lookup value
      return .text ((shape (← get).host value).write spread)
  | .same first second => do
      match same? (← lookup first) (← lookup second) with
      | some same => return .flag same
      | none => throw (.missing "eq")
  | .copy value => do keep name (← lookup value)
  | .drop value => do
      let _ ← lookup value
      modify (forget value)
      return .nothing
  | .access queue memory questions => do
      let queue ← lookupQueue queue
      return .each (← managed (answerQuestions queue memory questions))
  | .setThreshold limit => do
      setup (JournalOutput.setThreshold limit)
      return .threshold (← get).host.output.threshold.limit
  | .getThreshold => return .threshold (← get).host.output.threshold.limit
  | .initialiseJournal settings => do
      let environment := (← get).environment
      setup (JournalEngine.standard.initialise settings environment)
      return .threshold (← get).host.output.threshold.limit
  | .initialiseTestJournal => do
      let environment := (← get).environment
      setup (JournalEngine.standard.initialiseForTests environment)
      return .nothing
  | .emit event => do
      let subscriber := (← get).host.output.subscriber
      return .printed (subscriber.bind fun subscriber => subscriber.print? event)

/-- Run a step of a session, with the reply or the reason for a failure. -/
def step (session : Session) (step : Step) : Except Failure Reply × Session :=
  match execute step.name step.command session with
  | .ok reply session => (.ok reply, session)
  | .error failure session => (.error failure, session)

/-- Run steps one after another. -/
def run (session : Session) : List Step → List (Except Failure Reply) × Session
  | [] => ([], session)
  | next :: steps =>
      let (reply, session) := session.step next
      let (replies, session) := session.run steps
      (reply :: replies, session)

/-- Running one sequence of steps after another is running both as one. -/
theorem run_append (session : Session) (first second : List Step) :
    session.run (first ++ second) =
      ((session.run first).1 ++ ((session.run first).2.run second).1,
       ((session.run first).2.run second).2) := by
  induction first generalizing session with
  | nil => rfl
  | cons next steps ih =>
      simp only [List.cons_append, run, ih]

/-- The names under which objects are held, in increasing order of their code points. -/
def names (session : Session) : List String :=
  sortNames session.host.held.keys

/-- Let go of everything, in the order of the names. -/
def close (session : Session) : Session :=
  session.names.foldl (fun session name => session.forget name) session

end Session

end ComputeImport
