import ComputeImport.Registry

/-!
# Platforms, devices, contexts, queues and events

A platform or a device is found in the cache that it has been entered in, as long as it is alive, or
else made and entered: while one is alive, its handle leads to it and to no other object.  Every import
of a context, a queue or an event makes a new one.
-/

namespace ComputeImport

/-- The living platform that is cached for a handle, or else a new one.  Apart from what is held, the
devices in `pending` keep platforms alive. -/
def findOrMakePlatform {ε : Type} (provider : Provider) (handle : PlatformHandle)
    (pending : List Device) : EStateM ε Host Platform := do
  let host ← get
  let living := host.platforms ++ pending.map Device.platform
  match host.caches.platforms.upgrade? living provider handle with
  | some platform => pure platform
  | none =>
      let platform : Platform := { identity := ← freshIdentity, handle, provider }
      modify (Host.enterPlatform living platform)
      notify (.platformMade handle provider.backend)
      pure platform

/-- The living device that a platform has cached for a handle, or else a new one.  Apart from what is
held, the devices in `pending` are alive. -/
def findOrMakeDevice {ε : Type} (platform : Platform) (handle : DeviceHandle)
    (pending : List Device) : EStateM ε Host Device := do
  let host ← get
  let living := host.devices ++ pending
  match host.caches.devices.upgrade? living platform handle with
  | some device => pure device
  | none =>
      let device : Device := { identity := ← freshIdentity, handle, platform }
      modify (Host.enterDevice living device)
      notify (.deviceMade platform.handle handle)
      pure device

/-- The managed device for a wrapper handle, reached through its platform. -/
def manageDevice (provider : Provider) (pending : List Device) (handle : DeviceHandle) :
    ImportM Device := do
  let platformHandle ← native (provider.table.call (Simulator.devicePlatform handle))
  let platform ← findOrMakePlatform provider platformHandle pending
  findOrMakeDevice platform handle pending

/-- The managed devices for wrapper handles, in order. -/
def manageDevices (provider : Provider) (pending : List Device) :
    List DeviceHandle → ImportM (List Device)
  | [] => pure []
  | handle :: handles => do
      let device ← manageDevice provider pending handle
      let devices ← manageDevices provider (pending ++ [device]) handles
      pure (device :: devices)

/-- Take the importer's own reference to a new wrapper, and release the wrapper if that fails. -/
def takeReference {kind : ObjectKind} (table : Table) (handle : Handle kind)
    (retain release : Handle kind → Native Unit) : ImportM Unit := do
  match ← attempt (table.call (retain handle)) with
  | .ok () => pure ()
  | .error e =>
      match ← attempt (table.call (release handle)) with
      | .ok () => pure ()
      | .error e' => notify (.cleanupFailed kind handle e')
      throw (.native e)

/-- Take the importer's own reference to a new wrapper where the backend has taken none. -/
def takeReferenceIfNeeded {kind : ObjectKind} (provider : Provider) (handle : Handle kind)
    (retain release : Handle kind → Native Unit) : ImportM Unit := do
  if provider.demands.needsRetain then takeReference provider.table handle retain release

/-- Import a native platform. -/
def makePlatform (registry : Registry) (handle : NativeHandle) (backend : Backend) :
    ImportM Platform := do
  notify (.entered (.makePlatform handle backend))
  let provider ← registry.resolve backend
  let wrapper ← native (provider.table.call (Simulator.platformCreate handle))
  findOrMakePlatform provider wrapper []

/-- Import a native device through its platform. -/
def makeDevice (registry : Registry) (handle : NativeHandle) (backend : Backend) :
    ImportM Device := do
  notify (.entered (.makeDevice handle backend))
  let provider ← registry.resolve backend
  let wrapper ← native (provider.table.call (Simulator.deviceCreate handle none))
  manageDevice provider [] wrapper

/-- Import a native context, which stays the caller's. -/
def makeContext (registry : Registry) (handle : NativeHandle) (backend : Backend) :
    ImportM Context := do
  notify (.entered (.makeContext handle backend))
  let provider ← registry.resolve backend
  let wrapper ← native (provider.table.call (Simulator.contextCreate handle [] false))
  takeReferenceIfNeeded provider wrapper Simulator.contextRetain Simulator.contextRelease
  return { identity := ← freshIdentity, handle := wrapper, provider }

/-- The managed device that a new queue submits to; the queue is released if there is none. -/
def deviceOfQueue (provider : Provider) (queue : QueueHandle) : ImportM Device := fun host =>
  let find : ImportM Device := do
    let handle ← native (provider.table.call (Simulator.queueDevice queue))
    manageDevice provider [] handle
  match find host with
  | .ok device host => .ok device host
  | .error e host =>
      match provider.table.call (Simulator.queueRelease queue) host with
      | .ok _ host => .error e host
      | .error e' host => .error e (host.notify (.queueCleanupFailed queue e'))

/-- Import a native queue.  Without a device given, the backend is asked for it. -/
def makeQueue (registry : Registry) (handle : NativeHandle) (descriptor : Int32)
    (context : Context) (device : Option Device) (keeps : Bool) (properties : QueueProperties)
    (backend : Backend) : ImportM Queue := do
  notify (.entered (.makeQueue handle descriptor keeps properties backend))
  if properties.computeIndex.isSome then
    throw (.invalidProperty "queue create using make_queue cannot have compute_index property")
  let provider ← registry.resolve backend
  let settings : QueueSettings :=
    { ownsNative := (Ownership.ofKeep keeps).ownsNative
      flags := properties.flags
      descriptor }
  let wrapper ← native (provider.table.call
    (Simulator.queueCreate handle context.handle (device.map Device.handle) settings))
  takeReferenceIfNeeded provider wrapper Simulator.queueRetain Simulator.queueRelease
  let device ← match device with
    | some device => pure device
    | none => deviceOfQueue provider wrapper
  return { identity := ← freshIdentity, handle := wrapper, context, device, properties, provider }

/-- Import a native event. -/
def makeEvent (registry : Registry) (handle : NativeHandle) (context : Context) (keeps : Bool)
    (backend : Backend) : ImportM Event := do
  notify (.entered (.makeEvent handle keeps backend))
  let provider ← registry.resolve backend
  let wrapper ← native (provider.table.call
    (Simulator.eventCreate handle context.handle (Ownership.ofKeep keeps).ownsNative))
  takeReferenceIfNeeded provider wrapper Simulator.eventRetain Simulator.eventRelease
  return { identity := ← freshIdentity, handle := wrapper, context, provider }

end ComputeImport
