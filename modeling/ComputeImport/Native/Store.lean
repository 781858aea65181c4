import ComputeImport.Native.Error
import ComputeImport.Native.Object

/-!
# The object store of a backend

Two tables: the objects that live inside the backend, and the wrappers around them, each with its
own count of references.  A wrapper whose count drops to zero is destroyed, and a wrapper that owns
its native object takes one of its references along.  Platforms and devices are wrapped once, and
their wrappers stay.
-/

namespace ComputeImport

/-- The number of the first native object, far from the numbers of the first wrappers. -/
def firstNativeId : Nat := 0x1000

/-- The objects of a backend and the wrappers around them. -/
structure Store where
  natives : Ledger NativeHandle NativeObject := {}
  wrappers : Ledger Nat Wrapper := {}
  /-- The wrapper of each platform that has been wrapped. -/
  platformWrappers : Ledger NativeHandle PlatformHandle := {}
  /-- The wrapper of each device that has been wrapped. -/
  deviceWrappers : Ledger NativeHandle DeviceHandle := {}
  nextNative : Nat := firstNativeId
  nextWrapper : Nat := 1
  deriving DecidableEq

/-- A step on the object store, which may fail; a failing step keeps what it has changed. -/
abbrev StoreM := EStateM NativeError Store

namespace Store

/-! ## Native objects -/

/-- Create a native object with one reference, its creator's. -/
def create (data : NativeData) : StoreM NativeHandle :=
  modifyGet fun store =>
    (⟨store.nextNative⟩,
     { store with
        natives := store.natives.set ⟨store.nextNative⟩ ⟨data, 1⟩
        nextNative := store.nextNative + 1 })

/-- What a view shows of the live native object that a handle names; a handle that names nothing,
or something the view does not show, is refused as one of `kind`. -/
def inspect {α : Type} (kind : ObjectKind) (view : NativeData → Option α) (handle : NativeHandle) :
    StoreM α := do
  match ((← get).natives.get? handle).bind fun object => view object.data with
  | some seen => pure seen
  | none => throw (.invalidNativeHandle kind.name handle)

/-- The live native object of some kind that a handle names. -/
def native (kind : ObjectKind) : NativeHandle → StoreM NativeData :=
  inspect kind fun data => if data.kind = kind then some data else none

/-- The kind that a live native platform reports. -/
def nativePlatform : NativeHandle → StoreM NativeKind :=
  inspect .platform NativeData.platform?

/-- The platform of a live native device. -/
def nativeDevice : NativeHandle → StoreM NativeHandle :=
  inspect .device NativeData.device?

/-- The device of a live native queue. -/
def nativeQueue : NativeHandle → StoreM NativeHandle :=
  inspect .queue NativeData.queue?

/-- What is known of a live native program. -/
def nativeProgram : NativeHandle → StoreM ProgramBinary :=
  inspect .program NativeData.program?

/-- The program in which a live native kernel was created. -/
def nativeKernel : NativeHandle → StoreM NativeHandle :=
  inspect .kernel NativeData.kernel?

/-- Change what is known of a native program. -/
def setProgram (handle : NativeHandle) (binary : ProgramBinary) : StoreM Unit :=
  modify fun store =>
    match store.natives.get? handle with
    | some object =>
        { store with natives := store.natives.set handle { object with data := .program binary } }
    | none => store

/-- Take a reference to a native object of any kind. -/
def retainNative (handle : NativeHandle) : StoreM Unit := do
  match (← get).natives.get? handle with
  | some object =>
      modify fun store =>
        { store with natives := store.natives.set handle { object with refs := object.refs + 1 } }
  | none => throw (.invalidNativeHandle "object" handle)

/-- Drop a reference to a native object of any kind; without references it is destroyed. -/
def releaseNative (handle : NativeHandle) : StoreM Unit := do
  match (← get).natives.get? handle with
  | some object =>
      modify fun store =>
        if object.refs ≤ 1 then
          { store with natives := store.natives.erase handle }
        else
          { store with natives := store.natives.set handle { object with refs := object.refs - 1 } }
  | none => throw (.invalidNativeHandle "object" handle)

/-! ## Wrappers -/

/-- Put a new wrapper around a native object. -/
def wrap (data : WrapperData) (native : NativeHandle) (ownsNative : Bool) (refs : Nat) :
    StoreM (Handle data.kind) :=
  modifyGet fun store =>
    (⟨store.nextWrapper⟩,
     { store with
        wrappers := store.wrappers.set store.nextWrapper ⟨data, native, refs, ownsNative⟩
        nextWrapper := store.nextWrapper + 1 })

/-- The wrapper of a live native platform, made when there is none yet. -/
def wrapPlatform (native : NativeHandle) : StoreM PlatformHandle := do
  let _ ← Store.native .platform native
  match (← get).platformWrappers.get? native with
  | some wrapper => pure wrapper
  | none =>
      let wrapper ← wrap .platform native false 1
      modify fun store =>
        { store with platformWrappers := store.platformWrappers.set native wrapper }
      pure wrapper

/-- The wrapper of a live native device, made when there is none yet. -/
def wrapDevice (native : NativeHandle) : StoreM DeviceHandle := do
  let _ ← Store.native .device native
  match (← get).deviceWrappers.get? native with
  | some wrapper => pure wrapper
  | none =>
      let wrapper ← wrap .device native false 1
      modify fun store =>
        { store with deviceWrappers := store.deviceWrappers.set native wrapper }
      pure wrapper

/-- The wrappers of several live native devices, in order. -/
def wrapDevices : List NativeHandle → StoreM (List DeviceHandle)
  | [] => pure []
  | native :: natives => do
      let wrapper ← wrapDevice native
      let wrappers ← wrapDevices natives
      pure (wrapper :: wrappers)

variable {kind : ObjectKind}

/-- The live wrapper that a handle names. -/
def wrapper (handle : Handle kind) : StoreM Wrapper := do
  match (← get).wrappers.get? handle.id with
  | some wrapper =>
      if wrapper.data.kind = kind then pure wrapper
      else throw (.invalidHandle kind.name handle.id)
  | none => throw (.invalidHandle kind.name handle.id)

/-- The native object behind a live wrapper; the object itself may be gone. -/
def behind (handle : Handle kind) : StoreM NativeHandle := do
  return (← wrapper handle).native

/-- The native objects behind several live wrappers, in order. -/
def behindAll : List (Handle kind) → StoreM (List NativeHandle)
  | [] => pure []
  | handle :: handles => do
      let native ← behind handle
      let natives ← behindAll handles
      pure (native :: natives)

/-- What is known of a live queue wrapper. -/
def queueRecord (handle : QueueHandle) : StoreM QueueRecord := do
  match ((← get).wrappers.get? handle.id).bind fun wrapper => wrapper.data.queue? with
  | some record => pure record
  | none => throw (.invalidHandle ObjectKind.queue.name handle.id)

/-- Take a reference to a wrapper. -/
def retain (handle : Handle kind) : StoreM Unit := do
  let wrapper ← wrapper handle
  modify fun store =>
    { store with
        wrappers := store.wrappers.set handle.id { wrapper with refs := wrapper.refs + 1 } }

/-- Drop a reference to a wrapper.  Without references it is destroyed, and if it owns its native
object, that object loses a reference. -/
def release (handle : Handle kind) : StoreM Unit := do
  let wrapper ← wrapper handle
  match wrapper.refs with
  | 0 => throw (.refCountUnderflow kind.name handle.id)
  | 1 => do
      modify fun store => { store with wrappers := store.wrappers.erase handle.id }
      if wrapper.ownsNative then releaseNative wrapper.native
  | refs + 2 =>
      modify fun store =>
        { store with wrappers := store.wrappers.set handle.id { wrapper with refs := refs + 1 } }

end Store

end ComputeImport
