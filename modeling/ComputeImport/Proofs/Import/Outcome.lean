import ComputeImport.Import.Objects
import ComputeImport.Proofs.Outcome

/-!
# Where the parts of imports end

A native call of an import ends where the call ends at the backend behind its table, and leaves
everything else of the host as it was but the journal.
-/

namespace ComputeImport

variable {α ε : Type} {host : Host}

namespace Host

/-- A step of one backend is not seen at the others. -/
theorem simulator_advance (number other : Nat) (after : Simulator) :
    (host.advance number after).simulator other =
      if number = other then after else host.simulator other := by
  rw [simulator, advance, Ledger.get?_set]
  split <;> rfl

@[simp]
theorem simulator_advance_self (number : Nat) (after : Simulator) :
    (host.advance number after).simulator number = after := by
  rw [simulator_advance, if_pos rfl]

/-- The backends are all that tells how each of them is. -/
theorem simulator_of_simulators {after : Host} (same : after.simulators = host.simulators)
    (number : Nat) : after.simulator number = host.simulator number := by
  rw [simulator, simulator, same]

/-- The values that are held are all that tells which platforms are alive. -/
theorem platforms_of_held {after : Host} (held : after.held = host.held) :
    after.platforms = host.platforms := by
  rw [platforms, platforms, held]

/-- So it is with the devices. -/
theorem devices_of_held {after : Host} (held : after.held = host.held) :
    after.devices = host.devices := by
  rw [devices, devices, held]

end Host

variable {ok : α → Host → Prop}

theorem ends_notify {notice : Notice} {ok : Unit → Host → Prop} {failed : ε → Host → Prop} :
    Ends (notify notice) host ok failed ↔ ok () (host.notify notice) :=
  Iff.rfl

theorem ends_freshIdentity {ok : Nat → Host → Prop} {failed : ε → Host → Prop} :
    Ends freshIdentity host ok failed ↔
      ok host.nextIdentity { host with nextIdentity := host.nextIdentity + 1 } :=
  Iff.rfl

theorem ends_onSimulator {number : Nat} {step : Native α} {failed : NativeError → Host → Prop} :
    Ends (onSimulator number step) host ok failed ↔
      Ends step (host.simulator number) (fun a after => ok a (host.advance number after))
        (fun e after => failed e (host.advance number after)) := by
  unfold Ends onSimulator
  cases step (host.simulator number) <;> exact Iff.rfl

theorem ends_call {table : Table} {step : Native α} {failed : NativeError → Host → Prop} :
    Ends (table.call step) host ok failed ↔
      Ends step (host.simulator table.simulator)
        (fun a after => ok a (host.advance table.simulator after))
        (fun e after => failed e (host.advance table.simulator after)) :=
  ends_onSimulator

/-- A call through a table takes the backend behind it to where the call ends. -/
theorem stateAfter_call (table : Table) (step : Native α) (host : Host) :
    stateAfter (table.call step) host =
      host.advance table.simulator (stateAfter step (host.simulator table.simulator)) := by
  unfold stateAfter Table.call onSimulator
  cases step (host.simulator table.simulator) <;> rfl

/-- A call through a table ends where it ends at the backend behind the table. -/
theorem Ends.call {table : Table} {step : Native α} {ok : α → Simulator → Prop}
    {failed : NativeError → Simulator → Prop}
    (ends : Ends step (host.simulator table.simulator) ok failed) :
    Ends (table.call step) host (fun a after => ok a (after.simulator table.simulator))
      (fun e after => failed e (after.simulator table.simulator)) := by
  refine ends_call.mpr (ends.imp ?_ ?_)
  · intro a after holds
    rw [Host.simulator_advance_self]
    exact holds
  · intro e after holds
    rw [Host.simulator_advance_self]
    exact holds

/-- A table that delegates refuses a call for chosen devices, and makes no call. -/
theorem Ends.callFor {table : Table} {entryPoint : String} {step : Native α}
    {ok : α → Simulator → Prop} {failed : NativeError → Simulator → Prop}
    (ends : Ends step (host.simulator table.simulator) ok failed)
    (refused : table.delegation ≠ none →
      failed (.unsupportedFeature entryPoint) (host.simulator table.simulator)) :
    Ends (table.callFor entryPoint step) host
      (fun a after => ok a (after.simulator table.simulator))
      (fun e after => failed e (after.simulator table.simulator)) := by
  unfold Table.callFor
  cases delegated : table.delegation with
  | some _ => exact refused (by rw [delegated]; exact Option.some_ne_none _)
  | none => exact ends.call

theorem ends_native {call : TableM α} {failed : ImportError → Host → Prop} :
    Ends (native call) host ok failed ↔
      Ends call host ok (fun e after => failed (.native e) after) := by
  unfold Ends native
  cases call host <;> exact Iff.rfl

theorem ends_attempt {call : TableM α} {ok : Except NativeError α → Host → Prop}
    {failed : ImportError → Host → Prop} :
    Ends (attempt call) host ok failed ↔
      Ends call host (fun a after => ok (.ok a) after) (fun e after => ok (.error e) after) := by
  unfold Ends attempt
  cases call host <;> exact Iff.rfl

theorem ends_orRelease {programs : List ProgramRef} {body : ImportM α}
    {failed : ImportError → Host → Prop} :
    Ends (orRelease programs body) host ok failed ↔
      Ends body host ok (fun e after => failed e (releasePrograms programs after)) := by
  unfold Ends orRelease
  cases body host <;> exact Iff.rfl

/-- A timer only adds to the journal. -/
theorem Ends.timed {operation : String} {body : ImportM α} {failed : ImportError → Host → Prop}
    (ends : Ends body host ok failed)
    (value : ∀ a after notice, ok a after → ok a (after.notify notice))
    (failure : ∀ e after notice, failed e after → failed e (after.notify notice)) :
    Ends (ComputeImport.timed operation body) host ok failed := by
  unfold Ends ComputeImport.timed at *
  cases outcome : body host with
  | ok a after =>
      rw [outcome] at ends
      dsimp only at ends ⊢
      split
      · exact value a after _ ends
      · exact ends
  | error e after =>
      rw [outcome] at ends
      dsimp only at ends ⊢
      split
      · exact failure e after _ ends
      · exact ends

/-! ## Finding or making -/

/-- The host after a platform has been made and entered. -/
def Host.withPlatform (host : Host) (pending : List Device) (platform : Platform) : Host :=
  (Host.enterPlatform (host.platforms ++ pending.map Device.platform) platform
    { host with nextIdentity := host.nextIdentity + 1 }).notify
      (.platformMade platform.handle platform.provider.backend)

/-- The host after a device has been made and entered. -/
def Host.withDevice (host : Host) (pending : List Device) (device : Device) : Host :=
  (Host.enterDevice (host.devices ++ pending) device
    { host with nextIdentity := host.nextIdentity + 1 }).notify
      (.deviceMade device.platform.handle device.handle)

/-- A platform is what its cache leads to, if that is alive, or else is made and entered. -/
theorem ends_findOrMakePlatform_of {provider : Provider} {handle : PlatformHandle}
    {pending : List Device} {ok : Platform → Host → Prop} {failed : ε → Host → Prop}
    (found : ∀ platform,
      host.caches.platforms.upgrade? (host.platforms ++ pending.map Device.platform) provider handle =
        some platform → ok platform host)
    (made :
      host.caches.platforms.upgrade? (host.platforms ++ pending.map Device.platform) provider handle =
        none →
      ok ⟨host.nextIdentity, handle, provider⟩
        (host.withPlatform pending ⟨host.nextIdentity, handle, provider⟩)) :
    Ends (findOrMakePlatform provider handle pending) host ok failed := by
  unfold findOrMakePlatform
  rw [ends_bind, ends_get]
  dsimp only
  split
  · rename_i platform isFound
    exact found platform isFound
  · rename_i missing
    exact made missing

/-- A device is what the cache of its platform leads to, if that is alive, or else is made and
entered. -/
theorem ends_findOrMakeDevice_of {platform : Platform} {handle : DeviceHandle}
    {pending : List Device} {ok : Device → Host → Prop} {failed : ε → Host → Prop}
    (found : ∀ device,
      host.caches.devices.upgrade? (host.devices ++ pending) platform handle = some device →
      ok device host)
    (made : host.caches.devices.upgrade? (host.devices ++ pending) platform handle = none →
      ok ⟨host.nextIdentity, handle, platform⟩
        (host.withDevice pending ⟨host.nextIdentity, handle, platform⟩)) :
    Ends (findOrMakeDevice platform handle pending) host ok failed := by
  unfold findOrMakeDevice
  rw [ends_bind, ends_get]
  dsimp only
  split
  · rename_i device isFound
    exact found device isFound
  · rename_i missing
    exact made missing

/-- A queue whose device cannot be found is released, whether or not that succeeds. -/
theorem ends_deviceOfQueue_iff {provider : Provider} {queue : QueueHandle}
    {ok : Device → Host → Prop} {failed : ImportError → Host → Prop} :
    Ends (deviceOfQueue provider queue) host ok failed ↔
      Ends (do
        let handle ← native (provider.table.call (Simulator.queueDevice queue))
        manageDevice provider [] handle) host ok
        (fun e after => Ends (provider.table.call (Simulator.queueRelease queue)) after
          (fun _ last => failed e last)
          (fun e' last => failed e (last.notify (.queueCleanupFailed queue e')))) := by
  unfold deviceOfQueue Ends
  dsimp only
  generalize (do
      let handle ← native (provider.table.call (Simulator.queueDevice queue))
      manageDevice provider [] handle : ImportM Device) host = outcome
  cases outcome with
  | ok device after => exact Iff.rfl
  | error e after =>
      dsimp only
      cases provider.table.call (Simulator.queueRelease queue) after <;> exact Iff.rfl

end ComputeImport
