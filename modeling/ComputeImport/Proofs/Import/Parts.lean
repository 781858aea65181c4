import ComputeImport.Proofs.Import.Advance

/-!
# The parts of importing a program

Before a program is taken further, it is wrapped, a reference to the wrapper may have to be taken,
and its devices are listed.  Afterwards the devices are found or made.  None of this changes a
native program, and each part says why it fails.
-/

namespace ComputeImport

open Simulator

variable {host : Host} {provider : Provider}

theorem ends_resolve {registry : Registry} {backend : Backend} :
    Ends (registry.resolve backend) host
      (fun provider after => registry.provider? backend = some provider ∧
        ∃ notice, after = host.notify notice)
      (fun _ after => registry.provider? backend = none ∧ after = host) := by
  unfold Registry.resolve
  cases resolved : registry.provider? backend with
  | none => exact ⟨rfl, rfl⟩
  | some provider => exact ⟨rfl, _, rfl⟩

/-! ## Taking a reference -/

/-- Nothing has changed but how many references there are to wrappers. -/
structure Store.Recounts (store after : Store) : Prop where
  natives : after.natives = store.natives
  wrapper : ∀ id wrapper, store.wrappers.get? id = some wrapper →
    ∃ refs, after.wrappers.get? id = some { wrapper with refs := refs }
  wellFormed : store.WellFormed → after.WellFormed

namespace Store.Recounts

variable {store after : Store}

theorem refl (store : Store) : store.Recounts store :=
  ⟨rfl, fun _ wrapper found => ⟨wrapper.refs, found⟩, id⟩

theorem of_recounted {id refs : Nat} {wrapper : Wrapper}
    (found : store.wrappers.get? id = some wrapper)
    (ordinary : wrapper.data.kind ≠ .platform ∧ wrapper.data.kind ≠ .device) :
    store.Recounts (store.recounted id { wrapper with refs := refs }) := by
  refine ⟨rfl, ?_, fun formed => formed.recounted found ordinary⟩
  intro other wrapper' found'
  rw [recounted, Ledger.get?_set]
  by_cases equal : id = other
  · subst equal
    obtain rfl := Option.some.inj (found.symm.trans found')
    exact ⟨refs, if_pos rfl⟩
  · rw [if_neg equal]
    exact ⟨wrapper'.refs, found'⟩

theorem behind (recounts : store.Recounts after) {kind : ObjectKind} {handle : Handle kind}
    {native : NativeHandle} (behind : store.Behind handle native) : after.Behind handle native := by
  obtain ⟨wrapper, found, isKind, isNative⟩ := behind
  obtain ⟨refs, found'⟩ := recounts.wrapper _ wrapper found
  exact ⟨_, found', isKind, isNative⟩

theorem leads (recounts : store.Recounts after) {program : ProgramHandle} {native : NativeHandle}
    {binary : ProgramBinary} (leads : store.Leads program native binary) :
    after.Leads program native binary := by
  obtain ⟨behind, live⟩ := leads
  rw [Leads, recounts.natives]
  exact ⟨recounts.behind behind, live⟩

end Store.Recounts

/-- The entry points that are called before a program is taken further. -/
def EntryPoint.Prepares (entryPoint : EntryPoint) : Prop :=
  entryPoint = .programCreate ∨ entryPoint = .programRetain ∨ entryPoint = .programRelease ∨
    entryPoint = .programNumDevices ∨ entryPoint = .programDevices

/-- Taking the importer's reference to the wrapper of a program fails where the wrapper is not live
or where that has been told to fail.  The reference that the backend has taken is then dropped. -/
theorem ends_takeReference {wrapper : ProgramHandle} {number : Nat}
    (isNumber : provider.table.simulator = number) :
    Ends (takeReferenceIfNeeded provider wrapper programRetain programRelease) host
      (fun _ after =>
        (host.simulator number).store.Recounts (after.simulator number).store ∧
          Did EntryPoint.Prepares (host.simulator number) (after.simulator number))
      (fun e after => (∃ cause, e = .native cause) ∧
        ((host.simulator number).failures.get? .programRetain ≠ none ∨
          ¬ (host.simulator number).store.HasWrapper wrapper) ∧
        (host.simulator number).store.Spares (after.simulator number).store ∧
        Did EntryPoint.Prepares (host.simulator number) (after.simulator number)) := by
  subst isNumber
  let before := host.simulator provider.table.simulator
  unfold takeReferenceIfNeeded
  split
  · have retains : Ends (programRetain wrapper) before
        (fun _ after => before.store.Recounts after.store ∧ Did EntryPoint.Prepares before after)
        (fun _ after => (before.failures.get? .programRetain ≠ none ∨
            ¬ before.store.HasWrapper wrapper) ∧
          after.store = before.store ∧ Did EntryPoint.Prepares before after) := by
      have answers : Answers (.programRetain wrapper) (programRetain wrapper) before _ _ :=
        (Works.onStore Store.ends_retain).answers
      refine Ends.imp answers ?_ ?_
      · rintro _ after ⟨recorded, -, found, live, isKind, equal⟩
        refine ⟨?_, recorded.did (Or.inr (Or.inl rfl))⟩
        rw [equal]
        exact Store.Recounts.of_recounted live (by rw [isKind]; decide)
      · rintro e after ⟨recorded, ⟨injected, unchanged⟩ | ⟨-, unchanged, -, dead⟩⟩
        · refine ⟨Or.inl ?_, unchanged, recorded.did (Or.inr (Or.inl rfl))⟩
          exact fun unset => Option.some_ne_none e (injected.symm.trans unset)
        · exact ⟨Or.inr dead, unchanged, recorded.did (Or.inr (Or.inl rfl))⟩
    unfold takeReference
    rw [ends_bind, ends_attempt]
    refine retains.call.imp (fun _ _ ended => ended) ?_
    rintro e middle ⟨cause, unchanged, did⟩
    have releases : ∀ sim : Simulator, Ends (programRelease wrapper) sim
        (fun _ after => sim.store.Spares after.store ∧ Did EntryPoint.Prepares sim after)
        (fun _ after => sim.store.Spares after.store ∧ Did EntryPoint.Prepares sim after) := by
      intro sim
      refine ends_stateAfter.mpr ?_
      rw [IsCall.of_done (.programRelease wrapper) rfl sim]
      exact ⟨spares_programRelease wrapper sim,
        (recorded_answer (.programRelease wrapper)).did (Or.inr (Or.inr (Or.inl rfl)))⟩
    have spared : ∀ after : Host,
        ((middle.simulator provider.table.simulator).store.Spares
            (after.simulator provider.table.simulator).store ∧
          Did EntryPoint.Prepares (middle.simulator provider.table.simulator)
            (after.simulator provider.table.simulator)) →
        before.store.Spares (after.simulator provider.table.simulator).store ∧
          Did EntryPoint.Prepares before (after.simulator provider.table.simulator) := by
      rintro after ⟨spares, did'⟩
      rw [unchanged] at spares
      exact ⟨spares, did.trans did'⟩
    dsimp only
    rw [ends_bind, ends_attempt]
    refine (releases _).call.imp ?_ ?_
    · exact fun _ after ended => ⟨⟨e, rfl⟩, cause, spared after ended⟩
    · intro _ after ended
      dsimp only
      rw [ends_bind, ends_notify]
      exact ⟨⟨e, rfl⟩, cause, spared after ended⟩
  · exact ⟨.refl _, .refl _⟩

/-! ## Listing devices -/

section Listing

variable {wrapper : ProgramHandle} {native : NativeHandle} {binary : ProgramBinary}
  {table : Table} {number : Nat}

/-- A table that delegates nothing reports as many devices as the program has. -/
theorem ends_programNumDevices
    (leads : (host.simulator table.simulator).store.Leads wrapper native binary) :
    Ends (table.programNumDevices wrapper) host
      (fun count after => (table.delegation = none → count = binary.devices.length) ∧
        (after.simulator table.simulator).store = (host.simulator table.simulator).store ∧
        Did EntryPoint.Prepares (host.simulator table.simulator) (after.simulator table.simulator))
      (fun _ after =>
        ((host.simulator table.simulator).failures.get? .programNumDevices ≠ none ∨
          UInt32.size ≤ binary.devices.length) ∧
        (after.simulator table.simulator).store = (host.simulator table.simulator).store ∧
        Did EntryPoint.Prepares (host.simulator table.simulator)
          (after.simulator table.simulator)) := by
  have allowed : EntryPoint.Prepares .programNumDevices :=
    Or.inr (Or.inr (Or.inr (Or.inl rfl)))
  have counts : Ends (programNumDevices wrapper) (host.simulator table.simulator)
      (fun count after => count = binary.devices.length ∧
        after.store = (host.simulator table.simulator).store ∧
        Did EntryPoint.Prepares (host.simulator table.simulator) after)
      (fun _ after => ((host.simulator table.simulator).failures.get? .programNumDevices ≠ none ∨
          UInt32.size ≤ binary.devices.length) ∧
        after.store = (host.simulator table.simulator).store ∧
        Did EntryPoint.Prepares (host.simulator table.simulator) after) := by
    refine Ends.imp answers_programNumDevices ?_ ?_
    · rintro count after ⟨recorded, -, unchanged, native', binary', leads', rfl, -⟩
      obtain ⟨-, rfl⟩ := leads.unique leads'
      exact ⟨rfl, unchanged, recorded.did allowed⟩
    · rintro e after ⟨recorded, ⟨injected, unchanged⟩ | ⟨-, unchanged, many⟩⟩
      · refine ⟨Or.inl ?_, unchanged, recorded.did allowed⟩
        exact fun unset => Option.some_ne_none e (injected.symm.trans unset)
      · exact ⟨Or.inr (many native binary leads), unchanged, recorded.did allowed⟩
  refine counts.call.bind ?_
  rintro count after ⟨rfl, unchanged, did⟩
  refine ⟨?_, unchanged, did⟩
  intro direct
  rw [direct]
  rfl

/-- The devices of a live program are listed in order, as wrappers that may be new. -/
theorem ends_programDevices {sim : Simulator} (leads : sim.store.Leads wrapper native binary) :
    Ends (programDevices wrapper) sim
      (fun handles after => sim.store.Quiet after.store ∧
        after.store.Lists binary.devices handles ∧
        (∀ device ∈ binary.devices, sim.store.HasNative .device device) ∧
        Did EntryPoint.Prepares sim after)
      (fun _ after => (sim.failures.get? .programDevices ≠ none ∨
          ∃ device ∈ binary.devices, ¬ sim.store.HasNative .device device) ∧
        sim.store.Quiet after.store ∧ Did EntryPoint.Prepares sim after) := by
  have allowed : EntryPoint.Prepares .programDevices :=
    Or.inr (Or.inr (Or.inr (Or.inr rfl)))
  refine Ends.imp answers_programDevices ?_ ?_
  · rintro handles after ⟨recorded, -, quiet, native', binary', leads', listed, live⟩
    obtain ⟨-, rfl⟩ := leads.unique leads'
    exact ⟨quiet, listed, live, recorded.did allowed⟩
  · rintro e after ⟨recorded, ⟨injected, unchanged⟩ | ⟨-, quiet, dead⟩⟩
    · refine ⟨Or.inl ?_, ?_, recorded.did allowed⟩
      · exact fun unset => Option.some_ne_none e (injected.symm.trans unset)
      · rw [unchanged]
        exact .refl _
    · exact ⟨Or.inr (dead native binary leads), quiet, recorded.did allowed⟩

/-- The wrappers of the devices of a program are listed in order, unless the table reports another
number of them or there are too many for it to report, a device is gone or a call has been told to
fail. -/
theorem ends_listDevices (isNumber : table.simulator = number)
    (leads : (host.simulator number).store.Leads wrapper native binary) :
    Ends (listDevices table wrapper) host
      (fun handles after =>
        (host.simulator number).store.Quiet (after.simulator number).store ∧
          (after.simulator number).store.Lists binary.devices handles ∧
          (∀ device ∈ binary.devices, (host.simulator number).store.HasNative .device device) ∧
          Did EntryPoint.Prepares (host.simulator number) (after.simulator number))
      (fun e after => (∃ cause, e = .native cause) ∧
        ((host.simulator number).failures.get? .programNumDevices ≠ none ∨
          (host.simulator number).failures.get? .programDevices ≠ none ∨
          table.delegation ≠ none ∨
          (∃ device ∈ binary.devices, ¬ (host.simulator number).store.HasNative .device device) ∨
          UInt32.size ≤ binary.devices.length) ∧
        (host.simulator number).store.Quiet (after.simulator number).store ∧
        Did EntryPoint.Prepares (host.simulator number) (after.simulator number)) := by
  subst isNumber
  refine (ends_native.mpr ((ends_programNumDevices leads).imp (fun _ _ ended => ended) ?_)).bind ?_
  · rintro e after ⟨causes, unchanged, did⟩
    refine ⟨⟨e, rfl⟩, ?_, ?_, did⟩
    · exact causes.imp id fun many => Or.inr (Or.inr (Or.inr many))
    · rw [unchanged]
      exact .refl _
  rintro count middle ⟨known, unchanged, did⟩
  rw [← unchanged] at leads ⊢
  refine (ends_native.mpr ((ends_programDevices leads).call.imp (fun _ _ ended => ended) ?_)).bind ?_
  · rintro e after ⟨injected | gone, quiet, did'⟩
    · refine ⟨⟨e, rfl⟩, Or.inr (Or.inl ?_), quiet, did.trans did'⟩
      exact fun unset => injected (did.unset unset)
    · exact ⟨⟨e, rfl⟩, Or.inr (Or.inr (Or.inr (Or.inl gone))), quiet, did.trans did'⟩
  rintro handles after ⟨quiet, listed, live, did'⟩
  split
  · exact ⟨quiet, listed, live, did.trans did'⟩
  · rename_i different
    refine ⟨⟨_, rfl⟩, Or.inr (Or.inr (Or.inl ?_)), quiet, did.trans did'⟩
    intro direct
    rw [known direct] at different
    exact different (List.Forall₂.length_eq listed).symm

end Listing

/-! ## Finding or making devices -/

/-- A platform that is found or made has the provider and the handle that were asked for. -/
theorem ends_findOrMakePlatform {ε : Type} {handle : PlatformHandle} {pending : List Device} :
    Ends (findOrMakePlatform provider handle pending : EStateM ε Host Platform) host
      (fun platform after => (platform.handle = handle ∧ platform.provider = provider) ∧
        after.simulators = host.simulators)
      (fun _ _ => False) := by
  apply ends_findOrMakePlatform_of
  · intro platform found
    obtain ⟨isProvider, isHandle⟩ :=
      WeakCaches.own_of_get? (WeakCaches.upgrade?_eq_some.mp found).1
    exact ⟨⟨isHandle, isProvider⟩, rfl⟩
  · exact fun _ => ⟨⟨rfl, rfl⟩, rfl⟩

/-- A device that is found or made has the platform and the handle that were asked for. -/
theorem ends_findOrMakeDevice {ε : Type} {platform : Platform} {handle : DeviceHandle}
    {pending : List Device} :
    Ends (findOrMakeDevice platform handle pending : EStateM ε Host Device) host
      (fun device after => (device.handle = handle ∧ device.platform = platform) ∧
        after.simulators = host.simulators)
      (fun _ _ => False) := by
  apply ends_findOrMakeDevice_of
  · intro device found
    obtain ⟨isPlatform, isHandle⟩ :=
      WeakCaches.own_of_get? (WeakCaches.upgrade?_eq_some.mp found).1
    exact ⟨⟨isHandle, isPlatform⟩, rfl⟩
  · exact fun _ => ⟨⟨rfl, rfl⟩, rfl⟩

/-- The platform of a device, if the device has one, is gone. -/
def Store.Stranded (store : Store) (device : DeviceHandle) : Prop :=
  ∀ native platform refs, store.Behind device native →
    store.natives.get? native = some ⟨.device platform, refs⟩ →
    ¬ store.HasNative .platform platform

theorem Store.Behind.grows {store after : Store} {wraps : ObjectKind → Prop} {kind : ObjectKind}
    {handle : Handle kind} {native : NativeHandle} (behind : store.Behind handle native)
    (grows : Store.Grows wraps store after) (formed : store.WellFormed) :
    after.Behind handle native := by
  rcases behind with ⟨wrapper, found, isKind, isNative⟩
  exact ⟨wrapper, grows.get?_wrappers formed found, isKind, isNative⟩

/-- A device that is stranded after nothing but wrapping was stranded before. -/
theorem Store.Stranded.of_quiet {store after : Store} {device : DeviceHandle}
    (stranded : after.Stranded device) (quiet : store.Quiet after) (formed : store.WellFormed) :
    store.Stranded device := by
  intro native platform refs behind found live
  rw [← quiet.natives] at found
  rw [HasNative, ← quiet.natives] at live
  exact stranded native platform refs (behind.grows quiet.grows formed) found live

/-- One device is managed, unless its platform is gone or asking for it has been told to fail. -/
theorem ends_manageDevice {pending : List Device} {handle : DeviceHandle} {number : Nat}
    (isNumber : provider.table.simulator = number) :
    Ends (manageDevice provider pending handle) host
      (fun device after => device.handle = handle ∧
        (host.simulator number).store.Quiet (after.simulator number).store ∧
        Recorded (.devicePlatform handle) (host.simulator number) (after.simulator number))
      (fun e after => (∃ cause, e = .native cause) ∧
        ((host.simulator number).failures.get? .devicePlatform ≠ none ∨
          (host.simulator number).store.Stranded handle) ∧
        (after.simulator number).store = (host.simulator number).store ∧
        Recorded (.devicePlatform handle) (host.simulator number) (after.simulator number)) := by
  subst isNumber
  let before := host.simulator provider.table.simulator
  have asks : Ends (devicePlatform handle) before
      (fun _ after => before.store.Quiet after.store ∧
        Recorded (.devicePlatform handle) before after)
      (fun _ after => (before.failures.get? .devicePlatform ≠ none ∨
          before.store.Stranded handle) ∧
        after.store = before.store ∧ Recorded (.devicePlatform handle) before after) := by
    refine Ends.imp answers_devicePlatform ?_ ?_
    · exact fun _ _ ended => ⟨ended.2.2.1, ended.1⟩
    · rintro e after ⟨recorded, ⟨injected, unchanged⟩ | ⟨-, unchanged, stranded⟩⟩
      · refine ⟨Or.inl ?_, unchanged, recorded⟩
        exact fun unset => Option.some_ne_none e (injected.symm.trans unset)
      · exact ⟨Or.inr stranded, unchanged, recorded⟩
  refine (ends_native.mpr (asks.call.imp (fun _ _ ended => ended) ?_)).bind ?_
  · exact fun e _ ended => ⟨⟨e, rfl⟩, ended⟩
  rintro platformHandle middle ⟨quiet, recorded⟩
  refine (ends_findOrMakePlatform.imp (fun _ _ ended => ended) fun _ _ => False.elim).bind ?_
  rintro platform later ⟨-, same⟩
  refine ends_findOrMakeDevice.imp ?_ fun _ _ => False.elim
  rintro device after ⟨⟨isHandle, -⟩, same'⟩
  have equal : after.simulator provider.table.simulator =
      middle.simulator provider.table.simulator := by
    rw [Host.simulator, same', same]
    rfl
  rw [equal]
  exact ⟨isHandle, quiet, recorded⟩

/-- The devices are managed in order, unless the platform of one is gone or asking for it has been
told to fail. -/
theorem ends_manageDevices {pending : List Device} {handles : List DeviceHandle} {number : Nat}
    (isNumber : provider.table.simulator = number)
    (formed : (host.simulator number).store.WellFormed) :
    Ends (manageDevices provider pending handles) host
      (fun devices after => devices.map Device.handle = handles ∧
        (host.simulator number).store.Quiet (after.simulator number).store ∧
        Did (fun entryPoint => entryPoint = .devicePlatform) (host.simulator number)
          (after.simulator number))
      (fun e after => (∃ cause, e = .native cause) ∧
        ((host.simulator number).failures.get? .devicePlatform ≠ none ∨
          ∃ handle ∈ handles, (host.simulator number).store.Stranded handle) ∧
        (host.simulator number).store.Quiet (after.simulator number).store ∧
        Did (fun entryPoint => entryPoint = .devicePlatform) (host.simulator number)
          (after.simulator number) ∧
        (host.simulator number).callCount .devicePlatform <
          (after.simulator number).callCount .devicePlatform) := by
  induction handles generalizing pending host with
  | nil => exact ⟨rfl, .refl _, .refl _⟩
  | cons handle handles ih =>
      have counts : ∀ {before after : Simulator}, Recorded (.devicePlatform handle) before after →
          after.callCount .devicePlatform = before.callCount .devicePlatform + 1 :=
        Recorded.callCount
      refine ((ends_manageDevice isNumber).imp (fun _ _ ended => ended) ?_).bind ?_
      · rintro e after ⟨isNative, cause, unchanged, recorded⟩
        refine ⟨isNative, ?_, ?_, recorded.did rfl, ?_⟩
        · exact cause.imp_right fun stranded => ⟨handle, List.mem_cons_self, stranded⟩
        · rw [unchanged]
          exact .refl _
        · rw [counts recorded]
          exact Nat.lt_succ_self _
      rintro device middle ⟨isHandle, quiet, recorded⟩
      have did : Did (fun entryPoint => entryPoint = .devicePlatform) (host.simulator number)
          (middle.simulator number) := recorded.did rfl
      refine ((ih (quiet.grows.wellFormed formed)).imp (fun _ _ ended => ended) ?_).bind ?_
      · rintro e after ⟨isNative, cause, quiet', did', more⟩
        refine ⟨isNative, ?_, quiet.trans quiet', did.trans did', ?_⟩
        · rcases cause with injected | ⟨other, member, stranded⟩
          · exact Or.inl fun unset => injected (did.unset unset)
          · exact Or.inr ⟨other, List.mem_cons_of_mem handle member,
              stranded.of_quiet quiet formed⟩
        · rw [counts recorded] at more
          exact Nat.lt_of_succ_lt more
      · rintro devices after ⟨areHandles, quiet', did'⟩
        refine ⟨?_, quiet.trans quiet', did.trans did'⟩
        rw [List.map_cons, isHandle, areHandles]

end ComputeImport
