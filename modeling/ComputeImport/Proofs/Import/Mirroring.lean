import ComputeImport.Import.Export
import ComputeImport.Import.Kernel
import ComputeImport.Import.Program
import ComputeImport.Proofs.Import.Outcome
import ComputeImport.Proofs.Managed.Exchange
import ComputeImport.Proofs.Simulator.Lacking

/-!
# Imports through tables in exchange

At one host some backends lack the entry points for chosen devices, and at the other the backends in
their place are hidden behind tables that delegate.  An import at the second host mirrors the import
at the first: it brings back the same up to the exchange of the tables, or fails with the same
error, and leaves hosts that are alike again.
-/

namespace ComputeImport

open Simulator

variable {ε α β : Type} {hidden : List Nat}

/-! ## Caches -/

/-- What is entered in the second caches is what is entered in the first, changed, for the owner that
takes the place of its owner. -/
def WeakCaches.Changed {ι κ γ : Type} [DecidableEq ι] [DecidableEq κ] {owner : γ → ι} {key : γ → κ}
    (exchange : ι → ι) (change : γ → γ) (all all' : WeakCaches owner key) : Prop :=
  ∀ of handle, all'.get? (exchange of) handle = (all.get? of handle).map change

namespace WeakCaches.Changed

variable {ι κ γ : Type} [DecidableEq ι] [DecidableEq κ] [DecidableEq γ] {owner : γ → ι} {key : γ → κ}
  {exchange : ι → ι} {change : γ → γ} {all all' : WeakCaches owner key}

/-- The same living object is found, or none. -/
theorem upgrade? (changed : all.Changed exchange change all') (injective : change.Injective)
    (living : List γ) (of : ι) (handle : κ) :
    all'.upgrade? (living.map change) (exchange of) handle =
      (all.upgrade? living of handle).map change := by
  rw [WeakCaches.upgrade?, WeakCaches.upgrade?, changed of handle]
  cases all.get? of handle with
  | none => rfl
  | some a =>
      rw [Option.map_some, Option.filter_some, Option.filter_some]
      simp only [List.mem_map_of_injective injective]
      split <;> rfl

/-- An object is entered on both sides. -/
theorem insert (changed : all.Changed exchange change all') (injective : change.Injective)
    (exchange_injective : exchange.Injective) (ownerOf : ∀ a, owner (change a) = exchange (owner a))
    (keyOf : ∀ a, key (change a) = key a) (living : List γ) (a : γ) :
    (all.insert living a).Changed exchange change (all'.insert (living.map change) (change a)) := by
  intro of handle
  simp only [get?_insert, ownerOf, keyOf, exchange_injective.eq_iff]
  split
  · split
    · rfl
    · exact changed.upgrade? injective living of handle
  · exact changed of handle

end WeakCaches.Changed

/-- What is entered for tables is entered for those in exchange, too. -/
structure Caches.Alike (hidden : List Nat) (caches caches' : Caches) : Prop where
  platforms : caches.platforms.Changed (Provider.exchange hidden)
    (Platform.via (Provider.exchange hidden)) caches'.platforms
  devices : caches.devices.Changed (Platform.via (Provider.exchange hidden))
    (Device.via (Provider.exchange hidden)) caches'.devices

theorem Caches.alike_empty : Caches.Alike hidden {} {} :=
  ⟨fun _ _ => rfl, fun _ _ => rfl⟩

/-- The backends in `hidden` lack the entry points for chosen devices at the first host, and have
been called by other entry points only at the second.  What is held there came through tables in
exchange.  The journals may differ. -/
structure Host.Alike (hidden : List Nat) (host host' : Host) : Prop where
  lacks : ∀ number ∈ hidden, (host.simulator number).Lacks (host'.simulator number)
  same : ∀ number ∉ hidden, host.simulator number = host'.simulator number
  keys : host.simulators.keys = host'.simulators.keys
  known : ∀ number ∈ hidden, number ∈ host.simulators.keys ∧ number < host.simulators.size
  held : host.held.mapValues (Managed.via (Provider.exchange hidden)) = host'.held
  caches : host.caches.Alike hidden host'.caches
  nextIdentity : host.nextIdentity = host'.nextIdentity
  kernelLists : host.kernelLists = host'.kernelLists
  output : host.output = host'.output

/-- A table does not delegate to the backends in `hidden`. -/
def Table.IsPlain (hidden : List Nat) (table : Table) : Prop :=
  table.simulator ∈ hidden → table.delegation = none

/-- The tables of a registry do not delegate to the backends in `hidden`. -/
def Registry.IsPlain (hidden : List Nat) (registry : Registry) : Prop :=
  ∀ backend provider, registry.providers.get? backend = some provider →
    provider.table.IsPlain hidden

/-- A table that does not delegate is exchanged for one that does, and hides nothing else. -/
theorem Table.IsPlain.exchange {table : Table} (plain : table.IsPlain hidden)
    (isHidden : table.simulator ∈ hidden) :
    (table.exchange hidden).delegation = some {} := by
  rw [exchange_of_mem isHidden, plain isHidden]
  exact Equiv.swap_apply_left _ _

/-- The registration with its table exchanged. -/
def Registration.exchange (hidden : List Nat) (registration : Registration) : Registration :=
  { registration with table := registration.table.exchange hidden }

theorem Registry.IsPlain.provider {registry : Registry} (plain : registry.IsPlain hidden)
    {backend : Backend} {provider : Provider} (found : registry.provider? backend = some provider) :
    provider.table.IsPlain hidden := by
  unfold provider? at found
  split at found
  · exact plain backend provider found
  · exact absurd found.symm (Option.some_ne_none provider)

theorem Registry.isPlain_empty (options : BuildOptions) :
    Registry.IsPlain hidden { options } := by
  intro backend provider found
  exact absurd found.symm (Option.some_ne_none provider)

theorem Registry.IsPlain.register {registry : Registry} (plain : registry.IsPlain hidden)
    {provider : Provider} (isPlain : provider.table.IsPlain hidden) :
    (registry.register provider).IsPlain hidden := by
  intro backend other found
  rw [Registry.register, Ledger.get?_set] at found
  split at found
  · exact Option.some.inj found ▸ isPlain
  · exact plain backend other found

/-- From hosts that are alike, the second import does what the first does, and brings back what the
first brings back, changed. -/
abbrev Mirrors (hidden : List Nat) (change : α → α) (program program' : EStateM ε Host α) : Prop :=
  Mirrored (Host.Alike hidden) change program program'

namespace Host.Alike

variable {host host' : Host}

theorem notify (alike : host.Alike hidden host') (notice notice' : Notice) :
    (host.notify notice).Alike hidden (host'.notify notice') :=
  ⟨alike.lacks, alike.same, alike.keys, alike.known, alike.held, alike.caches, alike.nextIdentity,
    alike.kernelLists, alike.output⟩

theorem platforms (alike : host.Alike hidden host') :
    host'.platforms = host.platforms.map (Platform.via (Provider.exchange hidden)) := by
  unfold Host.platforms
  rw [← alike.held, Ledger.values_mapValues, List.flatMap_map, List.map_flatMap]
  exact congrArg (List.flatMap · _) (funext Managed.platforms_via)

theorem devices (alike : host.Alike hidden host') :
    host'.devices = host.devices.map (Device.via (Provider.exchange hidden)) := by
  unfold Host.devices
  rw [← alike.held, Ledger.values_mapValues, List.flatMap_map, List.map_flatMap]
  exact congrArg (List.flatMap · _) (funext Managed.devices_via)

theorem size (alike : host.Alike hidden host') : host.simulators.size = host'.simulators.size := by
  simpa [Ledger.keys, Ledger.size] using congrArg List.length alike.keys

theorem configName (alike : host.Alike hidden host') (number : Nat) :
    (host'.simulator number).config.name = (host.simulator number).config.name := by
  by_cases isHidden : number ∈ hidden
  · rw [(alike.lacks number isHidden).config]
    rfl
  · rw [alike.same number isHidden]

/-- Tables in exchange give themselves one name. -/
theorem name (alike : host.Alike hidden host') (table : Table) :
    (table.exchange hidden).name host' = table.name host := by
  unfold Table.name
  rw [Table.exchange_simulator, alike.configName]

/-- What is known of the numbers of backends stays known when more are used. -/
theorem known_set (alike : host.Alike hidden host') (number : Nat) (after : Simulator) :
    ∀ other ∈ hidden, other ∈ (host.simulators.set number after).keys ∧
      other < (host.simulators.set number after).size := by
  intro other isHidden
  obtain ⟨known, below⟩ := alike.known other isHidden
  have size : ∀ ledger : Ledger Nat Simulator, ledger.size = ledger.keys.length := fun ledger =>
    (List.length_map _).symm
  rw [size, Ledger.keys_set] at *
  split
  · exact ⟨known, below⟩
  · exact ⟨List.mem_append_left _ known, by rw [List.length_append]; omega⟩

/-- Both backends of a number take a step. -/
theorem advance (alike : host.Alike hidden host') {number : Nat} {after after' : Simulator}
    (lacks : number ∈ hidden → after.Lacks after') (same : number ∉ hidden → after = after') :
    (host.advance number after).Alike hidden (host'.advance number after') where
  lacks other isHidden := by
    simp only [Host.simulator_advance]
    split
    · rename_i isNumber
      exact lacks (isNumber ▸ isHidden)
    · exact alike.lacks other isHidden
  same other visible := by
    simp only [Host.simulator_advance]
    split
    · rename_i isNumber
      exact same (isNumber ▸ visible)
    · exact alike.same other visible
  keys := by
    simp only [Host.advance, Ledger.keys_set, alike.keys]
  known := alike.known_set number after
  held := alike.held
  caches := alike.caches
  nextIdentity := alike.nextIdentity
  kernelLists := alike.kernelLists
  output := alike.output

/-- Only the backend that lacks the entry points takes a step. -/
theorem advance_lacking (alike : host.Alike hidden host') {number : Nat} {after : Simulator}
    (isHidden : number ∈ hidden) (lacks : after.Lacks (host'.simulator number)) :
    (host.advance number after).Alike hidden host' where
  lacks other isHidden' := by
    rw [Host.simulator_advance]
    split
    · rename_i isNumber
      exact isNumber ▸ lacks
    · exact alike.lacks other isHidden'
  same other visible := by
    have different : number ≠ other := by
      rintro rfl
      exact visible isHidden
    rw [Host.simulator_advance, if_neg different]
    exact alike.same other visible
  keys := by
    change (host.simulators.set number after).keys = host'.simulators.keys
    rw [Ledger.keys_set, if_pos (alike.known number isHidden).1, alike.keys]
  known := alike.known_set number after
  held := alike.held
  caches := alike.caches
  nextIdentity := alike.nextIdentity
  kernelLists := alike.kernelLists
  output := alike.output

end Host.Alike

namespace Mirrors

/-! ## The parts of an import -/

theorem notify (notice notice' : Notice) :
    Mirrors hidden id (ComputeImport.notify notice : EStateM ε Host Unit)
      (ComputeImport.notify notice') :=
  fun _ _ alike => ⟨rfl, alike.notify notice notice'⟩

theorem freshIdentity : Mirrors hidden id (freshIdentity : EStateM ε Host Nat) freshIdentity := by
  intro host host' alike
  refine ⟨alike.nextIdentity, ?_⟩
  exact { alike with nextIdentity := congrArg (· + 1) alike.nextIdentity }

/-! ### Native calls -/

theorem onSimulator {number : Nat} {step : Native α} (blind : number ∈ hidden → Blind step) :
    Mirrors hidden id (onSimulator number step) (ComputeImport.onSimulator number step) := by
  intro host host' alike
  unfold Agree
  simp only [ends_onSimulator]
  by_cases isHidden : number ∈ hidden
  · refine (blind isHidden _ _ (alike.lacks number isHidden)).imp ?_ ?_
    · rintro a after a' after' ⟨rfl, lacks⟩
      exact ⟨rfl, alike.advance (fun _ => lacks) fun visible => absurd isHidden visible⟩
    · rintro e after e' after' ⟨rfl, lacks⟩
      exact ⟨rfl, alike.advance (fun _ => lacks) fun visible => absurd isHidden visible⟩
  · rw [alike.same number isHidden]
    refine (Agree.self step _).imp ?_ ?_
    · rintro a after a' after' ⟨rfl, rfl⟩
      exact ⟨rfl, alike.advance (fun known => absurd known isHidden) fun _ => rfl⟩
    · rintro e after e' after' ⟨rfl, rfl⟩
      exact ⟨rfl, alike.advance (fun known => absurd known isHidden) fun _ => rfl⟩

section Table

variable (table : Table)

theorem call {step : Native α} (blind : Blind step) :
    Mirrors hidden id (table.call step) ((table.exchange hidden).call step) := by
  unfold Table.call
  rw [Table.exchange_simulator]
  exact onSimulator fun _ => blind

/-- A call for chosen devices is refused by the backend that lacks them as by a table that
delegates. -/
theorem callFor {table : Table} {entryPoint : String} {step : Native α}
    (plain : table.IsPlain hidden)
    (refused : ∀ {sim sim' : Simulator}, sim.Lacks sim' → Ends step sim (fun _ _ => False)
      fun e after => e = .unsupportedFeature entryPoint ∧ after.Lacks sim') :
    Mirrors hidden id (table.callFor entryPoint step)
      ((table.exchange hidden).callFor entryPoint step) := by
  unfold Table.callFor
  by_cases isHidden : table.simulator ∈ hidden
  · rw [plain isHidden, plain.exchange isHidden]
    intro host host' alike
    refine ends_call.mpr ((refused (alike.lacks _ isHidden)).imp (fun _ _ => False.elim) ?_)
    rintro e after ⟨rfl, lacks⟩
    exact ⟨rfl, alike.advance_lacking isHidden lacks⟩
  · rw [Table.exchange_of_notMem isHidden]
    cases table.delegation with
    | some _ => exact .throw _
    | none => exact onSimulator fun known => absurd known isHidden

theorem programNumDevices (program : ProgramHandle) :
    Mirrors hidden id (table.programNumDevices program)
      ((table.exchange hidden).programNumDevices program) := by
  unfold Table.programNumDevices
  rw [Table.exchange_reportedDevices]
  exact (call table (.perform rfl (.onStore _))).bind fun number => .pure _

/-- Any call through a table is mirrored by the call through the table in exchange. -/
theorem answer {table : Table} (plain : table.IsPlain hidden) (asked : Call) :
    Mirrors hidden id (table.answer asked) ((table.exchange hidden).answer asked) := by
  cases asked with
  | programCompileFor program devices options =>
      exact (callFor plain fun lacks => lacks.refused rfl).bind fun _ => .pure _
  | programBuildFor program devices options =>
      exact (callFor plain fun lacks => lacks.refused rfl).bind fun _ => .pure _
  | programLinkFor context devices programs options =>
      exact (callFor plain fun lacks => lacks.refused rfl).bind fun _ => .pure _
  | programNumDevices program => exact (programNumDevices table program).bind fun _ => .pure _
  | _ => exact call table (Blind.answer _ rfl)

end Table

section Native

variable {change : α → α}

theorem native {call call' : TableM α} (mirrors : Mirrors hidden change call call') :
    Mirrors hidden change (ComputeImport.native call) (ComputeImport.native call') := by
  intro host host' alike
  unfold Agree
  simp only [ends_native]
  refine (mirrors host host' alike).imp (fun _ _ _ _ => id) ?_
  rintro e after e' after' ⟨rfl, alike⟩
  exact ⟨rfl, alike⟩

theorem attempt {call call' : TableM α} (mirrors : Mirrors hidden change call call') :
    Mirrors hidden (Except.map change) (ComputeImport.attempt call)
      (ComputeImport.attempt call') := by
  intro host host' alike
  unfold Agree
  simp only [ends_attempt]
  rcases (mirrors host host' alike).cases with
    ⟨a, after, a', after', outcome, outcome', rfl, alike⟩ |
    ⟨e, after, e', after', outcome, outcome', rfl, alike⟩
  · unfold Ends
    rw [outcome, outcome']
    exact ⟨rfl, alike⟩
  · unfold Ends
    rw [outcome, outcome']
    exact ⟨rfl, alike⟩

theorem nativeCall (table : Table) {step : Native α} (blind : Blind step) :
    Mirrors hidden id (ComputeImport.native (table.call step))
      (ComputeImport.native ((table.exchange hidden).call step)) :=
  native (call table blind)

theorem timed {operation : String} {body body' : ImportM α}
    (mirrors : Mirrors hidden change body body') :
    Mirrors hidden change (ComputeImport.timed operation body)
      (ComputeImport.timed operation body') := by
  intro host host' alike
  unfold Agree Ends ComputeImport.timed
  rcases (mirrors host host' alike).cases with
    ⟨a, after, a', after', outcome, outcome', rfl, alike'⟩ |
    ⟨e, after, e', after', outcome, outcome', rfl, alike'⟩
  · rw [outcome, outcome', alike.output]
    dsimp only
    split
    · exact ⟨rfl, alike'.notify _ _⟩
    · exact ⟨rfl, alike'⟩
  · rw [outcome, outcome', alike.output]
    dsimp only
    split
    · exact ⟨rfl, alike'.notify _ _⟩
    · exact ⟨rfl, alike'⟩

end Native

end Mirrors

/-! ## The end of an object -/

namespace Host.Alike

variable {host host' : Host}

theorem releaseWith (alike : host.Alike hidden host') {kind : ObjectKind} (provider : Provider)
    (handle : Handle kind) {release : Handle kind → Native Unit} (blind : Blind (release handle)) :
    (host.releaseWith provider handle release).Alike hidden
      (host'.releaseWith (provider.exchange hidden) handle release) := by
  have mirrors : Mirrors hidden id (provider.table.call (release handle))
      ((provider.exchange hidden).table.call (release handle)) := .call provider.table blind
  unfold Host.releaseWith
  rcases (mirrors host host' alike).cases with
    ⟨a, after, a', after', outcome, outcome', -, alike⟩ |
    ⟨e, after, e', after', outcome, outcome', -, alike⟩
  · rw [outcome, outcome']
    exact alike
  · rw [outcome, outcome']
    exact alike.notify _ _

theorem releaseProgram (alike : host.Alike hidden host') (program : ProgramRef) :
    (program.release host).Alike hidden
      ((program.via (Provider.exchange hidden)).release host') := by
  have blind : Blind (Simulator.programRelease program.handle) := .perform rfl (.onStore _)
  have mirrors : Mirrors hidden id
      (program.provider.table.call (Simulator.programRelease program.handle))
      ((program.via (Provider.exchange hidden)).provider.table.call
        (Simulator.programRelease (program.via (Provider.exchange hidden)).handle)) :=
    .call program.provider.table blind
  unfold ProgramRef.release
  rcases (mirrors host host' alike).cases with
    ⟨a, after, a', after', outcome, outcome', -, alike⟩ |
    ⟨e, after, e', after', outcome, outcome', -, alike⟩
  · rw [outcome, outcome']
    exact alike.notify _ _
  · rw [outcome, outcome']
    exact alike.notify _ _

theorem releasePrograms (alike : host.Alike hidden host') (programs : List ProgramRef) :
    (releasePrograms programs host).Alike hidden
      (releasePrograms (programs.map (ProgramRef.via (Provider.exchange hidden))) host') := by
  induction programs generalizing host host' with
  | nil => exact alike
  | cons program programs ih => exact ih (alike.releaseProgram program)

theorem releaseOwner (alike : host.Alike hidden host') (owner : Owner) :
    (owner.release host).Alike hidden
      ((owner.via (Provider.exchange hidden)).release host') := by
  cases owner with
  | image ended => exact alike.releasePrograms (ended.program :: ended.superseded)
  | context ended => exact alike.releaseWith _ _ (.perform rfl (.onStore _))
  | queue ended => exact alike.releaseWith _ _ (.perform rfl (.onStore _))
  | event ended => exact alike.releaseWith _ _ (.perform rfl (.onStore _))
  | kernel ended => exact alike.releaseWith _ _ (.perform rfl (.onStore _))

/-- The objects that end with a value are released at both hosts. -/
theorem letGo (alike : host.Alike hidden host') (value : Managed) :
    (host.letGo value).Alike hidden
      (host'.letGo (value.via (Provider.exchange hidden))) := by
  have releaseAll : ∀ owners : List Owner, ∀ {host host' : Host}, host.Alike hidden host' →
      (owners.foldl (fun host owner => owner.release host) host).Alike hidden
        ((owners.map (Owner.via (Provider.exchange hidden))).foldl
          (fun host owner => owner.release host) host') := by
    intro owners
    induction owners with
    | nil => exact id
    | cons owner owners ih => exact fun alike => ih (alike.releaseOwner owner)
  unfold Host.letGo
  rw [← alike.held, Ledger.values_mapValues, Managed.ending_via Provider.exchange_injective]
  exact releaseAll _ alike

end Host.Alike

namespace Mirrors

/-! ## Platforms, devices, contexts, queues and events -/

section Objects

variable (provider : Provider)

theorem orRelease {change : α → α} {body body' : ImportM α} (programs : List ProgramRef)
    (mirrors : Mirrors hidden change body body') :
    Mirrors hidden change (ComputeImport.orRelease programs body)
      (ComputeImport.orRelease (programs.map (ProgramRef.via (Provider.exchange hidden)))
        body') := by
  intro host host' alike
  unfold Agree
  simp only [ends_orRelease]
  refine (mirrors host host' alike).imp (fun _ _ _ _ => id) ?_
  rintro e after e' after' ⟨rfl, alike⟩
  exact ⟨rfl, alike.releasePrograms programs⟩

/-- The same platform is found, or none at either host. -/
theorem findOrMakePlatform (handle : PlatformHandle) (pending : List Device) :
    Mirrors hidden (Platform.via (Provider.exchange hidden))
      (findOrMakePlatform provider handle pending : EStateM ε Host Platform)
      (ComputeImport.findOrMakePlatform (provider.exchange hidden) handle
        (pending.map (Device.via (Provider.exchange hidden)))) := by
  refine Parallel.get_bind fun host host' alike => ?_
  have living : host'.platforms ++
      (pending.map (Device.via (Provider.exchange hidden))).map Device.platform =
        (host.platforms ++ pending.map Device.platform).map
          (Platform.via (Provider.exchange hidden)) := by
    rw [alike.platforms, List.map_append, List.map_map, List.map_map]
    rfl
  have injective : (Platform.via (Provider.exchange hidden)).Injective :=
    Platform.via_injective Provider.exchange_injective
  dsimp only
  rw [living, alike.caches.platforms.upgrade? injective]
  generalize host.platforms ++ pending.map Device.platform = all
  have enters : ∀ platform : Platform, Mirrors hidden id
      (modify (Host.enterPlatform all platform) : EStateM ε Host Unit)
      (modify (Host.enterPlatform (all.map (Platform.via (Provider.exchange hidden)))
        (platform.via (Provider.exchange hidden)))) := by
    intro platform host host' alike
    have entered := alike.caches.platforms.insert injective Provider.exchange_injective
      (fun _ => rfl) (fun _ => rfl) all platform
    exact ⟨rfl, { alike with caches := ⟨entered, alike.caches.devices⟩ }⟩
  cases host.caches.platforms.upgrade? all provider handle with
  | some platform => exact Mirrored.pure platform
  | none =>
      exact freshIdentity.bind fun identity => (enters ⟨identity, handle, provider⟩).bind fun _ =>
        (notify _ _).bind fun _ => .pure (Platform.mk identity handle provider)

/-- The same device is found, or none at either host. -/
theorem findOrMakeDevice (platform : Platform) (handle : DeviceHandle) (pending : List Device) :
    Mirrors hidden (Device.via (Provider.exchange hidden))
      (findOrMakeDevice platform handle pending : EStateM ε Host Device)
      (ComputeImport.findOrMakeDevice (platform.via (Provider.exchange hidden)) handle
        (pending.map (Device.via (Provider.exchange hidden)))) := by
  refine Parallel.get_bind fun host host' alike => ?_
  have living : host'.devices ++ pending.map (Device.via (Provider.exchange hidden)) =
      (host.devices ++ pending).map (Device.via (Provider.exchange hidden)) := by
    rw [alike.devices, List.map_append]
  have injective : (Device.via (Provider.exchange hidden)).Injective :=
    Device.via_injective Provider.exchange_injective
  dsimp only
  rw [living, alike.caches.devices.upgrade? injective]
  generalize host.devices ++ pending = all
  have enters : ∀ device : Device, Mirrors hidden id
      (modify (Host.enterDevice all device) : EStateM ε Host Unit)
      (modify (Host.enterDevice (all.map (Device.via (Provider.exchange hidden)))
        (device.via (Provider.exchange hidden)))) := by
    intro device host host' alike
    have entered := alike.caches.devices.insert injective
      (Platform.via_injective Provider.exchange_injective) (fun _ => rfl) (fun _ => rfl) all device
    exact ⟨rfl, { alike with caches := ⟨alike.caches.platforms, entered⟩ }⟩
  cases host.caches.devices.upgrade? all platform handle with
  | some device => exact Mirrored.pure device
  | none =>
      exact freshIdentity.bind fun identity => (enters ⟨identity, handle, platform⟩).bind fun _ =>
        (notify _ _).bind fun _ => .pure (Device.mk identity handle platform)

theorem manageDevice (pending : List Device) (handle : DeviceHandle) :
    Mirrors hidden (Device.via (Provider.exchange hidden)) (manageDevice provider pending handle)
      (ComputeImport.manageDevice (provider.exchange hidden)
        (pending.map (Device.via (Provider.exchange hidden))) handle) :=
  (nativeCall _ (.perform rfl (.onStore _))).bind fun platformHandle =>
    (findOrMakePlatform provider platformHandle pending).bind fun platform =>
      findOrMakeDevice platform handle pending

theorem manageDevices (pending : List Device) (handles : List DeviceHandle) :
    Mirrors hidden (List.map (Device.via (Provider.exchange hidden)))
      (manageDevices provider pending handles)
      (ComputeImport.manageDevices (provider.exchange hidden)
        (pending.map (Device.via (Provider.exchange hidden))) handles) := by
  induction handles generalizing pending with
  | nil => exact .pure []
  | cons handle handles ih =>
      refine (manageDevice provider pending handle).bind fun device => ?_
      have more := ih (pending ++ [device])
      rw [List.map_append] at more
      exact more.bind fun devices => .pure (device :: devices)

theorem takeReferenceIfNeeded {kind : ObjectKind} (handle : Handle kind)
    {retain release : Handle kind → Native Unit} (retains : Blind (retain handle))
    (releases : Blind (release handle)) :
    Mirrors hidden id (takeReferenceIfNeeded provider handle retain release)
      (ComputeImport.takeReferenceIfNeeded (provider.exchange hidden) handle retain release) := by
  have takes : Mirrors hidden id (takeReference provider.table handle retain release)
      (takeReference (provider.table.exchange hidden) handle retain release) := by
    refine (attempt (call _ retains)).bind fun retained => ?_
    cases retained with
    | ok _ => exact .pure ()
    | error e =>
        refine (attempt (call _ releases)).bind fun released => ?_
        cases released with
        | ok _ => exact .throw _
        | error e' => exact (notify _ _).bind fun _ => .throw _
  unfold ComputeImport.takeReferenceIfNeeded
  change Mirrors hidden id (if provider.demands.needsRetain = true then _ else _)
    (if provider.demands.needsRetain = true then _ else _)
  split
  · exact takes
  · exact .pure ()

theorem deviceOfQueue (queue : QueueHandle) :
    Mirrors hidden (Device.via (Provider.exchange hidden)) (deviceOfQueue provider queue)
      (ComputeImport.deviceOfQueue (provider.exchange hidden) queue) := by
  have finds : Mirrors hidden (Device.via (Provider.exchange hidden))
      (do
        let handle ← ComputeImport.native (provider.table.call (Simulator.queueDevice queue))
        ComputeImport.manageDevice provider [] handle)
      (do
        let handle ← ComputeImport.native
          ((provider.exchange hidden).table.call (Simulator.queueDevice queue))
        ComputeImport.manageDevice (provider.exchange hidden) [] handle) :=
    (nativeCall _ (.perform rfl (.onStore _))).bind fun handle => manageDevice provider [] handle
  have blind : Blind (Simulator.queueRelease queue) := .perform rfl (.onStore _)
  have releases : Mirrors hidden id (provider.table.call (Simulator.queueRelease queue))
      ((provider.exchange hidden).table.call (Simulator.queueRelease queue)) :=
    .call provider.table blind
  intro host host' alike
  unfold Agree
  simp only [ends_deviceOfQueue_iff]
  unfold Ends
  rcases (finds host host' alike).cases with
    ⟨a, after, a', after', outcome, outcome', ended⟩ |
    ⟨e, after, e', after', outcome, outcome', rfl, alike⟩
  · rw [outcome, outcome']
    exact ended
  · rw [outcome, outcome']
    dsimp only
    rcases (releases after after' alike).cases with
      ⟨a, last, a', last', released, released', -, alike⟩ |
      ⟨e, last, e', last', released, released', -, alike⟩
    · rw [released, released']
      exact ⟨rfl, alike⟩
    · rw [released, released']
      exact ⟨rfl, alike.notify _ _⟩

end Objects

section Imports

variable (registry : Registry)

/-- The same table is resolved, or none. -/
theorem resolve_found (backend : Backend) :
    Parallel (Host.Alike hidden) (registry.resolve backend)
      ((registry.via (Provider.exchange hidden)).resolve backend)
      fun provider provider' => provider.exchange hidden = provider' ∧
        registry.provider? backend = some provider := by
  have found : (registry.via (Provider.exchange hidden)).provider? backend =
      (registry.provider? backend).map (Provider.exchange hidden) := by
    unfold Registry.provider?
    split
    · exact Ledger.get?_mapValues _ _ _
    · rfl
  unfold Registry.resolve
  rw [found]
  cases registry.provider? backend with
  | none => exact Parallel.throw
  | some provider =>
      refine Parallel.get_bind fun host host' alike => ?_
      exact Parallel.bind (notify _ _) fun _ _ _ => Parallel.pure ⟨rfl, rfl⟩

theorem resolve (backend : Backend) :
    Mirrors hidden (Provider.exchange hidden) (registry.resolve backend)
      ((registry.via (Provider.exchange hidden)).resolve backend) :=
  (resolve_found registry backend).imp fun _ _ => And.left

theorem makePlatform (handle : NativeHandle) (backend : Backend) :
    Mirrors hidden (Platform.via (Provider.exchange hidden))
      (makePlatform registry handle backend)
      (ComputeImport.makePlatform (registry.via (Provider.exchange hidden)) handle backend) :=
  (notify _ _).bind fun _ => (resolve registry backend).bind fun provider =>
    (nativeCall _ (.perform rfl (.onStore _))).bind fun wrapper =>
      findOrMakePlatform provider wrapper []

theorem makeDevice (handle : NativeHandle) (backend : Backend) :
    Mirrors hidden (Device.via (Provider.exchange hidden)) (makeDevice registry handle backend)
      (ComputeImport.makeDevice (registry.via (Provider.exchange hidden)) handle backend) :=
  (notify _ _).bind fun _ => (resolve registry backend).bind fun provider =>
    (nativeCall _ (.perform rfl (.onStore _))).bind fun wrapper =>
      manageDevice provider [] wrapper

theorem makeContext (handle : NativeHandle) (backend : Backend) :
    Mirrors hidden (Context.via (Provider.exchange hidden)) (makeContext registry handle backend)
      (ComputeImport.makeContext (registry.via (Provider.exchange hidden)) handle backend) :=
  (notify _ _).bind fun _ => (resolve registry backend).bind fun provider =>
    (nativeCall _ (.contextCreate _ _ _)).bind fun wrapper =>
      (takeReferenceIfNeeded provider wrapper (.perform rfl (.onStore _))
        (.perform rfl (.onStore _))).bind fun _ =>
          freshIdentity.bind fun identity => .pure (Context.mk identity wrapper provider)

theorem makeEvent (handle : NativeHandle) (context : Context) (keeps : Bool) (backend : Backend) :
    Mirrors hidden (Event.via (Provider.exchange hidden))
      (makeEvent registry handle context keeps backend)
      (ComputeImport.makeEvent (registry.via (Provider.exchange hidden)) handle
        (context.via (Provider.exchange hidden)) keeps backend) :=
  (notify _ _).bind fun _ => (resolve registry backend).bind fun provider =>
    (nativeCall _ (.eventCreate _ _ _)).bind fun wrapper =>
      (takeReferenceIfNeeded provider wrapper (.perform rfl (.onStore _))
        (.perform rfl (.onStore _))).bind fun _ =>
          freshIdentity.bind fun identity => .pure (Event.mk identity wrapper context provider)

theorem makeQueue (handle : NativeHandle) (descriptor : Int32) (context : Context)
    (device : Option Device) (keeps : Bool) (properties : QueueProperties) (backend : Backend) :
    Mirrors hidden (Queue.via (Provider.exchange hidden))
      (makeQueue registry handle descriptor context device keeps properties backend)
      (ComputeImport.makeQueue (registry.via (Provider.exchange hidden)) handle descriptor
        (context.via (Provider.exchange hidden))
        (device.map (Device.via (Provider.exchange hidden))) keeps properties backend) := by
  refine (notify _ _).bind fun _ => ?_
  cases properties.computeIndex.isSome with
  | true => exact .throw_bind
  | false =>
      refine (resolve registry backend).bind fun provider => ?_
      have made : ∀ wrapper device, Mirrors hidden (Queue.via (Provider.exchange hidden))
          (ComputeImport.freshIdentity >>= fun identity => Pure.pure
            (Queue.mk identity wrapper context device properties provider) : ImportM Queue)
          (ComputeImport.freshIdentity >>= fun identity =>
            Pure.pure (Queue.mk identity wrapper (context.via (Provider.exchange hidden))
              (device.via (Provider.exchange hidden)) properties (provider.exchange hidden))) :=
        fun wrapper device => freshIdentity.bind fun identity =>
          .pure (Queue.mk identity wrapper context device properties provider)
      have takes : ∀ wrapper : QueueHandle, Mirrors hidden id
          (ComputeImport.takeReferenceIfNeeded provider wrapper Simulator.queueRetain
            Simulator.queueRelease)
          (ComputeImport.takeReferenceIfNeeded (provider.exchange hidden) wrapper
            Simulator.queueRetain Simulator.queueRelease) :=
        fun wrapper => takeReferenceIfNeeded provider wrapper (.perform rfl (.onStore _))
          (.perform rfl (.onStore _))
      cases device with
      | some device =>
          exact (nativeCall _ (.queueCreate _ _ _ _)).bind fun wrapper =>
            (takes wrapper).bind fun _ => Mirrored.bind (.pure device) (made wrapper)
      | none =>
          exact (nativeCall _ (.queueCreate _ _ _ _)).bind fun wrapper =>
            (takes wrapper).bind fun _ => (deviceOfQueue provider wrapper).bind (made wrapper)

end Imports

/-! ## Programs -/

section Programs

variable {provider : Provider}

/-- Where the one entry point is refused at both hosts, the other is called at both. -/
theorem withFallback {operation : BuildOperation} {device : DeviceHandle}
    {perDevice perDevice' whole whole' : TableM α} (first : Mirrors hidden id perDevice perDevice')
    (second : Mirrors hidden id whole whole') :
    Mirrors hidden id (withFallback operation device perDevice whole)
      (ComputeImport.withFallback operation device perDevice' whole') := by
  refine (attempt first).bind fun result => ?_
  cases result with
  | ok a => exact .pure a
  | error e =>
      dsimp only [Except.map]
      split
      · refine (notify _ _).bind fun _ => (attempt second).bind fun result => ?_
        cases result with
        | ok a => exact .pure a
        | error e => exact .throw _
      · exact .throw _

variable (plain : provider.table.IsPlain hidden) (context : Context) (options : BuildOptions)
include plain

theorem compile (program : ProgramHandle) (device : DeviceHandle) :
    Mirrors hidden id (Builder.compile ⟨provider, context, options⟩ program device)
      (Builder.compile ⟨provider.exchange hidden, context.via (Provider.exchange hidden), options⟩
        program device) :=
  withFallback (callFor plain fun lacks => lacks.refused rfl) (call _ (.programCompile _ _ _))

theorem build (program : ProgramHandle) (device : DeviceHandle) :
    Mirrors hidden id (Builder.build ⟨provider, context, options⟩ program device)
      (Builder.build ⟨provider.exchange hidden, context.via (Provider.exchange hidden), options⟩
        program device) :=
  withFallback (callFor plain fun lacks => lacks.refused rfl) (call _ (.programBuild _ _ _))

theorem link (program : ProgramHandle) (device : DeviceHandle) :
    Mirrors hidden id (Builder.link ⟨provider, context, options⟩ program device)
      (Builder.link ⟨provider.exchange hidden, context.via (Provider.exchange hidden), options⟩
        program device) :=
  withFallback (callFor plain fun lacks => lacks.refused rfl) (call _ (.programLink _ _ _))

theorem advanceDevice (target : BundleState) (current : ProgramRef) (device : DeviceHandle) :
    Mirrors hidden (Option.map (ProgramRef.via (Provider.exchange hidden)))
      (Builder.advanceDevice ⟨provider, context, options⟩ target current device)
      (Builder.advanceDevice
        ⟨provider.exchange hidden, context.via (Provider.exchange hidden), options⟩ target
        (current.via (Provider.exchange hidden)) device) := by
  refine (nativeCall _ (.perform rfl (.onStore _))).bind fun discovered => ?_
  refine (notify _ _).bind fun _ => ?_
  dsimp only [id]
  cases discovered.plan target with
  | keep => exact .pure none
  | mismatch => exact .throw _
  | run operation =>
      cases operation with
      | compile =>
          exact (compile plain context options current.handle device).bind fun _ => .pure none
      | build =>
          exact (build plain context options current.handle device).bind fun _ => .pure none
      | link =>
          exact (link plain context options current.handle device).bind fun linked =>
            (notify _ _).bind fun _ => .pure (some (ProgramRef.mk linked provider))

/-- The program that is reached, and those that it replaced, through tables in exchange. -/
theorem advance (target : BundleState) (current : ProgramRef) (superseded : List ProgramRef)
    (devices : List DeviceHandle) :
    Parallel (Host.Alike hidden)
      (Builder.advance ⟨provider, context, options⟩ target current superseded devices)
      (Builder.advance ⟨provider.exchange hidden, context.via (Provider.exchange hidden), options⟩
        target (current.via (Provider.exchange hidden))
        (superseded.map (ProgramRef.via (Provider.exchange hidden))) devices)
      fun built built' => built'.current = built.current.via (Provider.exchange hidden) ∧
        built'.superseded = built.superseded.map (ProgramRef.via (Provider.exchange hidden)) := by
  induction devices generalizing current superseded with
  | nil => exact Parallel.pure ⟨rfl, rfl⟩
  | cons device devices ih =>
      have taken := orRelease (superseded ++ [current])
        (advanceDevice plain context options target current device)
      rw [List.map_append] at taken
      refine Parallel.bind taken ?_
      rintro replacement _ rfl
      cases replacement with
      | none => exact ih current superseded
      | some linked =>
          have more := ih linked (superseded ++ [current])
          rw [List.map_append] at more
          exact more

omit plain in
theorem listDevices (table : Table) (program : ProgramHandle) :
    Mirrors hidden id (listDevices table program)
      (ComputeImport.listDevices (table.exchange hidden) program) := by
  refine (native (programNumDevices table program)).bind fun number => ?_
  refine (nativeCall table (.perform rfl (.onStore _))).bind fun devices => ?_
  dsimp only [id]
  split
  · exact .pure devices
  · exact .throw _

omit plain in
theorem importProgram (registry : Registry) (plain : registry.IsPlain hidden)
    (handle : NativeHandle) (context : Context) (keeps : Bool) (target : BundleState)
    (backend : Backend) :
    Mirrors hidden (KernelBundle.via (Provider.exchange hidden))
      (importProgram registry handle context keeps target backend)
      (ComputeImport.importProgram (registry.via (Provider.exchange hidden)) handle
        (context.via (Provider.exchange hidden)) keeps target backend) := by
  refine (notify _ _).bind fun _ => timed ?_
  refine Parallel.bind (resolve_found registry backend) ?_
  rintro provider _ ⟨rfl, found⟩
  refine Mirrored.bind (nativeCall _ (.programCreate _ _ _)) fun wrapper => ?_
  refine Mirrored.bind (takeReferenceIfNeeded provider wrapper (.perform rfl (.onStore _))
    (.perform rfl (.onStore _))) fun _ => ?_
  refine Mirrored.bind (orRelease [⟨wrapper, provider⟩] (listDevices provider.table wrapper))
    fun handles => ?_
  refine Mirrored.bind (notify _ _) fun _ => ?_
  refine Parallel.bind (advance (plain.provider found) context registry.options target
    ⟨wrapper, provider⟩ [] handles) ?_
  rintro ⟨current, superseded⟩ ⟨_, _⟩ ⟨rfl, rfl⟩
  refine Mirrored.bind (orRelease (current :: superseded) (manageDevices provider [] handles))
    fun devices => ?_
  exact freshIdentity.bind fun identity => .pure
    (KernelBundle.mk context devices target
      [DeviceImage.mk identity current superseded devices target])

end Programs

/-! ## Kernels -/

theorem kernelProgram? (provider : Provider) (bundle : KernelBundle) :
    Mirrors hidden id (kernelProgram? provider bundle)
      (ComputeImport.kernelProgram? (provider.exchange hidden)
        (bundle.via (Provider.exchange hidden))) := by
  unfold ComputeImport.kernelProgram?
  change Mirrors hidden id (if provider.demands.kernelNeedsProgram = true then _ else _)
    (if provider.demands.kernelNeedsProgram = true then _ else _)
  split
  · unfold KernelBundle.via
    cases bundle.images with
    | nil => exact .throw _
    | cons image images =>
        cases images with
        | nil => exact .pure (some image.program.handle)
        | cons second images =>
            simp only [List.map_cons, List.length_cons, List.length_map]
            exact .throw _
  · exact .pure none

theorem importKernel (registry : Registry) (context : Context) (bundle : KernelBundle)
    (handle : NativeHandle) (keeps : Bool) (backend : Backend) :
    Mirrors hidden (Kernel.via (Provider.exchange hidden))
      (importKernel registry context bundle handle keeps backend)
      (ComputeImport.importKernel (registry.via (Provider.exchange hidden))
        (context.via (Provider.exchange hidden)) (bundle.via (Provider.exchange hidden)) handle
        keeps backend) := by
  refine (notify _ _).bind fun _ => timed ?_
  refine (resolve registry backend).bind fun provider => ?_
  rw [show (bundle.via (Provider.exchange hidden)).state = bundle.state from rfl]
  dsimp only
  split
  · exact .throw_bind
  · exact (kernelProgram? provider bundle).bind fun program =>
      (nativeCall _ (.kernelCreate _ _ _ _)).bind fun wrapper =>
        (takeReferenceIfNeeded provider wrapper (.perform rfl (.onStore _))
          (.perform rfl (.onStore _))).bind fun _ =>
            (notify _ _).bind fun _ => freshIdentity.bind fun identity =>
              .pure (Kernel.mk identity wrapper context provider bundle)

/-! ### The kernels of images -/

theorem kernelNames (image : DeviceImage) :
    Mirrors hidden id image.kernelNames
      (image.via (Provider.exchange hidden)).kernelNames := by
  refine Parallel.get_bind fun host host' alike => ?_
  rw [← alike.kernelLists, show (image.via (Provider.exchange hidden)).identity = image.identity
    from rfl]
  cases host.kernelLists.get? image.identity with
  | some names => exact Mirrored.pure names
  | none =>
      have noted : ∀ names, Mirrors hidden id
          (modify (fun host => { host with
              kernelLists := host.kernelLists.set image.identity names }) >>= fun _ =>
            Pure.pure names : ImportM (List String))
          (modify (fun host => { host with
              kernelLists := host.kernelLists.set image.identity names }) >>= fun _ =>
            Pure.pure names) := by
        intro names
        refine Parallel.bind (Parallel.modify fun host host' alike => ?_)
          fun _ _ _ => Mirrored.pure names
        exact { alike with
          kernelLists := congrArg (Ledger.set · image.identity names) alike.kernelLists }
      unfold DeviceImage.via
      cases image.state with
      | executable => exact (nativeCall _ (.perform rfl (.onStore _))).bind noted
      | input | object => exact noted []

theorem hasKernel (image : DeviceImage) (name : String) :
    Mirrors hidden id (image.hasKernel name)
      ((image.via (Provider.exchange hidden)).hasKernel name) :=
  (kernelNames image).bind fun _ => .pure _

theorem imageKernelNames (images : List DeviceImage) :
    Mirrors hidden id (imageKernelNames images)
      (ComputeImport.imageKernelNames
        (images.map (DeviceImage.via (Provider.exchange hidden)))) := by
  induction images with
  | nil => exact .pure []
  | cons image images ih =>
      exact (kernelNames image).bind fun names => ih.bind fun more => .pure (names ++ more)

theorem imagesHaveKernel (name : String) (images : List DeviceImage) :
    Mirrors hidden id (imagesHaveKernel name images)
      (ComputeImport.imagesHaveKernel name
        (images.map (DeviceImage.via (Provider.exchange hidden)))) := by
  induction images with
  | nil => exact .pure false
  | cons image images ih =>
      refine (hasKernel image name).bind fun has => ?_
      cases has with
      | true => exact .pure true
      | false => exact ih

theorem bundleKernelNames (bundle : KernelBundle) :
    Mirrors hidden id bundle.kernelNames (bundle.via (Provider.exchange hidden)).kernelNames :=
  (imageKernelNames bundle.images).bind fun names => .pure (sortNames names)

/-! ## Registries -/

/-- A new backend is none of those in `hidden`. -/
theorem setUp (config : SimulatorConfig) :
    Parallel (Host.Alike hidden) (setUp config : EStateM ε Host Nat) (ComputeImport.setUp config)
      fun number number' => number = number' ∧ number ∉ hidden := by
  intro host host' alike
  have visible : host.simulators.size ∉ hidden := fun isHidden =>
    absurd (alike.known _ isHidden).2 (Nat.lt_irrefl _)
  have added : (host.advance host.simulators.size { config }).Alike hidden
      (host'.advance host'.simulators.size { config }) := by
    rw [← alike.size]
    exact alike.advance (fun isHidden => absurd isHidden visible) fun _ => rfl
  exact ⟨⟨alike.size, visible⟩, added.lacks, added.same, added.keys, added.known, added.held,
    added.caches, added.nextIdentity, added.kernelLists, added.output⟩

theorem registerAll (registry : Registry) (registrations : List Registration)
    (plain : registry.IsPlain hidden)
    (plainAll : ∀ registration ∈ registrations, registration.table.IsPlain hidden) :
    Parallel (Host.Alike hidden) (registerAll registry registrations : EStateM ε Host Registry)
      (ComputeImport.registerAll (registry.via (Provider.exchange hidden))
        (registrations.map (Registration.exchange hidden)))
      fun made made' => made.via (Provider.exchange hidden) = made' ∧ made.IsPlain hidden := by
  induction registrations generalizing registry with
  | nil => exact Parallel.pure ⟨rfl, plain⟩
  | cons registration registrations ih =>
      rw [List.forall_mem_cons] at plainAll
      refine Parallel.bind freshIdentity ?_
      rintro identity _ rfl
      let provider : Provider :=
        { identity
          backend := registration.backend
          demands := registration.demands.getD registration.backend.demands
          table := registration.table }
      have registered : (registry.register provider).via (Provider.exchange hidden) =
          (registry.via (Provider.exchange hidden)).register (provider.exchange hidden) := by
        unfold Registry.register Registry.via
        rw [Ledger.mapValues_set]
        rfl
      have more := ih (registry.register provider) (plain.register plainAll.1) plainAll.2
      rw [registered] at more
      rw [show (registration.exchange hidden).backend = registration.backend from rfl]
      cases registration.backend.isLinked with
      | true => exact more
      | false => exact Parallel.bind (notify _ _) fun _ _ _ => more

/-- The tables of reference backends are exchanged for themselves. -/
theorem setUpReferences (backends : List Backend) :
    Parallel (Host.Alike hidden)
      (setUpReferences backends : EStateM ε Host (List Registration))
      (ComputeImport.setUpReferences backends)
      fun made made' => made.map (Registration.exchange hidden) = made' ∧
        ∀ registration ∈ made, registration.table.IsPlain hidden := by
  induction backends with
  | nil => exact Parallel.pure ⟨rfl, List.forall_mem_nil _⟩
  | cons backend backends ih =>
      unfold ComputeImport.setUpReferences
      cases SimulatorConfig.ofBackend? backend with
      | none => exact ih
      | some config =>
          refine Parallel.bind (setUp config) ?_
          rintro number _ ⟨rfl, visible⟩
          refine Parallel.bind ih ?_
          rintro made _ ⟨rfl, plain⟩
          refine Parallel.pure ⟨?_, ?_⟩
          · rw [List.map_cons]
            unfold Registration.exchange
            rw [Table.exchange_of_notMem visible]
          · rw [List.forall_mem_cons]
            exact ⟨fun isHidden => absurd isHidden visible, plain⟩

theorem referenceRegistry (environment : Text.Environment) :
    Parallel (Host.Alike hidden) (referenceRegistry environment : EStateM ε Host Registry)
      (ComputeImport.referenceRegistry environment)
      fun made made' => made.via (Provider.exchange hidden) = made' ∧ made.IsPlain hidden := by
  unfold ComputeImport.referenceRegistry
  generalize Backend.linked = backends
  refine Parallel.bind (setUpReferences backends) ?_
  rintro registrations _ ⟨rfl, plain⟩
  exact registerAll _ registrations (Registry.isPlain_empty _) plain

end Mirrors

end ComputeImport
