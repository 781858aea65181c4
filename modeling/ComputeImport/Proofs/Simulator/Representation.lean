import ComputeImport.Proofs.Simulator.Placing
import ComputeImport.Proofs.Store.Programs

/-!
# The representation of a backend

What holds of the tables of a backend after any history, whatever has failed in it: numbers are
given out once, objects and their wrappers agree on their kind, a program has a stage for each of
its devices and for nothing else, and the wrappers of platforms and devices stay as they are.  What
is read off an object whose kind has been looked up is therefore always there.
-/

namespace ComputeImport

namespace Store

variable {store after : Store} {wraps : ObjectKind → Prop} {id : Nat}

/-! ## Numbers of wrappers -/

/-- A number that has been given out names a wrapper. -/
theorem Growth.wrapper_named (growth : Growth wraps store after) (above : store.nextWrapper ≤ id)
    (below : id < after.nextWrapper) : after.wrappers.get? id ≠ none := by
  cases growth with
  | created | recorded => exact absurd below (Nat.not_lt.mpr above)
  | wrapped | platform | device =>
      obtain rfl := Nat.le_antisymm (Nat.le_of_lt_succ below) above
      simp [Store.wrapped]

theorem Grows.wrapper_named (grows : Grows wraps store after) (formed : store.WellFormed)
    (above : store.nextWrapper ≤ id) (below : id < after.nextWrapper) :
    after.wrappers.get? id ≠ none := by
  induction grows with
  | refl => exact absurd below (Nat.not_lt.mpr above)
  | @tail middle after steps growth ih =>
      by_cases early : id < middle.nextWrapper
      · obtain ⟨wrapper, found⟩ := Option.ne_none_iff_exists'.mp (ih early)
        simp [growth.get?_wrappers (Grows.wellFormed steps formed) found]
      · exact growth.wrapper_named (Nat.not_lt.mp early) below

/-! ## Reading an object whose kind has been looked up -/

/-- A step that reads and finds what it needs brings something back. -/
theorem reads_of_ends {α : Type} {step : StoreM α} {known : α → Prop} {found : Prop}
    {error : NativeError}
    (ends : Ends step store (fun a after => after = store ∧ known a)
      (fun e after => after = store ∧ e = error ∧ ¬ found)) (holds : found) :
    ∃ a, step store = .ok a store := by
  cases outcome : step store with
  | ok a after => exact ⟨a, by rw [(ends.of_ok outcome).1]⟩
  | error e after => exact absurd holds (ends.of_error outcome).2.2

/-- After an object or a wrapper has been looked up by its kind, what is known of it is read off
without a failure. -/
structure Readable (store : Store) : Prop where
  platform : ∀ handle data, native .platform handle store = .ok data store →
    ∃ reported, nativePlatform handle store = .ok reported store
  device : ∀ handle data, native .device handle store = .ok data store →
    ∃ platform, nativeDevice handle store = .ok platform store
  queue : ∀ handle data, native .queue handle store = .ok data store →
    ∃ device, nativeQueue handle store = .ok device store
  program : ∀ handle data, native .program handle store = .ok data store →
    ∃ binary, nativeProgram handle store = .ok binary store
  kernel : ∀ handle data, native .kernel handle store = .ok data store →
    ∃ program, nativeKernel handle store = .ok program store
  record : ∀ (queue : QueueHandle) found, wrapper queue store = .ok found store →
    ∃ record, queueRecord queue store = .ok record store
  /-- The object behind a wrapper, while it is there, is found under the kind of the wrapper. -/
  behind : ∀ {kind : ObjectKind} (handle : Handle kind) found,
    wrapper handle store = .ok found store → store.natives.get? found.native ≠ none →
    ∃ data, native kind found.native store = .ok data store

theorem WellFormed.readable (formed : store.WellFormed) : store.Readable := by
  have live : ∀ {kind : ObjectKind} {handle : NativeHandle} {data : NativeData},
      native kind handle store = .ok data store → store.HasNative kind handle :=
    fun looked => (ends_native.of_ok looked).2
  constructor
  case platform => exact fun _ _ looked => reads_of_ends ends_nativePlatform (live looked)
  case device => exact fun _ _ looked => reads_of_ends ends_nativeDevice (live looked)
  case queue => exact fun _ _ looked => reads_of_ends ends_nativeQueue (live looked)
  case program => exact fun _ _ looked => reads_of_ends ends_nativeProgram (live looked)
  case kernel => exact fun _ _ looked => reads_of_ends ends_nativeKernel (live looked)
  case record =>
    intro queue found looked
    obtain ⟨-, known, isQueue⟩ := ends_wrapper.of_ok looked
    exact reads_of_ends ends_queueRecord ⟨found, known, isQueue⟩
  case behind =>
    intro kind handle found looked alive
    obtain ⟨-, known, isKind⟩ := ends_wrapper.of_ok looked
    obtain ⟨object, there⟩ := Option.ne_none_iff_exists'.mp alive
    have kinds := formed.kind_eq handle.id found object known there
    have isLive : store.HasNative kind found.native := ⟨object, there, kinds.trans isKind⟩
    exact reads_of_ends ends_native isLive

end Store

namespace Simulator

variable {sim : Simulator}

/-- A number that has been given out names a wrapper. -/
theorem Moves.wrapper_named {operation : Operation} {after : Store} {id : Nat}
    (moves : Moves sim operation after) (formed : sim.store.WellFormed)
    (above : sim.store.nextWrapper ≤ id) (below : id < after.nextWrapper) :
    after.wrappers.get? id ≠ none := by
  cases moves with
  | grown _ grows => exact grows.wrapper_named formed above below
  | recounted | taken => exact absurd below (Nat.not_lt.mpr above)
  | discarded =>
      rw [Store.nextWrapper_discarded] at below
      exact absurd below (Nat.not_lt.mpr above)
  | returned =>
      rw [Store.nextWrapper_dropped] at below
      exact absurd below (Nat.not_lt.mpr above)

/-- The number of a wrapper that has ended is not used again. -/
theorem ended_replay {id : Nat} (formed : sim.store.WellFormed)
    (below : id < sim.store.nextWrapper) (dead : sim.store.wrappers.get? id = none)
    (history : List Operation) : (sim.replay history).store.wrappers.get? id = none := by
  rw [Option.eq_none_iff_forall_ne_some]
  intro wrapper found
  obtain ⟨refs, known⟩ := wrapper_replay formed below found
  rw [dead] at known
  contradiction

/-! ## What a backend represents -/

/-- Numbers are given out once: each operation gives out those from the counter on, to what it
makes, and what has gone does not come back under its number. -/
structure Numbers (sim : Simulator) : Prop where
  native_lt : ∀ later handle, sim.store.natives.get? handle ≠ none →
    handle.raw < (sim.replay later).store.nextNative
  wrapper_lt : ∀ later id, sim.store.wrappers.get? id ≠ none →
    id < (sim.replay later).store.nextWrapper
  native_issued : ∀ operation (handle : NativeHandle), sim.store.nextNative ≤ handle.raw →
    (handle.raw < (sim.after operation).store.nextNative ↔
      (sim.after operation).store.natives.get? handle ≠ none)
  wrapper_issued : ∀ operation id, sim.store.nextWrapper ≤ id →
    (id < (sim.after operation).store.nextWrapper ↔
      (sim.after operation).store.wrappers.get? id ≠ none)
  native_gone : ∀ first second handle, sim.store.natives.get? handle ≠ none →
    (sim.replay first).store.natives.get? handle = none →
    (sim.replay (first ++ second)).store.natives.get? handle = none
  wrapper_gone : ∀ first second id, sim.store.wrappers.get? id ≠ none →
    (sim.replay first).store.wrappers.get? id = none →
    (sim.replay (first ++ second)).store.wrappers.get? id = none

/-- A cache holds the live wrappers of its kind, one for each native object, and they stay as they
are: none of them owns what it wraps, and each has one reference. -/
structure Holds (data : WrapperData) (cache : Store → Ledger NativeHandle (Handle data.kind))
    (sim : Simulator) : Prop where
  injective : ∀ native other handle, (cache sim.store).get? native = some handle →
    (cache sim.store).get? other = some handle → native = other
  live_iff : ∀ handle, sim.store.HasWrapper handle ↔
    ∃ native, (cache sim.store).get? native = some handle
  kept : ∀ later native handle, (cache sim.store).get? native = some handle →
    (cache (sim.replay later).store).get? native = some handle ∧
      (sim.replay later).store.wrappers.get? handle.id = some ⟨data, native, 1, false⟩

/-- What holds of a backend, and of all that is made of it later. -/
structure Represents (sim : Simulator) : Prop where
  numbers : sim.Numbers
  /-- A native object that is live has the kind of its wrappers. -/
  kinds : ∀ id wrapper object, sim.store.wrappers.get? id = some wrapper →
    sim.store.natives.get? wrapper.native = some object → object.data.kind = wrapper.data.kind
  /-- The stages of a program are those of its devices. -/
  stages : ∀ program binary refs, sim.store.natives.get? program = some ⟨.program binary, refs⟩ →
    ∀ device, device ∈ binary.stages.keys ↔ device ∈ binary.devices
  platforms : Holds .platform Store.platformWrappers sim
  devices : Holds .device Store.deviceWrappers sim
  /-- The device that a queue was wrapped for is wrapped. -/
  targets : ∀ id wrapper record, sim.store.wrappers.get? id = some wrapper →
    wrapper.data = .queue record → sim.store.HasWrapper record.device
  /-- The stage of a device of a program is never one that is assumed. -/
  recorded : ∀ program binary refs, sim.store.natives.get? program = some ⟨.program binary, refs⟩ →
    ∀ device ∈ binary.devices, binary.stages.get? device = some (binary.stageOf device)
  readable : sim.store.Readable

theorem numbers_of_wellFormed (formed : sim.store.WellFormed) : sim.Numbers := by
  have native_lt : ∀ {sim : Simulator} {handle : NativeHandle}, sim.store.WellFormed →
      sim.store.natives.get? handle ≠ none → handle.raw < sim.store.nextNative := by
    intro sim handle formed alive
    obtain ⟨object, found⟩ := Option.ne_none_iff_exists'.mp alive
    exact formed.native_lt handle object found
  have wrapper_lt : ∀ {sim : Simulator} {id : Nat}, sim.store.WellFormed →
      sim.store.wrappers.get? id ≠ none → id < sim.store.nextWrapper := by
    intro sim id formed alive
    obtain ⟨wrapper, found⟩ := Option.ne_none_iff_exists'.mp alive
    exact formed.wrapper_lt id wrapper found
  constructor
  case native_lt =>
    exact fun later _ alive =>
      Nat.lt_of_lt_of_le (native_lt formed alive) (nextNative_le_replay formed later)
  case wrapper_lt =>
    exact fun later _ alive =>
      Nat.lt_of_lt_of_le (wrapper_lt formed alive) (nextWrapper_le_replay formed later)
  case native_issued =>
    intro operation handle above
    exact ⟨(moves_after formed operation).named formed above,
      native_lt (wellFormed_after formed operation)⟩
  case wrapper_issued =>
    intro operation id above
    exact ⟨(moves_after formed operation).wrapper_named formed above,
      wrapper_lt (wellFormed_after formed operation)⟩
  case native_gone =>
    intro first second handle alive dead
    have below := Nat.lt_of_lt_of_le (native_lt formed alive) (nextNative_le_replay formed first)
    rw [replay_append]
    exact gone_replay (wellFormed_replay formed first) below dead second
  case wrapper_gone =>
    intro first second id alive dead
    have below := Nat.lt_of_lt_of_le (wrapper_lt formed alive) (nextWrapper_le_replay formed first)
    rw [replay_append]
    exact ended_replay (wellFormed_replay formed first) below dead second

/-- A cache of wrappers that are remembered holds what it should, now and later. -/
theorem holds_of_caches {data : WrapperData}
    {cache : Store → Ledger NativeHandle (Handle data.kind)}
    (caches : ∀ later, Store.Caches data (sim.replay later).store.wrappers
      (cache (sim.replay later).store))
    (remembered : ∀ later native handle, (cache sim.store).get? native = some handle →
      (cache (sim.replay later).store).get? native = some handle) : Holds data cache sim := by
  have now := caches []
  constructor
  case injective =>
    intro native other handle known known'
    have found := (now.wrapped native handle known).symm.trans (now.wrapped other handle known')
    exact congrArg Wrapper.native (Option.some.inj found)
  case live_iff =>
    intro handle
    constructor
    · rintro ⟨wrapper, found, isKind⟩
      exact ⟨wrapper.native, now.known handle.id wrapper found isKind⟩
    · rintro ⟨native, known⟩
      exact ⟨_, now.wrapped native handle known, rfl⟩
  case kept =>
    intro later native handle known
    have later_known := remembered later native handle known
    exact ⟨later_known, (caches later).wrapped native handle later_known⟩

theorem represents_of_wellFormed (formed : sim.store.WellFormed) : sim.Represents := by
  have tidy : ∀ program binary refs,
      sim.store.natives.get? program = some ⟨.program binary, refs⟩ → binary.IsTidy :=
    fun program binary refs found => formed.tidy program _ found binary rfl
  constructor
  case numbers => exact numbers_of_wellFormed formed
  case kinds => exact formed.kind_eq
  case stages =>
    intro program binary refs found device
    rw [← Ledger.contains_iff_mem_keys]
    exact tidy program binary refs found device
  case platforms =>
    exact holds_of_caches (fun later => (wellFormed_replay formed later).platforms)
      fun later => (remembers_replay formed later).platforms
  case devices =>
    exact holds_of_caches (fun later => (wellFormed_replay formed later).devices)
      fun later => (remembers_replay formed later).devices
  case targets =>
    intro id wrapper record found isQueue
    exact formed.targeted id wrapper record found (by rw [isQueue]; rfl)
  case recorded =>
    exact fun program binary refs found device => (tidy program binary refs found).stage_known
  case readable => exact formed.readable

/-- Whatever is done with a backend, and whatever fails, its tables represent what they should. -/
theorem represents_replay (config : SimulatorConfig) (history : List Operation) :
    (({ config } : Simulator).replay history).Represents :=
  represents_of_wellFormed (wellFormed_replay Store.wellFormed_empty history)

end Simulator

end ComputeImport
