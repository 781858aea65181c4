import ComputeImport.Proofs.Import.Relocated
import ComputeImport.Proofs.Simulator.Placing

/-!
# One import from two hosts

An import that runs at two related stores brings back bundles of the same programs, or fails with
the same error.  Only names differ: those of the wrappers that it makes, and those of the native
programs that its links bring.
-/

namespace ComputeImport

open Simulator

/-! ## Failures and bundles, but for names -/

/-- The failure of an import whose table reports more or fewer devices of a program than it
lists. -/
def ImportError.miscounted (program : ProgramHandle) (number listed : Nat) : ImportError :=
  .native (.invalidValue s!"{program.text} reports {number} devices but lists {listed}")

section Names

/-! Which wrappers stand for the same programs and devices at two stores is left open here. -/

variable {programs programs' : ProgramHandle → ProgramHandle → Prop}
  {devices devices' : DeviceHandle → DeviceHandle → Prop} {base : Nat}

/-- Two failures are the same, but for the names of devices, and of programs that have been wrapped
from number `base` on. -/
inductive ImportError.Echoes (devices : DeviceHandle → DeviceHandle → Prop) (base : Nat) :
    ImportError → ImportError → Prop
  | plain {e : ImportError}
      (plain : ∀ operation device cause, e ≠ .buildFailed operation device cause) :
      Echoes devices base e e
  | buildFailed {operation : BuildOperation} {device device' : DeviceHandle} {cause : NativeError}
      (same : devices device device') :
      Echoes devices base (.buildFailed operation device cause)
        (.buildFailed operation device' cause)
  | miscounted {program program' : ProgramHandle} {number listed : Nat} (new : base ≤ program.id)
      (new' : base ≤ program'.id) :
      Echoes devices base (.miscounted program number listed) (.miscounted program' number listed)

/-- Two images are the same, but for names. -/
structure DeviceImage.Echoes (programs : ProgramHandle → ProgramHandle → Prop)
    (devices : DeviceHandle → DeviceHandle → Prop) (image image' : DeviceImage) : Prop where
  state : image'.state = image.state
  programs : List.Forall₂ (fun program program' => program'.provider = program.provider ∧
      programs program.handle program'.handle)
    (image.program :: image.superseded) (image'.program :: image'.superseded)
  devices : List.Forall₂ (fun device device' => devices device.handle device'.handle)
    image.devices image'.devices

/-- Two bundles are the same, but for names. -/
structure KernelBundle.Echoes (programs : ProgramHandle → ProgramHandle → Prop)
    (devices : DeviceHandle → DeviceHandle → Prop) (bundle bundle' : KernelBundle) : Prop where
  context : bundle'.context = bundle.context
  state : bundle'.state = bundle.state
  images : List.Forall₂ (DeviceImage.Echoes programs devices) bundle.images bundle'.images
  devices : List.Forall₂ (fun device device' => devices device.handle device'.handle)
    bundle.devices bundle'.devices

theorem ImportError.Echoes.imp {e e' : ImportError} (echoes : e.Echoes devices base e')
    (allows : ∀ device device', devices device device' → devices' device device') :
    e.Echoes devices' base e' := by
  cases echoes with
  | plain plain => exact .plain plain
  | buildFailed same => exact .buildFailed (allows _ _ same)
  | miscounted new new' => exact .miscounted new new'

theorem DeviceImage.Echoes.imp {image image' : DeviceImage}
    (echoes : image.Echoes programs devices image')
    (allows : ∀ program program', programs program program' → programs' program program')
    (allows' : ∀ device device', devices device device' → devices' device device') :
    image.Echoes programs' devices' image' :=
  ⟨echoes.state, echoes.programs.imp fun _ _ same => ⟨same.1, allows _ _ same.2⟩,
    echoes.devices.imp fun _ _ => allows' _ _⟩

theorem KernelBundle.Echoes.imp {bundle bundle' : KernelBundle}
    (echoes : bundle.Echoes programs devices bundle')
    (allows : ∀ program program', programs program program' → programs' program program')
    (allows' : ∀ device device', devices device device' → devices' device device') :
    bundle.Echoes programs' devices' bundle' :=
  ⟨echoes.context, echoes.state, echoes.images.imp fun _ _ same => same.imp allows allows',
    echoes.devices.imp fun _ _ => allows' _ _⟩

end Names

/-- The wrappers of devices stay. -/
theorem Store.SameDevice.later {store store' after after' : Store} {device device' : DeviceHandle}
    (same : store.SameDevice store' device device') (remembers : store.Remembers after)
    (remembers' : store'.Remembers after') : after.SameDevice after' device device' := by
  obtain ⟨native, known, known'⟩ := same
  exact ⟨native, remembers.devices _ _ known, remembers'.devices _ _ known'⟩

/-- References to programs of one provider. -/
def Provider.programs (provider : Provider) (held : List ProgramHandle) : List ProgramRef :=
  held.map fun own => ⟨own, provider⟩

theorem Provider.programs_append (provider : Provider) (earlier : List ProgramHandle)
    (own : ProgramHandle) :
    provider.programs (earlier ++ [own]) = provider.programs earlier ++ [⟨own, provider⟩] :=
  List.map_append

namespace Relocation

variable {relocation : Relocation} {context : ContextHandle} {store store' : Store}
  {held held' : List ProgramHandle} {own own' : ProgramHandle} {native nativeDevice : NativeHandle}
  {binary : ProgramBinary} {device device' : DeviceHandle} {number base : Nat}

/-! ## Before the program is taken further -/

theorem pairs_takeReference {provider : Provider} (isNumber : provider.table.simulator = number)
    (underway : relocation.Underway context [own] [own'] store store')
    {failed : ImportError → Store → ImportError → Store → Prop} :
    Pairs (Pairs.atNumber number)
      (takeReferenceIfNeeded provider own programRetain programRelease)
      (takeReferenceIfNeeded provider own' programRetain programRelease) store store'
      (fun _ after _ after' => relocation.Underway context [own] [own'] after after') failed := by
  have retains : Pairs (Pairs.atNumber number)
      (attempt (provider.table.call (programRetain own)))
      (attempt (provider.table.call (programRetain own'))) store store'
      (fun result after result' after' => result = .ok () ∧ result' = .ok () ∧
        relocation.Underway context [own] [own'] after after') failed := by
    have retained : Pairs id (programRetain own) (programRetain own') store store'
        (fun _ after _ after' => relocation.Underway context [own] [own'] after after')
        (fun _ _ _ _ => False) := pairs_programRetain underway
    refine .attempt (.call isNumber (retained.imp ?_ fun _ _ _ _ => False.elim))
    exact fun _ _ _ _ done => ⟨rfl, rfl, done⟩
  unfold takeReferenceIfNeeded
  split
  · refine retains.bind ?_
    rintro _ _ _ _ ⟨rfl, rfl, done⟩
    exact .pure done
  · exact .pure underway

/-- The devices of the program are listed alike, or the listing fails alike. -/
theorem pairs_listDevices {table : Table} (isNumber : table.simulator = number)
    (underway : relocation.Underway context [own] [own'] store store')
    (leads : store.Leads own native binary) (new : base ≤ own.id) (new' : base ≤ own'.id) :
    Pairs (Pairs.atNumber number) (listDevices table own) (listDevices table own') store store'
      (fun devices after devices' after' => (store.Quiet after ∧ store'.Quiet after') ∧
        after.Lists binary.devices devices ∧ after'.Lists binary.devices devices')
      (fun e after e' after' => (store.Quiet after ∧ store'.Quiet after') ∧
        e.Echoes (after.SameDevice after') base e') := by
  have twins := (List.forall₂_cons.mp underway.twins).1
  have relates := underway.toRelates
  have counts : Pairs (Pairs.atNumber number) (table.programNumDevices own)
      (table.programNumDevices own') store store'
      (fun count after count' after' => (after = store ∧ after' = store') ∧ count' = count)
      (fun e after e' after' => (after = store ∧ after' = store') ∧ e' = e) := by
    refine (Pairs.call isNumber (pairs_programNumDevices twins relates leads)).bind ?_
    rintro _ _ _ _ ⟨⟨rfl, rfl⟩, rfl, rfl⟩
    exact .pure ⟨⟨rfl, rfl⟩, rfl⟩
  refine (Pairs.native (counts.imp (fun _ _ _ _ => id) ?_)).bind ?_
  · rintro _ _ _ _ ⟨⟨rfl, rfl⟩, rfl⟩
    exact ⟨⟨.refl _, .refl _⟩, .plain nofun⟩
  rintro _ _ count _ ⟨⟨rfl, rfl⟩, rfl⟩
  refine (Pairs.native ((Pairs.call isNumber (pairs_programDevices twins relates leads)).imp
    (fun _ _ _ _ => id) ?_)).bind ?_
  · rintro _ _ _ _ ⟨quiet, rfl⟩
    exact ⟨quiet, .plain nofun⟩
  rintro devices after devices' after' ⟨quiet, lists, lists'⟩
  have length : devices.length = binary.devices.length := (List.Forall₂.length_eq lists).symm
  have length' : devices'.length = binary.devices.length := (List.Forall₂.length_eq lists').symm
  rw [length, length']
  split
  · exact .pure ⟨quiet, lists, lists'⟩
  · exact .throw ⟨quiet, .miscounted new new'⟩

/-! ## One device -/

section Device

variable {builder : Builder} {target : BundleState}

section Operations

variable (isNumber : builder.provider.table.simulator = number)
  (underway : relocation.Underway builder.context.handle held held' store store')
  (twins : relocation.Twins store store' own own') (leads : store.Leads own native binary)
  (known : store.deviceWrappers.get? nativeDevice = some device)
  (known' : store'.deviceWrappers.get? nativeDevice = some device')

include isNumber underway twins leads known known'

/-- An unbuilt program is taken further for one device, or else for all, or both fail alike. -/
theorem pairs_further {operation : BuildOperation} {first first' second second' : Call}
    {entryPoint : String} {stage : Stage} {options : Option String}
    (unbuilt : binary.Unbuilt [nativeDevice]) :
    Pairs (Pairs.atNumber number)
      (withFallback operation device
        (builder.provider.table.callFor entryPoint
          (performFor first entryPoint (advanceFor own [device] stage options)))
        (builder.provider.table.call (perform second do
          let _ ← onStore (Store.wrapper builder.context.handle)
          advance own stage options)))
      (withFallback operation device'
        (builder.provider.table.callFor entryPoint
          (performFor first' entryPoint (advanceFor own' [device'] stage options)))
        (builder.provider.table.call (perform second' do
          let _ ← onStore (Store.wrapper builder.context.handle)
          advance own' stage options)))
      store store'
      (fun _ after _ after' =>
        relocation.Underway builder.context.handle held held' after after')
      (fun e after e' after' => (after = store ∧ after' = store') ∧
        e.Echoes (after.SameDevice after') base e') := by
  refine (Pairs.withFallback
    (.callFor isNumber (.performFor (pairs_advanceFor underway twins leads known known' unbuilt)
      ⟨⟨rfl, rfl⟩, rfl⟩) ⟨⟨rfl, rfl⟩, rfl⟩)
    (.call isNumber (.perform (pairs_advance underway twins leads)))).imp (fun _ _ _ _ => id) ?_
  rintro _ _ _ _ ⟨⟨rfl, rfl⟩, cause, rfl, rfl⟩
  exact ⟨⟨rfl, rfl⟩, .buildFailed ⟨nativeDevice, known, known'⟩⟩

theorem pairs_link :
    Pairs (Pairs.atNumber number) (builder.link own device) (builder.link own' device') store
      store'
      (fun linked after linked' after' =>
        relocation.Underway builder.context.handle (held ++ [linked]) (held' ++ [linked']) after
          after')
      (fun e after e' after' => (after = store ∧ after' = store') ∧
        e.Echoes (after.SameDevice after') base e') := by
  refine (Pairs.withFallback
    (.callFor isNumber (pairs_programLinkFor underway twins leads known known')
      ⟨⟨rfl, rfl⟩, rfl⟩)
    (.call isNumber (pairs_programLink underway twins leads))).imp (fun _ _ _ _ => id) ?_
  rintro _ _ _ _ ⟨⟨rfl, rfl⟩, cause, rfl, rfl⟩
  exact ⟨⟨rfl, rfl⟩, .buildFailed ⟨nativeDevice, known, known'⟩⟩

/-- A program that is not unbuilt is linked, and one that is unbuilt is compiled or built, alike at
both stores. -/
theorem pairs_advanceDevice (base : Nat) (member : nativeDevice ∈ binary.devices) :
    Pairs (Pairs.atNumber number)
      (builder.advanceDevice target ⟨own, builder.provider⟩ device)
      (builder.advanceDevice target ⟨own', builder.provider⟩ device') store store'
      (fun next after next' after' =>
        (next = none ∧ next' = none ∧
          relocation.Underway builder.context.handle held held' after after') ∨
        ∃ linked linked', next = some ⟨linked, builder.provider⟩ ∧
          next' = some ⟨linked', builder.provider⟩ ∧
          relocation.Underway builder.context.handle (held ++ [linked]) (held' ++ [linked']) after
            after')
      (fun e after e' after' => (after = store ∧ after' = store') ∧
        e.Echoes (after.SameDevice after') base e') := by
  have relates := underway.toRelates
  refine (Pairs.native (.call isNumber
    (pairs_programBinaryType twins relates leads known known' member))).bind ?_
  rintro _ _ _ _ ⟨⟨rfl, rfl⟩, rfl, rfl⟩
  refine .notify_bind ?_
  cases planned : (binary.stageOf nativeDevice).plan target with
  | keep => exact .pure (Or.inl ⟨rfl, rfl, underway⟩)
  | mismatch => exact .throw ⟨⟨rfl, rfl⟩, .plain nofun⟩
  | run operation =>
      have unbuilt : operation ≠ .link → binary.Unbuilt [nativeDevice] := by
        intro other device listed
        obtain rfl := List.mem_singleton.mp listed
        exact ⟨member, Stage.eq_unbuilt planned other⟩
      cases operation with
      | compile =>
          refine Pairs.bind (pairs_further isNumber underway twins leads known known'
            (unbuilt nofun)) ?_
          exact fun _ _ _ _ done => .pure (Or.inl ⟨rfl, rfl, done⟩)
      | build =>
          refine Pairs.bind (pairs_further isNumber underway twins leads known known'
            (unbuilt nofun)) ?_
          exact fun _ _ _ _ done => .pure (Or.inl ⟨rfl, rfl, done⟩)
      | link =>
          refine (pairs_link isNumber underway twins leads known known').bind ?_
          intro linked _ linked' _ done
          exact .notify_bind (.pure (Or.inr ⟨linked, linked', rfl, rfl, done⟩))

end Operations

end Device

/-! ## Giving programs back -/

/-- Where no failure is set, a reference to a live wrapper is given back. -/
theorem eq_returned_release {sim : Simulator} {wrapper : Wrapper}
    (unset : ∀ entryPoint, sim.failures.get? entryPoint = none)
    (found : sim.store.wrappers.get? own.id = some wrapper)
    (isProgram : wrapper.data.kind = .program) :
    (sim.after (.call (.programRelease own))).store = sim.store.returned own.id wrapper := by
  have ends : Ends (answer (.programRelease own)) sim
      (fun _ after => after.store = sim.store.returned own.id wrapper)
      (fun _ after => after.store = sim.store.returned own.id wrapper) := by
    refine Ends.imp (answers_released rfl) ?_ ?_
    · rintro _ after ⟨-, -, found', known, -, released⟩
      obtain rfl := Option.some.inj (found.symm.trans known)
      exact released.eq_returned
    · rintro e after ⟨-, ⟨set, -⟩ | ⟨-, ⟨-, -, gone⟩ | ⟨found', known, -, stopped⟩⟩⟩
      · exact (Option.some_ne_none e (set.symm.trans (unset _))).elim
      · exact (gone ⟨wrapper, found, isProgram⟩).elim
      · obtain rfl := Option.some.inj (found.symm.trans known)
        obtain ⟨none, same, -⟩ | ⟨released, -⟩ := stopped
        · rw [Store.returned, none]
          exact same
        · exact released.eq_returned
  exact ends_stateAfter.mp ends

/-- After all programs have been given back, what the import leaves is alike at both stores. -/
theorem relates_releasePrograms {provider : Provider}
    (isNumber : provider.table.simulator = number) {host host' : Host}
    (peers : Peers (host.simulator number) (host'.simulator number))
    (holds : relocation.Holds held held' (host.simulator number).store
      (host'.simulator number).store) :
    Peers ((releasePrograms (provider.programs held) host).simulator number)
        ((releasePrograms (provider.programs held') host').simulator number) ∧
      relocation.Relates ((releasePrograms (provider.programs held) host).simulator number).store
        ((releasePrograms (provider.programs held') host').simulator number).store ∧
      ((host.simulator number).store.Remembers
          ((releasePrograms (provider.programs held) host).simulator number).store ∧
        (host'.simulator number).store.Remembers
          ((releasePrograms (provider.programs held') host').simulator number).store) := by
  induction held generalizing held' host host' with
  | nil =>
      obtain rfl := List.forall₂_nil_left_iff.mp holds.twins
      exact ⟨peers, holds.toRelates, .refl _, .refl _⟩
  | cons own held ih =>
      obtain ⟨own', held', -, -, rfl⟩ := List.forall₂_cons_left_iff.mp holds.twins
      have released : ∀ (own : ProgramHandle) (host : Host),
          (ProgramRef.release ⟨own, provider⟩ host).simulator number =
            (host.simulator number).after (.call (.programRelease own)) :=
        fun own host => (ProgramRef.simulator_release _ host number).trans (if_pos isNumber)
      have did : ∀ (own : ProgramHandle) (sim : Simulator),
          Did (fun _ => True) sim (sim.after (.call (.programRelease own))) :=
        fun own sim => (recorded_answer (.programRelease own)).did trivial
      have next : Peers ((ProgramRef.release ⟨own, provider⟩ host).simulator number)
          ((ProgramRef.release ⟨own', provider⟩ host').simulator number) := by
        rw [released, released]
        exact peers.of_did (did own _) (did own' _)
      have rest : relocation.Holds held held'
          ((ProgramRef.release ⟨own, provider⟩ host).simulator number).store
          ((ProgramRef.release ⟨own', provider⟩ host').simulator number).store := by
        rw [released, released]
        exact holds.release (fun _ => eq_returned_release peers.unset)
          fun _ => eq_returned_release peers.unset'
      obtain ⟨peers', relates, remembers, remembers'⟩ := ih next rest
      refine ⟨peers', relates, .trans ?_ remembers, .trans ?_ remembers'⟩
      · rw [released]
        exact (moves_call holds.formed _).remembers
      · rw [released]
        exact (moves_call holds.formed' _).remembers

/-- How imports fail at both stores. -/
def Fails (relocation : Relocation) (base : Nat) (e : ImportError) (store : Store)
    (e' : ImportError) (store' : Store) : Prop :=
  relocation.Relates store store' ∧ e.Echoes (store.SameDevice store') base e'

theorem pairs_orRelease {α : Type} {provider : Provider} {body body' : ImportM α}
    {ok : α → Store → α → Store → Prop} (isNumber : provider.table.simulator = number)
    (pairs : Pairs (Pairs.atNumber number) body body' store store' ok
      fun e after e' after' => relocation.Holds held held' after after' ∧
        e.Echoes (after.SameDevice after') base e') :
    Pairs (Pairs.atNumber number) (orRelease (provider.programs held) body)
      (orRelease (provider.programs held') body') store store' ok (relocation.Fails base) := by
  refine pairs.orRelease ?_
  rintro e e' host host' peers ⟨holds, echoes⟩
  obtain ⟨peers, relates, remembers, remembers'⟩ := relates_releasePrograms isNumber peers holds
  exact ⟨peers, relates, echoes.imp fun _ _ same => same.later remembers remembers'⟩

/-! ## All devices -/

section Advance

variable {builder : Builder} {target : BundleState}

/-- The current program is the same at both stores. -/
theorem Holds.twins_last {earlier earlier' : List ProgramHandle}
    (holds : relocation.Holds (earlier ++ [own]) (earlier' ++ [own']) store store') :
    relocation.Twins store store' own own' :=
  (List.forall₂_cons.mp holds.rotate.twins).1

/-- One device is gone through alike, and the program that is current then is for the same
devices. -/
theorem pairs_advanceNext (isNumber : builder.provider.table.simulator = number)
    {earlier earlier' : List ProgramHandle}
    (underway : relocation.Underway builder.context.handle (earlier ++ [own]) (earlier' ++ [own'])
      store store')
    (leads : store.Leads own native binary)
    (known : store.deviceWrappers.get? nativeDevice = some device)
    (known' : store'.deviceWrappers.get? nativeDevice = some device')
    (member : nativeDevice ∈ binary.devices) :
    Pairs (Pairs.atNumber number)
      (orRelease (builder.provider.programs earlier ++ [⟨own, builder.provider⟩])
        (builder.advanceDevice target ⟨own, builder.provider⟩ device))
      (orRelease (builder.provider.programs earlier' ++ [⟨own', builder.provider⟩])
        (builder.advanceDevice target ⟨own', builder.provider⟩ device'))
      store store'
      (fun next after next' after' =>
        ((next = none ∧ next' = none ∧
            relocation.Underway builder.context.handle (earlier ++ [own]) (earlier' ++ [own']) after
              after') ∨
          ∃ linked linked', next = some ⟨linked, builder.provider⟩ ∧
            next' = some ⟨linked', builder.provider⟩ ∧
            relocation.Underway builder.context.handle (earlier ++ [own] ++ [linked])
              (earlier' ++ [own'] ++ [linked']) after after') ∧
        Brings target store binary nativeDevice
          (next.getD ⟨own, builder.provider⟩).handle after ∧
        store'.Remembers after')
      (relocation.Fails base) := by
  have twins := underway.twins_last
  have alone : ∀ {own : ProgramHandle} {native : NativeHandle} {device : DeviceHandle}
      {host : Host}, (host.simulator number).store.WellFormed →
      (host.simulator number).store.Leads own native binary →
      (host.simulator number).store.deviceWrappers.get? nativeDevice = some device →
      Ends (builder.advanceDevice target ⟨own, builder.provider⟩ device) host
        (fun next after => Brings target (host.simulator number).store binary nativeDevice
          (next.getD ⟨own, builder.provider⟩).handle (after.simulator number).store)
        (fun _ _ => True) := by
    intro own native device host formed leads known
    subst isNumber
    have standing : Standing (builder.simulator host).store
        (⟨own, builder.provider⟩ : ProgramRef).handle native binary device nativeDevice :=
      ⟨formed, leads, known, member⟩
    exact (ends_advanceDevice standing).imp (fun _ _ done => done.1) fun _ _ _ => trivial
  rw [← Provider.programs_append, ← Provider.programs_append]
  refine pairs_orRelease isNumber (((pairs_advanceDevice isNumber underway twins leads known known'
    base member).and_ok (fun next after => Brings target store binary nativeDevice
      (next.getD ⟨own, builder.provider⟩).handle after) (fun _ after => store'.Remembers after)
      ?_ ?_).imp (fun _ _ _ _ => id) ?_)
  · rintro host rfl
    exact alone underway.formed leads known
  · rintro host rfl
    exact (alone underway.formed' (twins.leads underway.toRelates leads).2 known').imp
      (fun _ _ brings => brings.1.remembers) fun _ _ _ => trivial
  · rintro e _ e' _ ⟨⟨rfl, rfl⟩, echoes⟩
    exact ⟨underway.toHolds, echoes⟩

/-- The program is taken to the state for all devices alike.  The programs that the import has made
are those that have been replaced and the current one. -/
theorem pairs_advanceAll (builder : Builder) (target : BundleState) (base : Nat)
    (isNumber : builder.provider.table.simulator = number)
    {natives : List NativeHandle} {devices devices' : List DeviceHandle}
    {earlier earlier' : List ProgramHandle}
    (underway : relocation.Underway builder.context.handle (earlier ++ [own]) (earlier' ++ [own'])
      store store')
    (leads : store.Leads own native binary) (lists : store.Lists natives devices)
    (lists' : store'.Lists natives devices')
    (members : ∀ native ∈ natives, native ∈ binary.devices) :
    Pairs (Pairs.atNumber number)
      (builder.advance target ⟨own, builder.provider⟩ (builder.provider.programs earlier) devices)
      (builder.advance target ⟨own', builder.provider⟩ (builder.provider.programs earlier')
        devices')
      store store'
      (fun built after built' after' => (store.Remembers after ∧ store'.Remembers after') ∧
        ∃ replaced replaced' last last',
          built = ⟨⟨last, builder.provider⟩, builder.provider.programs replaced⟩ ∧
          built' = ⟨⟨last', builder.provider⟩, builder.provider.programs replaced'⟩ ∧
          relocation.Underway builder.context.handle (replaced ++ [last]) (replaced' ++ [last'])
            after after')
      (relocation.Fails base) := by
  induction natives generalizing devices devices' earlier earlier' own own' native binary store
      store' with
  | nil =>
      obtain rfl := List.forall₂_nil_left_iff.mp lists
      obtain rfl := List.forall₂_nil_left_iff.mp lists'
      exact .pure ⟨⟨.refl _, .refl _⟩, _, _, _, _, rfl, rfl, underway⟩
  | cons nativeDevice natives ih =>
      obtain ⟨device, devices, known, others, rfl⟩ := List.forall₂_cons_left_iff.mp lists
      obtain ⟨device', devices', known', others', rfl⟩ := List.forall₂_cons_left_iff.mp lists'
      obtain ⟨member, members⟩ := List.forall_mem_cons.mp members
      refine (pairs_advanceNext isNumber underway leads known known' member).bind ?_
      rintro next after next' after'
        ⟨moved, ⟨grows, native', new, leads', follows, -⟩, remembers'⟩
      have others := Store.Lists.grows others grows
      have others' : after'.Lists natives devices' :=
        List.Forall₂.imp (fun _ _ known => remembers'.devices _ _ known) others'
      have members : ∀ native ∈ natives, native ∈ new.devices :=
        fun native listed => (follows.devices native).mpr (members native listed)
      rcases moved with ⟨rfl, rfl, underway⟩ | ⟨linked, linked', rfl, rfl, underway⟩
      · refine (ih underway leads' others others' members).imp ?_ fun _ _ _ _ => id
        exact fun _ _ _ _ done =>
          ⟨⟨grows.remembers.trans done.1.1, remembers'.trans done.1.2⟩, done.2⟩
      · dsimp only
        rw [← Provider.programs_append, ← Provider.programs_append]
        refine (ih underway leads' others others' members).imp ?_ fun _ _ _ _ => id
        exact fun _ _ _ _ done =>
          ⟨⟨grows.remembers.trans done.1.1, remembers'.trans done.1.2⟩, done.2⟩

end Advance

/-! ## The devices of the bundle -/

/-- A device is found or made at both stores, or its platform is gone from both. -/
theorem pairs_manageDevice {provider : Provider} {pending pending' : List Device} (base : Nat)
    (isNumber : provider.table.simulator = number) (relates : relocation.Relates store store')
    (known : store.deviceWrappers.get? nativeDevice = some device)
    (known' : store'.deviceWrappers.get? nativeDevice = some device') :
    Pairs (Pairs.atNumber number) (manageDevice provider pending device)
      (manageDevice provider pending' device') store store'
      (fun managed after managed' after' => (store.Quiet after ∧ store'.Quiet after') ∧
        managed.handle = device ∧ managed'.handle = device')
      (fun e after e' after' => (store.Quiet after ∧ store'.Quiet after') ∧
        e.Echoes (after.SameDevice after') base e') := by
  have looks := pairs_devicePlatform relates.ground relates.formed relates.formed' known known'
  refine (Pairs.native ((Pairs.call isNumber looks).imp (fun _ _ _ _ => id) ?_)).bind ?_
  · rintro e _ _ _ ⟨quiet, rfl⟩
    exact ⟨quiet, .plain nofun⟩
  intro platform middle platform' middle' quiet
  have platforms : ∀ (handle : PlatformHandle) (pending : List Device) (host : Host),
      Ends (findOrMakePlatform provider handle pending : ImportM Platform) host
        (fun _ after => after.simulator number = host.simulator number ∧ True)
        (fun _ _ => False) := by
    intro handle pending host
    refine ends_findOrMakePlatform.imp ?_ fun _ _ => id
    rintro _ after ⟨-, same⟩
    rw [Host.simulator_of_simulators same]
    exact ⟨rfl, trivial⟩
  have devices : ∀ (platform : Platform) (handle : DeviceHandle) (pending : List Device)
      (host : Host), Ends (findOrMakeDevice platform handle pending : ImportM Device) host
        (fun managed after => after.simulator number = host.simulator number ∧
          managed.handle = handle)
        (fun _ _ => False) := by
    intro platform handle pending host
    refine ends_findOrMakeDevice.imp ?_ fun _ _ => id
    rintro managed after ⟨⟨isHandle, -⟩, same⟩
    rw [Host.simulator_of_simulators same]
    exact ⟨rfl, isHandle⟩
  refine (Pairs.still (platforms platform pending) (platforms platform' pending')).bind ?_
  rintro on _ on' _ ⟨⟨rfl, rfl⟩, -⟩
  refine (Pairs.still (devices on device pending) (devices on' device' pending')).imp ?_
    fun _ _ _ _ => id
  rintro _ _ _ _ ⟨⟨rfl, rfl⟩, isHandle, isHandle'⟩
  exact ⟨quiet, isHandle, isHandle'⟩

theorem pairs_manageDevices {provider : Provider} {pending pending' : List Device} (base : Nat)
    {natives : List NativeHandle} {devices devices' : List DeviceHandle}
    (isNumber : provider.table.simulator = number) (relates : relocation.Relates store store')
    (lists : store.Lists natives devices) (lists' : store'.Lists natives devices') :
    Pairs (Pairs.atNumber number) (manageDevices provider pending devices)
      (manageDevices provider pending' devices') store store'
      (fun managed after managed' after' => (store.Quiet after ∧ store'.Quiet after') ∧
        List.Forall₂ (fun device device' => after.SameDevice after' device.handle device'.handle)
          managed managed')
      (fun e after e' after' => (store.Quiet after ∧ store'.Quiet after') ∧
        e.Echoes (after.SameDevice after') base e') := by
  induction natives generalizing devices devices' pending pending' store store' with
  | nil =>
      obtain rfl := List.forall₂_nil_left_iff.mp lists
      obtain rfl := List.forall₂_nil_left_iff.mp lists'
      exact .pure ⟨⟨.refl _, .refl _⟩, .nil⟩
  | cons nativeDevice natives ih =>
      obtain ⟨device, devices, known, others, rfl⟩ := List.forall₂_cons_left_iff.mp lists
      obtain ⟨device', devices', known', others', rfl⟩ := List.forall₂_cons_left_iff.mp lists'
      refine (pairs_manageDevice base isNumber relates known known').bind ?_
      rintro managed middle managed' middle' ⟨⟨quiet, quiet'⟩, rfl, rfl⟩
      have same : store.SameDevice store' managed.handle managed'.handle := ⟨_, known, known'⟩
      refine ((ih (relates.quiet quiet quiet') (Store.Lists.grows others quiet.grows)
        (Store.Lists.grows others' quiet'.grows)).imp (fun _ _ _ _ => id) ?_).bind ?_
      · exact fun _ _ _ _ stopped =>
          ⟨⟨quiet.trans stopped.1.1, quiet'.trans stopped.1.2⟩, stopped.2⟩
      · rintro rest after rest' after' ⟨⟨more, more'⟩, alike⟩
        have quiets := And.intro (quiet.trans more) (quiet'.trans more')
        exact .pure ⟨quiets, .cons (same.later quiets.1.grows.remembers quiets.2.grows.remembers)
          alike⟩

/-! ## The whole import -/

/-- Two wrappers lead to the same program, under its name at either store. -/
def SameProgram (relocation : Relocation) (store store' : Store) (own own' : ProgramHandle) :
    Prop :=
  ∃ native binary, relocation.Concerns native ∧ store.Leads own native binary ∧
    store'.Leads own' (relocation.rename native) binary

theorem Underway.sameProgram (underway : relocation.Underway context held held' store store') :
    List.Forall₂ (relocation.SameProgram store store') held held' := by
  have known : List.Forall₂ (fun own own' => (∃ native binary, store.Leads own native binary) ∧
      relocation.Twins store store' own own') held held' :=
    (List.forall₂_and_left ..).mpr ⟨underway.leads, underway.twins⟩
  refine known.imp ?_
  rintro own own' ⟨⟨native, binary, leads⟩, twins⟩
  obtain ⟨concerns, leads'⟩ := twins.leads underway.toRelates leads
  exact ⟨native, binary, concerns, leads, leads'⟩

theorem Underway.rotate {earlier earlier' : List ProgramHandle}
    (underway : relocation.Underway context (earlier ++ [own]) (earlier' ++ [own']) store store') :
    relocation.Underway context (own :: earlier) (own' :: earlier') store store' := by
  refine ⟨underway.toHolds.rotate, ?_, underway.inContext, underway.inContext'⟩
  intro other member
  exact underway.leads other ((List.perm_append_singleton own earlier).mem_iff.mpr member)

/-- The image of the import is made of the programs that it has brought. -/
theorem Underway.echoes {provider : Provider} (underway : relocation.Underway context held held'
    store store') : List.Forall₂ (fun program program' => program'.provider = program.provider ∧
      relocation.SameProgram store store' program.handle program'.handle)
    (provider.programs held) (provider.programs held') := by
  unfold Provider.programs
  rw [List.forall₂_map_left_iff, List.forall₂_map_right_iff]
  exact underway.sameProgram.imp fun _ _ same => ⟨rfl, same⟩

/-- The table of an import is found alike. -/
theorem pairs_resolve {registry : Registry} {backend : Backend} {provider : Provider}
    (resolved : registry.provider? backend = some provider)
    {failed : ImportError → Store → ImportError → Store → Prop} :
    Pairs (Pairs.atNumber number) (registry.resolve backend) (registry.resolve backend) store
      store'
      (fun found after found' after' => (after = store ∧ after' = store') ∧
        provider = found ∧ provider = found') failed := by
  have resolves : ∀ host : Host, Ends (registry.resolve backend) host
      (fun found after => after.simulator number = host.simulator number ∧ provider = found)
      (fun _ _ => False) := by
    intro host
    refine ends_resolve.imp ?_ ?_
    · rintro found _ ⟨known, notice, rfl⟩
      exact ⟨rfl, Option.some.inj (resolved.symm.trans known)⟩
    · rintro _ _ ⟨unresolved, -⟩
      exact Option.some_ne_none provider (resolved.symm.trans unresolved)
  exact .still resolves resolves

/-- The devices of the program are listed, or the program is given back. -/
theorem pairs_listReleased {provider : Provider} (isNumber : provider.table.simulator = number)
    (underway : relocation.Underway context [own] [own'] store store')
    (leads : store.Leads own native binary) (new : base ≤ own.id) (new' : base ≤ own'.id) :
    Pairs (Pairs.atNumber number) (orRelease [⟨own, provider⟩] (listDevices provider.table own))
      (orRelease [⟨own', provider⟩] (listDevices provider.table own')) store store'
      (fun devices after devices' after' =>
        relocation.Underway context [own] [own'] after after' ∧ after.Leads own native binary ∧
          after.Lists binary.devices devices ∧ after'.Lists binary.devices devices')
      (relocation.Fails base) := by
  change Pairs _ (orRelease (provider.programs [own]) _) (orRelease (provider.programs [own']) _)
    _ _ _ _
  refine pairs_orRelease isNumber
    ((pairs_listDevices isNumber underway leads new new').imp ?_ ?_)
  · rintro devices after devices' after' ⟨⟨quiet, quiet'⟩, lists⟩
    exact ⟨underway.quiet quiet quiet', leads.quiet quiet underway.formed, lists⟩
  · rintro e after e' after' ⟨⟨quiet, quiet'⟩, echoes⟩
    exact ⟨(underway.quiet quiet quiet').toHolds, echoes⟩

/-- The devices of the bundle are found or made, or all programs are given back. -/
theorem pairs_manageReleased {provider : Provider} (isNumber : provider.table.simulator = number)
    {earlier earlier' : List ProgramHandle} {natives : List NativeHandle}
    {devices devices' : List DeviceHandle}
    (underway : relocation.Underway context (own :: earlier) (own' :: earlier') store store')
    (lists : store.Lists natives devices) (lists' : store'.Lists natives devices') :
    Pairs (Pairs.atNumber number)
      (orRelease (⟨own, provider⟩ :: provider.programs earlier)
        (manageDevices provider [] devices))
      (orRelease (⟨own', provider⟩ :: provider.programs earlier')
        (manageDevices provider [] devices'))
      store store'
      (fun managed after managed' after' =>
        relocation.Underway context (own :: earlier) (own' :: earlier') after after' ∧
          List.Forall₂
            (fun device device' => after.SameDevice after' device.handle device'.handle)
            managed managed')
      (relocation.Fails base) := by
  change Pairs _ (orRelease (provider.programs (own :: earlier)) _)
    (orRelease (provider.programs (own' :: earlier')) _) _ _ _ _
  refine pairs_orRelease isNumber
    ((pairs_manageDevices base isNumber underway.toRelates lists lists').imp ?_ ?_)
  · rintro managed after managed' after' ⟨⟨quiet, quiet'⟩, alike⟩
    exact ⟨underway.quiet quiet quiet', alike⟩
  · rintro e after e' after' ⟨⟨quiet, quiet'⟩, echoes⟩
    exact ⟨(underway.quiet quiet quiet').toHolds, echoes⟩

/-- The import ends alike at both stores. -/
theorem pairs_importProgram {registry : Registry} {context : Context} {backend : Backend}
    (keeps : Bool) (target : BundleState)
    (through : ∀ provider, registry.provider? backend = some provider →
      provider.table.simulator = number)
    (relates : relocation.Relates store store')
    (live : store.HasNative .program relocation.native)
    (inContext : store.HasWrapper context.handle ↔ store'.HasWrapper context.handle)
    (new : base ≤ store.nextWrapper) (new' : base ≤ store'.nextWrapper) :
    Pairs (Pairs.atNumber number)
      (importProgram registry relocation.native context keeps target backend)
      (importProgram registry relocation.native context keeps target backend) store store'
      (fun bundle after bundle' after' => relocation.Relates after after' ∧
        bundle.Echoes (relocation.SameProgram after after') (after.SameDevice after') bundle')
      (relocation.Fails base) := by
  refine .notify_bind (.timed ?_)
  cases resolved : registry.provider? backend with
  | none =>
      have refuses : registry.resolve backend = throw (.unsupportedBackend backend) := by
        unfold Registry.resolve
        rw [resolved]
      rw [refuses]
      exact .throw ⟨relates, .plain nofun⟩
  | some provider =>
      have isNumber := through provider resolved
      refine (pairs_resolve resolved).bind ?_
      rintro _ _ _ _ ⟨⟨rfl, rfl⟩, rfl, rfl⟩
      refine (Pairs.native ((Pairs.call isNumber (pairs_programCreate relates live inContext)).imp
        (fun _ _ _ _ => id) ?_)).bind ?_
      · rintro _ _ _ _ ⟨⟨rfl, rfl⟩, rfl⟩
        exact ⟨relates, .plain nofun⟩
      rintro own _ own' _ ⟨⟨isOwn, isOwn'⟩, underway⟩
      refine (pairs_takeReference isNumber underway).bind ?_
      intro _ _ _ _ underway
      obtain ⟨native, binary, leads⟩ := underway.leads own List.mem_cons_self
      refine Pairs.bind (pairs_listReleased isNumber underway leads (by rwa [isOwn])
        (by rwa [isOwn'])) ?_
      rintro devices _ devices' _ ⟨underway, leads, lists, lists'⟩
      refine .notify_bind ?_
      -- So far the import has replaced no program.
      have started : relocation.Underway context.handle ([] ++ [own]) ([] ++ [own']) _ _ := underway
      have advances := pairs_advanceAll ⟨provider, context, registry.options⟩ target base isNumber
        started leads lists lists' fun _ => id
      refine Pairs.bind advances ?_
      rintro _ after _ after' ⟨⟨remembers, remembers'⟩, replaced, replaced', last, last', rfl, rfl,
        underway⟩
      refine Pairs.bind (pairs_manageReleased isNumber underway.rotate
        (List.Forall₂.imp (fun _ _ known => remembers.devices _ _ known) lists)
        (List.Forall₂.imp (fun _ _ known => remembers'.devices _ _ known) lists')) ?_
      rintro managed _ managed' _ ⟨underway, alike⟩
      have identities : ∀ host : Host, Ends (freshIdentity : ImportM Nat) host
          (fun _ after => after.simulator number = host.simulator number ∧ True)
          (fun _ _ => False) := fun host => ends_freshIdentity.mpr ⟨rfl, trivial⟩
      refine (Pairs.still identities identities).bind ?_
      rintro identity _ identity' _ ⟨⟨rfl, rfl⟩, -⟩
      exact .pure ⟨underway.toRelates, rfl, rfl,
        .cons ⟨rfl, underway.echoes, alike⟩ .nil, alike⟩

end Relocation

end ComputeImport
