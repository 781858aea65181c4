import ComputeImport.Proofs.Simulator.Representation
import ComputeImport.Proofs.Store.Frame

/-!
# Linking several programs

A link takes its inputs in order.  Each device and each kernel keeps the place of its first
occurrence, and a device has the stage of the last input that contains it, or becomes executable
where it is to be linked for.  The link is refused before anything is made, and otherwise makes one
program with one wrapper, and touches nothing else.
-/

namespace ComputeImport

section Firsts

variable {κ : Type} [DecidableEq κ]

/-- Adding an item to the first occurrences of some, unless it is among them. -/
theorem eraseDups_concat (items : List κ) (item : κ) :
    (items ++ [item]).eraseDups =
      if item ∈ items.eraseDups then items.eraseDups else items.eraseDups ++ [item] := by
  rw [List.eraseDups_append, List.removeAll]
  by_cases member : item ∈ items
  · simp [member]
  · simp [member, List.eraseDups_cons]

/-- Items that are added one after another, each of them once, are the first occurrences of all. -/
theorem foldl_add_eraseDups (items seen : List κ) :
    items.foldl (fun added item => if item ∈ added then added else added ++ [item])
      seen.eraseDups = (seen ++ items).eraseDups := by
  induction items generalizing seen with
  | nil => rw [List.append_nil, List.foldl_nil]
  | cons item items ih =>
      rw [List.foldl_cons, ← eraseDups_concat, ih, List.append_assoc, List.singleton_append]

end Firsts

theorem Stage.plan_link_iff {stage : Stage} :
    stage.plan .executable = .run .link ↔ stage = .object ∨ stage = .library := by
  cases stage <;> decide

namespace Simulator

/-! ## What the inputs add up to -/

/-- The last input that contains a device. -/
def lastWith (device : NativeHandle) (inputs : List ProgramBinary) : Option ProgramBinary :=
  (inputs.filter fun input => device ∈ input.devices).getLast?

theorem lastWith_concat (device : NativeHandle) (inputs : List ProgramBinary)
    (input : ProgramBinary) :
    lastWith device (inputs ++ [input]) =
      if device ∈ input.devices then some input else lastWith device inputs := by
  by_cases member : device ∈ input.devices <;> simp [lastWith, member]

/-- What is linked so far is what some inputs add up to. -/
structure Gathers (wanted : NativeHandle → Bool) (inputs : List ProgramBinary)
    (linked : ProgramBinary) : Prop where
  devices : linked.devices = (inputs.flatMap ProgramBinary.devices).eraseDups
  kernels : linked.kernels = (inputs.flatMap ProgramBinary.kernels).eraseDups
  stages : ∀ device, linked.stages.get? device = (lastWith device inputs).map fun input =>
    if wanted device then .executable else input.stageOf device

variable {wanted wanted' : NativeHandle → Bool} {inputs : List ProgramBinary}
  {input linked output : ProgramBinary} {devices : List NativeHandle}

theorem Gathers.nil : Gathers wanted [] ⟨[], {}, []⟩ :=
  ⟨rfl, rfl, fun _ => rfl⟩

/-- The devices of an input are added in their order, each of them once. -/
theorem devices_linkDevices (done : linkDevices wanted input devices linked = .ok output) :
    output.devices = devices.foldl
      (fun added device => if device ∈ added then added else added ++ [device])
      linked.devices := by
  induction devices generalizing linked with
  | nil =>
      cases done
      rfl
  | cons device devices ih =>
      rw [linkDevices] at done
      cases staged : linkedStage wanted device (input.stageOf device) with
      | error e =>
          rw [staged] at done
          contradiction
      | ok stage =>
          rw [staged] at done
          exact ih done

/-- One more input is gathered. -/
theorem Gathers.concat (gathers : Gathers wanted inputs linked)
    (done : linkDevices wanted input input.devices linked = .ok output) :
    Gathers wanted (inputs ++ [input]) (linkKernels input.kernels output) := by
  obtain ⟨kernels, -, stages⟩ := linkDevices_eq_ok done
  constructor
  case devices =>
    have devices : output.devices = _ := devices_linkDevices done
    rw [List.flatMap_append, List.flatMap_singleton, ← foldl_add_eraseDups, ← gathers.devices]
    exact devices
  case kernels =>
    rw [List.flatMap_append, List.flatMap_singleton, ← foldl_add_eraseDups, ← gathers.kernels,
      linkKernels, kernels]
  case stages =>
    intro device
    rw [lastWith_concat]
    refine (stages device).trans ?_
    split
    · rfl
    · exact gathers.stages device

/-- The devices of an input can all be added just where those that are wanted can be linked. -/
theorem linkDevices_ok_iff :
    (∃ output, linkDevices wanted input input.devices linked = .ok output) ↔
      input.Linkable wanted := by
  constructor
  · rintro ⟨output, done⟩
    exact plan_of_linkDevices done
  · intro linkable
    cases done : linkDevices wanted input input.devices linked with
    | ok output => exact ⟨output, rfl⟩
    | error e =>
        obtain ⟨device, member, isWanted, stuck, -⟩ := linkDevices_eq_error done
        exact absurd (linkable device member isWanted) stuck

/-- A link asks of the devices of an input only whether they are wanted. -/
theorem linkDevices_congr (same : ∀ device ∈ devices, wanted device = wanted' device) :
    linkDevices wanted input devices linked = linkDevices wanted' input devices linked := by
  induction devices generalizing linked with
  | nil => rfl
  | cons device devices ih =>
      have staged : linkedStage wanted device (input.stageOf device) =
          linkedStage wanted' device (input.stageOf device) := by
        unfold linkedStage
        rw [same device List.mem_cons_self]
      rw [linkDevices, linkDevices, staged]
      cases linkedStage wanted' device (input.stageOf device) with
      | error e => rfl
      | ok stage => exact ih fun other member => same other (List.mem_cons_of_mem device member)

end Simulator

/-! ## The programs behind wrappers -/

namespace Store

variable {store : Store} {wanted wanted' : NativeHandle → Bool} {programs : List ProgramHandle}
  {program : ProgramHandle} {input linked : ProgramBinary} {inputs : List ProgramBinary}

/-- What is known of the live native program behind a live wrapper. -/
def ShowsProgram (store : Store) (program : ProgramHandle) (input : ProgramBinary) : Prop :=
  ∃ native, store.Leads program native input

theorem ShowsProgram.unique {input' : ProgramBinary} (shows : store.ShowsProgram program input)
    (shows' : store.ShowsProgram program input') : input = input' := by
  obtain ⟨native, leads⟩ := shows
  obtain ⟨native', leads'⟩ := shows'
  exact (leads.unique leads').2

/-- All programs are shown, and can be linked. -/
def Offers (store : Store) (wanted : NativeHandle → Bool) (programs : List ProgramHandle)
    (inputs : List ProgramBinary) : Prop :=
  List.Forall₂ store.ShowsProgram programs inputs ∧ ∀ input ∈ inputs, input.Linkable wanted

/-- The inputs of a link are gathered just where all of them are offered. -/
theorem ends_linkPrograms_gathers (gathers : Simulator.Gathers wanted inputs linked) :
    Ends (Simulator.linkPrograms wanted programs linked) store
      (fun output after => after = store ∧ ∃ more, store.Offers wanted programs more ∧
        Simulator.Gathers wanted (inputs ++ more) output)
      (fun _ after => after = store ∧ ∀ more, ¬ store.Offers wanted programs more) := by
  induction programs generalizing inputs linked with
  | nil =>
      refine ⟨rfl, [], ⟨.nil, fun input member => absurd member List.not_mem_nil⟩, ?_⟩
      rw [List.append_nil]
      exact gathers
  | cons program programs ih =>
      unfold Simulator.linkPrograms
      refine (ends_binaryBehind.imp (fun _ _ found => found) ?_).bind ?_
      · rintro e after ⟨equal, dead⟩
        refine ⟨equal, ?_⟩
        rintro more ⟨shows, -⟩
        cases shows with
        | cons first _ =>
            obtain ⟨native, leads⟩ := first
            exact dead native _ leads
      rintro input _ ⟨rfl, shown⟩
      cases done : Simulator.linkDevices wanted input input.devices linked with
      | error e =>
          refine ⟨rfl, ?_⟩
          rintro more ⟨shows, linkable⟩
          cases shows with
          | cons first _ =>
              obtain rfl := first.unique shown
              obtain ⟨output, ok⟩ :=
                Simulator.linkDevices_ok_iff.mpr (linkable _ List.mem_cons_self)
              rw [done] at ok
              contradiction
      | ok output =>
          refine Ends.imp (ih (gathers.concat done)) ?_ ?_
          · rintro result after ⟨equal, more, ⟨shows, linkable⟩, gathered⟩
            refine ⟨equal, input :: more, ⟨.cons shown shows, ?_⟩, ?_⟩
            · intro other member
              rcases List.mem_cons.mp member with rfl | member
              · exact Simulator.linkDevices_ok_iff.mp ⟨output, done⟩
              · exact linkable other member
            · rw [List.append_cons]
              exact gathered
          · rintro e after ⟨equal, unoffered⟩
            refine ⟨equal, ?_⟩
            rintro more ⟨shows, linkable⟩
            cases shows with
            | cons _ rest =>
                exact unoffered _ ⟨rest, fun other member =>
                  linkable other (List.mem_cons_of_mem _ member)⟩

/-- A link asks of the devices of its inputs only whether they are wanted. -/
theorem linkPrograms_congr (same : ∀ program ∈ programs, ∀ input, store.ShowsProgram program input →
      ∀ device ∈ input.devices, wanted device = wanted' device) :
    Simulator.linkPrograms wanted programs linked store =
      Simulator.linkPrograms wanted' programs linked store := by
  induction programs generalizing linked with
  | nil => rfl
  | cons program programs ih =>
      unfold Simulator.linkPrograms
      rw [bind_apply, bind_apply]
      cases found : Simulator.binaryBehind program store with
      | error e after => rfl
      | ok input after =>
          obtain ⟨rfl, shown⟩ := ends_binaryBehind.of_ok found
          dsimp only
          rw [Simulator.linkDevices_congr (same program List.mem_cons_self input shown)]
          cases Simulator.linkDevices wanted' input input.devices linked with
          | error e => rfl
          | ok output =>
              exact ih fun other member => same other (List.mem_cons_of_mem program member)

theorem linkInto_congr (same : ∀ program ∈ programs, ∀ input, store.ShowsProgram program input →
      ∀ device ∈ input.devices, wanted device = wanted' device) :
    Simulator.linkInto wanted programs store = Simulator.linkInto wanted' programs store := by
  unfold Simulator.linkInto
  rw [bind_apply, bind_apply, linkPrograms_congr same]

end Store

namespace Simulator

variable {sim : Simulator} {context : ContextHandle} {devices : List DeviceHandle}
  {programs : List ProgramHandle} {options : Option String}

/-! ## What a link needs, and what it makes -/

/-- What a link for chosen devices needs. -/
structure CanLink (sim : Simulator) (context : ContextHandle) (devices : List DeviceHandle)
    (programs : List ProgramHandle) : Prop where
  perDevice : sim.config.perDevice = true
  context_live : sim.store.HasWrapper context
  some_program : programs ≠ []
  devices_live : ∀ device ∈ devices, sim.store.HasWrapper device
  programs_live : ∀ program ∈ programs, ∃ input, sim.store.ShowsProgram program input
  stages : ∀ device ∈ devices, ∀ native, sim.store.Behind device native →
    ∀ program ∈ programs, ∀ input, sim.store.ShowsProgram program input → native ∈ input.devices →
      input.stages.get? native = some .object ∨ input.stages.get? native = some .library

/-- A link of some inputs has made a program, behind a wrapper that owns it, and nothing else. -/
structure Links (store : Store) (devices : List DeviceHandle) (inputs : List ProgramBinary)
    (handle : ProgramHandle) (native : NativeHandle) (output : ProgramBinary) (after : Store) :
    Prop where
  handle_fresh : store.nextWrapper ≤ handle.id ∧ store.wrappers.get? handle.id = none
  native_fresh : store.nextNative ≤ native.raw ∧ store.natives.get? native = none
  wrapper_made : after.wrappers.get? handle.id = some ⟨.program, native, 1, true⟩
  native_made : after.natives.get? native = some ⟨.program output, 1⟩
  wrappers_kept : ∀ id ≠ handle.id, after.wrappers.get? id = store.wrappers.get? id
  natives_kept : ∀ other ≠ native, after.natives.get? other = store.natives.get? other
  platforms_kept : after.platformWrappers = store.platformWrappers
  devices_kept : after.deviceWrappers = store.deviceWrappers
  devices_eq : output.devices = (inputs.flatMap ProgramBinary.devices).eraseDups
  kernels_eq : output.kernels = (inputs.flatMap ProgramBinary.kernels).eraseDups
  /-- The devices that are linked for become executable. -/
  listed : ∀ wrapper ∈ devices, ∀ device ∈ output.devices, store.Behind wrapper device →
    output.stages.get? device = some .executable
  /-- Another device has the stage that it has in the last input with it. -/
  unlisted : ∀ device ∈ output.devices, (∀ wrapper ∈ devices, ¬ store.Behind wrapper device) →
    ∃ input, lastWith device inputs = some input ∧
      output.stages.get? device = input.stages.get? device

/-- A link for chosen devices. -/
theorem answers_programLinkFor :
    Answers (.programLinkFor context devices programs options)
      (programLinkFor context devices programs options) sim
      (fun handle store => ∃ selected, List.Forall₂ sim.store.Behind devices selected ∧
        Joins sim.store (fun output => ∃ inputs,
          sim.store.Offers (fun device => selected.contains device) programs inputs ∧
          Gathers (fun device => selected.contains device) inputs output) handle store)
      (fun _ store => store = sim.store ∧
        (sim.config.perDevice = true → sim.store.HasWrapper context → programs ≠ [] →
          ∀ selected, List.Forall₂ sim.store.Behind devices selected →
          ∀ inputs, ¬ sim.store.Offers (fun device => selected.contains device) programs inputs)) :=
  works_linkFor fun _ => Store.ends_linkPrograms_gathers .nil

/-! ## The two calls side by side -/

theorem perform_of_unset {α : Type} {call : Call} {body : Native α}
    (unset : sim.failures.get? call.entryPoint = none) :
    perform call body sim = body { sim with calls := sim.calls ++ [call] } := by
  unfold perform
  rw [unset]

/-- The work of a link for the devices that are wanted. -/
def linkWanted (context : ContextHandle) (programs : List ProgramHandle)
    (options : Option String) (wanted : NativeHandle → Bool) : Native ProgramHandle := do
  let _ ← onStore (Store.wrapper context)
  if programs.isEmpty then throw (.invalidValue "no input programs")
  noteOptions options
  onStore (linkInto wanted programs)

theorem programLink_of_unset (unset : sim.failures.get? .programLink = none) :
    programLink context programs options sim =
      linkWanted context programs options (fun _ => true)
        { sim with calls := sim.calls ++ [.programLink context programs options] } :=
  perform_of_unset unset

theorem behindAll_of_forall₂ {selected : List NativeHandle}
    (behind : List.Forall₂ sim.store.Behind devices selected) :
    onStore (Store.behindAll devices) sim = .ok selected sim := by
  unfold onStore
  cases found : Store.behindAll devices sim.store with
  | ok natives after =>
      obtain ⟨rfl, behind'⟩ := Store.ends_behindAll.of_ok found
      rw [forall₂_behind_unique behind behind']
  | error e after =>
      obtain ⟨-, device, member, dead⟩ := Store.ends_behindAll.of_error found
      exact absurd (hasWrapper_of_forall₂_behind behind device member) dead

/-- The work of a link for chosen devices, where all of them are wrapped. -/
theorem linkWanted_of_behind {selected : List NativeHandle}
    (behind : List.Forall₂ sim.store.Behind devices selected) :
    (do
      let _ ← onStore (Store.wrapper context)
      if programs.isEmpty then throw (.invalidValue "no input programs")
      let selected ← onStore (Store.behindAll devices)
      noteOptions options
      onStore (linkInto (fun device => selected.contains device) programs) :
        Native ProgramHandle) sim =
      linkWanted context programs options (fun device => selected.contains device) sim := by
  unfold linkWanted
  have looks : Ends (onStore (Store.wrapper context)) sim (fun _ after => after = sim)
      fun _ _ => True :=
    ends_onStore.mpr (Store.ends_wrapper.imp (fun _ _ found => by rw [found.1])
      fun _ _ _ => True.intro)
  rw [bind_apply, bind_apply]
  cases found : onStore (Store.wrapper context) sim with
  | error e after => rfl
  | ok wrapper after =>
      obtain rfl := looks.of_ok found
      dsimp only
      split
      · rfl
      · rw [bind_apply, behindAll_of_forall₂ behind]

theorem programLinkFor_of_behind {selected : List NativeHandle}
    (perDevice : sim.config.perDevice = true)
    (unset : sim.failures.get? .programLinkFor = none)
    (behind : List.Forall₂ sim.store.Behind devices selected) :
    programLinkFor context devices programs options sim =
      linkWanted context programs options (fun device => selected.contains device)
        { sim with calls := sim.calls ++
            [.programLinkFor context devices programs options] } := by
  refine (perform_of_unset unset).trans ?_
  rw [bind_apply]
  dsimp only [get, getThe, MonadStateOf.get, EStateM.get]
  rw [if_pos perDevice]
  exact linkWanted_of_behind behind

/-- The work of a link is done on the store. -/
theorem linkWanted_apply (wanted : NativeHandle → Bool) :
    linkWanted context programs options wanted sim =
      match Store.wrapper context sim.store with
      | .error e store => .error e { sim with store }
      | .ok _ store =>
          if programs.isEmpty then .error (.invalidValue "no input programs") { sim with store }
          else onStore (linkInto wanted programs) { sim with store, lastOptions := options } := by
  unfold linkWanted
  rw [bind_apply, onStore]
  cases Store.wrapper context sim.store with
  | error e store => rfl
  | ok wrapper store =>
      dsimp only
      split <;> rfl

/-- A link asks of the devices of its inputs only whether they are wanted. -/
theorem linkWanted_congr {wanted wanted' : NativeHandle → Bool}
    (same : ∀ program ∈ programs, ∀ input, sim.store.ShowsProgram program input →
      ∀ device ∈ input.devices, wanted device = wanted' device) :
    linkWanted context programs options wanted sim =
      linkWanted context programs options wanted' sim := by
  rw [linkWanted_apply, linkWanted_apply]
  cases found : Store.wrapper context sim.store with
  | error e store => rfl
  | ok wrapper store =>
      obtain ⟨rfl, -⟩ := Store.ends_wrapper.of_ok found
      dsimp only [onStore]
      rw [Store.linkInto_congr same]

/-- How a call ends, apart from the record of the calls. -/
def apartFromCalls {α : Type} :
    EStateM.Result NativeError Simulator α → EStateM.Result NativeError Simulator α :=
  inState fun after => { after with calls := [] }

/-- The work of a link has nothing to do with the record of the calls. -/
theorem apartFromCalls_linkWanted (wanted : NativeHandle → Bool) (calls : List Call) :
    apartFromCalls (linkWanted context programs options wanted { sim with calls }) =
      apartFromCalls (linkWanted context programs options wanted sim) := by
  rw [linkWanted_apply, linkWanted_apply]
  cases Store.wrapper context sim.store with
  | error e store => rfl
  | ok wrapper store =>
      dsimp only [onStore]
      split
      · rfl
      · cases linkInto wanted programs store <;> rfl

/-- Without the entry point for chosen devices, nothing is linked for them. -/
theorem programLinkFor_of_lacking (lacking : sim.config.perDevice = false)
    (unset : sim.failures.get? .programLinkFor = none) :
    programLinkFor context devices programs options sim =
      .error (.unsupportedFeature "program_link_exp")
        { sim with calls := sim.calls ++
            [.programLinkFor context devices programs options] } := by
  refine (perform_of_unset unset).trans ?_
  rw [bind_apply]
  dsimp only [get, getThe, MonadStateOf.get, EStateM.get]
  rw [if_neg (by rw [lacking]; exact Bool.false_ne_true)]
  rfl

/-- A link works only in a live context, and of some program. -/
theorem needs_of_linkWanted {wanted : NativeHandle → Bool} {handle : ProgramHandle}
    {after : Simulator}
    (done : linkWanted context programs options wanted sim = .ok handle after) :
    sim.store.HasWrapper context ∧ programs ≠ [] := by
  rw [linkWanted_apply] at done
  cases found : Store.wrapper context sim.store with
  | error e store =>
      rw [found] at done
      contradiction
  | ok wrapper store =>
      obtain ⟨-, live⟩ := Store.ends_wrapper.of_ok found
      rw [found] at done
      dsimp only at done
      split at done
      · contradiction
      · rename_i some
        exact ⟨⟨wrapper, live⟩, fun empty => some (List.isEmpty_iff.mpr empty)⟩

/-! ## What is offered to a link -/

variable {store : Store} {inputs : List ProgramBinary} {selected : List NativeHandle}

/-- There are inputs for a link just where all programs are live. -/
theorem exists_forall₂_shows_iff : (∃ inputs, List.Forall₂ store.ShowsProgram programs inputs) ↔
    ∀ program ∈ programs, ∃ input, store.ShowsProgram program input := by
  induction programs with
  | nil => simp
  | cons program programs ih =>
      rw [List.forall_mem_cons, ← ih]
      constructor
      · rintro ⟨_, _ | ⟨shown, rest⟩⟩
        exact ⟨⟨_, shown⟩, _, rest⟩
      · rintro ⟨⟨input, shown⟩, inputs, rest⟩
        exact ⟨input :: inputs, .cons shown rest⟩

theorem mem_of_forall₂_shows (all : List.Forall₂ store.ShowsProgram programs inputs)
    (input : ProgramBinary) :
    input ∈ inputs ↔ ∃ program ∈ programs, store.ShowsProgram program input := by
  induction all with
  | nil => simp
  | @cons program other programs inputs first _ ih =>
      rw [List.mem_cons, ih, List.exists_mem_cons_iff]
      refine or_congr_left ⟨?_, fun found => found.unique first⟩
      rintro rfl
      exact first

/-- What is shown of a program is tidy. -/
theorem isTidy_of_shows {program : ProgramHandle} {input : ProgramBinary}
    (formed : store.WellFormed) (shown : store.ShowsProgram program input) : input.IsTidy := by
  obtain ⟨native, -, refs, found⟩ := shown
  exact formed.tidy native _ found input rfl

/-- A tidy input can be linked just where those of its devices that are listed stand at a stage to
link from. -/
theorem linkable_iff {input : ProgramBinary} (tidy : input.IsTidy)
    (behind : List.Forall₂ store.Behind devices selected) :
    input.Linkable (fun device => selected.contains device) ↔
      ∀ device ∈ devices, ∀ native, store.Behind device native → native ∈ input.devices →
        input.stages.get? native = some .object ∨ input.stages.get? native = some .library := by
  have staged : ∀ native ∈ input.devices, ((input.stageOf native).plan .executable = .run .link ↔
      input.stages.get? native = some .object ∨ input.stages.get? native = some .library) := by
    intro native member
    rw [Stage.plan_link_iff, tidy.stage_known member, Option.some.injEq, Option.some.injEq]
  constructor
  · intro linkable device listed native isBehind member
    refine (staged native member).mp (linkable native member (List.contains_iff_mem.mpr ?_))
    exact (mem_of_forall₂_behind behind native).mpr ⟨device, listed, isBehind⟩
  · intro ready native member wanted
    obtain ⟨device, listed, isBehind⟩ :=
      (mem_of_forall₂_behind behind native).mp (List.contains_iff_mem.mp wanted)
    exact (staged native member).mpr (ready device listed native isBehind member)

/-- What is gathered has a device just where an input has it. -/
theorem Gathers.exists_lastWith {wanted : NativeHandle → Bool} {output : ProgramBinary}
    (gathers : Gathers wanted inputs output) {device : NativeHandle}
    (member : device ∈ output.devices) : ∃ input, lastWith device inputs = some input ∧
      input ∈ inputs ∧ device ∈ input.devices := by
  rw [gathers.devices, List.mem_eraseDups, List.mem_flatMap] at member
  obtain ⟨input, known, has⟩ := member
  cases last : lastWith device inputs with
  | none =>
      rw [lastWith, List.getLast?_eq_none_iff, List.filter_eq_nil_iff] at last
      exact absurd (decide_eq_true has) (last input known)
  | some input =>
      have found := List.mem_filter.mp (List.mem_of_getLast? last)
      exact ⟨input, rfl, found.1, of_decide_eq_true found.2⟩

/-! ## Every list of programs -/

/-- What holds of linking several programs. -/
structure LinksPrograms (sim : Simulator) : Prop where
  /-- A link for chosen devices works just where it has what it needs. -/
  ok_iff : ∀ context devices programs options,
    (∃ handle after, programLinkFor context devices programs options sim = .ok handle after) ↔
      CanLink sim context devices programs
  /-- Where it works, it makes a program of the inputs, and nothing else changes. -/
  ok : ∀ context devices programs options handle after,
    programLinkFor context devices programs options sim = .ok handle after →
    ∃ inputs native output, List.Forall₂ sim.store.ShowsProgram programs inputs ∧
      Links sim.store devices inputs handle native output after.store
  /-- Where it fails, nothing changes. -/
  error : ∀ context devices programs options e after,
    programLinkFor context devices programs options sim = .error e after →
    after.store = sim.store
  /-- A link for the whole program ends as one for all devices of the inputs, where that exists and
  they are wrapped. -/
  whole : ∀ context devices programs options, sim.config.perDevice = true →
    (∀ device ∈ devices, sim.store.HasWrapper device) →
    (∀ program ∈ programs, ∀ input, sim.store.ShowsProgram program input →
      ∀ native ∈ input.devices, ∃ device ∈ devices, sim.store.Behind device native) →
    apartFromCalls (programLink context programs options sim) =
      apartFromCalls (programLinkFor context devices programs options sim)

variable {sim : Simulator}

/-- Where a link for chosen devices works, it has what it needs. -/
theorem canLink_of_programLinkFor (formed : sim.store.WellFormed)
    (unset : sim.failures.get? .programLinkFor = none) {handle : ProgramHandle} {after : Simulator}
    (done : programLinkFor context devices programs options sim = .ok handle after) :
    CanLink sim context devices programs := by
  obtain ⟨-, -, selected, behind, output, ⟨inputs, ⟨shows, linkable⟩, -⟩, -⟩ :=
    answers_programLinkFor.of_ok done
  have perDevice : sim.config.perDevice = true := by
    cases lacking : sim.config.perDevice with
    | true => rfl
    | false =>
        rw [programLinkFor_of_lacking lacking unset] at done
        contradiction
  rw [programLinkFor_of_behind perDevice unset behind] at done
  have needs := needs_of_linkWanted done
  constructor
  case perDevice => exact perDevice
  case context_live => exact needs.1
  case some_program => exact needs.2
  case devices_live => exact hasWrapper_of_forall₂_behind behind
  case programs_live => exact exists_forall₂_shows_iff.mp ⟨inputs, shows⟩
  case stages =>
    intro device listed native isBehind program member input shown
    refine (linkable_iff (isTidy_of_shows formed shown) behind).mp ?_ device listed native isBehind
    exact linkable input ((mem_of_forall₂_shows shows input).mpr ⟨program, member, shown⟩)

/-- A link for chosen devices that has what it needs works. -/
theorem programLinkFor_of_canLink (formed : sim.store.WellFormed)
    (unset : sim.failures.get? .programLinkFor = none)
    (can : CanLink sim context devices programs) :
    ∃ handle after, programLinkFor context devices programs options sim = .ok handle after := by
  cases outcome : programLinkFor context devices programs options sim with
  | ok handle after => exact ⟨handle, after, rfl⟩
  | error e after =>
      obtain ⟨-, ⟨injected, -⟩ | ⟨-, -, refused⟩⟩ := answers_programLinkFor.of_error outcome
      · have injected : sim.failures.get? .programLinkFor = some e := injected
        rw [unset] at injected
        contradiction
      obtain ⟨selected, behind⟩ := exists_forall₂_behind can.devices_live
      obtain ⟨inputs, shows⟩ := exists_forall₂_shows_iff.mpr can.programs_live
      refine absurd ⟨shows, ?_⟩
        (refused can.perDevice can.context_live can.some_program selected behind inputs)
      intro input known
      obtain ⟨program, member, shown⟩ := (mem_of_forall₂_shows shows input).mp known
      refine (linkable_iff (isTidy_of_shows formed shown) behind).mpr ?_
      exact fun device listed native isBehind =>
        can.stages device listed native isBehind program member input shown

/-- A link for chosen devices makes what its inputs add up to. -/
theorem links_joined (formed : sim.store.WellFormed) {output : ProgramBinary}
    (behind : List.Forall₂ sim.store.Behind devices selected)
    (shows : List.Forall₂ sim.store.ShowsProgram programs inputs)
    (gathers : Gathers (fun device => selected.contains device) inputs output) :
    Links sim.store devices inputs ⟨sim.store.nextWrapper⟩ ⟨sim.store.nextNative⟩ output
      (sim.store.joined output) := by
  have executable : ∀ device ∈ output.devices, device ∈ selected →
      output.stages.get? device = some .executable := by
    intro device member isSelected
    obtain ⟨input, last, -⟩ := gathers.exists_lastWith member
    rw [gathers.stages, last, Option.map_some, if_pos (List.contains_iff_mem.mpr isSelected)]
  constructor
  case handle_fresh =>
    refine ⟨Nat.le_refl _, Option.eq_none_iff_forall_ne_some.mpr ?_⟩
    exact fun wrapper found => Nat.lt_irrefl _ (formed.wrapper_lt _ wrapper found)
  case native_fresh =>
    refine ⟨Nat.le_refl _, Option.eq_none_iff_forall_ne_some.mpr ?_⟩
    exact fun object found => Nat.lt_irrefl _ (formed.native_lt _ object found)
  case wrapper_made => exact (Ledger.get?_set ..).trans (if_pos rfl)
  case native_made => exact (Ledger.get?_set ..).trans (if_pos rfl)
  case wrappers_kept => exact fun id other => (Ledger.get?_set ..).trans (if_neg other.symm)
  case natives_kept => exact fun native other => (Ledger.get?_set ..).trans (if_neg other.symm)
  case platforms_kept => rfl
  case devices_kept => rfl
  case devices_eq => exact gathers.devices
  case kernels_eq => exact gathers.kernels
  case listed =>
    intro wrapper listed device member isBehind
    exact executable device member
      ((mem_of_forall₂_behind behind device).mpr ⟨wrapper, listed, isBehind⟩)
  case unlisted =>
    intro device member unlisted
    have unselected : device ∉ selected := by
      rw [mem_of_forall₂_behind behind]
      rintro ⟨wrapper, listed, isBehind⟩
      exact unlisted wrapper listed isBehind
    obtain ⟨input, last, known, has⟩ := gathers.exists_lastWith member
    obtain ⟨program, -, shown⟩ := (mem_of_forall₂_shows shows input).mp known
    refine ⟨input, last, ?_⟩
    rw [gathers.stages, last, Option.map_some, if_neg (by simpa using unselected)]
    exact ((isTidy_of_shows formed shown).stage_known has).symm

theorem linksPrograms_of_wellFormed (formed : sim.store.WellFormed)
    (unset : ∀ entryPoint, sim.failures.get? entryPoint = none) : LinksPrograms sim := by
  constructor
  case ok_iff =>
    intro context devices programs options
    constructor
    · rintro ⟨handle, after, done⟩
      exact canLink_of_programLinkFor formed (unset _) done
    · exact programLinkFor_of_canLink formed (unset _)
  case ok =>
    intro context devices programs options handle after done
    obtain ⟨-, -, selected, behind, output, ⟨inputs, ⟨shows, -⟩, gathers⟩, rfl, made⟩ :=
      answers_programLinkFor.of_ok done
    refine ⟨inputs, ⟨sim.store.nextNative⟩, output, shows, ?_⟩
    rw [made]
    exact links_joined formed behind shows gathers
  case error =>
    intro context devices programs options e after failed
    obtain ⟨-, ⟨-, unchanged⟩ | ⟨-, unchanged, -⟩⟩ := answers_programLinkFor.of_error failed
    · exact unchanged
    · exact unchanged
  case whole =>
    intro context devices programs options perDevice live covered
    obtain ⟨selected, behind⟩ := exists_forall₂_behind live
    have wanted : linkWanted context programs options (fun _ => true) sim =
        linkWanted context programs options (fun device => selected.contains device) sim := by
      refine linkWanted_congr ?_
      intro program member input shown device known
      obtain ⟨wrapper, isListed, isBehind⟩ := covered program member input shown device known
      exact (List.contains_iff_mem.mpr
        ((mem_of_forall₂_behind behind device).mpr ⟨wrapper, isListed, isBehind⟩)).symm
    rw [programLink_of_unset (unset _), programLinkFor_of_behind perDevice (unset _) behind]
    calc apartFromCalls _ = apartFromCalls _ := apartFromCalls_linkWanted _ _
      _ = apartFromCalls _ := congrArg apartFromCalls wanted
      _ = apartFromCalls _ := (apartFromCalls_linkWanted _ _).symm

/-- In every reachable state of a backend with no failure set, a link of any programs for any
devices works just where it has what it needs, and then makes what the programs add up to. -/
theorem linksPrograms_replay (config : SimulatorConfig) (history : List Operation)
    (unset : ∀ entryPoint,
      (({ config } : Simulator).replay history).failures.get? entryPoint = none) :
    LinksPrograms (({ config } : Simulator).replay history) :=
  linksPrograms_of_wellFormed (wellFormed_replay Store.wellFormed_empty history) unset

/-- The history of two wrapped programs that have a device and a kernel in common, at different
stages. -/
def overlapping : List Operation :=
  [.caller .createPlatform, .caller (.createDevice ⟨4096⟩), .caller (.createDevice ⟨4096⟩),
    .caller (.createDevice ⟨4096⟩), .caller (.createContext [⟨4097⟩, ⟨4098⟩, ⟨4099⟩]),
    .caller (.createProgram [⟨4097⟩, ⟨4098⟩] .object ["saxpy", "dot"]),
    .caller (.createProgram [⟨4099⟩, ⟨4098⟩] .library ["dot", "axpy"]),
    .call (.contextCreate ⟨4100⟩ [] false), .call (.programCreate ⟨4101⟩ ⟨1⟩ false),
    .call (.programCreate ⟨4102⟩ ⟨1⟩ false), .call (.programDevices ⟨2⟩)]

/-- The overlapping programs can be linked for the device that only the first one has; the device
that they share then stands where it stands in the second one. -/
theorem linksPrograms_replay_overlapping :
    (∃ handle after,
      programLinkFor ⟨1⟩ [⟨4⟩] [⟨2⟩, ⟨3⟩] none (replay {} overlapping) = .ok handle after) ∧
    ∀ handle after,
      programLinkFor ⟨1⟩ [⟨4⟩] [⟨2⟩, ⟨3⟩] none (replay {} overlapping) = .ok handle after →
      ∃ native output, after.store.natives.get? native = some ⟨.program output, 1⟩ ∧
        output.devices = [⟨4097⟩, ⟨4098⟩, ⟨4099⟩] ∧ output.kernels = ["saxpy", "dot", "axpy"] ∧
        output.stages.get? ⟨4098⟩ = some .library := by
  have unset : ∀ entryPoint, (replay {} overlapping).failures.get? entryPoint = none := by
    have none : (replay {} overlapping).failures = {} := by decide +kernel
    exact fun entryPoint => by rw [none]; rfl
  have links := linksPrograms_replay .cuda overlapping unset
  let first : ProgramBinary := .uniform [⟨4097⟩, ⟨4098⟩] .object ["saxpy", "dot"]
  let second : ProgramBinary := .uniform [⟨4099⟩, ⟨4098⟩] .library ["dot", "axpy"]
  have shows : (replay {} overlapping).store.ShowsProgram ⟨2⟩ first :=
    ⟨⟨4101⟩, ⟨⟨.program, ⟨4101⟩, 1, false⟩, by decide +kernel, rfl, rfl⟩, 1, by decide +kernel⟩
  have shows' : (replay {} overlapping).store.ShowsProgram ⟨3⟩ second :=
    ⟨⟨4102⟩, ⟨⟨.program, ⟨4102⟩, 1, false⟩, by decide +kernel, rfl, rfl⟩, 1, by decide +kernel⟩
  have behind : (replay {} overlapping).store.Behind (⟨4⟩ : DeviceHandle) ⟨4097⟩ :=
    ⟨⟨.device, ⟨4097⟩, 1, false⟩, by decide +kernel, rfl, rfl⟩
  constructor
  · refine (links.ok_iff ⟨1⟩ [⟨4⟩] [⟨2⟩, ⟨3⟩] none).mpr ?_
    constructor
    case perDevice => rfl
    case context_live => exact ⟨⟨.context, ⟨4100⟩, 1, false⟩, by decide +kernel, rfl⟩
    case some_program => exact List.cons_ne_nil _ _
    case devices_live => simpa using behind.hasWrapper
    case programs_live => simpa using ⟨⟨first, shows⟩, second, shows'⟩
    case stages =>
      intro device listed native isBehind program member input shown known
      obtain rfl : device = ⟨4⟩ := by simpa using listed
      obtain rfl := behind.unique isBehind
      obtain rfl | rfl : program = ⟨2⟩ ∨ program = ⟨3⟩ := by simpa using member
      · obtain rfl := shows.unique shown
        exact Or.inl (by decide)
      · obtain rfl := shows'.unique shown
        exact absurd known (by decide)
  · intro handle after done
    obtain ⟨inputs, native, output, shown, made⟩ :=
      links.ok ⟨1⟩ [⟨4⟩] [⟨2⟩, ⟨3⟩] none handle after done
    obtain rfl : inputs = [first, second] := by
      cases shown with
      | cons one rest =>
          cases rest with
          | cons another none =>
              cases none
              rw [shows.unique one, shows'.unique another]
    have devices : output.devices = [⟨4097⟩, ⟨4098⟩, ⟨4099⟩] := made.devices_eq.trans (by decide)
    have kernels : output.kernels = ["saxpy", "dot", "axpy"] := made.kernels_eq.trans (by decide)
    refine ⟨native, output, made.native_made, devices, kernels, ?_⟩
    obtain ⟨input, last, same⟩ := made.unlisted ⟨4098⟩ (by rw [devices]; decide) (by
      intro wrapper listed isBehind
      obtain rfl : wrapper = ⟨4⟩ := by simpa using listed
      exact absurd (behind.unique isBehind) (by decide))
    have latest : lastWith ⟨4098⟩ [first, second] = some second := by decide +kernel
    obtain rfl := Option.some.inj (latest.symm.trans last)
    exact same.trans (by decide)

end Simulator

end ComputeImport
