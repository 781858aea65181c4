import ComputeImport.Proofs.Import.Program

/-!
# Imports that only the program can stop

Where everything is live and no call has been told to fail, the parts of an import that come before
and after taking the program further cannot fail.  The import then ends as taking the program
further does.
-/

namespace ComputeImport

open Simulator

/-- No call has been told to fail, and a context is live. -/
structure Simulator.Unhindered (sim : Simulator) (context : ContextHandle) : Prop where
  unset : ∀ entryPoint, sim.failures.get? entryPoint = none
  context : sim.store.HasWrapper context
  formed : sim.store.WellFormed

namespace Simulator

variable {before after : Simulator} {allowed : EntryPoint → Prop} {context : ContextHandle}

theorem Did.unhindered_of (did : Did allowed before after) (unhindered : before.Unhindered context)
    (live : after.store.HasWrapper context) (formed : after.store.WellFormed) :
    after.Unhindered context :=
  ⟨fun entryPoint => did.unset (unhindered.unset entryPoint), live, formed⟩

/-- Calls that only add to the store put nothing in the way. -/
theorem Did.unhindered {wraps : ObjectKind → Prop} (did : Did allowed before after)
    (unhindered : before.Unhindered context)
    (grows : Store.Grows wraps before.store after.store) : after.Unhindered context := by
  obtain ⟨wrapper, found, isContext⟩ := unhindered.context
  have live : after.store.HasWrapper context :=
    ⟨wrapper, grows.get?_wrappers unhindered.formed found, isContext⟩
  exact did.unhindered_of unhindered live (grows.wellFormed unhindered.formed)

/-- Once the program has been wrapped, nothing has been put in the way. -/
theorem Did.unhindered_of_enters {native : NativeHandle} {binary : ProgramBinary}
    {ownsNative : Bool} {wrapper : ProgramHandle} (did : Did allowed before after)
    (unhindered : before.Unhindered context)
    (enters : before.store.Enters native binary ownsNative wrapper after.store) :
    after.Unhindered context :=
  did.unhindered_of unhindered (enters.hasWrapper unhindered.context) enters.wellFormed

end Simulator

section Import

variable {registry : Registry} {handle : NativeHandle} {context : Context}
  {target : BundleState} {backend : Backend} {host : Host} {provider : Provider}
  {binary : ProgramBinary} {number : Nat}

/-- An import that has everything it needs ends as taking the program further does, once the program
has been wrapped and its devices have been listed. -/
theorem ends_importProgram_of_advance (ok : Built → Simulator → Prop)
    (failed : ImportError → Simulator → Prop) (isNumber : provider.table.simulator = number)
    (resolved : registry.provider? backend = some provider)
    (direct : provider.table.delegation = none)
    (unhindered : (host.simulator number).Unhindered context.handle)
    (known : (host.simulator number).program? handle = some binary)
    (few : binary.devices.length < UInt32.size)
    (live : ∀ device ∈ binary.devices, ∃ platform refs,
      (host.simulator number).store.natives.get? device = some ⟨.device platform, refs⟩ ∧
      (host.simulator number).store.HasNative .platform platform)
    (advances : ∀ {wrapper : ProgramHandle} {handles : List DeviceHandle} {ready : Host},
      Did EntryPoint.Prepares (host.simulator number) (ready.simulator number) →
      (host.simulator number).store.Enters handle binary false wrapper
        (ready.simulator number).store →
      (ready.simulator number).store.Lists binary.devices handles →
      Ends (Builder.advance ⟨provider, context, registry.options⟩ target ⟨wrapper, provider⟩ []
          handles) ready
        (fun built after =>
          Store.Grows (fun kind => kind = .program) (ready.simulator number).store
            (after.simulator number).store ∧
          (after.simulator number).failures.get? .devicePlatform = none ∧
          ok built (after.simulator number))
        (fun e after => failed e (after.simulator number))) :
    Ends (importProgram registry handle context true target backend) host
      (fun bundle after => ∃ image advanced, bundle.images = [image] ∧
        ok ⟨image.program, image.superseded⟩ advanced ∧
        advanced.store.Quiet (after.simulator number).store ∧
        Did (fun entryPoint => entryPoint = .devicePlatform) advanced (after.simulator number))
      (fun e after => failed e (after.simulator number)) := by
  unfold importProgram
  rw [ends_bind, ends_notify]
  refine Ends.timed ?_ (fun _ _ _ ended => ended) fun _ _ _ ended => ended
  refine (ends_resolve.imp (fun _ _ ended => ended) ?_).bind ?_
  · rintro e after ⟨unresolved, -⟩
    rw [resolved] at unresolved
    contradiction
  rintro provider' start ⟨resolved', notice, noted⟩
  obtain rfl : provider = provider' := Option.some.inj (resolved.symm.trans resolved')
  have same : start.simulator number = host.simulator number := by
    rw [noted]
    rfl
  rw [← same] at unhindered known live advances
  refine ((ends_programCreate isNumber unhindered.formed).imp (fun _ _ ended => ended) ?_).bind ?_
  · rintro e after ⟨-, injected | dead, -⟩
    · exact absurd (unhindered.unset _) injected
    · rw [dead unhindered.context] at known
      contradiction
  rintro wrapper created ⟨⟨binary', known', enters⟩, did⟩
  obtain rfl : binary = binary' := Option.some.inj (known.symm.trans known')
  refine ((ends_takeReference isNumber).imp (fun _ _ ended => ended) ?_).bind ?_
  · rintro e after ⟨-, injected | dead, -⟩
    · exact absurd ((did.unhindered_of_enters unhindered enters).unset _) injected
    · exact absurd enters.leads.1.hasWrapper dead
  rintro _ taken ⟨recounts, did'⟩
  replace enters := enters.recounts recounts
  replace did := did.trans did'
  refine (ends_orRelease.mpr ((ends_listDevices isNumber enters.leads).imp
    (fun _ _ ended => ended) ?_)).bind ?_
  · rintro e after ⟨-, injected | injected | delegates | ⟨device, member, dead⟩ | many, -⟩
    · exact absurd ((did.unhindered_of_enters unhindered enters).unset _) injected
    · exact absurd ((did.unhindered_of_enters unhindered enters).unset _) injected
    · exact absurd direct delegates
    · obtain ⟨platform, refs, found, -⟩ := live device member
      rw [Store.HasNative, enters.natives] at dead
      exact absurd ⟨_, found, rfl⟩ dead
    · exact absurd few (Nat.not_lt.mpr many)
  rintro handles listed ⟨quiet, lists, liveDevices, did'⟩
  replace enters := enters.quiet quiet
  replace did := did.trans did'
  rw [ends_bind, ends_notify]
  generalize noted' : listed.notify _ = ready
  have same' : ready.simulator number = listed.simulator number := by
    rw [← noted']
    rfl
  rw [← same'] at enters did lists
  refine ((advances did enters lists).imp (fun _ _ ended => ended) fun _ _ ended => ended).bind ?_
  rintro built advanced ⟨grows, unset, done⟩
  have lists' := Store.Lists.grows lists grows
  refine (ends_orRelease.mpr ((ends_manageDevices isNumber (grows.wellFormed enters.wellFormed)).imp
    (fun _ _ ended => ended) ?_)).bind ?_
  · rintro e after ⟨-, injected | stranded, -⟩
    · exact absurd unset injected
    · have liveDevices' : ∀ device ∈ binary.devices,
          (ready.simulator number).store.HasNative .device device := by
        intro device member
        rw [same', quiet.hasNative_iff]
        exact liveDevices device member
      obtain ⟨device, member, platform, refs, found, dead⟩ :=
        exists_stranded enters.wellFormed grows lists' liveDevices' stranded
      obtain ⟨platform', refs', found', livePlatform⟩ := live device member
      rw [enters.natives, found'] at found
      cases found
      rw [Store.HasNative, enters.natives] at dead
      exact absurd livePlatform dead
  rintro devices after ⟨-, quiet', did''⟩
  rw [ends_bind, ends_freshIdentity]
  exact ⟨⟨after.nextIdentity, built.current, built.superseded, devices, target⟩, _, rfl, done,
    quiet', did''⟩

end Import

end ComputeImport
