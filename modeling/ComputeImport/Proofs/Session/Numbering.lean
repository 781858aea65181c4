import ComputeImport.Proofs.Import.Numbering
import ComputeImport.Proofs.Session.Upkeep

/-!
# What is upheld while backends are numbered

Whatever is sustained of sessions is upheld while their backends are numbered, since they have been so
from the start.
-/

namespace ComputeImport

theorem Overlooks.overNumbered {inv : List Managed → Host → Prop} {held : Ledger String Managed}
    (overlooks : Overlooks (Over inv held)) :
    Overlooks (Over (fun values host => host.Numbered → inv values host) held) := by
  constructor
  case call =>
    exact fun host number call unlisting kept =>
      ⟨fun numbered => (overlooks.call host number call unlisting
        ⟨kept.1 numbered.of_advance, kept.2⟩).1, kept.2⟩
  case enter =>
    exact fun host caches enters kept =>
      ⟨fun numbered => (overlooks.enter host caches enters ⟨kept.1 numbered, kept.2⟩).1, kept.2⟩
  case other =>
    exact fun host after same held caches lists le kept =>
      ⟨fun numbered => (overlooks.other host after same held caches lists le
        ⟨kept.1 (numbered.of_simulators same), kept.2⟩).1, held.trans kept.2⟩

/-- What is sustained of sessions, and kept when a backend gets a new number, is upheld while backends
are numbered. -/
theorem Sustained.whileNumbered {held : Ledger String Managed} {inv : List Managed → Host → Prop}
    (sustained : Sustained held inv)
    (setUp : ∀ {values host} config, host.simulators.size ∉ host.simulators.keys →
      inv values host →
        inv values { host with simulators := host.simulators.set host.simulators.size { config } }) :
    Upheld held fun values host => host.Numbered → inv values host := by
  constructor
  case setUp =>
    exact fun config kept numbered => setUp config numbered.of_set.size_unknown (kept numbered.of_set)
  constructor
  case fewer => exact fun kept fewer numbered => sustained.fewer (kept numbered) fewer
  case overlooks => exact fun held => (sustained.overlooks held).overNumbered
  case letGo =>
    intro values host value kept numbered
    apply sustained.letGo value (kept ?_)
    by_contra unnumbered
    exact Unlisting.steps_letGo value _ respects_unnumbered.overlooks host unnumbered numbered
  case hold =>
    exact fun held kept numbered => sustained.hold held (kept (numbered.of_simulators rfl))
  case bare => exact fun kept bare numbered => sustained.bare (kept numbered) bare
  case part => exact fun kept isHeld isPart numbered => sustained.part (kept numbered) isHeld isPart
  case image =>
    exact fun kept isHeld isImage numbered => sustained.image (kept numbered) isHeld isImage
  case empty => exact fun kept isHeld numbered => sustained.empty (kept numbered) isHeld
  case join =>
    exact fun kept areHeld isJoined numbered => sustained.join (kept numbered) areHeld isJoined
  case platform =>
    exact fun isHeld kept => Unlisting.whileNumbered (Unlisting.makePlatform _ _ _)
      fun numbered => sustained.platform isHeld (kept numbered)
  case device =>
    exact fun isHeld kept => Unlisting.whileNumbered (Unlisting.makeDevice _ _ _)
      fun numbered => sustained.device isHeld (kept numbered)
  case found =>
    exact fun isHeld kept isPlatform => Unlisting.whileNumbered (Unlisting.findOrMakeDevice _ _ _)
      fun numbered => sustained.found isHeld (kept numbered) isPlatform
  case queue =>
    exact fun isHeld kept isContext isDevice => Unlisting.whileNumbered
      (Unlisting.makeQueue _ _ _ _ _ _ _ _)
      fun numbered => sustained.queue isHeld (kept numbered) isContext isDevice
  case program =>
    exact fun isHeld kept isContext => Unlisting.whileNumbered (Unlisting.importProgram _ _ _ _ _ _)
      fun numbered => sustained.program isHeld (kept numbered) isContext
  case kernel =>
    exact fun isHeld kept isContext isBundle => Unlisting.whileNumbered
      (Unlisting.importKernel _ _ _ _ _ _)
      fun numbered => sustained.kernel isHeld (kept numbered) isContext isBundle
  case names =>
    intro held host value image kept isHeld isImage
    by_cases numbered : host.Numbered
    · apply (sustained.names ⟨kept.1 numbered, kept.2⟩ isHeld isImage).imp
      · exact fun _ _ kept _ => kept
      · exact fun _ _ kept _ => kept
    · have asks : OnlyCalls image.kernelNames := .of_quiet (Uses.imageKernelNames trivial)
      have unnumbered := (asks _ respects_unnumbered).ends host numbered
      apply unnumbered.imp
      · exact fun _ _ unnumbered numbered => absurd numbered unnumbered
      · exact fun _ _ unnumbered numbered => absurd numbered unnumbered

end ComputeImport
