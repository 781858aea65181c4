import ComputeImport.Proofs.Import.Listing

/-!
# While backends are numbered

A backend that is set up gets the next number.  Where backends have been numbered so all along, no
other is replaced, and what does not speak of the new one stays as it is.  No call brings backends into
this order that they have not been in from the start.
-/

namespace ComputeImport

/-- The backends have the numbers from zero on. -/
def Host.Numbered (host : Host) : Prop :=
  ∃ size, host.simulators.keys = List.range size

section Numbered

variable {ε α : Type} {host after : Host} {number : Nat} {sim : Simulator} {holds : Host → Prop}

/-- Setting one backend brings no order about. -/
theorem Host.Numbered.of_set
    (numbered : ({ host with simulators := host.simulators.set number sim } : Host).Numbered) :
    host.Numbered := by
  obtain ⟨size, keys⟩ := numbered
  rw [Ledger.keys_set] at keys
  split at keys
  · exact ⟨size, keys⟩
  · cases size with
    | zero => exact absurd (congrArg List.length keys) (by simp)
    | succ size =>
        rw [List.range_succ] at keys
        exact ⟨size, (List.append_inj' keys rfl).1⟩

/-- The number of the next backend is new. -/
theorem Host.Numbered.size_unknown (numbered : host.Numbered) :
    host.simulators.size ∉ host.simulators.keys := by
  obtain ⟨size, keys⟩ := numbered
  rw [Ledger.size_of_keys keys, keys]
  exact fun member => Nat.lt_irrefl size (List.mem_range.mp member)

theorem Host.Numbered.of_advance (numbered : (host.advance number sim).Numbered) : host.Numbered :=
  Host.Numbered.of_set numbered

theorem Host.Numbered.of_simulators (numbered : after.Numbered)
    (same : after.simulators = host.simulators) : host.Numbered := by
  rw [Host.Numbered, ← same]
  exact numbered

theorem respects_unnumbered :
    Respects (fun _ => True) (fun _ => True) fun host => ¬ host.Numbered := by
  apply Respects.uncached
  case call => exact fun _ _ _ _ _ unnumbered numbered => unnumbered numbered.of_advance
  case other => exact fun _ _ same _ _ unnumbered numbered => unnumbered (numbered.of_simulators same)

/-- A program brings no order about that was not there. -/
theorem Unlisting.whileNumbered {body : EStateM ε Host α} {ok : α → Host → Prop}
    (unlisting : Unlisting body) (ends : host.Numbered → Ends body host ok fun _ _ => True) :
    Ends body host (fun a after => after.Numbered → ok a after) (fun _ _ => True) := by
  by_cases numbered : host.Numbered
  · exact (ends numbered).imp (fun _ _ ended _ => ended) fun _ _ _ => trivial
  · apply ((unlisting _ respects_unnumbered.overlooks).ends host numbered).imp
    · exact fun _ _ unnumbered numbered => absurd numbered unnumbered
    · exact fun _ _ _ => trivial

end Numbered

end ComputeImport
