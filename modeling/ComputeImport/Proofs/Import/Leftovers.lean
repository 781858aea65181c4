import ComputeImport.Proofs.Import.Failure
import ComputeImport.Proofs.Import.Reconciliation

/-!
# Wrappers and references after a failed import

With the reference backends, a failed import leaves no counted wrapper behind but in one case: where
the backend takes no reference to a new wrapper and the importer could not take one either, the
wrapper stays.  An import that takes its native object over from the caller has taken the caller's
reference too once it has asked the new wrapper for devices, even where it fails then.
-/

namespace ComputeImport

open Simulator

/-- The same counted wrappers are live, each with the same references. -/
def Store.SameCounted (before after : Store) : Prop :=
  ∀ id wrapper, wrapper.data.kind.isCounted = true →
    (after.wrappers.get? id = some wrapper ↔ before.wrappers.get? id = some wrapper)

theorem Store.Beyond.sameCounted {start store : Store} {spent : List Wrapper}
    (beyond : start.Beyond [] spent store) : start.SameCounted store :=
  fun id wrapper counted => beyond.others id wrapper List.not_mem_nil counted

/-- A wrapper that has been made since a start was not there then. -/
theorem Store.Beyond.unknown {start store : Store} {made : List (Nat × Wrapper)}
    {spent : List Wrapper} (beyond : start.Beyond made spent store) {entry : Nat × Wrapper}
    (member : entry ∈ made) : start.wrappers.get? entry.1 = none := by
  rw [Option.eq_none_iff_forall_ne_some]
  intro wrapper found
  have below := beyond.started.wrapper_lt entry.1 wrapper found
  exact absurd (beyond.live entry member).2.2 (Nat.not_le.mpr below)

/-- A native object with references is live, and its number is in use. -/
theorem Store.Tabled.lt_of_refsTo {store : Store} (tabled : store.Tabled) {native : NativeHandle}
    (live : 0 < store.refsTo native) : native.raw < store.nextNative := by
  cases found : store.natives.get? native with
  | some object => exact tabled.native_lt native object found
  | none =>
      rw [refsTo, found] at live
      exact absurd live (Nat.lt_irrefl 0)

/-- A reference backend takes a reference to a new wrapper exactly where importers are not asked to
take one. -/
theorem Backend.needsRetain_demands {backend : Backend} {config : SimulatorConfig}
    (preset : SimulatorConfig.ofBackend? backend = some config) :
    backend.demands.needsRetain = !config.retainsOnImport ∧
      (config.retainsOnImport = false → backend = .openCl) := by
  cases backend <;> cases preset <;> decide

namespace Request

variable {session : Session} {registry : Registry} {backend : Backend} {provider : Provider}
  {request : Request} {e : ImportError} {after : Host}

/-- With a reference backend that is not told to fail a release, a failed import leaves the counted
wrappers as they were unless it has been told to fail to take a reference to its wrapper and has come
to that.  Then, which can only happen with OpenCL, the wrapper stays without a reference. -/
theorem sameCounted_iff (reachable : session.Reachable)
    (resolved : registry.provider? backend = some provider)
    (preset : SimulatorConfig.ofBackend? backend =
      some (session.host.simulator provider.table.simulator).config)
    (demands : provider.demands = backend.demands)
    (harmless : ∀ entryPoint kind, entryPoint.counting? = some (.release, kind) →
      (session.host.simulator provider.table.simulator).failures.get? entryPoint = none)
    (outcome : request.run registry backend session.host = .error e after) :
    ((session.host.simulator provider.table.simulator).store.SameCounted
        (after.simulator provider.table.simulator).store ↔
      ¬ ((session.host.simulator provider.table.simulator).failures.get? request.retain ≠ none ∧
        (after.simulator provider.table.simulator).failures.get? request.retain = none)) ∧
    ((session.host.simulator provider.table.simulator).failures.get? request.retain ≠ none →
      (after.simulator provider.table.simulator).failures.get? request.retain = none →
      backend = .openCl ∧ ∃ id data, data.kind = request.kind ∧
        (session.host.simulator provider.table.simulator).store.wrappers.get? id = none ∧
        (after.simulator provider.table.simulator).store.wrappers.get? id =
          some ⟨data, request.native, 0, !request.keeps⟩ ∧
        ∀ other wrapper, other ≠ id → wrapper.data.kind.isCounted = true →
          ((after.simulator provider.table.simulator).store.wrappers.get? other = some wrapper ↔
            (session.host.simulator provider.table.simulator).store.wrappers.get? other =
              some wrapper)) := by
  obtain ⟨suits, onlyOpenCl⟩ := Backend.needsRetain_demands preset
  rw [← demands] at suits
  have failed : request.Failed (session.host.simulator provider.table.simulator)
      (after.simulator provider.table.simulator) :=
    (ends_run request resolved suits (reachable.wellFormed _)).of_error outcome
  cases failed with
  | unmade unchanged did =>
      have still : (after.simulator provider.table.simulator).failures.get? request.retain =
          (session.host.simulator provider.table.simulator).failures.get? request.retain :=
        did.failures fun called => called.1 rfl
      rw [unchanged, still]
      constructor
      · exact iff_of_true (fun _ _ _ => Iff.rfl) fun both => both.1 both.2
      · exact fun told unset => absurd unset told
  | unretained id data kind_eq _ lacking told used _ beyond =>
      have unknown := beyond.unknown List.mem_cons_self
      have found := (beyond.live _ List.mem_cons_self).1
      constructor
      · refine iff_of_false ?_ fun unretained => unretained ⟨told, used⟩
        intro same
        have counted := (beyond.live _ List.mem_cons_self).2.1
        rw [(same id _ counted).mp found] at unknown
        contradiction
      · intro _ _
        refine ⟨onlyOpenCl lacking, id, data, kind_eq, unknown, found, ?_⟩
        intro other wrapper different counted
        exact beyond.others other wrapper (by simpa using different) counted
  | abandoned first left gone release _ _ _ _ _ calm counting all _ beyond =>
      rw [all (harmless release request.kind counting)] at beyond
      have unspent : ¬ ((session.host.simulator provider.table.simulator).failures.get?
            request.retain ≠ none ∧
          (after.simulator provider.table.simulator).failures.get? request.retain = none) := by
        rintro ⟨told, used⟩
        exact calm.elim told fun still => still used
      exact ⟨iff_of_true beyond.sameCounted unspent,
        fun told used => absurd ⟨told, used⟩ unspent⟩

end Request

/-- A session over OpenCL in which taking a reference to a context has been told to fail. -/
def Session.deprived : Session :=
  let registration : Registration := { backend := .openCl, table := { simulator := 0 } }
  ((opening [.openCl] [.listed [registration] {}] {}).run
    [⟨.caller 0 .createPlatform, none⟩,
      ⟨.caller 0 (.createDevice ⟨4096⟩), none⟩,
      ⟨.caller 0 (.createContext [⟨4097⟩]), none⟩,
      ⟨.caller 0 (.inject .contextRetain (.other "refused")), none⟩]).2

/-- The provider that the session registers. -/
def Provider.openCl : Provider :=
  ⟨0, .openCl, Backend.openCl.demands, { simulator := 0 }⟩

/-- The registry of the session. -/
def Registry.openCl : Registry :=
  Registry.register {} .openCl

namespace Request

theorem deprived_harmless (entryPoint : EntryPoint) (kind : ObjectKind)
    (counting : entryPoint.counting? = some (.release, kind)) :
    (Session.deprived.host.simulator 0).failures.get? entryPoint = none := by
  have failures : (Session.deprived.host.simulator 0).failures =
      ⟨[(.contextRetain, .other "refused")]⟩ := by decide +kernel
  rw [failures]
  cases entryPoint <;> cases counting <;> rfl

theorem deprived_fails :
    ∃ e after, (Request.context ⟨4098⟩).run .openCl .openCl Session.deprived.host = .error e after ∧
      (Session.deprived.host.simulator 0).failures.get? .contextRetain ≠ none ∧
      (after.simulator 0).failures.get? .contextRetain = none ∧
      (Session.deprived.host.simulator 0).store.wrappers.get? 1 = none ∧
      (after.simulator 0).store.wrappers.get? 1 = some ⟨.context, ⟨4098⟩, 0, false⟩ := by
  have failure : failsWith (fun _ after =>
      decide ((Session.deprived.host.simulator 0).failures.get? .contextRetain ≠ none ∧
        (after.simulator 0).failures.get? .contextRetain = none ∧
        (Session.deprived.host.simulator 0).store.wrappers.get? 1 = none ∧
        (after.simulator 0).store.wrappers.get? 1 = some ⟨.context, ⟨4098⟩, 0, false⟩))
      ((Request.context ⟨4098⟩).run .openCl .openCl Session.deprived.host) = true := by
    decide +kernel
  obtain ⟨e, after, outcome, ended⟩ := exists_of_failsWith failure
  exact ⟨e, after, outcome, of_decide_eq_true ended⟩

/-- A failed import may leave a wrapper behind, with a reference backend and without a release that
has been told to fail. -/
theorem exists_leftover :
    Session.deprived.Reachable ∧ Registry.openCl.provider? .openCl = some .openCl ∧
    SimulatorConfig.ofBackend? .openCl = some (Session.deprived.host.simulator 0).config ∧
    (∀ entryPoint kind, entryPoint.counting? = some (.release, kind) →
      (Session.deprived.host.simulator 0).failures.get? entryPoint = none) ∧
    ∃ e after, (Request.context ⟨4098⟩).run .openCl .openCl Session.deprived.host = .error e after ∧
      ¬ (Session.deprived.host.simulator 0).store.SameCounted (after.simulator 0).store := by
  obtain ⟨e, after, outcome, -, -, unknown, found⟩ := deprived_fails
  refine ⟨⟨_, _, _, _, rfl⟩, by decide, by decide +kernel, deprived_harmless, e, after, outcome, ?_⟩
  intro same
  rw [(same 1 _ rfl).mp found] at unknown
  contradiction

/-- There a wrapper without a reference has stayed. -/
theorem sameCounted_iff_deprived :
    ∃ e after, (Request.context ⟨4098⟩).run .openCl .openCl Session.deprived.host = .error e after ∧
      ∃ id data, (Session.deprived.host.simulator 0).store.wrappers.get? id = none ∧
        (after.simulator 0).store.wrappers.get? id = some ⟨data, ⟨4098⟩, 0, false⟩ := by
  obtain ⟨e, after, outcome, told, used, -⟩ := deprived_fails
  have resolved : Registry.openCl.provider? .openCl = some .openCl := by decide
  have preset : SimulatorConfig.ofBackend? .openCl =
      some (Session.deprived.host.simulator Provider.openCl.table.simulator).config := by
    decide +kernel
  have reachable : Session.deprived.Reachable := ⟨_, _, _, _, rfl⟩
  obtain ⟨-, id, data, -, unknown, found, -⟩ :=
    (sameCounted_iff reachable resolved preset rfl deprived_harmless outcome).2 told used
  exact ⟨e, after, outcome, id, data, unknown, found⟩

end Request

section

variable {session : Session} {registry : Registry} {backend : Backend} {provider : Provider}
  {request : Request} {e : ImportError} {after : Host}

/-- A failed import that takes its native object over leaves the caller's reference alone as long as
it has not asked the new wrapper for devices.  Once it has, the reference has gone with the wrapper,
or the wrapper is still there because a release has been told to fail. -/
theorem Request.refsTo_of_failure (reachable : session.Reachable)
    (resolved : registry.provider? backend = some provider)
    (suits : provider.demands.needsRetain =
      !(session.host.simulator provider.table.simulator).config.retainsOnImport)
    (transferred : request.keeps = false)
    (outcome : request.run registry backend session.host = .error e after) :
    (¬ request.Asked (session.host.simulator provider.table.simulator)
        (after.simulator provider.table.simulator) →
      (after.simulator provider.table.simulator).store.refsTo request.native =
        (session.host.simulator provider.table.simulator).store.refsTo request.native) ∧
    (request.Asked (session.host.simulator provider.table.simulator)
        (after.simulator provider.table.simulator) →
      (session.host.simulator provider.table.simulator).store.refsTo request.native =
          (after.simulator provider.table.simulator).store.refsTo request.native + 1 ∨
        ((after.simulator provider.table.simulator).store.refsTo request.native =
            (session.host.simulator provider.table.simulator).store.refsTo request.native ∧
          (∃ release, release.counting? = some (.release, request.kind) ∧
            (session.host.simulator provider.table.simulator).failures.get? release ≠ none) ∧
          ∃ id wrapper,
            (session.host.simulator provider.table.simulator).store.wrappers.get? id = none ∧
            (after.simulator provider.table.simulator).store.wrappers.get? id = some wrapper ∧
            wrapper.data.kind = request.kind ∧ wrapper.native = request.native ∧
            wrapper.ownsNative = true)) := by
  have formed := reachable.wellFormed provider.table.simulator
  have failed : request.Failed (session.host.simulator provider.table.simulator)
      (after.simulator provider.table.simulator) :=
    (ends_run request resolved suits formed).of_error outcome
  have unasked : Did (fun entryPoint => request.inquiry? ≠ some entryPoint)
      (session.host.simulator provider.table.simulator)
      (after.simulator provider.table.simulator) →
      ¬ request.Asked (session.host.simulator provider.table.simulator)
        (after.simulator provider.table.simulator) := by
    rintro did ⟨inquiry, isInquiry, more⟩
    rw [did.callCount (Decidable.not_not.mpr isInquiry)] at more
    exact Nat.lt_irrefl _ more
  cases failed with
  | unmade unchanged did =>
      rw [unchanged]
      have never := unasked (did.mono fun _ allowed => allowed.2)
      exact ⟨fun _ => rfl, fun asked => absurd asked never⟩
  | unretained id data _ live _ _ _ did beyond =>
      exact ⟨fun _ => beyond.refs request.native (formed.lt_of_refsTo live),
        fun asked => absurd asked (unasked did)⟩
  | abandoned first left gone release kind_eq native_eq owns_eq live asked _ counting all descends
      beyond =>
      refine ⟨fun never => absurd asked never, fun _ => ?_⟩
      have below := formed.lt_of_refsTo live
      have refs := beyond.refs request.native below
      rw [← native_eq] at below refs live ⊢
      rw [transferred] at owns_eq
      rcases descends.countP_gone below owns_eq with ⟨isLeft, none⟩ | ⟨isGone, single⟩
      · right
        rw [none, Nat.sub_zero] at refs
        refine ⟨refs, ⟨release, counting, ?_⟩, first.1, first.2, beyond.unknown isLeft,
          (beyond.live first isLeft).1, kind_eq, rfl, owns_eq⟩
        intro unset
        rw [all unset] at isLeft
        exact absurd isLeft List.not_mem_nil
      · left
        rw [single] at refs
        rw [refs, Nat.sub_add_cancel live]

end

/-- A session over CUDA with a context and a program that has been built. -/
def Session.built : Session :=
  .sample .cuda [⟨4097⟩] .executable []

/-- The import of that program as one that has not been built. -/
def Request.backward : Request :=
  .program ⟨4100⟩ .sample false .input

theorem Request.backward_fails :
    ∃ e after, Request.backward.run .sample .cuda Session.built.host = .error e after ∧
      Request.backward.Asked (Session.built.host.simulator 0) (after.simulator 0) ∧
      (Session.built.host.simulator 0).store.refsTo ⟨4100⟩ = 1 ∧
      (after.simulator 0).store.refsTo ⟨4100⟩ = 0 := by
  have failure : failsWith (fun _ after =>
      decide ((Session.built.host.simulator 0).callCount .programNumDevices <
          (after.simulator 0).callCount .programNumDevices ∧
        (Session.built.host.simulator 0).store.refsTo ⟨4100⟩ = 1 ∧
        (after.simulator 0).store.refsTo ⟨4100⟩ = 0))
      (Request.backward.run .sample .cuda Session.built.host) = true := by
    decide +kernel
  obtain ⟨e, after, outcome, ended⟩ := exists_of_failsWith failure
  obtain ⟨asked, counts⟩ := of_decide_eq_true ended
  exact ⟨e, after, outcome, ⟨.programNumDevices, rfl, asked⟩, counts⟩

/-- A failed import may take the caller's only reference, though no call has been told to fail. -/
theorem Request.exists_consumed :
    Session.built.Reachable ∧ Registry.sample.provider? .cuda = some .sample ∧
    Provider.sample.demands.needsRetain = !(Session.built.host.simulator 0).config.retainsOnImport ∧
    (Session.built.host.simulator 0).failures = {} ∧ Request.backward.keeps = false ∧
    ∃ e after, Request.backward.run .sample .cuda Session.built.host = .error e after ∧
      (after.simulator 0).store.refsTo Request.backward.native ≠
        (Session.built.host.simulator 0).store.refsTo Request.backward.native := by
  obtain ⟨e, after, outcome, -, one, none⟩ := Request.backward_fails
  refine ⟨Session.sample_reachable, by decide, by decide +kernel, by decide +kernel, rfl,
    e, after, outcome, ?_⟩
  show (after.simulator 0).store.refsTo ⟨4100⟩ ≠
    (Session.built.host.simulator 0).store.refsTo ⟨4100⟩
  rw [one, none]
  decide

/-- There the reference has gone with the wrapper. -/
theorem Request.refsTo_of_failure_backward :
    ∃ e after, Request.backward.run .sample .cuda Session.built.host = .error e after ∧
      ((Session.built.host.simulator 0).store.refsTo ⟨4100⟩ =
          (after.simulator 0).store.refsTo ⟨4100⟩ + 1 ∨
        ∃ release, release.counting? = some (.release, .program) ∧
          (Session.built.host.simulator 0).failures.get? release ≠ none) := by
  obtain ⟨e, after, outcome, asked, -⟩ := Request.backward_fails
  have resolved : Registry.sample.provider? .cuda = some .sample := by decide
  have suits : Provider.sample.demands.needsRetain =
      !(Session.built.host.simulator Provider.sample.table.simulator).config.retainsOnImport := by
    decide +kernel
  have reachable : Session.built.Reachable := Session.sample_reachable
  rcases (Request.refsTo_of_failure reachable resolved suits rfl outcome).2 asked with
    gone | ⟨-, told, -⟩
  · exact ⟨e, after, outcome, .inl gone⟩
  · exact ⟨e, after, outcome, .inr told⟩

end ComputeImport
