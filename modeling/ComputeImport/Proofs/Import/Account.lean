import ComputeImport.Proofs.Import.Beyond

/-!
# Imports that are under way

An import that has wrapped a native object goes on by calls that may all fail.  `Account` says where
it stands with its backend: which wrappers it has made and not released, and which have ended.  Calls
that count nothing leave this as it is, a link adds the wrapper of a new program, and a release takes
a wrapper away, or has been told to fail.
-/

namespace ComputeImport

open Simulator

/-- No references to wrappers are taken by an entry point. -/
def EntryPoint.TakesNone (entryPoint : EntryPoint) : Prop :=
  ∀ kind, entryPoint.counting? ≠ some (.retain, kind)

theorem EntryPoint.IsQuiet.takesNone {entryPoint : EntryPoint} (quiet : entryPoint.IsQuiet) :
    entryPoint.TakesNone := by
  intro kind counting
  rw [quiet.1] at counting
  contradiction

/-- Where an import stands at the backend of a provider: the counted wrappers of `made` are there
beyond those of the start, those of `spent` have ended, and since it has begun to go on the import
has taken no reference. -/
structure Account (provider : Provider) (start : Store) (begun : Simulator)
    (made : List (Nat × Wrapper)) (spent : List Wrapper) (host : Host) : Prop where
  beyond : start.Beyond made spent (host.simulator provider.table.simulator).store
  did : Did EntryPoint.TakesNone begun (host.simulator provider.table.simulator)

namespace Account

variable {α ε : Type} {provider : Provider} {start : Store} {begun : Simulator}
  {made made' entries : List (Nat × Wrapper)} {entry : Nat × Wrapper} {spent : List Wrapper}
  {host after : Host}

theorem perm (account : Account provider start begun made spent host) (perm : made.Perm made') :
    Account provider start begun made' spent host :=
  ⟨account.beyond.perm perm, account.did⟩

theorem of_simulator (account : Account provider start begun made spent host)
    (same : after.simulator provider.table.simulator =
      host.simulator provider.table.simulator) :
    Account provider start begun made spent after := by
  constructor
  · rw [same]
    exact account.beyond
  · rw [same]
    exact account.did

theorem notify (account : Account provider start begun made spent host) (notice : Notice) :
    Account provider start begun made spent (host.notify notice) :=
  account.of_simulator rfl

/-- Calls that count nothing and make no counted wrapper leave an import where it stands. -/
theorem respects : Respects (fun _ => True) EntryPoint.IsQuiet
    (Account provider start begun made spent) := by
  apply Respects.uncached
  case call =>
    intro host number call _ quiet account
    by_cases own : number = provider.table.simulator
    · subst own
      have grows : Store.Grows _ (host.simulator provider.table.simulator).store
          ((host.simulator provider.table.simulator).after (.call call)).store :=
        ends_stateAfter.mp (extends_answer quiet.1 account.beyond.formed)
      have still := account.beyond.grown (grows.mono fun kind wraps => by
        rw [quiet.2] at wraps
        contradiction)
      have did : Did EntryPoint.TakesNone (host.simulator provider.table.simulator)
          ((host.simulator provider.table.simulator).after (.call call)) :=
        (recorded_answer call).did quiet.takesNone
      constructor
      · rw [Host.simulator_advance_self]
        exact still
      · rw [Host.simulator_advance_self]
        exact account.did.trans did
    · apply account.of_simulator
      rw [Host.simulator_advance, if_neg own]
  case other =>
    intro host after same _ _ account
    apply account.of_simulator
    exact Host.simulator_of_simulators same _

theorem quiet {program : EStateM ε Host α} (account : Account provider start begun made spent host)
    (uses : Uses (fun _ => True) EntryPoint.IsQuiet program) :
    Ends program host (fun _ after => Account provider start begun made spent after)
      (fun _ after => Account provider start begun made spent after) :=
  (uses _ respects).ends host account

/-! ## Releasing -/

/-- A release ends the only reference to a wrapper and the wrapper with it, unless it has been told
to fail. -/
theorem released {call : Call} {kind : ObjectKind}
    (account : Account provider start begun (entry :: made) spent host)
    (counted : call.counted? = some (.release, kind, entry.1))
    (isKind : entry.2.data.kind = kind) (single : entry.2.refs = 1)
    (isAfter : after.simulator provider.table.simulator =
      (host.simulator provider.table.simulator).after (.call call)) :
    Account provider start begun made (entry.2 :: spent) after ∨
      (begun.failures.get? call.entryPoint ≠ none ∧
        Account provider start begun (entry :: made) spent after) := by
  let sim := host.simulator provider.table.simulator
  have found := (account.beyond.live entry List.mem_cons_self).1
  have ended : ∀ {store : Store}, sim.store.Released entry.1 entry.2 store →
      start.Beyond made (entry.2 :: spent) store := by
    intro store released
    cases released with
    | last => exact account.beyond.discarded
    | another refs =>
        have several := single.symm.trans refs
        omega
  have outcome : Ends (Simulator.answer call) sim
      (fun _ after => start.Beyond made (entry.2 :: spent) after.store)
      (fun _ after => start.Beyond made (entry.2 :: spent) after.store ∨
        (begun.failures.get? call.entryPoint ≠ none ∧
          start.Beyond (entry :: made) spent after.store)) := by
    apply Ends.imp (answers_released counted)
    · rintro _ after ⟨-, -, wrapper, found', -, released⟩
      obtain rfl := Option.some.inj (found.symm.trans found')
      exact ended released
    · rintro e after ⟨-, ⟨told, unchanged⟩ | ⟨-, ⟨-, -, dead⟩ | ⟨wrapper, found', -, cause⟩⟩⟩
      · right
        constructor
        · intro unset
          rw [account.did.unset unset] at told
          contradiction
        · rw [unchanged]
          exact account.beyond
      · exact absurd ⟨entry.2, found, isKind⟩ dead
      · obtain rfl := Option.some.inj (found.symm.trans found')
        rcases cause with ⟨none, -⟩ | ⟨released, -⟩
        · rw [single] at none
          contradiction
        · exact Or.inl (ended released)
  have did : Did EntryPoint.TakesNone begun (sim.after (.call call)) := by
    refine account.did.trans ((recorded_answer call).did ?_)
    intro kind' taken
    rw [Call.counting?_entryPoint, counted] at taken
    cases taken
  have outcome := ends_stateAfter.mp (outcome.imp (fun _ _ => Or.inl) fun _ _ cases => cases)
  rcases outcome with beyond | ⟨told, beyond⟩
  · left
    constructor
    · rw [isAfter]
      exact beyond
    · rw [isAfter]
      exact did
  · right
    refine ⟨told, ?_⟩
    constructor
    · rw [isAfter]
      exact beyond
    · rw [isAfter]
      exact did

end Account

/-- A reference to a program names a wrapper with a single reference, at the backend of a
provider. -/
structure ProgramRef.Names (provider : Provider) (program : ProgramRef)
    (entry : Nat × Wrapper) : Prop where
  provider_eq : program.provider = provider
  id_eq : program.handle.id = entry.1
  kind_eq : entry.2.data.kind = .program
  single : entry.2.refs = 1

/-- An import has failed and has released what it had made, the first wrapper and those that have
been linked from it.  Some of them are left only where a release has been told to fail. -/
def Abandoned (provider : Provider) (release : EntryPoint) (start : Store) (begun : Simulator)
    (first : Nat × Wrapper) (host : Host) : Prop :=
  ∃ left gone, start.Descends first (left ++ gone) ∧
    Account provider start begun left (gone.map Prod.snd) host ∧
    (begun.failures.get? release = none → left = [])

namespace Account

variable {α : Type} {provider : Provider} {start : Store} {begun : Simulator}
  {made entries : List (Nat × Wrapper)} {first : Nat × Wrapper} {spent : List Wrapper} {host : Host}
  {program : ProgramRef} {programs : List ProgramRef}

/-- Each of several programs is released, or that has been told to fail and it is left. -/
theorem releasePrograms (names : List.Forall₂ (ProgramRef.Names provider) programs entries)
    (account : Account provider start begun (entries ++ made) spent host) :
    ∃ left gone, (left ++ gone).Perm entries ∧
      Account provider start begun (left ++ made) (gone.map Prod.snd ++ spent)
        (ComputeImport.releasePrograms programs host) ∧
      (begun.failures.get? .programRelease = none → left = []) := by
  induction names generalizing host made spent with
  | nil => exact ⟨[], [], .refl _, account, fun _ => rfl⟩
  | @cons program entry programs entries names _ ih =>
      have isAfter : (program.release host).simulator provider.table.simulator =
          (host.simulator provider.table.simulator).after
            (.call (.programRelease program.handle)) := by
        rw [ProgramRef.simulator_release, names.provider_eq, if_pos rfl]
      have counted : (Call.programRelease program.handle).counted? =
          some (.release, .program, entry.1) := by
        rw [← names.id_eq]
        rfl
      rcases account.released counted names.kind_eq names.single isAfter with ended | ⟨told, still⟩
      · obtain ⟨left, gone, perm, rest, all⟩ := ih ended
        refine ⟨left, gone ++ [entry], ?_, ?_, all⟩
        · rw [← List.append_assoc]
          exact (List.perm_append_singleton entry _).trans (perm.cons entry)
        · rw [List.map_append, List.append_assoc]
          exact rest
      · obtain ⟨left, gone, perm, rest, -⟩ :=
          @ih (entry :: made) spent _ (still.perm List.perm_middle.symm)
        refine ⟨left ++ [entry], gone, ?_, ?_, fun unset => absurd unset told⟩
        · rw [List.append_assoc]
          exact List.perm_middle.trans (perm.cons entry)
        · rw [List.append_assoc]
          exact rest

/-- An import that releases all that it has made has abandoned it. -/
theorem abandon (names : List.Forall₂ (ProgramRef.Names provider) programs entries)
    (descends : start.Descends first entries)
    (account : Account provider start begun entries [] host) :
    Abandoned provider .programRelease start begun first
      (ComputeImport.releasePrograms programs host) := by
  rw [← List.append_nil entries] at account
  obtain ⟨left, gone, perm, rest, all⟩ := releasePrograms names account
  rw [List.append_nil, List.append_nil] at rest
  exact ⟨left, gone, descends.perm perm, rest, all⟩

/-- Whatever fails, the programs that an import has made are released. -/
theorem orRelease {body : ImportM α} {ok : α → Host → Prop}
    (names : List.Forall₂ (ProgramRef.Names provider) programs entries)
    (descends : start.Descends first entries)
    (ended : Ends body host ok (fun _ after => Account provider start begun entries [] after)) :
    Ends (ComputeImport.orRelease programs body) host ok
      (fun _ after => Abandoned provider .programRelease start begun first after) :=
  ends_orRelease.mpr (ended.imp (fun _ _ ended => ended) fun _ _ => abandon names descends)

/-! ## Taking programs further -/

/-- A call that links makes the wrapper of a new program, or nothing. -/
theorem joins {link : Native ProgramHandle} (call : Call)
    (account : Account provider start begun made spent host)
    (takesNone : call.entryPoint.TakesNone)
    (answers : Answers call link (host.simulator provider.table.simulator)
      (Joins (host.simulator provider.table.simulator).store ProgramBinary.IsTidy)
      (fun _ store => store = (host.simulator provider.table.simulator).store)) :
    Ends (provider.table.call link) host
      (fun linked after => ∃ entry, ProgramRef.Names provider ⟨linked, provider⟩ entry ∧
        start.nextNative ≤ entry.2.native.raw ∧
        Account provider start begun (entry :: made) spent after)
      (fun _ after => Account provider start begun made spent after) := by
  let store := (host.simulator provider.table.simulator).store
  have linked : Ends link (host.simulator provider.table.simulator)
      (fun linked after => linked = ⟨store.nextWrapper⟩ ∧
        start.Beyond ((store.nextWrapper, ⟨.program, ⟨store.nextNative⟩, 1, true⟩) :: made) spent
          after.store ∧
        Did EntryPoint.TakesNone begun after)
      (fun _ after => start.Beyond made spent after.store ∧
        Did EntryPoint.TakesNone begun after) := by
    apply Ends.imp answers
    · rintro handle after ⟨recorded, -, output, tidy, isHandle, equal⟩
      refine ⟨isHandle, ?_, account.did.trans (recorded.did takesNone)⟩
      rw [equal]
      exact account.beyond.joined tidy
    · rintro e after ⟨recorded, cause⟩
      have unchanged : after.store = store := by
        rcases cause with ⟨-, unchanged⟩ | ⟨-, unchanged⟩ <;> exact unchanged
      rw [unchanged]
      exact ⟨account.beyond, account.did.trans (recorded.did takesNone)⟩
  apply linked.call.imp
  · rintro _ after ⟨rfl, beyond, did⟩
    exact ⟨_, ⟨rfl, rfl, rfl, rfl⟩, account.beyond.native_le, beyond, did⟩
  · exact fun _ _ ended => ⟨ended.1, ended.2⟩

theorem link {builder : Builder} {program : ProgramHandle} {device : DeviceHandle}
    (account : Account builder.provider start begun made spent host) :
    Ends (builder.link program device) host
      (fun linked after => ∃ entry,
        ProgramRef.Names builder.provider ⟨linked, builder.provider⟩ entry ∧
        start.nextNative ≤ entry.2.native.raw ∧
        Account builder.provider start begun (entry :: made) spent after)
      (fun _ after => Account builder.provider start begun made spent after) := by
  have takesNone : EntryPoint.TakesNone .programLinkFor ∧ EntryPoint.TakesNone .programLink := by
    constructor <;> exact fun kind => nofun
  apply (Ends.withFallback ?first ?second).imp
  · exact fun _ _ ended => ended
  · exact fun _ _ ended => ended.2
  case first =>
    unfold Table.programLinkFor Table.callFor
    cases builder.provider.table.delegation with
    | some _ => exact account
    | none =>
        apply account.joins (.programLinkFor builder.context.handle [device] [program]
          builder.options.link) takesNone.1
        apply answers_programLinkFor_singleton.imp
        · rintro handle store ⟨selected, -, output, ⟨_, _, -, linked⟩, isHandle, equal⟩
          exact ⟨output, linked.isTidy, isHandle, equal⟩
        · exact fun _ _ failed => failed.1
  case second =>
    intro after account
    apply (account.notify (.fellBack .link device)).joins
      (.programLink builder.context.handle [program] builder.options.link) takesNone.2
    apply answers_programLink_singleton.imp
    · rintro handle store ⟨output, ⟨_, _, -, linked⟩, isHandle, equal⟩
      exact ⟨output, linked.isTidy, isHandle, equal⟩
    · exact fun _ _ failed => failed.1

/-- For one device, a program may take the place of the current one. -/
theorem advanceDevice {builder : Builder} {target : BundleState} {current : ProgramRef}
    {device : DeviceHandle}
    (account : Account builder.provider start begun made spent host) :
    Ends (builder.advanceDevice target current device) host
      (fun next after =>
        match next with
        | none => Account builder.provider start begun made spent after
        | some linked => ∃ entry, ProgramRef.Names builder.provider linked entry ∧
            start.nextNative ≤ entry.2.native.raw ∧
            Account builder.provider start begun (entry :: made) spent after)
      (fun _ after => Account builder.provider start begun made spent after) := by
  have asks : Uses (fun _ => True) EntryPoint.IsQuiet
      (native (builder.provider.table.call (Simulator.programBinaryType current.handle device))) :=
    Uses.native (Uses.call (.of_answer (.programBinaryType current.handle device) rfl) trivial
      ⟨rfl, rfl⟩)
  apply (account.quiet asks).bind
  intro stage middle account
  rw [ends_bind, ends_notify]
  generalize stage.plan target = action
  replace account := account.notify (.advancing current.handle device stage target action)
  cases action with
  | keep => exact account
  | mismatch => exact account
  | run operation =>
      cases operation with
      | compile =>
          apply (account.quiet (Uses.compile trivial current.handle device)).bind
          exact fun _ _ account => account
      | build =>
          apply (account.quiet (Uses.build trivial current.handle device)).bind
          exact fun _ _ account => account
      | link =>
          apply account.link.bind
          rintro linked after ⟨entry, names, isNew, account⟩
          rw [ends_bind, ends_notify]
          exact ⟨entry, names, isNew, account.notify _⟩

/-- Over the devices, the current program and those that it has replaced descend from the first one;
where a device fails, all of them are released. -/
theorem advance {builder : Builder} {target : BundleState} {current : ProgramRef}
    {superseded : List ProgramRef} {devices : List DeviceHandle} {entry : Nat × Wrapper}
    {older : List (Nat × Wrapper)}
    (name : ProgramRef.Names builder.provider current entry)
    (names : List.Forall₂ (ProgramRef.Names builder.provider) superseded older)
    (descends : start.Descends first (entry :: older))
    (account : Account builder.provider start begun (entry :: older) [] host) :
    Ends (builder.advance target current superseded devices) host
      (fun built after => ∃ entries, start.Descends first entries ∧
        List.Forall₂ (ProgramRef.Names builder.provider) (built.current :: built.superseded)
          entries ∧
        Account builder.provider start begun entries [] after)
      (fun _ after => Abandoned builder.provider .programRelease start begun first after) := by
  induction devices generalizing host current superseded entry older with
  | nil => exact ⟨entry :: older, descends, .cons name names, account⟩
  | cons device devices ih =>
      have oldest : (older ++ [entry]).Perm (entry :: older) := List.perm_append_singleton entry older
      have all : List.Forall₂ (ProgramRef.Names builder.provider) (superseded ++ [current])
          (older ++ [entry]) :=
        List.rel_append names (.cons name .nil)
      have stepped : Ends (builder.advanceDevice target current device) host _
          (fun _ after => Account builder.provider start begun (older ++ [entry]) [] after) :=
        account.advanceDevice.imp (fun _ _ ended => ended) fun _ _ still => still.perm oldest.symm
      apply (Account.orRelease all (descends.perm oldest) stepped).bind
      intro next after ended
      cases next with
      | none => exact ih name names descends ended
      | some linked =>
          obtain ⟨entry', name', isNew, account'⟩ := ended
          apply ih name' all
          · exact (descends.perm oldest).cons isNew
          · exact account'.perm (oldest.symm.cons entry')

end Account

/-! ## Asking for devices -/

section Asking

variable {α : Type} {provider : Provider} {start : Store} {begun : Simulator}
  {made : List (Nat × Wrapper)} {first : Nat × Wrapper} {spent : List Wrapper} {host : Host}

/-- An import goes on by asking for something, and stands where it stood. -/
theorem ends_ask {step : Native α} {call : Call} (isCall : IsCall step call)
    (quiet : call.entryPoint.IsQuiet)
    (beyond : start.Beyond made spent (host.simulator provider.table.simulator).store) :
    Ends (provider.table.call step) host
      (fun _ after => ∃ begun, Recorded call (host.simulator provider.table.simulator) begun ∧
        Account provider start begun made spent after)
      (fun _ after => ∃ begun, Recorded call (host.simulator provider.table.simulator) begun ∧
        Account provider start begun made spent after) := by
  let asked := (host.simulator provider.table.simulator).after (.call call)
  have account : Account provider start (host.simulator provider.table.simulator) made spent
      (host.advance provider.table.simulator asked) :=
    Account.respects.call host provider.table.simulator call trivial quiet ⟨beyond, .refl _⟩
  apply Host.ends_isCall isCall
  refine ⟨asked, recorded_answer call, account.beyond, ?_⟩
  rw [Host.simulator_advance_self]
  exact .refl asked

/-- A queue whose device cannot be found is released, or that has been told to fail. -/
theorem ends_deviceOfQueueAccounted {queue : QueueHandle} (id_eq : queue.id = first.1)
    (kind_eq : first.2.data.kind = .queue) (single : first.2.refs = 1)
    (beyond : start.Beyond [first] [] (host.simulator provider.table.simulator).store) :
    Ends (deviceOfQueue provider queue) host (fun _ _ => True)
      (fun _ after => ∃ begun,
        Recorded (.queueDevice queue) (host.simulator provider.table.simulator) begun ∧
        Abandoned provider .queueRelease start begun first after) := by
  have sought : Ends (do
        let handle ← native (provider.table.call (Simulator.queueDevice queue))
        manageDevice provider [] handle) host (fun _ _ => True)
      (fun _ after => ∃ begun,
        Recorded (.queueDevice queue) (host.simulator provider.table.simulator) begun ∧
        Account provider start begun [first] [] after) := by
    have asked := ends_ask (.of_answer (.queueDevice queue) rfl) ⟨rfl, rfl⟩ beyond
    apply (ends_native.mpr asked).bind
    rintro handle middle ⟨begun, recorded, account⟩
    apply (account.quiet (Uses.manageDevice trivial [] handle)).imp
    · exact fun _ _ _ => trivial
    · exact fun _ _ account => ⟨begun, recorded, account⟩
  rw [ends_deviceOfQueue_iff]
  apply sought.imp
  · exact fun _ _ _ => trivial
  rintro e after ⟨begun, recorded, account⟩
  have counted : (Call.queueRelease queue).counted? = some (.release, .queue, first.1) := by
    rw [← id_eq]
    rfl
  have abandons : ∀ last : Host, last.simulator provider.table.simulator =
      (after.simulator provider.table.simulator).after (.call (.queueRelease queue)) →
      Abandoned provider .queueRelease start begun first last := by
    intro last isLast
    rcases account.released counted kind_eq single isLast with ended | ⟨told, still⟩
    · exact ⟨[], [first], .refl start first, ended, fun _ => rfl⟩
    · exact ⟨[first], [], .refl start first, still, fun unset => absurd unset told⟩
  have released : Ends (provider.table.call (Simulator.queueRelease queue)) after _ _ :=
    Host.ends_isCall (.of_done (.queueRelease queue) rfl)
      (abandons _ (Host.simulator_advance_self _ _))
  apply released.imp
  · exact fun _ _ abandoned => ⟨begun, recorded, abandoned⟩
  · rintro e' last ⟨left, gone, descends, rest, all⟩
    exact ⟨begun, recorded, left, gone, descends, rest.notify _, all⟩

/-- The devices of a program are listed, or not, with nothing else done. -/
theorem ends_listDevicesAccounted {program : ProgramHandle}
    (beyond : start.Beyond made spent (host.simulator provider.table.simulator).store) :
    Ends (listDevices provider.table program) host
      (fun _ after => ∃ begun,
        Recorded (.programNumDevices program) (host.simulator provider.table.simulator) begun ∧
        Account provider start begun made spent after)
      (fun _ after => ∃ begun,
        Recorded (.programNumDevices program) (host.simulator provider.table.simulator) begun ∧
        Account provider start begun made spent after) := by
  let asked (after : Host) : Prop := ∃ begun,
    Recorded (.programNumDevices program) (host.simulator provider.table.simulator) begun ∧
    Account provider start begun made spent after
  have counted : Ends (provider.table.programNumDevices program) host (fun _ => asked)
      (fun _ => asked) :=
    Ends.bind (ends_ask (.of_answer (.programNumDevices program) rfl) ⟨rfl, rfl⟩ beyond)
      fun _ _ ended => ended
  apply (ends_native.mpr counted).bind
  rintro number middle ⟨begun, recorded, account⟩
  have lists : Uses (fun _ => True) EntryPoint.IsQuiet
      (native (provider.table.call (Simulator.programDevices program))) :=
    Uses.native (Uses.call (.of_answer (.programDevices program) rfl) trivial ⟨rfl, rfl⟩)
  apply Ends.bind ((account.quiet lists).imp (fun _ _ ended => ended)
    fun _ _ ended => ⟨begun, recorded, ended⟩)
  intro handles after account
  split <;> exact ⟨begun, recorded, account⟩

end Asking

end ComputeImport
