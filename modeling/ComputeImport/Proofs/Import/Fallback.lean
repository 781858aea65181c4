import ComputeImport.Proofs.Import.Conversation
import ComputeImport.Proofs.Import.Reconciliation

/-!
# What taking a program further asks of a function table

A program is taken to a state for its devices one after another.  For each device its stage is
asked for, at the program that is current by then, and the operation that is due is asked of the
entry point for chosen devices, for that device alone.  Where the entry point turns out not to be
there, and only there, the one for the whole program is asked, once.  `Reconciles` says this of a
list of exchanges, and of how the loop ends.
-/

namespace ComputeImport

/-- The exchanges of an operation that has two forms, with the outcome.  The second form is asked
just where the first one is not supported. -/
inductive Operates (extended legacy : Call) : List Exchange → Except NativeError Answer → Prop
  | direct {reply : Answer} : Operates extended legacy [⟨extended, .ok reply⟩] (.ok reply)
  | refused {e : NativeError} (supported : e.isUnsupported = false) :
      Operates extended legacy [⟨extended, .error e⟩] (.error e)
  | fellBack {e : NativeError} {outcome : Except NativeError Answer}
      (unsupported : e.isUnsupported = true) :
      Operates extended legacy [⟨extended, .error e⟩, ⟨legacy, outcome⟩] outcome

namespace Builder

/-- The form of an operation that acts for one device of a program. -/
def extended (builder : Builder) (program : ProgramHandle) (device : DeviceHandle) :
    BuildOperation → Call
  | .compile => .programCompileFor program [device] builder.options.compile
  | .build => .programBuildFor program [device] builder.options.compile
  | .link => .programLinkFor builder.context.handle [device] [program] builder.options.link

/-- The form of an operation that acts for the whole of a program. -/
def legacy (builder : Builder) (program : ProgramHandle) : BuildOperation → Call
  | .compile => .programCompile builder.context.handle program builder.options.compile
  | .build => .programBuild builder.context.handle program builder.options.compile
  | .link => .programLink builder.context.handle [program] builder.options.link

/-- References to programs, through the provider that the programs are taken further with. -/
def refs (builder : Builder) (programs : List ProgramHandle) : List ProgramRef :=
  programs.map fun handle => ⟨handle, builder.provider⟩

theorem refs_append (builder : Builder) (first second : List ProgramHandle) :
    builder.refs (first ++ second) = builder.refs first ++ builder.refs second :=
  List.map_append

end Builder

/-- The program that is current after an operation: the new one that a link has brought back, and
else the same one. -/
def BuildOperation.successor (current : ProgramHandle) : BuildOperation → Answer → ProgramHandle
  | .link, .handle id => ⟨id⟩
  | _, _ => current

/-- The new program that an answered operation has brought back, if it is a link. -/
def BuildOperation.made : BuildOperation → Answer → List ProgramHandle
  | .link, .handle id => [⟨id⟩]
  | _, _ => []

/-- The exchanges by which a program is taken to a state for one device, with the program that is
current afterwards, or the error that the loop ends with. -/
inductive ReconcilesDevice (builder : Builder) (target : BundleState) (current : ProgramHandle)
    (device : DeviceHandle) : List Exchange → Except ImportError ProgramHandle → Prop
  | unanswered {e : NativeError} :
      ReconcilesDevice builder target current device
        [⟨.programBinaryType current device, .error e⟩] (.error (.native e))
  | mismatch {stage : Stage} (planned : stage.plan target = .mismatch) :
      ReconcilesDevice builder target current device
        [⟨.programBinaryType current device, .ok (.stage stage)⟩]
        (.error (.stateMismatch stage target))
  | kept {stage : Stage} (planned : stage.plan target = .keep) :
      ReconcilesDevice builder target current device
        [⟨.programBinaryType current device, .ok (.stage stage)⟩] (.ok current)
  | failed {stage : Stage} {operation : BuildOperation} {work : List Exchange} {e : NativeError}
      (planned : stage.plan target = .run operation)
      (operates : Operates (builder.extended current device operation)
        (builder.legacy current operation) work (.error e)) :
      ReconcilesDevice builder target current device
        (⟨.programBinaryType current device, .ok (.stage stage)⟩ :: work)
        (.error (.buildFailed operation device e))
  | advanced {stage : Stage} {operation : BuildOperation} {work : List Exchange} {reply : Answer}
      (planned : stage.plan target = .run operation)
      (operates : Operates (builder.extended current device operation)
        (builder.legacy current operation) work (.ok reply)) :
      ReconcilesDevice builder target current device
        (⟨.programBinaryType current device, .ok (.stage stage)⟩ :: work)
        (.ok (operation.successor current reply))

/-- The exchanges by which a program is taken to a state for devices in order.  They end at the
first device for which that fails. -/
inductive Reconciles (builder : Builder) (target : BundleState) :
    ProgramHandle → List DeviceHandle → List Exchange → Except ImportError ProgramHandle → Prop
  | done {current : ProgramHandle} : Reconciles builder target current [] [] (.ok current)
  | stopped {current : ProgramHandle} {device : DeviceHandle} {devices : List DeviceHandle}
      {exchanges : List Exchange} {e : ImportError}
      (stops : ReconcilesDevice builder target current device exchanges (.error e)) :
      Reconciles builder target current (device :: devices) exchanges (.error e)
  | next {current next : ProgramHandle} {device : DeviceHandle} {devices : List DeviceHandle}
      {exchanges more : List Exchange} {outcome : Except ImportError ProgramHandle}
      (first : ReconcilesDevice builder target current device exchanges (.ok next))
      (rest : Reconciles builder target next devices more outcome) :
      Reconciles builder target current (device :: devices) (exchanges ++ more) outcome

/-- The programs that links have brought back, in order. -/
def links (exchanges : List Exchange) : List ProgramHandle :=
  exchanges.filterMap fun exchange =>
    match exchange.call, exchange.outcome with
    | .programLinkFor .., .ok (.handle id) | .programLink .., .ok (.handle id) => some ⟨id⟩
    | _, _ => none

@[simp]
theorem links_append (first second : List Exchange) :
    links (first ++ second) = links first ++ links second :=
  List.filterMap_append

@[simp]
theorem links_discovered {program : ProgramHandle} {device : DeviceHandle}
    {outcome : Except NativeError Answer} (work : List Exchange) :
    links (⟨.programBinaryType program device, outcome⟩ :: work) = links work :=
  rfl

/-- A call that fails brings no new program. -/
@[simp]
theorem links_failed {call : Call} {e : NativeError} (work : List Exchange) :
    links (⟨call, .error e⟩ :: work) = links work := by
  cases call <;> rfl

@[simp]
theorem links_nil : links [] = [] :=
  rfl

/-- An operation that is answered has brought a new program just where it is a link. -/
theorem Operates.links_ok {builder : Builder} {program : ProgramHandle} {device : DeviceHandle}
    {operation : BuildOperation} {work : List Exchange} {reply : Answer}
    (operates : Operates (builder.extended program device operation)
      (builder.legacy program operation) work (.ok reply)) :
    links work = operation.made reply := by
  cases operation <;> cases reply <;> cases operates <;> rfl

/-- Without an answer, an operation has not linked anything. -/
theorem Operates.links_error {extended legacy : Call} {work : List Exchange} {e : NativeError}
    (operates : Operates extended legacy work (.error e)) : links work = [] := by
  cases operates <;> simp

/-- Where the loop stops at a device, that device has brought no new program. -/
theorem ReconcilesDevice.links_error {builder : Builder} {target : BundleState}
    {current : ProgramHandle} {device : DeviceHandle} {exchanges : List Exchange} {e : ImportError}
    (stops : ReconcilesDevice builder target current device exchanges (.error e)) :
    links exchanges = [] := by
  cases stops with
  | unanswered | mismatch => rfl
  | failed planned operates => simpa using operates.links_error

/-- Only certain calls are made. -/
def OnlyCalled (allowed : Call → Prop) (exchanges : List Exchange) : Prop :=
  ∀ exchange ∈ exchanges, allowed exchange.call

namespace OnlyCalled

variable {allowed : Call → Prop} {first second : List Exchange}

theorem append (all : OnlyCalled allowed first) (all' : OnlyCalled allowed second) :
    OnlyCalled allowed (first ++ second) := by
  intro exchange member
  rcases List.mem_append.mp member with member | member
  · exact all exchange member
  · exact all' exchange member

end OnlyCalled

/-- A call counts the references to a program. -/
def Counts (program : ProgramHandle) (call : Call) : Prop :=
  call = .programRetain program ∨ call = .programRelease program

/-- A call asks for the devices of a program. -/
def Asks (program : ProgramHandle) (call : Call) : Prop :=
  call = .programNumDevices program ∨ call = .programDevices program

/-- A call releases one of several programs. -/
def ReleasesOf (programs : List ProgramHandle) (call : Call) : Prop :=
  ∃ program ∈ programs, call = .programRelease program

/-- A call asks for the platform of a device. -/
def Resolves (call : Call) : Prop :=
  ∃ device, call = .devicePlatform device

/-! ## One operation -/

section Operation

variable {α : Type} {table : Table}

/-- The first way is tried, and the second one just where the first one is not there. -/
theorem talks_withFallback {operation : BuildOperation} {device : DeviceHandle}
    {perDevice whole : TableM α} {extended legacy : Call} (shape : α → Answer)
    (first : table.Makes extended shape perDevice) (second : table.Makes legacy shape whole) :
    Talks table (withFallback operation device perDevice whole)
      (fun a exchanges => Operates extended legacy exchanges (.ok (shape a)))
      (fun e exchanges => ∃ cause, e = .buildFailed operation device cause ∧
        Operates extended legacy exchanges (.error cause)) := by
  apply (Talks.step first).attempt.bind
  intro outcome exchanges said
  cases outcome with
  | ok a =>
      obtain rfl : exchanges = _ := said
      exact .pure .direct
  | error e =>
      obtain rfl : exchanges = _ := said
      dsimp only
      split
      · rename_i unsupported
        apply Talks.notify_bind
        apply (Talks.step second).attempt.bind
        intro outcome exchanges said
        cases outcome with
        | ok a =>
            obtain rfl : exchanges = _ := said
            exact .pure (.fellBack unsupported)
        | error e =>
            obtain rfl : exchanges = _ := said
            exact .throw ⟨e, rfl, .fellBack unsupported⟩
      · rename_i supported
        exact .throw ⟨e, rfl, .refused (Bool.eq_false_iff.mpr supported)⟩

variable {builder : Builder} {program : ProgramHandle} {device : DeviceHandle}

theorem talks_compile :
    Talks builder.provider.table (builder.compile program device)
      (fun _ exchanges => Operates (builder.extended program device .compile)
        (builder.legacy program .compile) exchanges (.ok .done))
      (fun e exchanges => ∃ cause, e = .buildFailed .compile device cause ∧
        Operates (builder.extended program device .compile) (builder.legacy program .compile)
          exchanges (.error cause)) :=
  talks_withFallback (fun _ => .done) rfl (.call rfl rfl)

theorem talks_build :
    Talks builder.provider.table (builder.build program device)
      (fun _ exchanges => Operates (builder.extended program device .build)
        (builder.legacy program .build) exchanges (.ok .done))
      (fun e exchanges => ∃ cause, e = .buildFailed .build device cause ∧
        Operates (builder.extended program device .build) (builder.legacy program .build)
          exchanges (.error cause)) :=
  talks_withFallback (fun _ => .done) rfl (.call rfl rfl)

theorem talks_link :
    Talks builder.provider.table (builder.link program device)
      (fun linked exchanges => Operates (builder.extended program device .link)
        (builder.legacy program .link) exchanges (.ok (.handle linked.id)))
      (fun e exchanges => ∃ cause, e = .buildFailed .link device cause ∧
        Operates (builder.extended program device .link) (builder.legacy program .link)
          exchanges (.error cause)) :=
  talks_withFallback (fun handle : ProgramHandle => .handle handle.id) rfl (.call rfl rfl)

end Operation

/-! ## One device, and all of them -/

section Loop

variable {builder : Builder} {target : BundleState}

theorem talks_discover {program : ProgramHandle} {device : DeviceHandle} :
    Talks builder.provider.table
      (native (builder.provider.table.call (Simulator.programBinaryType program device)))
      (fun stage exchanges => exchanges = [⟨.programBinaryType program device, .ok (.stage stage)⟩])
      (fun e exchanges => ReconcilesDevice builder target program device exchanges (.error e)) := by
  have makes : builder.provider.table.Makes (.programBinaryType program device) Answer.stage
      (builder.provider.table.call (Simulator.programBinaryType program device)) := .call rfl rfl
  apply (Talks.step makes).native.imp
  · exact fun _ _ said => said
  · rintro _ _ ⟨cause, rfl, rfl⟩
    exact .unanswered

/-- The exchanges for one device, with the program that a link has brought back. -/
theorem talks_advanceDevice (current : ProgramRef) (device : DeviceHandle) :
    Talks builder.provider.table (builder.advanceDevice target current device)
      (fun replacement exchanges =>
        ReconcilesDevice builder target current.handle device exchanges
          (.ok (replacement.elim current.handle ProgramRef.handle)) ∧
        replacement.toList = builder.refs (links exchanges))
      (fun e exchanges =>
        ReconcilesDevice builder target current.handle device exchanges (.error e)) := by
  apply talks_discover.bind
  rintro stage _ rfl
  apply Talks.notify_bind
  cases planned : stage.plan target with
  | keep => exact .pure ⟨.kept planned, rfl⟩
  | mismatch => exact .throw (.mismatch planned)
  | run operation =>
      cases operation with
      | compile =>
          apply (talks_compile.imp (fun _ _ done => done) ?_).bind
          · intro _ work operates
            refine .pure ⟨by simpa using .advanced planned operates, ?_⟩
            have made : links work = [] := operates.links_ok
            simp [made, Builder.refs]
          · rintro _ work ⟨cause, rfl, operates⟩
            exact .failed planned operates
      | build =>
          apply (talks_build.imp (fun _ _ done => done) ?_).bind
          · intro _ work operates
            refine .pure ⟨by simpa using .advanced planned operates, ?_⟩
            have made : links work = [] := operates.links_ok
            simp [made, Builder.refs]
          · rintro _ work ⟨cause, rfl, operates⟩
            exact .failed planned operates
      | link =>
          apply (talks_link.imp (fun _ _ done => done) ?_).bind
          · intro linked work operates
            apply Talks.notify_bind
            refine .pure ⟨by simpa using .advanced planned operates, ?_⟩
            have made : links work = [linked] := operates.links_ok
            simp [made, Builder.refs]
          · rintro _ work ⟨cause, rfl, operates⟩
            exact .failed planned operates

theorem Releases.onlyCalled {programs : List ProgramRef} {exchanges : List Exchange}
    {held : List ProgramHandle} (releases : Releases programs exchanges)
    (among : ∀ program ∈ programs, program.handle ∈ held) :
    OnlyCalled (ReleasesOf held) exchanges := by
  intro exchange member
  have called : exchange.call ∈ programs.map fun program => Call.programRelease program.handle :=
    releases ▸ List.mem_map_of_mem member
  obtain ⟨program, isOne, equal⟩ := List.mem_map.mp called
  exact ⟨program.handle, among program isOne, equal.symm⟩

/-- A program is held through a provider, under one of several handles. -/
def ProgramRef.Among (program : ProgramRef) (provider : Provider) (held : List ProgramHandle) :
    Prop :=
  program.provider = provider ∧ program.handle ∈ held

theorem ProgramRef.among_of_mem_refs {program : ProgramRef} {held : List ProgramHandle}
    (member : program ∈ builder.refs held) : program.Among builder.provider held := by
  obtain ⟨handle, isHeld, rfl⟩ := List.mem_map.mp member
  exact ⟨rfl, isHeld⟩

/-- The loop has come to its end.  Every program has been replaced by the next one that a link has
brought back, and the last one is current. -/
structure Reconciled (builder : Builder) (target : BundleState) (current : ProgramHandle)
    (devices : List DeviceHandle) (held : List ProgramHandle) (built : Built)
    (exchanges : List Exchange) : Prop where
  reconciles : Reconciles builder target current devices exchanges (.ok built.current.handle)
  chain : built.superseded ++ [built.current] = builder.refs (held ++ links exchanges)

/-- The loop has stopped at a device, and all programs have been released, oldest first. -/
structure Stopped (builder : Builder) (target : BundleState) (current : ProgramHandle)
    (devices : List DeviceHandle) (held : List ProgramHandle) (e : ImportError)
    (said released : List Exchange) : Prop where
  reconciles : Reconciles builder target current devices said (.error e)
  releases : Releases (builder.refs (held ++ links said)) released

/-- The exchanges for devices in order, with the releases that follow where a device fails. -/
theorem talks_advance (devices : List DeviceHandle) (current : ProgramRef)
    (superseded : List ProgramRef) (held : List ProgramHandle)
    (chain : superseded ++ [current] = builder.refs held) :
    Talks builder.provider.table (builder.advance target current superseded devices)
      (Reconciled builder target current.handle devices held)
      (fun e exchanges => ∃ said released, exchanges = said ++ released ∧
        Stopped builder target current.handle devices held e said released) := by
  induction devices generalizing current superseded held with
  | nil =>
      apply Talks.pure
      exact ⟨.done, by simpa using chain⟩
  | cons device devices ih =>
      have through : ∀ program ∈ superseded ++ [current],
          program.provider.table = builder.provider.table :=
        fun program member => congrArg Provider.table
          (ProgramRef.among_of_mem_refs (chain ▸ member)).1
      apply (((talks_advanceDevice current device).orRelease through).imp
        (fun _ _ done => done) ?_).bind
      rotate_left
      · rintro e _ ⟨said, released, rfl, stops, releases⟩
        refine ⟨said, released, rfl, .stopped stops, ?_⟩
        rw [stops.links_error, List.append_nil, ← chain]
        exact releases
      rintro replacement exchanges ⟨first, made⟩
      -- The exchanges for the first device come before those of the loop that goes on.
      have later : ∀ (next : ProgramRef) (superseded : List ProgramRef),
          ReconcilesDevice builder target current.handle device exchanges (.ok next.handle) →
          superseded ++ [next] = builder.refs (held ++ links exchanges) →
          Talks builder.provider.table (builder.advance target next superseded devices)
            (fun built more => Reconciled builder target current.handle (device :: devices) held
              built (exchanges ++ more))
            (fun e more => ∃ said released, exchanges ++ more = said ++ released ∧
              Stopped builder target current.handle (device :: devices) held e said released) := by
        intro next superseded first chain
        apply (ih next superseded _ chain).imp
        · intro built more done
          exact ⟨.next first done.reconciles, by simpa using done.chain⟩
        · rintro e _ ⟨said, released, rfl, stopped⟩
          exact ⟨exchanges ++ said, released, (List.append_assoc ..).symm,
            .next first stopped.reconciles, by simpa using stopped.releases⟩
      rw [Builder.refs_append, ← chain, ← made] at later
      cases replacement with
      | none => exact later current superseded first (by simp)
      | some linked => exact later linked (superseded ++ [current]) first (by simp)

end Loop

/-! ## The whole import -/

/-- The exchanges of an import up to where the devices of the program have been listed, with the
program and its devices, or where that fails. -/
inductive Opens (builder : Builder) (native : NativeHandle) (ownsNative : Bool) :
    List Exchange → Option (ProgramHandle × List DeviceHandle) → Prop
  | unwrapped {e : NativeError} :
      Opens builder native ownsNative
        [⟨.programCreate native builder.context.handle ownsNative, .error e⟩] none
  | unretained {program : ProgramHandle} {counts : List Exchange} {e : NativeError}
      (counted : OnlyCalled (Counts program) counts)
      (refused : ⟨.programRetain program, .error e⟩ ∈ counts) :
      Opens builder native ownsNative
        (⟨.programCreate native builder.context.handle ownsNative, .ok (.handle program.id)⟩ ::
          counts) none
  | unlisted {program : ProgramHandle} {counts lists released : List Exchange}
      (counted : OnlyCalled (Counts program) counts) (asked : OnlyCalled (Asks program) lists)
      (disagree : ∀ devices : List DeviceHandle,
        ⟨.programNumDevices program, .ok (.count devices.length)⟩ ∈ lists →
        ⟨.programDevices program, .ok (.handles (devices.map Handle.id))⟩ ∉ lists)
      (releases : OnlyCalled (ReleasesOf [program]) released) :
      Opens builder native ownsNative
        (⟨.programCreate native builder.context.handle ownsNative, .ok (.handle program.id)⟩ ::
          (counts ++ (lists ++ released))) none
  | listed {program : ProgramHandle} {devices : List DeviceHandle} {counts : List Exchange}
      (counted : OnlyCalled (Counts program) counts) :
      Opens builder native ownsNative
        (⟨.programCreate native builder.context.handle ownsNative, .ok (.handle program.id)⟩ ::
          (counts ++ [⟨.programNumDevices program, .ok (.count devices.length)⟩,
            ⟨.programDevices program, .ok (.handles (devices.map Handle.id))⟩]))
        (some (program, devices))

/-- The exchanges of an import of a program, with its outcome.  The loop over the devices begins
where they have been listed.  Where it stops, its error is that of the import and nothing but
releases follows; where it comes to its end, the devices are resolved. -/
inductive ImportsProgram (builder : Builder) (target : BundleState) (native : NativeHandle)
    (ownsNative : Bool) : List Exchange → Except ImportError KernelBundle → Prop
  | unopened {opening : List Exchange} {e : ImportError}
      (opens : Opens builder native ownsNative opening none) :
      ImportsProgram builder target native ownsNative opening (.error e)
  | stopped {opening said released : List Exchange} {program : ProgramHandle}
      {devices : List DeviceHandle} {e : ImportError}
      (opens : Opens builder native ownsNative opening (some (program, devices)))
      (reconciles : Reconciles builder target program devices said (.error e))
      (releases : OnlyCalled (ReleasesOf (program :: links said)) released) :
      ImportsProgram builder target native ownsNative (opening ++ (said ++ released)) (.error e)
  | unresolved {opening said asked released : List Exchange} {program current : ProgramHandle}
      {devices : List DeviceHandle} {e : NativeError}
      (opens : Opens builder native ownsNative opening (some (program, devices)))
      (reconciles : Reconciles builder target program devices said (.ok current))
      (resolves : OnlyCalled Resolves asked)
      (releases : OnlyCalled (ReleasesOf (program :: links said)) released) :
      ImportsProgram builder target native ownsNative (opening ++ (said ++ (asked ++ released)))
        (.error (.native e))
  | imported {opening said asked : List Exchange} {program : ProgramHandle}
      {devices : List DeviceHandle} {image : DeviceImage} {context : Context}
      {managed : List Device} {state : BundleState}
      (opens : Opens builder native ownsNative opening (some (program, devices)))
      (reconciles : Reconciles builder target program devices said (.ok image.program.handle))
      (resolves : OnlyCalled Resolves asked)
      (own : ∀ other ∈ image.program :: image.superseded,
        other.Among builder.provider (program :: links said)) :
      ImportsProgram builder target native ownsNative (opening ++ (said ++ asked))
        (.ok ⟨context, managed, state, [image]⟩)

/-- The exchanges of an import from where the devices of the program have been listed, with its
outcome.  Where the loop stops, the programs are released oldest first.  Where a device cannot be
resolved, the current program is released before those that it has replaced, which is how an image
releases them. -/
inductive Concludes (builder : Builder) (target : BundleState) (program : ProgramHandle)
    (devices : List DeviceHandle) : List Exchange → Except ImportError KernelBundle → Prop
  | stopped {said released : List Exchange} {e : ImportError}
      (reconciles : Reconciles builder target program devices said (.error e))
      (releases : Releases (builder.refs (program :: links said)) released) :
      Concludes builder target program devices (said ++ released) (.error e)
  | unresolved {said asked released : List Exchange} {built : Built} {e : NativeError}
      (reconciles : Reconciles builder target program devices said (.ok built.current.handle))
      (chain : built.superseded ++ [built.current] = builder.refs (program :: links said))
      (resolves : OnlyCalled Resolves asked)
      (releases : Releases (built.current :: built.superseded) released) :
      Concludes builder target program devices (said ++ (asked ++ released)) (.error (.native e))
  | imported {said asked : List Exchange} {image : DeviceImage} {context : Context}
      {managed : List Device} {state : BundleState}
      (reconciles : Reconciles builder target program devices said (.ok image.program.handle))
      (chain : image.superseded ++ [image.program] = builder.refs (program :: links said))
      (resolves : OnlyCalled Resolves asked) :
      Concludes builder target program devices (said ++ asked)
        (.ok ⟨context, managed, state, [image]⟩)

theorem Concludes.importsProgram {builder : Builder} {target : BundleState}
    {native : NativeHandle} {ownsNative : Bool} {opening exchanges : List Exchange}
    {program : ProgramHandle} {devices : List DeviceHandle}
    {outcome : Except ImportError KernelBundle}
    (concludes : Concludes builder target program devices exchanges outcome)
    (opens : Opens builder native ownsNative opening (some (program, devices))) :
    ImportsProgram builder target native ownsNative (opening ++ exchanges) outcome := by
  have among : ∀ {said : List Exchange} {current : ProgramRef} {superseded : List ProgramRef},
      superseded ++ [current] = builder.refs (program :: links said) →
      ∀ other ∈ current :: superseded, other.Among builder.provider (program :: links said) := by
    intro said current superseded chain other member
    exact ProgramRef.among_of_mem_refs (chain ▸ by simpa [or_comm] using member)
  cases concludes with
  | stopped reconciles releases =>
      exact .stopped opens reconciles
        (releases.onlyCalled fun _ member => (ProgramRef.among_of_mem_refs member).2)
  | unresolved reconciles chain resolves releases =>
      exact .unresolved opens reconciles resolves
        (releases.onlyCalled fun other member => (among chain other member).2)
  | imported reconciles chain resolves => exact .imported opens reconciles resolves (among chain)

section Parts

variable {provider : Provider}

/-- The importer's own reference is taken, or given back where that fails. -/
theorem talks_takeReference {wrapper : ProgramHandle} :
    Talks provider.table
      (takeReferenceIfNeeded provider wrapper Simulator.programRetain Simulator.programRelease)
      (fun _ => OnlyCalled (Counts wrapper))
      (fun _ counts => OnlyCalled (Counts wrapper) counts ∧
        ∃ e, ⟨.programRetain wrapper, .error e⟩ ∈ counts) := by
  have retains : provider.table.Makes (.programRetain wrapper) (fun _ => .done)
      (provider.table.call (Simulator.programRetain wrapper)) := .call rfl rfl
  have releases : provider.table.Makes (.programRelease wrapper) (fun _ => .done)
      (provider.table.call (Simulator.programRelease wrapper)) := .call rfl rfl
  unfold takeReferenceIfNeeded takeReference
  split
  · apply (Talks.step retains).attempt.bind
    intro outcome exchanges said
    cases outcome with
    | ok =>
        obtain rfl : exchanges = _ := said
        exact .pure (by simp [OnlyCalled, Counts])
    | error e =>
        obtain rfl : exchanges = _ := said
        apply (Talks.step releases).attempt.bind
        intro outcome exchanges said
        cases outcome with
        | ok =>
            obtain rfl : exchanges = _ := said
            exact .throw (by simp [OnlyCalled, Counts])
        | error e' =>
            obtain rfl : exchanges = _ := said
            apply Talks.notify_bind
            exact .throw (by simp [OnlyCalled, Counts])
  · exact .pure (by simp [OnlyCalled])

/-- The devices are listed by two exchanges that agree on their number. -/
theorem talks_listDevices {program : ProgramHandle} :
    Talks provider.table (listDevices provider.table program)
      (fun devices exchanges => exchanges =
        [⟨.programNumDevices program, .ok (.count devices.length)⟩,
        ⟨.programDevices program, .ok (.handles (devices.map Handle.id))⟩])
      (fun _ exchanges => OnlyCalled (Asks program) exchanges ∧
        ∀ devices : List DeviceHandle,
          ⟨.programNumDevices program, .ok (.count devices.length)⟩ ∈ exchanges →
          ⟨.programDevices program, .ok (.handles (devices.map Handle.id))⟩ ∉ exchanges) := by
  have counts : provider.table.Makes (.programNumDevices program) Answer.count
      (provider.table.programNumDevices program) := rfl
  have lists : provider.table.Makes (.programDevices program)
      (fun devices => .handles (devices.map Handle.id))
      (provider.table.call (Simulator.programDevices program)) := .call rfl rfl
  apply ((Talks.step counts).native.imp (fun _ _ said => said) ?_).bind
  rotate_left
  · rintro _ _ ⟨cause, rfl, rfl⟩
    simp [OnlyCalled, Asks]
  rintro number _ rfl
  apply ((Talks.step lists).native.imp (fun _ _ said => said) ?_).bind
  rotate_left
  · rintro _ _ ⟨cause, rfl, rfl⟩
    simp [OnlyCalled, Asks]
  rintro devices _ rfl
  split
  · rename_i agree
    exact .pure (by simp [agree])
  · rename_i disagree
    apply Talks.throw
    constructor
    · simp [OnlyCalled, Asks]
    · intro others counted listed
      have counted : others.length = number := by simpa using counted
      have listed : others.map Handle.id = devices.map Handle.id := by simpa using listed
      have same := congrArg List.length listed
      simp only [List.length_map] at same
      exact disagree (same ▸ counted)

/-- The devices are resolved by asking for their platforms. -/
theorem talks_manageDevices (pending : List Device) (handles : List DeviceHandle) :
    Talks provider.table (manageDevices provider pending handles)
      (fun _ => OnlyCalled Resolves)
      (fun e exchanges => ∃ cause, e = .native cause ∧ OnlyCalled Resolves exchanges) := by
  induction handles generalizing pending with
  | nil => exact .pure (by simp [OnlyCalled])
  | cons handle handles ih =>
      have makes : provider.table.Makes (.devicePlatform handle)
          (fun platform => .handle platform.id)
          (provider.table.call (Simulator.devicePlatform handle)) := .call rfl rfl
      have one : Talks provider.table (manageDevice provider pending handle)
          (fun _ => OnlyCalled Resolves)
          (fun e exchanges => ∃ cause, e = .native cause ∧ OnlyCalled Resolves exchanges) := by
        apply ((Talks.step makes).native.imp (fun _ _ said => said) ?_).bind
        rotate_left
        · rintro _ _ ⟨cause, rfl, rfl⟩
          exact ⟨cause, rfl, by simp [OnlyCalled, Resolves]⟩
        rintro platform _ rfl
        apply Talks.silent_bind _ fun _ => ends_findOrMakePlatform
        intro platform _
        apply Talks.silent fun _ => ends_findOrMakeDevice
        simp [OnlyCalled, Resolves]
      apply one.bind
      intro device first asked
      apply ((ih _).imp (fun _ _ asked' => asked.append asked') ?_).bind
      rotate_left
      · rintro e more ⟨cause, rfl, asked'⟩
        exact ⟨cause, rfl, asked.append asked'⟩
      intro devices more asks
      exact .pure (by simpa using asks)

theorem Talks.resolve_bind {β : Type} {table : Table} {registry : Registry} {backend : Backend}
    (resolved : registry.provider? backend = some provider)
    {next : Provider → ImportM β} {ok : β → List Exchange → Prop}
    {failed : ImportError → List Exchange → Prop} (rest : Talks table (next provider) ok failed) :
    Talks table (registry.resolve backend >>= next) ok failed := by
  have silent : ∀ host, Ends (registry.resolve backend) host
      (fun found after => found = provider ∧ after.simulators = host.simulators)
      (fun _ _ => False) := by
    intro host
    apply ends_resolve.imp
    · rintro found _ ⟨isFound, notice, rfl⟩
      exact ⟨Option.some.inj (isFound.symm.trans resolved), rfl⟩
    · rintro _ _ ⟨missing, -⟩
      simp [resolved] at missing
  apply Talks.silent_bind _ silent
  rintro _ rfl
  exact rest

end Parts

section Whole

variable {builder : Builder} {native : NativeHandle} {ownsNative : Bool}

/-- What an import says after it has listed the devices of the program that it has wrapped. -/
theorem talks_listed (builder : Builder) {program : ProgramHandle} {devices : List DeviceHandle}
    {target : BundleState} :
    Talks builder.provider.table (do
        let built ← builder.advance target ⟨program, builder.provider⟩ [] devices
        let devices ← orRelease (built.current :: built.superseded)
          (manageDevices builder.provider [] devices)
        let image : DeviceImage :=
          { identity := ← freshIdentity
            program := built.current
            superseded := built.superseded
            devices
            state := target }
        return ⟨builder.context, devices, target, [image]⟩)
      (fun bundle exchanges => Concludes builder target program devices exchanges (.ok bundle))
      (fun e exchanges => Concludes builder target program devices exchanges (.error e)) := by
  apply ((talks_advance devices ⟨program, builder.provider⟩ [] [program] rfl).imp
    (fun _ _ done => done) ?_).bind
  rotate_left
  · rintro e _ ⟨said, released, rfl, stopped⟩
    exact .stopped stopped.reconciles stopped.releases
  intro built said reconciled
  have through : ∀ other ∈ built.current :: built.superseded,
      other.provider.table = builder.provider.table := by
    intro other member
    have isRef : other ∈ builder.refs ([program] ++ links said) :=
      reconciled.chain ▸ by simpa [or_comm] using member
    exact congrArg Provider.table (ProgramRef.among_of_mem_refs isRef).1
  apply (((talks_manageDevices [] devices).orRelease through).imp (fun _ _ asked => asked) ?_).bind
  rotate_left
  · rintro _ _ ⟨asks, released, rfl, ⟨cause, rfl, asked⟩, releases⟩
    exact .unresolved reconciled.reconciles reconciled.chain asked releases
  intro managed asks asked
  apply Talks.freshIdentity_bind
  intro identity
  apply Talks.pure
  rw [List.append_nil]
  exact .imported reconciled.reconciles reconciled.chain asked

/-- An import has failed before the devices of the program were listed, or it has listed them and
gone on from there. -/
def Conducts (builder : Builder) (target : BundleState) (native : NativeHandle)
    (ownsNative : Bool) (exchanges : List Exchange) (outcome : Except ImportError KernelBundle) :
    Prop :=
  (Opens builder native ownsNative exchanges none ∧ ∃ e, outcome = .error e) ∨
    ∃ opening rest program devices, exchanges = opening ++ rest ∧
      Opens builder native ownsNative opening (some (program, devices)) ∧
      Concludes builder target program devices rest outcome

theorem Conducts.importsProgram {target : BundleState} {exchanges : List Exchange}
    {outcome : Except ImportError KernelBundle}
    (conducts : Conducts builder target native ownsNative exchanges outcome) :
    ImportsProgram builder target native ownsNative exchanges outcome := by
  rcases conducts with ⟨opens, e, rfl⟩ | ⟨opening, rest, program, devices, rfl, opens, concludes⟩
  · exact .unopened opens
  · exact concludes.importsProgram opens

/-- What an import of a program says, up to the order of its releases. -/
theorem talks_importProgram_conducts {registry : Registry} {backend : Backend} {provider : Provider}
    (resolved : registry.provider? backend = some provider) (handle : NativeHandle)
    (context : Context) (keeps : Bool) (target : BundleState) :
    Talks provider.table (importProgram registry handle context keeps target backend)
      (fun bundle exchanges => Conducts ⟨provider, context, registry.options⟩ target
        handle (Ownership.ofKeep keeps).ownsNative exchanges (.ok bundle))
      (fun e exchanges => Conducts ⟨provider, context, registry.options⟩ target handle
        (Ownership.ofKeep keeps).ownsNative exchanges (.error e)) := by
  have creates : provider.table.Makes
      (.programCreate handle context.handle (Ownership.ofKeep keeps).ownsNative)
      (fun program => .handle program.id) (provider.table.call
        (Simulator.programCreate handle context.handle (Ownership.ofKeep keeps).ownsNative)) :=
    .call rfl rfl
  unfold importProgram
  apply Talks.notify_bind
  apply Talks.timed
  apply Talks.resolve_bind resolved
  -- The program is wrapped.
  apply ((Talks.step creates).native.imp (fun _ _ said => said) ?_).bind
  rotate_left
  · rintro _ _ ⟨cause, rfl, rfl⟩
    exact .inl ⟨.unwrapped, _, rfl⟩
  rintro program _ rfl
  -- The importer takes its own reference, where that is asked for.
  apply (talks_takeReference.imp (fun _ _ counted => counted) ?_).bind
  rotate_left
  · rintro e counts ⟨counted, cause, refused⟩
    exact .inl ⟨.unretained counted refused, _, rfl⟩
  intro _ counts counted
  -- The devices are listed.
  have own : ∀ other ∈ [(⟨program, provider⟩ : ProgramRef)],
      other.provider.table = provider.table := by simp
  apply ((talks_listDevices.orRelease own).imp (fun _ _ said => said) ?_).bind
  rotate_left
  · rintro e _ ⟨lists, released, rfl, ⟨asked, disagree⟩, releases⟩
    have released : OnlyCalled (ReleasesOf [program]) released := releases.onlyCalled (by simp)
    have opens : Opens ⟨provider, context, registry.options⟩ handle
        (Ownership.ofKeep keeps).ownsNative _ none := .unlisted counted asked disagree released
    exact .inl ⟨opens, _, rfl⟩
  rintro devices _ rfl
  apply Talks.notify_bind
  -- From here on, what has been said is the opening.
  have opens : Opens ⟨provider, context, registry.options⟩ handle
      (Ownership.ofKeep keeps).ownsNative _ (some (program, devices)) := .listed counted
  have conducts : ∀ {outcome more}, Concludes ⟨provider, context, registry.options⟩ target program
      devices more outcome → Conducts ⟨provider, context, registry.options⟩ target handle
        (Ownership.ofKeep keeps).ownsNative _ outcome :=
    fun concludes => .inr ⟨_, _, program, devices, rfl, opens, concludes⟩
  apply (talks_listed ⟨provider, context, registry.options⟩).imp
  · exact fun bundle more concludes => by simpa using conducts concludes
  · exact fun e more concludes => by simpa using conducts concludes

/-- What an import of a program says. -/
theorem talks_importProgram {registry : Registry} {backend : Backend} {provider : Provider}
    (resolved : registry.provider? backend = some provider) (handle : NativeHandle)
    (context : Context) (keeps : Bool) (target : BundleState) :
    Talks provider.table (importProgram registry handle context keeps target backend)
      (fun bundle exchanges => ImportsProgram ⟨provider, context, registry.options⟩ target handle
        (Ownership.ofKeep keeps).ownsNative exchanges (.ok bundle))
      (fun e exchanges => ImportsProgram ⟨provider, context, registry.options⟩ target handle
        (Ownership.ofKeep keeps).ownsNative exchanges (.error e)) :=
  (talks_importProgram_conducts resolved handle context keeps target).imp
    (fun _ _ conducts => conducts.importsProgram) fun _ _ conducts => conducts.importsProgram

/-- For every host, registry, backend and failures that are set, an import of a program talks to
the table that is resolved as `ImportsProgram` says, and the backend behind the table sees the
calls that the table passes on. -/
theorem importProgram_fallsBack {registry : Registry} {backend : Backend} {provider : Provider}
    (resolved : registry.provider? backend = some provider) (host : Host) (handle : NativeHandle)
    (context : Context) (keeps : Bool) (target : BundleState) :
    Ends (importProgram registry handle context keeps target backend) host
      (fun bundle after => ∃ exchanges, Converses provider.table host exchanges after ∧
        (after.simulator provider.table.simulator).calls =
          (host.simulator provider.table.simulator).calls ++
            (exchanges.map Exchange.call).filter provider.table.reaches ∧
        ImportsProgram ⟨provider, context, registry.options⟩ target handle
          (Ownership.ofKeep keeps).ownsNative exchanges (.ok bundle))
      (fun e after => ∃ exchanges, Converses provider.table host exchanges after ∧
        (after.simulator provider.table.simulator).calls =
          (host.simulator provider.table.simulator).calls ++
            (exchanges.map Exchange.call).filter provider.table.reaches ∧
        ImportsProgram ⟨provider, context, registry.options⟩ target handle
          (Ownership.ofKeep keeps).ownsNative exchanges (.error e)) := by
  apply (talks_importProgram resolved handle context keeps target host).imp
  · rintro bundle after ⟨exchanges, converses, imports⟩
    exact ⟨exchanges, converses, converses.calls_eq, imports⟩
  · rintro e after ⟨exchanges, converses, imports⟩
    exact ⟨exchanges, converses, converses.calls_eq, imports⟩

end Whole

/-- A backend without entry points for chosen devices links a program for its first device as a
whole, and is asked about the second device at the linked program. -/
theorem importProgram_fallsBack_linked :
    let host :=
      (Session.sample SimulatorConfig.cuda.wholeProgramsOnly [⟨4097⟩, ⟨4098⟩] .object []).host
    Registry.sample.provider? .cuda = some .sample ∧
      ∃ bundle after exchanges,
        importProgram .sample ⟨4100⟩ .sample true .executable .cuda host = .ok bundle after ∧
        Converses Provider.sample.table host exchanges after ∧
        ImportsProgram ⟨.sample, .sample, {}⟩ .executable ⟨4100⟩ false exchanges (.ok bundle) ∧
        (exchanges.map Exchange.call).filter Provider.sample.table.reaches =
          [.programCreate ⟨4100⟩ ⟨1⟩ false, .programNumDevices ⟨2⟩, .programDevices ⟨2⟩,
            .programBinaryType ⟨2⟩ ⟨3⟩, .programLinkFor ⟨1⟩ [⟨3⟩] [⟨2⟩] none,
            .programLink ⟨1⟩ [⟨2⟩] none, .programBinaryType ⟨5⟩ ⟨4⟩,
            .devicePlatform ⟨3⟩, .devicePlatform ⟨4⟩] := by
  intro host
  have resolved : Registry.sample.provider? .cuda = some .sample := by decide
  have runs : bringsBack (fun _ after => decide ((after.simulator 0).calls =
      (host.simulator 0).calls ++
        [.programCreate ⟨4100⟩ ⟨1⟩ false, .programNumDevices ⟨2⟩, .programDevices ⟨2⟩,
          .programBinaryType ⟨2⟩ ⟨3⟩, .programLinkFor ⟨1⟩ [⟨3⟩] [⟨2⟩] none,
          .programLink ⟨1⟩ [⟨2⟩] none, .programBinaryType ⟨5⟩ ⟨4⟩,
          .devicePlatform ⟨3⟩, .devicePlatform ⟨4⟩]))
      (importProgram .sample ⟨4100⟩ .sample true .executable .cuda host) = true := by
    decide +kernel
  clear_value host
  obtain ⟨bundle, after, outcome, calls⟩ := exists_of_bringsBack runs
  have ends := importProgram_fallsBack resolved host ⟨4100⟩ .sample true .executable
  obtain ⟨exchanges, converses, seen, imports⟩ := ends.of_ok outcome
  rw [decide_eq_true_eq] at calls
  exact ⟨resolved, bundle, after, exchanges, outcome, converses, imports,
    List.append_cancel_left (seen.symm.trans calls)⟩

end ComputeImport
