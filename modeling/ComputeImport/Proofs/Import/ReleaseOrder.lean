import ComputeImport.Proofs.Import.Fallback

/-!
# The order in which replaced programs are released

A link replaces the program by a new one, and the references to all of them are released in the end.
An image releases its program before those that it has replaced, and an import that fails after the
loop over the devices keeps the same order.  Where it fails in the loop, the programs are released in
the order in which they were made, and the latest one comes last.
-/

namespace ComputeImport

/-! ## The end of an image -/

/-- A call by an owner at its end, as a backend sees it: not at all, when it is another one. -/
def Provider.callAt (provider : Provider) (number : Nat) (call : Call) : List Call :=
  if provider.table.simulator = number then [call] else []

/-- The calls by which programs are released at a backend, in order. -/
def releasesAt (number : Nat) (programs : List ProgramRef) : List Call :=
  programs.flatMap fun program => program.provider.callAt number (.programRelease program.handle)

/-- The calls that an owner makes of a backend at its end, in order. -/
def Owner.releasesAt (number : Nat) : Owner → List Call
  | .context ended => ended.provider.callAt number (.contextRelease ended.handle)
  | .queue ended => ended.provider.callAt number (.queueRelease ended.handle)
  | .event ended => ended.provider.callAt number (.eventRelease ended.handle)
  | .kernel ended => ended.provider.callAt number (.kernelRelease ended.handle)
  | .image ended => ComputeImport.releasesAt number (ended.program :: ended.superseded)

section Ends

variable {host : Host} {number : Nat} {kind : ObjectKind}

/-- Programs that are all of one backend are released by one call each. -/
theorem releasesAt_own {programs : List ProgramRef}
    (own : ∀ program ∈ programs, program.provider.table.simulator = number) :
    releasesAt number programs = programs.map fun program => .programRelease program.handle := by
  induction programs with
  | nil => rfl
  | cons program programs ih =>
      obtain ⟨first, rest⟩ := List.forall_mem_cons.mp own
      rw [releasesAt, List.flatMap_cons, List.map_cons, Provider.callAt, if_pos first]
      exact congrArg _ (ih rest)

theorem calls_releaseWith {provider : Provider} {handle : Handle kind}
    {release : Handle kind → Native Unit} {call : Call} (isCall : IsCall (release handle) call) :
    ((host.releaseWith provider handle release).simulator number).calls =
      (host.simulator number).calls ++ provider.callAt number call := by
  rw [Host.simulator_releaseWith isCall, Provider.callAt]
  split
  · exact (Simulator.recorded_answer call).calls
  · exact (List.append_nil _).symm

theorem calls_releasePrograms (programs : List ProgramRef) :
    ((releasePrograms programs host).simulator number).calls =
      (host.simulator number).calls ++ releasesAt number programs := by
  induction programs generalizing host with
  | nil => exact (List.append_nil _).symm
  | cons program programs ih =>
      have first : ((program.release host).simulator number).calls = (host.simulator number).calls ++
          program.provider.callAt number (.programRelease program.handle) := by
        rw [ProgramRef.simulator_release, Provider.callAt]
        split
        · exact (Simulator.recorded_answer _).calls
        · exact (List.append_nil _).symm
      rw [releasesAt, List.flatMap_cons, ← List.append_assoc, ← first]
      exact ih

theorem calls_ownerRelease (owner : Owner) :
    ((owner.release host).simulator number).calls =
      (host.simulator number).calls ++ owner.releasesAt number := by
  cases owner with
  | context ended => exact calls_releaseWith (.of_done (.contextRelease ended.handle) rfl)
  | queue ended => exact calls_releaseWith (.of_done (.queueRelease ended.handle) rfl)
  | event ended => exact calls_releaseWith (.of_done (.eventRelease ended.handle) rfl)
  | kernel ended => exact calls_releaseWith (.of_done (.kernelRelease ended.handle) rfl)
  | image ended => exact calls_releasePrograms _

theorem calls_foldl_release (owners : List Owner) :
    ((owners.foldl (fun host owner => owner.release host) host).simulator number).calls =
      (host.simulator number).calls ++ owners.flatMap (Owner.releasesAt number) := by
  induction owners generalizing host with
  | nil => exact (List.append_nil _).symm
  | cons owner owners ih =>
      rw [List.foldl_cons, ih, calls_ownerRelease, List.flatMap_cons, List.append_assoc]

/-- A value that is let go makes the calls of the owners that end with it, and no others. -/
theorem calls_letGo (value : Managed) :
    ((host.letGo value).simulator number).calls = (host.simulator number).calls ++
      (value.ending host.held.values).flatMap (Owner.releasesAt number) :=
  calls_foldl_release _

/-- Whatever else ends with an image, its program is released right before those that it has
replaced. -/
theorem calls_letGo_image {value : Managed} {image : DeviceImage}
    (ends : .image image ∈ value.ending host.held.values)
    (own : ∀ program ∈ image.program :: image.superseded,
      program.provider.table.simulator = number) :
    ∃ before rest, ((host.letGo value).simulator number).calls =
      (host.simulator number).calls ++ (before ++
        ((image.program :: image.superseded).map fun program =>
          .programRelease program.handle) ++ rest) := by
  obtain ⟨earlier, later, split⟩ := List.append_of_mem ends
  refine ⟨earlier.flatMap (Owner.releasesAt number), later.flatMap (Owner.releasesAt number), ?_⟩
  rw [calls_letGo, split, List.flatMap_append, List.flatMap_cons, Owner.releasesAt,
    releasesAt_own own, List.append_assoc]

end Ends

/-! ## The releases of an import -/

/-- Of programs that have replaced one another, the last one is released before all others. -/
def LatestFirst (programs : List ProgramHandle) (releases : List Call) : Prop :=
  ∃ superseded latest, programs = superseded ++ [latest] ∧
    releases = (latest :: superseded).map .programRelease

theorem latestFirst_of_chain {builder : Builder} {programs : List ProgramHandle}
    {current : ProgramRef} {superseded : List ProgramRef}
    (chain : superseded ++ [current] = builder.refs programs) :
    LatestFirst programs
      ((current :: superseded).map fun program => .programRelease program.handle) := by
  have handles := congrArg (List.map ProgramRef.handle) chain
  refine ⟨superseded.map ProgramRef.handle, current.handle, ?_, ?_⟩
  · simpa [Builder.refs, Function.comp_def] using handles.symm
  · simp [Function.comp_def]

section Whole

variable {registry : Registry} {backend : Backend} {provider : Provider} {host : Host}
  {handle : NativeHandle} {context : Context} {keeps : Bool} {target : BundleState}

/-- Whatever an import has linked, each program replaced by the next one: the image that it brings
back releases the latest program before the others, whenever it ends, and so does an import that
fails after the loop over the devices.  An import that fails in the loop releases the programs in the
order in which they have replaced one another. -/
theorem importProgram_releases (resolved : registry.provider? backend = some provider) :
    Ends (importProgram registry handle context keeps target backend) host
      (fun bundle after => ∃ opening said asked program devices image,
        Converses provider.table host (opening ++ (said ++ asked)) after ∧
        Opens ⟨provider, context, registry.options⟩ handle (Ownership.ofKeep keeps).ownsNative
          opening (some (program, devices)) ∧
        Reconciles ⟨provider, context, registry.options⟩ target program devices said
          (.ok image.program.handle) ∧
        OnlyCalled Resolves asked ∧ bundle.images = [image] ∧
        ∀ (later : Host) (value : Managed), .image image ∈ value.ending later.held.values →
          ∃ before releases rest,
            ((later.letGo value).simulator provider.table.simulator).calls =
              (later.simulator provider.table.simulator).calls ++ (before ++ releases ++ rest) ∧
            LatestFirst (program :: links said) releases)
      (fun e after => ∃ exchanges, Converses provider.table host exchanges after ∧
        (Opens ⟨provider, context, registry.options⟩ handle (Ownership.ofKeep keeps).ownsNative
            exchanges none ∨
          ∃ opening said asked released program devices,
            exchanges = opening ++ (said ++ (asked ++ released)) ∧
            Opens ⟨provider, context, registry.options⟩ handle (Ownership.ofKeep keeps).ownsNative
              opening (some (program, devices)) ∧
            OnlyCalled Resolves asked ∧
            ((∃ current, Reconciles ⟨provider, context, registry.options⟩ target program devices
                said (.ok current) ∧
              LatestFirst (program :: links said) (released.map Exchange.call)) ∨
            (Reconciles ⟨provider, context, registry.options⟩ target program devices said
                (.error e) ∧
              released.map Exchange.call = (program :: links said).map .programRelease)))) := by
  apply (talks_importProgram_conducts resolved handle context keeps target host).imp
  · rintro bundle after ⟨_, converses, ⟨-, e, failed⟩ |
      ⟨opening, _, program, devices, rfl, opens, concludes⟩⟩
    · contradiction
    · cases concludes with
      | @imported said asked image context managed state reconciles chain resolves =>
          refine ⟨opening, said, asked, program, devices, image, converses, opens, reconciles,
            resolves, rfl, ?_⟩
          intro later value ends
          have own : ∀ other ∈ image.program :: image.superseded,
              other.provider.table.simulator = provider.table.simulator := by
            intro other member
            have isRef := chain ▸ (by simpa [or_comm] using member :
              other ∈ image.superseded ++ [image.program])
            rw [(ProgramRef.among_of_mem_refs isRef).1]
          obtain ⟨before, rest, calls⟩ := calls_letGo_image ends own
          exact ⟨before, _, rest, calls, latestFirst_of_chain chain⟩
  · rintro e after ⟨exchanges, converses, ⟨opens, -⟩ |
      ⟨opening, _, program, devices, rfl, opens, concludes⟩⟩
    · exact ⟨exchanges, converses, .inl opens⟩
    · refine ⟨_, converses, .inr ?_⟩
      cases concludes with
      | @stopped said released _ reconciles releases =>
          refine ⟨opening, said, [], released, program, devices, rfl, opens,
            by simp [OnlyCalled], .inr ⟨reconciles, ?_⟩⟩
          simpa [Releases, Builder.refs, Function.comp_def] using releases
      | @unresolved said asked released built cause reconciles chain resolves releases =>
          refine ⟨opening, said, asked, released, program, devices, rfl, opens, resolves,
            .inl ⟨built.current.handle, reconciles, ?_⟩⟩
          rw [releases]
          exact latestFirst_of_chain chain

end Whole

/-- A program has been linked, and its bundle is dropped. -/
theorem importProgram_releases_dropped :
    let host :=
      (Session.sample SimulatorConfig.cuda.wholeProgramsOnly [⟨4097⟩, ⟨4098⟩] .object []).host
    Registry.sample.provider? .cuda = some .sample ∧
      ∃ bundle after programs before releases rest,
        importProgram .sample ⟨4100⟩ .sample true .executable .cuda host = .ok bundle after ∧
        bundle.images.map DeviceImage.superseded = [[⟨⟨2⟩, .sample⟩]] ∧
        ((after.letGo (.bundle bundle)).simulator 0).calls =
          (after.simulator 0).calls ++ (before ++ releases ++ rest) ∧
        LatestFirst programs releases := by
  intro host
  have resolved : Registry.sample.provider? .cuda = some .sample := by decide
  have links : bringsBack (fun bundle after =>
      decide (bundle.images.map DeviceImage.superseded = [[⟨⟨2⟩, .sample⟩]] ∧
        ∀ image ∈ bundle.images,
          .image image ∈ (Managed.bundle bundle).ending after.held.values))
      (importProgram .sample ⟨4100⟩ .sample true .executable .cuda host) = true := by
    decide +kernel
  clear_value host
  obtain ⟨bundle, after, outcome, linked⟩ := exists_of_bringsBack links
  obtain ⟨replaced, ends⟩ := of_decide_eq_true linked
  obtain ⟨_, said, _, program, _, image, -, -, -, -, isImage, releases⟩ :=
    (importProgram_releases resolved).of_ok outcome
  obtain ⟨before, released, rest, calls, latest⟩ :=
    releases after (.bundle bundle) (ends image (isImage ▸ List.mem_singleton_self image))
  exact ⟨resolved, bundle, after, _, before, released, rest, outcome, replaced, calls, latest⟩

/-- A session with a program that has been compiled for its first device, and for whose second one a
build has been told to fail. -/
def Session.faltering : Session :=
  sample .cuda [⟨4097⟩, ⟨4098⟩] .object
    [⟨.caller 0 (.setStage ⟨4100⟩ ⟨4098⟩ .unbuilt), none⟩,
      ⟨.caller 0 (.inject .programBuildFor (.buildFailure "no code")), none⟩]

/-- An import that fails after a link may release the program that the link has replaced before the
new one. -/
theorem exists_latest_last :
    ∃ e after, importProgram .sample ⟨4100⟩ .sample true .executable .cuda
        Session.faltering.host = .error e after ∧
      (after.simulator 0).calls = (Session.faltering.host.simulator 0).calls ++
        [.programCreate ⟨4100⟩ ⟨1⟩ false, .programNumDevices ⟨2⟩, .programDevices ⟨2⟩,
          .programBinaryType ⟨2⟩ ⟨3⟩, .programLinkFor ⟨1⟩ [⟨3⟩] [⟨2⟩] none,
          .programBinaryType ⟨5⟩ ⟨4⟩, .programBuildFor ⟨5⟩ [⟨4⟩] none,
          .programRelease ⟨2⟩, .programRelease ⟨5⟩] ∧
      (after.simulator 0).store.wrappers.contains 2 = false ∧
      (after.simulator 0).store.wrappers.contains 5 = false := by
  have fails : failsWith (fun _ after =>
      decide ((after.simulator 0).calls = (Session.faltering.host.simulator 0).calls ++
        [.programCreate ⟨4100⟩ ⟨1⟩ false, .programNumDevices ⟨2⟩, .programDevices ⟨2⟩,
          .programBinaryType ⟨2⟩ ⟨3⟩, .programLinkFor ⟨1⟩ [⟨3⟩] [⟨2⟩] none,
          .programBinaryType ⟨5⟩ ⟨4⟩, .programBuildFor ⟨5⟩ [⟨4⟩] none,
          .programRelease ⟨2⟩, .programRelease ⟨5⟩] ∧
        (after.simulator 0).store.wrappers.contains 2 = false ∧
        (after.simulator 0).store.wrappers.contains 5 = false))
      (importProgram .sample ⟨4100⟩ .sample true .executable .cuda
        Session.faltering.host) = true := by
    decide +kernel
  obtain ⟨e, after, outcome, ended⟩ := exists_of_failsWith fails
  exact ⟨e, after, outcome, of_decide_eq_true ended⟩

end ComputeImport
