import ComputeImport.Proofs.Import.Uses
import ComputeImport.Proofs.Simulator.Creation

/-!
# Listing kernels and looking them up

An image asks its backend for its kernels once and remembers the answer.  A bundle goes through its
images, so that it stops at the first one whose backend does not answer; listing and looking up only
differ in what they do with the names.  The names of a bundle increase by their bytes.
-/

namespace ComputeImport

/-! ## The order of texts by their bytes -/

namespace Text

variable {first second : List Char} {text other : String} {a b : Nat}

/-- The bytes of a text in UTF-8. -/
def bytes (text : String) : List UInt8 :=
  text.toUTF8.data.toList

theorem bytes_eq (text : String) : bytes text = text.toList.flatMap String.utf8EncodeChar := by
  conv => lhs; rw [← @String.ofList_toList text]
  rw [bytes, String.toUTF8_eq_toByteArray, String.toByteArray_ofList, List.utf8Encode]
  simp

theorem ofNat_lt_iff (lt : a < 256) (lt' : b < 256) : UInt8.ofNat a < UInt8.ofNat b ↔ a < b := by
  rw [UInt8.lt_iff_toNat_lt, UInt8.toNat_ofNat_of_lt' lt, UInt8.toNat_ofNat_of_lt' lt']

theorem ofNat_eq_iff (lt : a < 256) (lt' : b < 256) : UInt8.ofNat a = UInt8.ofNat b ↔ a = b := by
  rw [← UInt8.toNat_inj, UInt8.toNat_ofNat_of_lt' lt, UInt8.toNat_ofNat_of_lt' lt']

/-- The bytes of a character that comes first come first, whatever follows. -/
theorem utf8EncodeChar_append_lt {c d : Char} (less : c < d) (rest rest' : List UInt8) :
    String.utf8EncodeChar c ++ rest < String.utf8EncodeChar d ++ rest' := by
  have below : d.val.toNat < 0x110000 := by
    rcases d.valid with low | ⟨-, below⟩
    · exact Nat.lt_trans low (by decide)
    · exact below
  change c.val.toNat < d.val.toNat at less
  unfold String.utf8EncodeChar
  dsimp only
  generalize c.val.toNat = v at less
  generalize d.val.toNat = w at less below
  -- The bytes after the first one are digits to the base of 64.
  have digits : ∀ n, n / 4096 = n / 64 / 64 ∧ n / 262144 = n / 64 / 64 / 64 := by
    intro n
    rw [Nat.div_div_eq_div_mul, Nat.div_div_eq_div_mul]
    exact ⟨rfl, rfl⟩
  simp only [digits]
  -- One case for each pair of lengths.
  repeat' split
  all_goals
    simp (disch := omega) only [List.cons_append, List.cons_lt_cons_iff, ofNat_lt_iff, ofNat_eq_iff]
    omega

theorem flatMap_utf8EncodeChar_lt (less : first < second) :
    first.flatMap String.utf8EncodeChar < second.flatMap String.utf8EncodeChar := by
  induction first generalizing second with
  | nil =>
      cases second with
      | nil => exact absurd less (List.not_lt_nil _)
      | cons d second =>
          obtain ⟨byte, bytes, isFirst⟩ :=
            List.exists_cons_of_ne_nil (@String.utf8EncodeChar_ne_nil d)
          rw [List.flatMap_cons, isFirst]
          exact List.nil_lt_cons _ _
  | cons c first ih =>
      cases second with
      | nil => exact absurd less (List.not_lt_nil _)
      | cons d second =>
          rw [List.flatMap_cons, List.flatMap_cons]
          rcases List.cons_lt_cons_iff.mp less with before | ⟨rfl, rest⟩
          · exact utf8EncodeChar_append_lt before _ _
          · exact List.append_left_lt (ih rest)

/-- Texts in the order of their characters are in the order of their bytes. -/
theorem bytes_lt_of_lt (less : text < other) : bytes text < bytes other := by
  rw [bytes_eq, bytes_eq]
  exact flatMap_utf8EncodeChar_lt less

end Text

theorem pairwise_bytes_sortNames (names : List String) :
    (sortNames names).Pairwise fun name other => Text.bytes name < Text.bytes other :=
  (pairwise_sortNames names).imp Text.bytes_lt_of_lt

/-! ## One image -/

namespace DeviceImage

/-- The number of the backend that has the program of an image. -/
abbrev number (image : DeviceImage) : Nat :=
  image.program.provider.table.simulator

/-- What an image asks its backend. -/
abbrev asking (image : DeviceImage) : Simulator.Operation :=
  .call (.programKernelNames image.program.handle)

end DeviceImage

namespace Host

/-- A host that has remembered the kernels of an image. -/
def remember (host : Host) (image : DeviceImage) (names : List String) : Host :=
  { host with kernelLists := host.kernelLists.set image.identity names }

/-- A host whose backend has been asked for the kernels of an image. -/
def asked (host : Host) (image : DeviceImage) : Host :=
  host.advance image.number ((host.simulator image.number).after image.asking)

/-- A host remembers lists of kernels of images, one each. -/
abbrev Remembers (host : Host) (images : List DeviceImage) (lists : List (List String)) : Prop :=
  List.Forall₂ (fun image names => host.kernelLists.get? image.identity = some names) images lists

end Host

namespace DeviceImage

variable {image : DeviceImage} {host after : Host} {names known : List String} {id : Nat}
  {e : ImportError}

/-- How the kernels of an image come to be listed: they are remembered, or they need not be asked for,
or the backend tells those of the program that is live behind the image. -/
inductive Lists (image : DeviceImage) (host : Host) : List String → Host → Prop
  | known {names : List String} (known : host.kernelLists.get? image.identity = some names) :
      Lists image host names host
  | bare (unknown : host.kernelLists.get? image.identity = none) (other : image.state ≠ .executable) :
      Lists image host [] (host.remember image [])
  | told {native : NativeHandle} {binary : ProgramBinary}
      (unknown : host.kernelLists.get? image.identity = none) (executable : image.state = .executable)
      (answered : (host.simulator image.number).succeeds image.asking = true)
      (leads : (host.simulator image.number).store.Leads image.program.handle native binary) :
      Lists image host binary.kernels ((host.asked image).remember image binary.kernels)

/-- The kernels of an image are unknown, and its backend has not told them when asked. -/
structure Unanswered (image : DeviceImage) (host : Host) (e : ImportError) (after : Host) : Prop where
  unknown : host.kernelLists.get? image.identity = none
  executable : image.state = .executable
  refused : (host.simulator image.number).succeeds image.asking = false
  after_eq : after = host.asked image
  native : ∃ cause, e = .native cause

/-- An image lists its kernels, or its backend does not answer. -/
theorem ends_kernelNames (image : DeviceImage) (host : Host) :
    Ends image.kernelNames host (image.Lists host) (image.Unanswered host) := by
  unfold kernelNames
  rw [ends_bind, ends_get]
  dsimp only
  cases unknown : host.kernelLists.get? image.identity with
  | some names => exact .known unknown
  | none =>
      cases state : image.state with
      | input => exact .bare unknown (by rw [state]; decide)
      | object => exact .bare unknown (by rw [state]; decide)
      | executable =>
          dsimp only
          rw [ends_bind, ends_native, ends_call]
          apply Simulator.ends_programKernelNames.imp
          · rintro _ _ ⟨rfl, -, answered, native, binary, leads, rfl⟩
            exact .told unknown state answered leads
          · rintro e _ ⟨rfl, -, refused⟩
            exact ⟨unknown, state, refused, rfl, e, rfl⟩

theorem kernelNames_of_known (known : host.kernelLists.get? image.identity = some names) :
    image.kernelNames host = .ok names host := by
  have ended : Ends image.kernelNames host (fun told after => told = names ∧ after = host)
      (fun _ _ => False) := by
    unfold kernelNames
    rw [ends_bind, ends_get]
    dsimp only
    rw [known]
    exact ⟨rfl, rfl⟩
  obtain ⟨_, _, outcome, rfl, rfl⟩ := ended.exists_ok
  exact outcome

/-- The kernels of an image whose backend has not answered stay unknown. -/
theorem Unanswered.unknown_after (unanswered : image.Unanswered host e after) :
    after.kernelLists.get? image.identity = none := by
  rw [unanswered.after_eq]
  exact unanswered.unknown

/-- Kernels that have been listed are remembered from then on. -/
theorem Lists.remembered (lists : image.Lists host names after) :
    after.kernelLists.get? image.identity = some names := by
  cases lists with
  | known known => exact known
  | bare | told =>
      rw [Host.remember, Ledger.get?_set]
      exact if_pos rfl

/-- What is remembered does not change. -/
theorem Lists.keeps (lists : image.Lists host names after)
    (found : host.kernelLists.get? id = some known) : after.kernelLists.get? id = some known := by
  cases lists with
  | known => exact found
  | bare unknown | told unknown =>
      have different : image.identity ≠ id := by
        rintro rfl
        rw [unknown] at found
        contradiction
      rw [Host.remember, Ledger.get?_set, if_neg different]
      exact found

theorem keeps_remembered (image : DeviceImage) (id : Nat) (known : List String) :
    Keeps (fun host => host.kernelLists.get? id = some known) image.kernelNames := by
  refine ⟨fun host found => (ends_kernelNames image host).imp ?_ ?_⟩
  · exact fun _ _ lists => lists.keeps found
  · rintro e _ unanswered
    rw [unanswered.after_eq]
    exact found

end DeviceImage

/-! ## Several images -/

section Images

variable {images earlier later : List DeviceImage} {lists : List (List String)}
  {image : DeviceImage} {host : Host} {holds : Host → Prop} {name : String} {e : ImportError}

theorem keeps_imageKernelNames (keeps : ∀ image ∈ images, Keeps holds image.kernelNames) :
    Keeps holds (imageKernelNames images) := by
  induction images with
  | nil => exact Keeps.pure _
  | cons image images ih =>
      obtain ⟨first, rest⟩ := List.forall_mem_cons.mp keeps
      exact Keeps.bind first fun _ => Keeps.bind (ih rest) fun _ => Keeps.pure _

theorem keeps_imagesHaveKernel (keeps : ∀ image ∈ images, Keeps holds image.kernelNames) :
    Keeps holds (imagesHaveKernel name images) := by
  induction images with
  | nil => exact Keeps.pure _
  | cons image images ih =>
      obtain ⟨first, rest⟩ := List.forall_mem_cons.mp keeps
      refine Keeps.bind (Keeps.bind first fun _ => Keeps.pure _) fun found => ?_
      cases found with
      | true => exact Keeps.pure _
      | false => exact ih rest

/-- Images whose kernels are remembered are passed by a list. -/
theorem ends_imageKernelNames_append {ok : List String → Host → Prop}
    {failed : ImportError → Host → Prop} (remembers : host.Remembers earlier lists) :
    Ends (imageKernelNames (earlier ++ later)) host ok failed ↔
      Ends (imageKernelNames later) host (fun names => ok (lists.flatten ++ names)) failed := by
  induction remembers generalizing ok with
  | nil => exact Iff.rfl
  | cons known _ ih =>
      rw [List.cons_append, imageKernelNames, ends_bind,
        ends_iff_of_ok (DeviceImage.kernelNames_of_known known), ends_bind, ih]
      simp only [ends_pure, List.flatten_cons, List.append_assoc]

/-- By a search, too, unless one has the kernel that is looked for. -/
theorem ends_imagesHaveKernel_append {ok : Bool → Host → Prop} {failed : ImportError → Host → Prop}
    (remembers : host.Remembers earlier lists) :
    Ends (imagesHaveKernel name (earlier ++ later)) host ok failed ↔
      if name ∈ lists.flatten then ok true host
      else Ends (imagesHaveKernel name later) host ok failed := by
  induction remembers with
  | nil => simp
  | @cons image names _ lists known _ ih =>
      rw [List.cons_append, imagesHaveKernel, ends_bind, DeviceImage.hasKernel, ends_bind,
        ends_iff_of_ok (DeviceImage.kernelNames_of_known known), ends_pure, List.flatten_cons]
      by_cases isFirst : name ∈ names
      · rw [if_pos (List.mem_append_left _ isFirst), List.contains_iff_mem.mpr isFirst]
        exact Iff.rfl
      · have absent : names.contains name = false := by simpa using isFirst
        simp only [absent, List.mem_append, isFirst, false_or]
        exact ih

theorem Host.Remembers.mem_flatten (remembers : host.Remembers images lists) :
    name ∈ lists.flatten ↔ ∃ image ∈ images, ∃ names,
      host.kernelLists.get? image.identity = some names ∧ name ∈ names := by
  induction remembers with
  | nil => simp
  | cons known _ ih =>
      rw [List.flatten_cons, List.mem_append, ih]
      simp [known]

theorem Host.Remembers.exists_names (remembers : host.Remembers images lists)
    (isPart : image ∈ images) : ∃ names, host.kernelLists.get? image.identity = some names := by
  induction remembers with
  | nil => contradiction
  | cons known _ ih =>
      rcases List.mem_cons.mp isPart with rfl | isPart
      · exact ⟨_, known⟩
      · exact ih isPart

theorem imageKernelNames_of_remembers (remembers : host.Remembers images lists) :
    imageKernelNames images host = .ok lists.flatten host := by
  have ended : Ends (imageKernelNames images) host
      (fun names after => names = lists.flatten ∧ after = host) (fun _ _ => False) := by
    rw [← List.append_nil images, ends_imageKernelNames_append remembers]
    exact ⟨List.append_nil _, rfl⟩
  obtain ⟨_, _, outcome, rfl, rfl⟩ := ended.exists_ok
  exact outcome

theorem imagesHaveKernel_of_remembers (remembers : host.Remembers images lists) :
    imagesHaveKernel name images host = .ok (decide (name ∈ lists.flatten)) host := by
  have ended : Ends (imagesHaveKernel name images) host
      (fun found after => found = decide (name ∈ lists.flatten) ∧ after = host)
      (fun _ _ => False) := by
    rw [← List.append_nil images, ends_imagesHaveKernel_append remembers]
    split
    · rename_i isPart
      exact ⟨(decide_eq_true isPart).symm, rfl⟩
    · rename_i absent
      exact ⟨(decide_eq_false absent).symm, rfl⟩
  obtain ⟨_, _, outcome, rfl, rfl⟩ := ended.exists_ok
  exact outcome

/-- A walk through images has come to a halt at one whose backend has not answered.  The kernels of
those before it are remembered, and have let the walk pass. -/
structure Halts (images : List DeviceImage) (passes : List String → Prop) (image : DeviceImage)
    (e : ImportError) (after : Host) : Prop where
  passed : ∃ earlier later lists, images = earlier ++ image :: later ∧
    after.Remembers earlier lists ∧ ∀ names ∈ lists, passes names
  unanswered : ∃ before, image.Unanswered before e after

theorem Halts.mem {passes : List String → Prop} {after : Host}
    (halts : Halts images passes image e after) : image ∈ images := by
  obtain ⟨earlier, later, _, rfl, -⟩ := halts.passed
  exact List.mem_append_right _ List.mem_cons_self

theorem Halts.cons {first : DeviceImage} {passes : List String → Prop} {names : List String}
    {after : Host} (halts : Halts images passes image e after)
    (known : after.kernelLists.get? first.identity = some names) (isPassed : passes names) :
    Halts (first :: images) passes image e after := by
  obtain ⟨earlier, later, lists, rfl, remembers, pass⟩ := halts.passed
  exact ⟨⟨first :: earlier, later, names :: lists, rfl, .cons known remembers,
    List.forall_mem_cons.mpr ⟨isPassed, pass⟩⟩, halts.unanswered⟩

/-- All kernels of the images are remembered when they have been listed. -/
theorem ends_imageKernelNames (images : List DeviceImage) (host : Host) :
    Ends (imageKernelNames images) host
      (fun names after => ∃ lists, after.Remembers images lists ∧ names = lists.flatten)
      (fun e after => ∃ image, Halts images (fun _ => True) image e after) := by
  induction images generalizing host with
  | nil => exact ⟨[], .nil, rfl⟩
  | cons first images ih =>
      apply Ends.bind ((first.ends_kernelNames host).imp (fun _ _ lists => lists) ?_)
      · intro names middle lists
        have keeps : Keeps _ (imageKernelNames images) := keeps_imageKernelNames fun image _ =>
          image.keeps_remembered first.identity names
        apply Ends.bind (((ih middle).and (keeps.ends middle lists.remembered)).imp
          (fun _ _ ended => ended) ?_)
        · rintro _ after ⟨⟨lists, remembers, rfl⟩, known⟩
          exact ⟨names :: lists, .cons known remembers, rfl⟩
        · rintro e after ⟨⟨image, halts⟩, known⟩
          exact ⟨image, halts.cons known True.intro⟩
      · intro e after unanswered
        exact ⟨first, ⟨[], images, [], rfl, .nil, List.forall_mem_nil _⟩, host, unanswered⟩

theorem ends_imagesHaveKernel (images : List DeviceImage) (name : String) (host : Host) :
    Ends (imagesHaveKernel name images) host (fun _ _ => True)
      (fun e after => ∃ image, Halts images (name ∉ ·) image e after) := by
  induction images generalizing host with
  | nil => exact True.intro
  | cons first images ih =>
      rw [imagesHaveKernel, ends_bind, DeviceImage.hasKernel, ends_bind]
      apply (first.ends_kernelNames host).imp
      · intro names middle lists
        rw [ends_pure]
        cases found : names.contains name with
        | true => exact True.intro
        | false =>
            have lacking : name ∉ names := by simpa using found
            have keeps : Keeps _ (imagesHaveKernel name images) := keeps_imagesHaveKernel fun image _ =>
              image.keeps_remembered first.identity names
            apply ((ih middle).and (keeps.ends middle lists.remembered)).imp
            · exact fun _ _ _ => True.intro
            · rintro e after ⟨⟨image, halts⟩, known⟩
              exact ⟨image, halts.cons known lacking⟩
      · intro e after unanswered
        exact ⟨first, ⟨[], images, [], rfl, .nil, List.forall_mem_nil _⟩, host, unanswered⟩

/-! ## Asking again -/

/-- The first thing that a backend has been asked since is the kernels of an image. -/
def Host.Queries (host : Host) (image : DeviceImage) (after : Host) : Prop :=
  ∃ more, (after.simulator image.number).calls =
    (host.simulator image.number).calls ++ .programKernelNames image.program.handle :: more

theorem respects_queries : Respects (fun _ => True) (fun _ => True) (host.Queries image) := by
  apply Respects.uncached
  case call =>
    rintro middle number call - - ⟨more, calls⟩
    rw [Host.Queries, Host.simulator_advance]
    split
    · rename_i same
      refine ⟨more ++ [call], ?_⟩
      have recorded := @Simulator.recorded_answer (middle.simulator number) call
      rw [Simulator.after, recorded.calls, same, calls, List.append_assoc, List.cons_append]
    · exact ⟨more, calls⟩
  case other =>
    rintro middle after same - - ⟨more, calls⟩
    refine ⟨more, ?_⟩
    rw [Host.simulator_of_simulators same]
    exact calls

/-- An executable image whose kernels are not remembered asks for them. -/
theorem ends_kernelNames_queries (unknown : host.kernelLists.get? image.identity = none)
    (executable : image.state = .executable) :
    Ends image.kernelNames host (fun _ => host.Queries image) (fun _ => host.Queries image) := by
  have asked : host.Queries image (host.asked image) := by
    refine ⟨[], ?_⟩
    rw [Host.asked, Host.simulator_advance_self]
    exact (Simulator.recorded_answer _).calls
  apply (image.ends_kernelNames host).imp
  · intro names after lists
    cases lists with
    | known known =>
        rw [unknown] at known
        contradiction
    | bare _ other => exact absurd executable other
    | told => exact asked
  · rintro e _ unanswered
    rw [unanswered.after_eq]
    exact asked

theorem keeps_queries (other : DeviceImage) : Keeps (host.Queries image) other.kernelNames := by
  have asks : OnlyCalls other.kernelNames := .of_quiet (Uses.imageKernelNames True.intro)
  exact asks _ respects_queries

variable {after : Host} {passes : List String → Prop}

/-- What has let a walk pass still does, as long as it is remembered. -/
theorem Halts.passed_later (halts : Halts images passes image e after)
    (recalls : ∀ id names, after.kernelLists.get? id = some names →
      host.kernelLists.get? id = some names) :
    ∃ earlier later lists, images = earlier ++ image :: later ∧ host.Remembers earlier lists ∧
      ∀ names ∈ lists, passes names := by
  obtain ⟨earlier, later, lists, isCut, remembers, pass⟩ := halts.passed
  exact ⟨earlier, later, lists, isCut, remembers.imp fun _ _ known => recalls _ _ known, pass⟩

/-- A list that goes on with an executable image of unknown kernels asks for them. -/
theorem ends_imageKernelNames_queries (unknown : host.kernelLists.get? image.identity = none)
    (executable : image.state = .executable) :
    Ends (imageKernelNames (image :: later)) host (fun _ => host.Queries image)
      (fun _ => host.Queries image) := by
  have rest : Keeps (host.Queries image) (imageKernelNames later) :=
    keeps_imageKernelNames fun other _ => keeps_queries other
  rw [imageKernelNames]
  apply (ends_kernelNames_queries unknown executable).bind
  intro names middle queries
  exact (rest.ends middle queries).bind fun _ _ queries => queries

theorem ends_imagesHaveKernel_queries (unknown : host.kernelLists.get? image.identity = none)
    (executable : image.state = .executable) :
    Ends (imagesHaveKernel name (image :: later)) host (fun _ => host.Queries image)
      (fun _ => host.Queries image) := by
  have rest : Keeps (host.Queries image) (imagesHaveKernel name later) :=
    keeps_imagesHaveKernel fun other _ => keeps_queries other
  rw [imagesHaveKernel, ends_bind, DeviceImage.hasKernel, ends_bind]
  apply (ends_kernelNames_queries unknown executable).imp
  · intro names middle queries
    rw [ends_pure]
    cases names.contains name with
    | true => exact queries
    | false => exact rest.ends middle queries
  · exact fun _ _ queries => queries

end Images

/-! ## Bundles -/

namespace KernelBundle

variable {bundle : KernelBundle} {host after : Host} {image : DeviceImage} {name : String}
  {lists : List (List String)} {passes : List String → Prop} {e : ImportError}

theorem ends_kernelNames (bundle : KernelBundle) (host : Host) :
    Ends bundle.kernelNames host
      (fun names after => ∃ lists, after.Remembers bundle.images lists ∧
        names = sortNames lists.flatten)
      (fun e after => ∃ image, Halts bundle.images (fun _ => True) image e after) := by
  apply (ends_imageKernelNames bundle.images host).bind
  rintro _ after ⟨lists, remembers, rfl⟩
  exact ⟨lists, remembers, rfl⟩

theorem kernelNames_of_remembers (remembers : host.Remembers bundle.images lists) :
    bundle.kernelNames host = .ok (sortNames lists.flatten) host := by
  rw [kernelNames, bind_apply, imageKernelNames_of_remembers remembers]
  rfl

theorem hasKernel_of_remembers (remembers : host.Remembers bundle.images lists) :
    bundle.hasKernel name host = .ok (decide (name ∈ sortNames lists.flatten)) host := by
  rw [hasKernel, imagesHaveKernel_of_remembers remembers]
  simp only [mem_sortNames]

/-- The kernels of an image are asked for again by whoever lists those of the bundle, and by whoever
looks for a kernel that has not been found before. -/
structure AsksAgain (bundle : KernelBundle) (image : DeviceImage) (host : Host) : Prop where
  listing : Ends bundle.kernelNames host (fun _ => host.Queries image) (fun _ => host.Queries image)
  search : ∀ name, Ends (bundle.hasKernel name) host
    (fun found after => found = true ∧ after = host ∨ host.Queries image after)
    (fun _ => host.Queries image)

/-- Whoever comes to a halt at an image asks for its kernels again, as long as they are unknown. -/
theorem asksAgain_of_halts (halts : Halts bundle.images passes image e after)
    (recalls : ∀ id names, after.kernelLists.get? id = some names →
      host.kernelLists.get? id = some names)
    (unknown : host.kernelLists.get? image.identity = none) : bundle.AsksAgain image host := by
  obtain ⟨earlier, later, lists, isCut, remembers, -⟩ := halts.passed_later recalls
  obtain ⟨before, unanswered⟩ := halts.unanswered
  constructor
  case listing =>
    rw [kernelNames, isCut, ends_bind, ends_imageKernelNames_append remembers]
    exact ends_imageKernelNames_queries unknown unanswered.executable
  case search =>
    intro name
    rw [hasKernel, isCut, ends_imagesHaveKernel_append remembers]
    split
    · exact Or.inl ⟨rfl, rfl⟩
    · exact (ends_imagesHaveKernel_queries unknown unanswered.executable).imp
        (fun _ _ queries => Or.inr queries) fun _ _ queries => queries

/-- A search that has come to a halt at an image asks for its kernels again. -/
theorem ends_hasKernel_of_halts (halts : Halts bundle.images (name ∉ ·) image e after)
    (recalls : ∀ id names, after.kernelLists.get? id = some names →
      host.kernelLists.get? id = some names)
    (unknown : host.kernelLists.get? image.identity = none) :
    Ends (bundle.hasKernel name) host (fun _ => host.Queries image)
      (fun _ => host.Queries image) := by
  obtain ⟨earlier, later, lists, isCut, remembers, lacking⟩ := halts.passed_later recalls
  obtain ⟨before, unanswered⟩ := halts.unanswered
  have absent : name ∉ lists.flatten := by
    intro isPart
    obtain ⟨names, isList, isPart⟩ := List.mem_flatten.mp isPart
    exact lacking names isList isPart
  rw [hasKernel, isCut, ends_imagesHaveKernel_append remembers, if_neg absent]
  exact ends_imagesHaveKernel_queries unknown unanswered.executable

end KernelBundle

end ComputeImport
