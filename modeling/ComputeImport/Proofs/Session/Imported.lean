import ComputeImport.Proofs.Session.Grounded

/-!
# What a session has imported

A step that brings an object back has imported it from a native one, together with the platforms and
devices that have been found for it.  `Session.imports` lists what the steps of a run have imported,
with the reply that each object is to give when it is asked for its native one.  `Exports` says that
every object gives that reply for as long as it is alive: no step makes its wrapper another one's, or
releases a wrapper that something alive still keeps.
-/

namespace ComputeImport

/-! ## Tokens -/

section Tokens

variable {value : Managed} {accessor : Accessor} {owner : Owner} {token : Token}

/-- No object is asked through the wrapper of a program. -/
theorem Accessor.not_isProgram (isAccessor : value.accessor? = some accessor) :
    ¬ accessor.token.IsProgram := by
  cases value with
  | platform | device | context | queue | event | kernel =>
      obtain rfl := Option.some.inj isAccessor
      exact Token.not_isProgram nofun
  | image | bundle | provider => contradiction

/-- An owner is asked through the one wrapper that it keeps, or keeps those of programs. -/
theorem Owner.mem_tokens (member : token ∈ owner.tokens) :
    token.IsProgram ∨ ∃ accessor, owner.managed.accessor? = some accessor ∧ accessor.token = token := by
  cases owner with
  | context | queue | event | kernel =>
      obtain rfl := List.mem_singleton.mp member
      exact Or.inr ⟨_, rfl, rfl⟩
  | image ended =>
      obtain ⟨program, -, rfl⟩ := List.mem_map.mp member
      exact Or.inl rfl

/-- Platforms and devices keep no wrapper that an owner does. -/
theorem Accessor.isOwned (isAccessor : value.accessor? = some accessor)
    (member : accessor.token ∈ owner.tokens) : ∃ other : Owner, other.managed = value := by
  cases value with
  | context held => exact ⟨.context held, rfl⟩
  | queue held => exact ⟨.queue held, rfl⟩
  | event held => exact ⟨.event held, rfl⟩
  | kernel held => exact ⟨.kernel held, rfl⟩
  | platform held | device held =>
      obtain rfl := Option.some.inj isAccessor
      cases owner with
      | context | queue | event | kernel =>
          exact absurd (congrArg Token.kind (List.mem_singleton.mp member)) nofun
      | image ended =>
          obtain ⟨program, -, same⟩ := List.mem_map.mp member
          exact absurd (congrArg Token.kind same) nofun
  | image | bundle | provider => contradiction

end Tokens

/-! ## What is imported -/

/-- An object that has been imported, with the reply that it is to give when it is asked for its native
object.  A device that a platform has been asked for by a handle without a native device has none. -/
structure Origin where
  object : Managed
  reply : Option Reply

namespace Host

/-- A device has been imported from a native one, and its platform from the platform of that. -/
def importedDevice (host : Host) (device : Device) (native : NativeHandle) : List Origin :=
  ⟨.device device, some (.handle native)⟩ ::
    match (host.simulator device.platform.provider.table.simulator).store.natives.get? native with
    | some ⟨.device platform, _⟩ => [⟨.platform device.platform, some (.handle platform)⟩]
    | _ => []

/-- The devices of an image have been imported from those of a native program. -/
def importedImage (host : Host) (native : NativeHandle) (image : DeviceImage) : List Origin :=
  match (host.simulator image.program.provider.table.simulator).program? native with
  | some binary => (image.devices.zip binary.devices).flatMap fun (device, native) =>
      host.importedDevice device native
  | none => []

/-- The device of a queue has been imported from that of the native queue. -/
def importedTarget (host : Host) (native : NativeHandle) (device : Device) : List Origin :=
  match (host.simulator device.platform.provider.table.simulator).store.natives.get? native with
  | some ⟨.queue target, _⟩ => host.importedDevice device target
  | _ => []

/-- What a command has imported when it has brought an object back. -/
def imported (host : Host) : Command → Reply → List Origin
  | .makePlatform _ native _, .object (.platform made) =>
      [⟨.platform made, some (.handle native)⟩]
  | .makeDevice _ native _, .object (.device made) => host.importedDevice made native
  | .makeContext _ native _, .object (.context made) => [⟨.context made, some (.handle native)⟩]
  | .makeQueue _ native descriptor _ device _ _ _, .object (.queue made) =>
      ⟨.queue made, some (.queue native descriptor)⟩ ::
        match device with
        | some _ => []
        | none => host.importedTarget native made.device
  | .makeEvent _ native _ _ _, .object (.event made) => [⟨.event made, some (.handle native)⟩]
  | .importProgram _ native _ _ _ _, .object (.bundle made) =>
      made.images.flatMap (host.importedImage native)
  | .importKernel _ native _ _ _ _, .object (.kernel made) =>
      [⟨.kernel made, some (.handle native)⟩]
  | .makeKernel _ native _ _, .object (.kernel made) => [⟨.kernel made, some (.handle native)⟩]
  | .deviceOfPlatform _ handle, .object (.device made) =>
      [⟨.device made, ((host.simulator made.platform.provider.table.simulator).wrapper? handle).map
        fun wrapper => .handle wrapper.native⟩]
  | _, _ => []

end Host

namespace Session

/-- What the steps of a run have imported, in order. -/
def imports (session : Session) : List Step → List Origin
  | [] => []
  | next :: steps =>
      (match (session.step next).1 with
        | .ok reply => session.host.imported next.command reply
        | .error _ => []) ++
      (session.step next).2.imports steps

end Session

/-- An object is told what it has been imported from, if it has been imported from anything. -/
def Origin.Backed (imported : Origin) (host : Host) : Prop :=
  ∀ reply accessor, imported.reply = some reply → imported.object.accessor? = some accessor →
    host.Backs accessor.token reply

/-- A wrapper has been made. -/
def Host.Numbers (host : Host) (token : Token) : Prop :=
  token.id < (host.simulator token.simulator).store.nextWrapper

/-- Only a device may have been imported from nothing. -/
def Origin.IsProper (imported : Origin) : Prop :=
  imported.reply = none → ∃ device, imported.object = .device device

namespace Session

/-- The objects that have been imported are told what they have been imported from, for as long as they
are alive; platforms and devices are for ever. -/
structure Exports (imports : List Origin) (pending : List Managed) (session : Session) : Prop
    extends Grounded pending session where
  /-- Owners keep wrappers of their own. -/
  sole : ∀ owner other : Owner, owner.managed ∈ session.host.livingObjects pending →
    other.managed ∈ session.host.livingObjects pending →
    ∀ accessor accessor', owner.managed.accessor? = some accessor →
      other.managed.accessor? = some accessor' → accessor.token = accessor'.token → owner = other
  backed : ∀ imported ∈ imports,
    (∀ owner : Owner, owner.managed = imported.object →
      owner.managed ∈ session.host.livingObjects pending) →
    imported.Backed session.host
  numbers : ∀ imported ∈ imports, imported.reply ≠ none → ∀ accessor,
    imported.object.accessor? = some accessor → session.host.Numbers accessor.token
  origin : ∀ object ∈ session.host.livingObjects pending, object.accessor? ≠ none →
    ∃ imported ∈ imports, imported.object = object ∧ imported.IsProper

namespace Exports

variable {imports : List Origin} {pending pending' : List Managed} {session : Session}
  {host : Host} {value : Managed} {exempt : Token → Prop}

/-- Other values lead to nothing new. -/
theorem sub (exports : Exports imports pending session) {held : Ledger String Managed}
    (grounded : Grounded pending' { session with host := { session.host with held } })
    (living : ({ session.host with held } : Host).livingObjects pending' ⊆
      session.host.livingObjects pending) :
    Exports imports pending' { session with host := { session.host with held } } := by
  constructor
  case toGrounded => exact grounded
  case sole =>
    exact fun owner other member member' => exports.sole owner other (living member) (living member')
  case backed =>
    intro imported member isLiving
    exact exports.backed imported member fun owner same => living (isLiving owner same)
  case numbers => exact exports.numbers
  case origin => exact fun object member => exports.origin object (living member)

/-- Something that leads to nothing but what is alive. -/
theorem pend (exports : Exports imports [] session) (has : session.host.Has value) :
    Exports imports [value] session :=
  exports.sub (exports.toGrounded.pend has) has.living

/-- Holding nothing but what has been held or is pending. -/
theorem hold (exports : Exports imports pending session) {held : Ledger String Managed}
    (known : ∀ value ∈ pending' ++ held.values, value ∈ pending ++ session.host.held.values) :
    Exports imports pending' { session with host := { session.host with held } } :=
  exports.sub (exports.toGrounded.hold known) (Host.livingObjects_subset known)

/-- An accessor of what is alive has been imported, and is told so, unless it is a device's. -/
theorem backs_owner (exports : Exports imports pending session) {owner : Owner} {accessor : Accessor}
    (living : owner.managed ∈ session.host.livingObjects pending)
    (isAccessor : owner.managed.accessor? = some accessor) :
    ∃ reply, session.host.Backs accessor.token reply := by
  obtain ⟨imported, member, same, isProper⟩ := exports.origin _ living (by
    rw [isAccessor]
    exact Option.some_ne_none _)
  cases isReply : imported.reply with
  | none =>
      obtain ⟨device, isDevice⟩ := isProper isReply
      rw [isDevice] at same
      cases owner <;> cases same
  | some reply =>
      refine ⟨reply, exports.backed imported member ?_ reply accessor isReply (same ▸ isAccessor)⟩
      intro other isSame
      rw [Owner.managed_inj (isSame.trans same)]
      exact living

/-- Calls that release only what nothing alive keeps. -/
theorem since (exports : Exports imports pending session) (spares : session.host.Spares exempt host)
    (kept : ∀ object accessor, object.accessor? = some accessor →
      (∀ owner : Owner, owner.managed = object →
        owner.managed ∈ session.host.livingObjects pending) → ¬ exempt accessor.token) :
    Exports imports pending { session with host } := by
  have living : ∀ pending, host.livingObjects pending = session.host.livingObjects pending := by
    intro pending
    rw [Host.livingObjects, spares.held]
    rfl
  constructor
  case toGrounded => exact exports.toGrounded.since spares
  case sole =>
    rw [living]
    exact exports.sole
  case backed =>
    intro imported member isLiving reply accessor isReply isAccessor
    rw [living] at isLiving
    exact spares.backs (exports.backed imported member isLiving reply accessor isReply isAccessor)
      (kept _ accessor isAccessor isLiving)
  case numbers =>
    intro imported member isReply accessor isAccessor
    exact Nat.lt_of_lt_of_le (exports.numbers imported member isReply accessor isAccessor)
      (spares.stores _).nextWrapper_le
  case origin =>
    rw [living]
    exact exports.origin

/-- Calls that release no wrappers but those of programs. -/
theorem spare (exports : Exports imports pending session)
    (spares : session.host.Spares Token.IsProgram host) :
    Exports imports pending { session with host } :=
  exports.since spares fun _ _ isAccessor _ => Accessor.not_isProgram isAccessor

/-- What ends with a value is kept by nothing that stays alive. -/
theorem letGo (exports : Exports imports [value] session) :
    Exports imports [] { session with host := session.host.letGo value } := by
  have rest : Exports imports [] session := exports.hold fun _ member => List.mem_cons_of_mem _ member
  have pends : ∀ owner ∈ value.owners, owner.managed ∈ session.host.livingObjects [value] :=
    fun owner member => Host.managed_mem_livingObjects.mpr ⟨value, List.mem_cons_self, member⟩
  apply rest.since (.letGo exports.formed fun owner member => exports.within owner (pends owner member))
  rintro object accessor isAccessor isLiving ⟨owner, isEnding, isToken⟩
  obtain ⟨isOwner, notHeld⟩ := List.mem_filter.mp ((mem_lastOccurrences _ _).mp isEnding)
  obtain ⟨other, rfl⟩ := Accessor.isOwned isAccessor isToken
  obtain ⟨held, isHeld, isPart⟩ := Host.managed_mem_livingObjects.mp (isLiving other rfl)
  have living : other.managed ∈ session.host.livingObjects [value] :=
    Host.managed_mem_livingObjects.mpr ⟨held, List.mem_cons_of_mem _ isHeld, isPart⟩
  rcases Owner.mem_tokens isToken with isProgram | ⟨accessor', isAccessor', sameToken⟩
  · exact Accessor.not_isProgram isAccessor isProgram
  · obtain rfl := exports.sole owner other (pends owner isOwner) living _ _ isAccessor' isAccessor
      sameToken
    exact of_decide_eq_true notHeld (List.mem_flatMap.mpr ⟨held, isHeld, isPart⟩)

end Exports

end Session

/-! ## Bringing back -/

/-- An object was alive before, or has been imported now. -/
def Host.Accounts (start : Host) (news : List Origin) (object : Managed) : Prop :=
  object ∈ start.objects ∨ ∃ imported ∈ news, imported.object = object ∧ imported.IsProper

/-- A new owner keeps a wrapper that has not been there before. -/
structure Host.IsNew (start : Host) (owner : Owner) : Prop where
  within : owner.Within fun number => number ∈ start.simulators.keys
  fresh : ∀ accessor, owner.managed.accessor? = some accessor → ¬ start.Numbers accessor.token

/-- An import has brought a value back.  What the value leads to was alive before or has been imported
now, and one owner at most is new. -/
structure Host.Brings (start : Host) (news : List Origin) (value : Managed) (after : Host) :
    Prop where
  spares : start.Spares Token.IsProgram after
  knows : start.Knows value
  backed : ∀ imported ∈ news, imported.Backed after
  accounts : ∀ object ∈ value.objects, object.accessor? ≠ none → start.Accounts news object
  owners : ∃ newest : Option Owner, (∀ owner, newest = some owner → start.IsNew owner) ∧
    ∀ owner ∈ value.owners, newest = some owner ∨ owner.managed ∈ start.objects

/-- Each owner has been alive, or leads to backends that have been set up. -/
theorem Host.Brings.within {start after : Host} {news : List Origin} {value : Managed}
    (brings : start.Brings news value after) : ∀ owner ∈ value.owners,
      owner.Within (fun number => number ∈ start.simulators.keys) ∨ owner.managed ∈ start.objects := by
  obtain ⟨newest, isNew, owners⟩ := brings.owners
  exact fun owner member => (owners owner member).imp_left fun isNewest => (isNew owner isNewest).within

namespace Session.Exports

variable {imports news : List Origin} {session : Session} {value : Managed} {host : Host}

theorem numbers_owner {pending : List Managed} (exports : Exports imports pending session)
    {owner : Owner} {accessor : Accessor}
    (living : owner.managed ∈ session.host.livingObjects pending)
    (isAccessor : owner.managed.accessor? = some accessor) :
    session.host.Numbers accessor.token := by
  obtain ⟨reply, wrapper, found, -⟩ := exports.backs_owner living isAccessor
  exact (exports.formed _).wrapper_lt _ wrapper found

/-- What has been brought back is pending. -/
theorem bring (exports : Exports imports [] session)
    (brings : session.host.Brings news value host) :
    Exports (imports ++ news) [value] { session with host } := by
  have spares := brings.spares
  have spared := exports.spare spares
  have same : host.livingObjects [] = session.host.objects := by
    rw [Host.objects, Host.livingObjects, spares.held]
    rfl
  have isLiving : ∀ object, object ∈ host.livingObjects [value] ↔
      object ∈ value.objects ∨ object ∈ session.host.objects := by
    intro object
    rw [← same, Host.livingObjects, List.cons_append, List.flatMap_cons, List.mem_append]
    rfl
  obtain ⟨newest, isNew, owners⟩ := brings.owners
  have owned : ∀ owner : Owner, owner.managed ∈ host.livingObjects [value] →
      newest = some owner ∨ owner.managed ∈ session.host.objects := by
    intro owner living
    rcases (isLiving _).mp living with member | member
    · exact owners owner (Managed.managed_mem_objects.mp member)
    · exact Or.inr member
  constructor
  case toGrounded => exact exports.toGrounded.bring spares brings.knows brings.within
  case sole =>
    intro owner other living living' accessor accessor' isAccessor isAccessor' sameToken
    rcases owned owner living with isNewest | member
    · rcases owned other living' with isNewest' | member'
      · exact Option.some.inj (isNewest.symm.trans isNewest')
      · have numbers := exports.numbers_owner member' isAccessor'
        exact absurd (sameToken ▸ numbers) ((isNew owner isNewest).fresh accessor isAccessor)
    · rcases owned other living' with isNewest | member'
      · have numbers := exports.numbers_owner member isAccessor
        exact absurd (sameToken ▸ numbers) ((isNew other isNewest).fresh accessor' isAccessor')
      · exact exports.sole owner other member member' accessor accessor' isAccessor isAccessor'
          sameToken
  case backed =>
    intro imported member isAlive
    rcases List.mem_append.mp member with known | isNews
    · intro reply accessor isReply isAccessor
      refine spared.backed imported known ?_ reply accessor isReply isAccessor
      intro owner sameObject
      rcases owned owner (isAlive owner sameObject) with isNewest | member
      · refine absurd (exports.numbers imported known ?_ accessor isAccessor)
          ((isNew owner isNewest).fresh accessor (sameObject ▸ isAccessor))
        rw [isReply]
        exact Option.some_ne_none _
      · exact same ▸ member
    · exact brings.backed imported isNews
  case numbers =>
    intro imported member isReply accessor isAccessor
    rcases List.mem_append.mp member with known | isNews
    · exact spared.numbers imported known isReply accessor isAccessor
    · obtain ⟨reply, isReply⟩ := Option.ne_none_iff_exists'.mp isReply
      obtain ⟨wrapper, found, -⟩ := brings.backed imported isNews reply accessor isReply isAccessor
      exact (spares.formed _).wrapper_lt _ wrapper found
  case origin =>
    intro object living asked
    have before : object ∈ session.host.objects →
        ∃ imported ∈ imports ++ news, imported.object = object ∧ imported.IsProper := by
      intro member
      obtain ⟨imported, known, rest⟩ := exports.origin object member asked
      exact ⟨imported, List.mem_append_left _ known, rest⟩
    rcases (isLiving object).mp living with member | member
    · rcases brings.accounts object member asked with member | ⟨imported, isNews, rest⟩
      · exact before member
      · exact ⟨imported, List.mem_append_right _ isNews, rest⟩
    · exact before member

end Session.Exports

/-! ### What imports bring back -/

namespace Host

variable {start after : Host} {news more : List Origin} {value object : Managed} {device : Device}
  {native : NativeHandle}

theorem Accounts.mono (accounts : start.Accounts news object) (subset : news ⊆ more) :
    start.Accounts more object :=
  accounts.imp_right fun ⟨imported, member, rest⟩ => ⟨imported, subset member, rest⟩

theorem accounts_of_imported {reply : Reply} (member : ⟨object, some reply⟩ ∈ news) :
    start.Accounts news object :=
  Or.inr ⟨_, member, rfl, nofun⟩

/-- A device and its platform are accounted for. -/
def AccountsDevice (start : Host) (news : List Origin) (device : Device) : Prop :=
  start.Accounts news (.device device) ∧ start.Accounts news (.platform device.platform)

/-- A value is accounted for with its devices and its owners, unless it is a platform. -/
theorem accounts_objects (platforms : value.platforms = value.devices.map Device.platform)
    (devices : ∀ device ∈ value.devices, start.AccountsDevice news device)
    (owners : ∀ owner ∈ value.owners, owner.managed.accessor? ≠ none →
      start.Accounts news owner.managed) :
    ∀ object ∈ value.objects, object.accessor? ≠ none → start.Accounts news object := by
  intro object member asked
  rcases Managed.mem_objects.mp member with ⟨platform, isPlatform, rfl⟩ | ⟨device, isDevice, rfl⟩ |
    ⟨owner, isOwner, rfl⟩
  · rw [platforms] at isPlatform
    obtain ⟨device, isDevice, rfl⟩ := List.mem_map.mp isPlatform
    exact (devices device isDevice).2
  · exact (devices device isDevice).1
  · exact owners owner isOwner asked

/-- The devices of what is alive are. -/
theorem accountsDevice_of_objects (alive : value.objects ⊆ start.objects)
    (member : device ∈ value.devices) : start.AccountsDevice news device :=
  ⟨Or.inl (alive (Managed.mem_objects.mpr (Or.inr (Or.inl ⟨device, member, rfl⟩)))),
    Or.inl (alive (Managed.mem_objects.mpr (Or.inl ⟨device.platform, Managed.platform_mem member,
      rfl⟩)))⟩

/-- A device that stands for a native one has been imported from it, and its platform too. -/
theorem importedDevice_of_stands (stands : start.Stands device native after) :
    ∃ platform, start.importedDevice device native =
        [⟨.device device, some (.handle native)⟩, ⟨.platform device.platform, some (.handle platform)⟩] ∧
      after.Backs (device.platform.provider.token device.platform.handle) (.handle platform) := by
  obtain ⟨platform, refs, found, backs⟩ := stands.owner
  refine ⟨platform, ?_, backs⟩
  rw [importedDevice, found]

theorem backed_of_backs {reply : Reply} {accessor : Accessor}
    (isAccessor : object.accessor? = some accessor) (backs : after.Backs accessor.token reply) :
    Origin.Backed ⟨object, some reply⟩ after := by
  rintro reply' accessor' isReply isAccessor'
  obtain rfl := Option.some.inj isReply
  obtain rfl := Option.some.inj (isAccessor.symm.trans isAccessor')
  exact backs

theorem Stands.backed (stands : start.Stands device native after) :
    ∀ imported ∈ start.importedDevice device native, imported.Backed after := by
  obtain ⟨platform, isImported, backs⟩ := importedDevice_of_stands stands
  rw [isImported, List.forall_mem_cons, List.forall_mem_singleton]
  constructor
  · apply backed_of_backs rfl
    exact stands.backs
  · apply backed_of_backs rfl
    exact backs

theorem Stands.accounts (stands : start.Stands device native after) :
    start.AccountsDevice (start.importedDevice device native) device := by
  obtain ⟨platform, isImported, -⟩ := importedDevice_of_stands stands
  rw [isImported]
  exact ⟨accounts_of_imported List.mem_cons_self,
    accounts_of_imported (List.mem_cons_of_mem _ List.mem_cons_self)⟩

/-- An owner that keeps a new wrapper is new. -/
theorem Wraps.isNew {token : Token} {reply : Reply} (wraps : start.Wraps token reply after)
    (owner : Owner) (isToken : owner.managed.accessor?.map Accessor.token = some token) :
    start.IsNew owner := by
  obtain ⟨accessor, isAccessor, rfl⟩ := Option.map_eq_some_iff.mp isToken
  constructor
  case within =>
    cases owner with
    | context | queue | event | kernel =>
        obtain rfl := Option.some.inj isAccessor
        exact wraps.known
    | image => contradiction
  case fresh =>
    intro accessor' isAccessor'
    obtain rfl := Option.some.inj (isAccessor.symm.trans isAccessor')
    exact Nat.not_lt.mpr wraps.new

/-- An import has made an owner, which depends on nothing but what was alive and what has been imported
for it. -/
theorem Wraps.brings {token : Token} {reply : Reply} (wraps : start.Wraps token reply after)
    (owner : Owner) (isToken : owner.managed.accessor?.map Accessor.token = some token)
    (platforms : value.platforms = value.devices.map Device.platform) (knows : start.Knows value)
    (backed : ∀ imported ∈ news, imported.Backed after)
    (devices : ∀ device ∈ value.devices, start.AccountsDevice news device)
    (owners : ∀ other ∈ value.owners, other = owner ∨ other.managed ∈ start.objects) :
    start.Brings (⟨owner.managed, some reply⟩ :: news) value after := by
  obtain ⟨accessor, isAccessor, rfl⟩ := Option.map_eq_some_iff.mp isToken
  constructor
  case spares => exact wraps.spares
  case knows => exact knows
  case backed => exact List.forall_mem_cons.mpr ⟨backed_of_backs isAccessor wraps.backs, backed⟩
  case accounts =>
    apply accounts_objects platforms
    · intro device member
      obtain ⟨first, second⟩ := devices device member
      exact ⟨first.mono (List.subset_cons_self _ _), second.mono (List.subset_cons_self _ _)⟩
    · intro other member _
      rcases owners other member with rfl | alive
      · exact accounts_of_imported List.mem_cons_self
      · exact Or.inl alive
  case owners =>
    refine ⟨some owner, ?_, ?_⟩
    · rintro _ ⟨⟩
      exact wraps.isNew owner isToken
    · intro other member
      exact (owners other member).imp_left fun same => congrArg some same.symm

/-- What is related one by one is paired. -/
theorem exists_mem_zip {α β : Type} {related : α → β → Prop} {items : List α} {others : List β}
    (all : List.Forall₂ related items others) {item : α} (member : item ∈ items) :
    ∃ other, (item, other) ∈ items.zip others := by
  induction all with
  | nil => contradiction
  | cons _ _ ih =>
      rcases List.mem_cons.mp member with rfl | member
      · exact ⟨_, List.mem_cons_self⟩
      · obtain ⟨other, isPair⟩ := ih member
        exact ⟨other, List.mem_cons_of_mem _ isPair⟩

section Imports

variable {registry : Registry} {backend : Backend} {handle : NativeHandle} {context : Context}
  {keeps : Bool}
  (within : registry.Within fun number => number ∈ start.simulators.keys)
  (formed : ∀ number, (start.simulator number).store.WellFormed)

include within formed

theorem brings_makePlatform :
    Ends (makePlatform registry handle backend) start
      (fun made after => start.Brings [⟨.platform made, some (.handle handle)⟩] (.platform made) after)
      (fun _ after => start.Spares Token.IsProgram after) := by
  apply (ends_makePlatformSpares within formed).imp
  · rintro made after ⟨spares, known, backs⟩
    constructor
    case spares => exact spares
    case knows =>
      intro provider member
      obtain rfl := List.mem_singleton.mp member
      exact known
    case backed =>
      rw [List.forall_mem_singleton]
      apply backed_of_backs rfl
      exact backs
    case accounts =>
      intro object member _
      obtain rfl := List.mem_singleton.mp member
      exact accounts_of_imported (List.mem_singleton_self _)
    case owners => exact ⟨none, fun _ => nofun, List.forall_mem_nil _⟩
  · exact fun _ _ spares => spares

theorem brings_makeDevice :
    Ends (makeDevice registry handle backend) start
      (fun made after => start.Brings (start.importedDevice made handle) (.device made) after)
      (fun _ after => start.Spares Token.IsProgram after) := by
  apply (ends_makeDeviceSpares within formed).imp
  · rintro made after ⟨spares, stands⟩
    constructor
    case spares => exact spares
    case knows =>
      intro provider member
      obtain rfl := List.mem_singleton.mp member
      exact stands.known
    case backed => exact stands.backed
    case accounts =>
      refine accounts_objects rfl ?_ (List.forall_mem_nil _)
      intro device member
      obtain rfl := List.mem_singleton.mp member
      exact stands.accounts
    case owners => exact ⟨none, fun _ => nofun, List.forall_mem_nil _⟩
  · exact fun _ _ spares => spares

theorem brings_makeContext :
    Ends (makeContext registry handle backend) start
      (fun made after => start.Brings [⟨.context made, some (.handle handle)⟩] (.context made) after)
      (fun _ after => start.Spares Token.IsProgram after) := by
  apply (ends_makeContextSpares within formed).imp
  · intro made after wraps
    refine wraps.brings (.context made) rfl rfl ?_ (List.forall_mem_nil _) (List.forall_mem_nil _) ?_
    · intro provider member
      obtain rfl := List.mem_singleton.mp member
      exact wraps.known
    · exact fun other member => Or.inl (List.mem_singleton.mp member)
  · exact fun _ _ spares => spares

theorem brings_makeEvent (has : start.Has (.context context)) :
    Ends (makeEvent registry handle context keeps backend) start
      (fun made after => start.Brings [⟨.event made, some (.handle handle)⟩] (.event made) after)
      (fun _ after => start.Spares Token.IsProgram after) := by
  apply (ends_makeEventSpares within formed).imp
  · rintro made after ⟨rfl, wraps⟩
    refine wraps.brings (.event made) rfl rfl ?_ (List.forall_mem_nil _) (List.forall_mem_nil _) ?_
    · exact List.forall_mem_cons.mpr ⟨wraps.known, has.knows⟩
    · intro other member
      exact (List.mem_cons.mp member).imp_right has.owners
  · exact fun _ _ spares => spares

theorem brings_importKernel {bundle : KernelBundle} (has : start.Has (.context context))
    (hasBundle : start.Has (.bundle bundle)) :
    Ends (importKernel registry context bundle handle keeps backend) start
      (fun made after => start.Brings [⟨.kernel made, some (.handle handle)⟩] (.kernel made) after)
      (fun _ after => start.Spares Token.IsProgram after) := by
  apply (ends_importKernelSpares within formed).imp
  · rintro made after ⟨⟨rfl, rfl⟩, wraps⟩
    refine wraps.brings (.kernel made) rfl rfl ?_ (List.forall_mem_nil _) ?_ ?_
    · exact List.forall_mem_cons.mpr ⟨wraps.known, List.forall_mem_cons.mpr
        ⟨has.knows _ List.mem_cons_self, hasBundle.knows⟩⟩
    · exact fun device member => accountsDevice_of_objects hasBundle.objects member
    · intro other member
      rcases List.mem_cons.mp member with rfl | member
      · exact Or.inl rfl
      rcases List.mem_cons.mp member with rfl | member
      · exact Or.inr (has.owners List.mem_cons_self)
      · exact Or.inr (hasBundle.owners member)
  · exact fun _ _ spares => spares

theorem brings_makeQueue {descriptor : Int32} {device : Option Device} {properties : QueueProperties}
    (has : start.Has (.context context))
    (hasDevice : ∀ given, device = some given → start.Has (.device given)) :
    Ends (makeQueue registry handle descriptor context device keeps properties backend) start
      (fun made after => start.Brings (⟨.queue made, some (.queue handle descriptor)⟩ ::
          match device with
          | some _ => []
          | none => start.importedTarget handle made.device) (.queue made) after)
      (fun _ after => start.Spares Token.IsProgram after) := by
  apply (ends_makeQueueSpares within formed).imp
  · rintro made after ⟨rfl, wraps, isDevice⟩
    have owners : ∀ other ∈ (Managed.queue made).owners,
        other = .queue made ∨ other.managed ∈ start.objects :=
      fun other member => (List.mem_cons.mp member).imp_right has.owners
    have knows : made.device.platform.provider.table.simulator ∈ start.simulators.keys →
        start.Knows (.queue made) := fun known =>
      List.forall_mem_cons.mpr ⟨wraps.known, List.forall_mem_cons.mpr
        ⟨has.knows _ List.mem_cons_self, List.forall_mem_singleton.mpr known⟩⟩
    cases device with
    | some given =>
        subst isDevice
        have hasDevice := hasDevice made.device rfl
        refine wraps.brings (.queue made) rfl rfl (knows (hasDevice.knows _ List.mem_cons_self))
          (List.forall_mem_nil _) ?_ owners
        exact fun device member => accountsDevice_of_objects hasDevice.objects member
    | none =>
        obtain ⟨target, refs, found, stands⟩ := isDevice
        have isTarget : start.importedTarget handle made.device =
            start.importedDevice made.device target := by
          rw [importedTarget, found]
        dsimp only
        rw [isTarget]
        refine wraps.brings (.queue made) rfl rfl (knows stands.known) stands.backed ?_ owners
        intro device member
        obtain rfl := List.mem_singleton.mp member
        exact stands.accounts
  · exact fun _ _ spares => spares

theorem brings_importProgram {target : BundleState} (has : start.Has (.context context)) :
    Ends (importProgram registry handle context keeps target backend) start
      (fun made after =>
        start.Brings (made.images.flatMap (start.importedImage handle)) (.bundle made) after)
      (fun _ after => start.Spares Token.IsProgram after) := by
  apply (ends_importProgramSpares within formed).imp
  · rintro _ after ⟨image, rfl, loads⟩
    obtain ⟨binary, refs, found, stand⟩ := loads.stand
    have isImported : [image].flatMap (start.importedImage handle) =
        (image.devices.zip binary.devices).flatMap fun (device, native) =>
          start.importedDevice device native := by
      rw [List.flatMap_singleton, importedImage, Simulator.program?, found]
      rfl
    have stands : ∀ device native, (device, native) ∈ image.devices.zip binary.devices →
        device.platform.provider = image.program.provider ∧ start.Stands device native after :=
      fun _ _ member => (List.forall₂_iff_zip.mp stand).2 member
    have paired : ∀ device ∈ image.devices, ∃ native,
        (device, native) ∈ image.devices.zip binary.devices :=
      fun device member => exists_mem_zip stand member
    dsimp only
    rw [isImported]
    constructor
    case spares => exact loads.spares
    case knows =>
      refine List.forall_mem_cons.mpr ⟨has.knows _ List.mem_cons_self, ?_⟩
      have own : ∀ provider ∈ image.devices.map fun device => device.platform.provider,
          provider.table.simulator ∈ start.simulators.keys := by
        intro provider member
        obtain ⟨device, isDevice, rfl⟩ := List.mem_map.mp member
        obtain ⟨native, isPair⟩ := paired device isDevice
        exact (stands device native isPair).2.known
      refine List.forall_mem_append.mpr ⟨own, ?_⟩
      rw [List.flatMap_singleton]
      exact List.forall_mem_cons.mpr ⟨loads.known, own⟩
    case backed =>
      intro imported member
      obtain ⟨⟨device, native⟩, isPair, isImported⟩ := List.mem_flatMap.mp member
      exact (stands device native isPair).2.backed imported isImported
    case accounts =>
      apply accounts_objects rfl
      · intro device member
        have member : device ∈ image.devices := by
          simpa [Managed.devices, KernelBundle.reachableDevices] using member
        obtain ⟨native, isPair⟩ := paired device member
        obtain ⟨first, second⟩ := (stands device native isPair).2.accounts
        have subset : start.importedDevice device native ⊆
            (image.devices.zip binary.devices).flatMap fun (device, native) =>
              start.importedDevice device native :=
          fun imported isImported => List.mem_flatMap.mpr ⟨_, isPair, isImported⟩
        exact ⟨first.mono subset, second.mono subset⟩
      · intro owner member asked
        rcases List.mem_cons.mp member with rfl | member
        · exact Or.inl (has.owners List.mem_cons_self)
        · obtain rfl := List.mem_singleton.mp member
          exact absurd rfl asked
    case owners =>
      refine ⟨some (.image image), ?_, ?_⟩
      · rintro _ ⟨⟩
        refine ⟨?_, ?_⟩
        · intro program member
          rw [loads.own program member]
          exact loads.known
        · intro context isContext
          contradiction
      · intro owner member
        rcases List.mem_cons.mp member with rfl | member
        · exact Or.inr (has.owners List.mem_cons_self)
        · obtain rfl := List.mem_singleton.mp member
          exact Or.inl rfl
  · exact fun _ _ spares => spares

end Imports

end Host

end ComputeImport
