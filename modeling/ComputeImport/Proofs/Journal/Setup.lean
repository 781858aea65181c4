import ComputeImport.Journal.Standard
import ComputeImport.Proofs.Outcome

/-!
# Setting up the journal, call by call

Three calls change the process-wide part of the journal's output: one sets the threshold, one sets
the threshold and installs a subscriber, and one installs the subscriber for tests.  In whatever
order they come, the first subscriber that can be built stays, and the threshold is the one that was
set last, also where the call that has set it has failed afterwards.  A threshold that has been set
is the threshold that timers go by, but for the largest one, which is taken for none.
-/

namespace ComputeImport

open Text

/-- A call that sets up the journal's output, in the environment of its moment. -/
inductive SetupCall where
  | setThreshold (limit : Option UInt64)
  | initialise (settings : JournalSettings) (environment : Environment)
  | initialiseForTests (environment : Environment)

namespace SetupCall

/-- What a call does. -/
def run {φ : Type} (engine : JournalEngine φ) : SetupCall → SetupM φ Unit
  | setThreshold limit => JournalOutput.setThreshold limit
  | initialise settings environment => engine.initialise settings environment
  | initialiseForTests environment => engine.initialiseForTests environment

/-- The threshold that a call sets, if it sets one. -/
def limit? : SetupCall → Option (Option UInt64)
  | setThreshold limit => some limit
  | initialise settings _ => some settings.threshold
  | initialiseForTests _ => none

/-- The subscriber that a call builds, if it builds one. -/
def subscriber? {φ : Type} (engine : JournalEngine φ) : SetupCall → Option (Subscriber φ)
  | setThreshold _ => none
  | initialise settings environment => (engine.subscriber settings environment).toOption
  | initialiseForTests environment => (engine.testSubscriber environment).toOption

/-- The threshold that has been set last, if one has been set. -/
def lastLimit? (calls : List SetupCall) : Option (Option UInt64) :=
  (calls.filterMap limit?).getLast?

end SetupCall

/-! ## A threshold as it is kept -/

namespace ThresholdCell

/-- A threshold is read back as it was set, but for the largest one. -/
theorem limit_ofLimit (limit : Option UInt64) :
    (ofLimit limit).limit = if limit = some noThreshold then none else limit := by
  cases limit with
  | none => rfl
  | some word =>
      by_cases largest : word = noThreshold <;> simp [ofLimit, ThresholdCell.limit, largest]

theorem limit_ofLimit_eq_iff {limit : Option UInt64} :
    (ofLimit limit).limit = limit ↔ limit ≠ some noThreshold := by
  rw [limit_ofLimit]
  by_cases largest : limit = some noThreshold <;> simp [largest]

end ThresholdCell

namespace Stopwatch

variable {operation : String} {elapsed : UInt64}

theorem noThreshold_le_iff : noThreshold ≤ elapsed ↔ elapsed = noThreshold := by
  constructor
  · intro above
    have below : elapsed.toNat < 2 ^ 64 := elapsed.toNat_lt
    rw [UInt64.le_iff_toNat_le, noThreshold] at above
    exact UInt64.toNat_inj.mp (Nat.le_antisymm (Nat.le_of_lt_succ below) above)
  · rintro rfl
    exact UInt64.le_refl noThreshold

/-- A timer that is given the largest threshold reports the largest duration alone. -/
theorem reports_noThreshold :
    reports ⟨operation, some noThreshold⟩ elapsed = decide (elapsed = noThreshold) := by
  simp only [reports, noThreshold_le_iff]

/-- A timer that goes by what is kept of a threshold reports as one that is given the threshold,
unless that is the largest: then it reports every duration. -/
theorem reports_start_ofLimit (limit : Option UInt64) :
    (start (.ofLimit limit) operation).reports elapsed =
      if limit = some noThreshold then true else reports ⟨operation, limit⟩ elapsed := by
  rw [start, ThresholdCell.limit_ofLimit]
  split <;> rfl

theorem reports_start_ofLimit_eq_iff {limit : Option UInt64} :
    (start (.ofLimit limit) operation).reports elapsed = reports ⟨operation, limit⟩ elapsed ↔
      limit ≠ some noThreshold ∨ elapsed = noThreshold := by
  rw [reports_start_ofLimit]
  by_cases largest : limit = some noThreshold
  · subst largest
    rw [if_pos rfl, reports_noThreshold]
    simp
  · simp [largest]

end Stopwatch

namespace JournalEngine.InstallsOnce

variable {φ : Type} {engine : JournalEngine φ} {present : Option (Subscriber φ)}
  {subscriber placed : Subscriber φ}

theorem place_eq_some_iff (once : engine.InstallsOnce) :
    engine.place present subscriber = some placed ↔ present = none ∧ placed = subscriber := by
  cases present with
  | none =>
      rw [once.first]
      simp [eq_comm]
  | some first => simp [once.later]

theorem place_eq_none_iff (once : engine.InstallsOnce) :
    engine.place present subscriber = none ↔ present ≠ none := by
  cases present with
  | none => simp [once.first]
  | some first => simp [once.later]

end JournalEngine.InstallsOnce

namespace JournalOutput

variable {φ : Type} {engine : JournalEngine φ} {output : JournalOutput φ}
  {settings : JournalSettings} {environment : Environment}

/-- The output after a call, whether it works or fails. -/
def after (engine : JournalEngine φ) (output : JournalOutput φ) (call : SetupCall) :
    JournalOutput φ :=
  stateAfter (call.run engine) output

/-- The output after several calls, in order. -/
def replay (engine : JournalEngine φ) (output : JournalOutput φ) (calls : List SetupCall) :
    JournalOutput φ :=
  calls.foldl (after engine) output

/-! ## One call -/

/-- Setting up works where the subscriber can be built and the engine takes it.  The threshold is set
in any case. -/
theorem ends_initialise :
    Ends (engine.initialise settings environment) output
      (fun _ after => ∃ subscriber present,
        engine.subscriber settings environment = .ok subscriber ∧
        engine.place output.subscriber subscriber = some present ∧
        after = ⟨some present, .ofLimit settings.threshold⟩)
      (fun e after => after = { output with threshold := .ofLimit settings.threshold } ∧
        (engine.subscriber settings environment = .error e ∨
          e = .alreadyInstalled ∧ ∃ subscriber,
            engine.subscriber settings environment = .ok subscriber ∧
            engine.place output.subscriber subscriber = none)) := by
  unfold JournalEngine.initialise setThreshold
  rw [ends_bind, ends_modify]
  cases built : engine.subscriber settings environment with
  | error e => exact ⟨rfl, .inl rfl⟩
  | ok subscriber =>
      unfold JournalEngine.install
      rw [ends_bind, ends_get]
      dsimp only
      cases placed : engine.place output.subscriber subscriber with
      | some present => exact ⟨subscriber, present, rfl, placed, rfl⟩
      | none => exact ⟨rfl, .inr ⟨rfl, subscriber, rfl, placed⟩⟩

/-- Setting up for tests works where the subscriber can be built, whether or not the engine takes it. -/
theorem ends_initialiseForTests :
    Ends (engine.initialiseForTests environment) output
      (fun _ after => ∃ subscriber, engine.testSubscriber environment = .ok subscriber ∧
        after = { output with
          subscriber := (engine.place output.subscriber subscriber).or output.subscriber })
      (fun e after => engine.testSubscriber environment = .error e ∧ after = output) := by
  unfold JournalEngine.initialiseForTests
  cases built : engine.testSubscriber environment with
  | error e => exact ⟨rfl, rfl⟩
  | ok subscriber => exact ⟨subscriber, rfl, rfl⟩

/-- A call sets its threshold, whatever comes of its subscriber. -/
theorem threshold_after (output : JournalOutput φ) (call : SetupCall) :
    (output.after engine call).threshold =
      (call.limit?.map ThresholdCell.ofLimit).getD output.threshold := by
  suffices ends : Ends (call.run engine) output (fun _ after => after.threshold = _)
      fun _ after => after.threshold = _ from ends_stateAfter.mp ends
  cases call with
  | setThreshold limit => rfl
  | initialise settings environment =>
      refine ends_initialise.imp ?_ ?_
      · rintro _ _ ⟨subscriber, present, -, -, rfl⟩
        rfl
      · rintro _ _ ⟨rfl, -⟩
        rfl
  | initialiseForTests environment =>
      refine ends_initialiseForTests.imp ?_ ?_
      · rintro _ _ ⟨subscriber, -, rfl⟩
        rfl
      · rintro _ _ ⟨-, rfl⟩
        rfl

/-- A call installs its subscriber where there is none. -/
theorem subscriber_after (once : engine.InstallsOnce) (output : JournalOutput φ) (call : SetupCall) :
    (output.after engine call).subscriber = output.subscriber.or (call.subscriber? engine) := by
  suffices ends : Ends (call.run engine) output (fun _ after => after.subscriber = _)
      fun _ after => after.subscriber = _ from ends_stateAfter.mp ends
  cases call with
  | setThreshold limit => exact Option.or_none.symm
  | initialise settings environment =>
      refine ends_initialise.imp ?_ ?_
      · rintro _ _ ⟨subscriber, present, built, placed, rfl⟩
        obtain ⟨empty, rfl⟩ := once.place_eq_some_iff.mp placed
        simp [SetupCall.subscriber?, built, Except.toOption, empty]
      · rintro e _ ⟨rfl, failed | ⟨-, subscriber, -, refused⟩⟩
        · simp [SetupCall.subscriber?, failed, Except.toOption]
        · obtain ⟨first, installed⟩ :=
            Option.ne_none_iff_exists'.mp (once.place_eq_none_iff.mp refused)
          simp [installed]
  | initialiseForTests environment =>
      refine ends_initialiseForTests.imp ?_ ?_
      · rintro _ _ ⟨subscriber, built, rfl⟩
        cases installed : output.subscriber <;>
          simp [SetupCall.subscriber?, built, once.first, once.later, Except.toOption]
      · rintro _ _ ⟨failed, rfl⟩
        simp [SetupCall.subscriber?, failed, Except.toOption]

/-! ## Several calls -/

/-- The last threshold holds. -/
theorem threshold_replay (output : JournalOutput φ) (calls : List SetupCall) :
    (output.replay engine calls).threshold =
      ((SetupCall.lastLimit? calls).map ThresholdCell.ofLimit).getD output.threshold := by
  induction calls generalizing output with
  | nil => rfl
  | cons call calls ih =>
      have last : ((SetupCall.lastLimit? calls).map ThresholdCell.ofLimit).getD
          ((call.limit?.map ThresholdCell.ofLimit).getD output.threshold) =
          ((SetupCall.lastLimit? (call :: calls)).map ThresholdCell.ofLimit).getD
            output.threshold := by
        unfold SetupCall.lastLimit?
        cases sets : call.limit? with
        | none => rw [List.filterMap_cons_none sets]; rfl
        | some limit =>
            rw [List.filterMap_cons_some sets, List.getLast?_cons]
            cases (calls.filterMap SetupCall.limit?).getLast? <;> rfl
      rw [← last, ← @threshold_after φ engine]
      exact ih (output.after engine call)

/-- The first subscriber stays. -/
theorem subscriber_replay (once : engine.InstallsOnce) (output : JournalOutput φ)
    (calls : List SetupCall) :
    (output.replay engine calls).subscriber =
      output.subscriber.or (calls.findSome? (SetupCall.subscriber? engine)) := by
  induction calls generalizing output with
  | nil => exact Option.or_none.symm
  | cons call calls ih =>
      have first : (output.subscriber.or (call.subscriber? engine)).or
          (calls.findSome? (SetupCall.subscriber? engine)) =
          output.subscriber.or ((call :: calls).findSome? (SetupCall.subscriber? engine)) := by
        rw [Option.or_assoc, List.findSome?_cons]
        cases call.subscriber? engine <;> rfl
      rw [← first, ← subscriber_after once]
      exact ih (output.after engine call)

/-- After a threshold has been set, whatever was set up before, it is read back, and a timer that
goes by the process-wide threshold reports as one that is given it, unless it is the largest
threshold.  That one is taken for none: every duration is reported, and not the largest alone. -/
theorem limit_kept_iff (engine : JournalEngine φ) (output : JournalOutput φ)
    (earlier : List SetupCall) (limit : Option UInt64) (operation : String) :
    let cell := (output.replay engine (earlier ++ [.setThreshold limit])).threshold
    (cell.limit = limit ↔ limit ≠ some noThreshold) ∧
      (∀ elapsed, (Stopwatch.start cell operation).reports elapsed =
          Stopwatch.reports ⟨operation, limit⟩ elapsed ↔
        limit ≠ some noThreshold ∨ elapsed = noThreshold) ∧
      (limit = some noThreshold → cell.limit = none ∧
        ∀ elapsed, (Stopwatch.start cell operation).reports elapsed = true) := by
  intro cell
  have kept : cell = .ofLimit limit := by
    have last : SetupCall.lastLimit? (earlier ++ [.setThreshold limit]) = some limit := by
      simp [SetupCall.lastLimit?, SetupCall.limit?]
    simp only [cell, threshold_replay, last, Option.map_some, Option.getD_some]
  rw [kept]
  refine ⟨ThresholdCell.limit_ofLimit_eq_iff, fun _ => Stopwatch.reports_start_ofLimit_eq_iff, ?_⟩
  rintro rfl
  exact ⟨rfl, fun _ => rfl⟩

/-- The largest threshold is forgotten, and a duration of nothing is reported. -/
theorem exists_forgotten_limit :
    let cell := (({} : JournalOutput Filter).replay .standard
      [.setThreshold (some noThreshold)]).threshold
    cell.limit ≠ some noThreshold ∧ (Stopwatch.start cell "import_program").reports 0 = true ∧
      Stopwatch.reports ⟨"import_program", some noThreshold⟩ 0 = false := by
  decide

/-- Setting up, whatever was set up before, works where the subscriber can be built and no earlier
call has installed one.  Where it fails, the subscriber stays and the threshold is set all the same:
nothing has changed just where that threshold is kept as the one that was set last. -/
theorem ends_initialise_replay (once : engine.InstallsOnce) (output : JournalOutput φ)
    (earlier : List SetupCall) (settings : JournalSettings) (environment : Environment) :
    let before := output.replay engine earlier
    let installed := output.subscriber.or (earlier.findSome? (SetupCall.subscriber? engine))
    Ends (engine.initialise settings environment) before
      (fun _ after => installed = none ∧ ∃ subscriber,
        engine.subscriber settings environment = .ok subscriber ∧
        after = ⟨some subscriber, .ofLimit settings.threshold⟩)
      (fun e after =>
        ((∃ cause, e = .invalidFilter cause ∧ engine.filter settings environment = .error cause) ∨
          e = .alreadyInstalled ∧ (∃ filter, engine.filter settings environment = .ok filter) ∧
            installed ≠ none) ∧
        after.subscriber = before.subscriber ∧ after.threshold = .ofLimit settings.threshold ∧
        (after = before ↔ ((SetupCall.lastLimit? earlier).map ThresholdCell.ofLimit).getD
          output.threshold = .ofLimit settings.threshold)) := by
  intro before installed
  have present : before.subscriber = installed := subscriber_replay once output earlier
  have threshold : before.threshold = _ := threshold_replay output earlier
  rw [← threshold, ← present]
  refine ends_initialise.imp ?_ ?_
  · rintro _ after ⟨subscriber, placed, built, isPlaced, rfl⟩
    obtain ⟨empty, rfl⟩ := once.place_eq_some_iff.mp isPlaced
    exact ⟨empty, placed, built, rfl⟩
  · rintro e _ ⟨rfl, failed⟩
    refine ⟨?_, rfl, rfl, ?_⟩
    · unfold JournalEngine.subscriber at failed
      cases parsed : engine.filter settings environment with
      | error cause => simpa [parsed, eq_comm] using failed
      | ok filter =>
          obtain ⟨rfl, subscriber, -, refused⟩ := failed.resolve_left (by simp [parsed])
          exact .inr ⟨rfl, ⟨filter, rfl⟩, once.place_eq_none_iff.mp refused⟩
    · constructor
      · exact fun same => (congrArg JournalOutput.threshold same).symm
      · exact fun same => same ▸ rfl

theorem standard_installsOnce : JournalEngine.standard.InstallsOnce :=
  ⟨fun _ => rfl, fun _ _ => rfl⟩

/-- A second setting up fails, and sets the threshold of its settings. -/
theorem ends_initialise_replay_second :
    let before := ({} : JournalOutput Filter).replay .standard
      [.initialise .forCollection {}, .setThreshold (some 50)]
    before.threshold.limit = some 50 ∧
      Ends (JournalEngine.standard.initialise .forImports {}) before (fun _ _ => False)
        fun e after => e = .alreadyInstalled ∧ after.subscriber = before.subscriber ∧
          after.threshold.limit = some 0 ∧ after ≠ before := by
  intro before
  refine ⟨by decide +kernel, ?_⟩
  have ended := ends_initialise_replay standard_installsOnce {}
    [.initialise .forCollection {}, .setThreshold (some 50)] .forImports {}
  refine ended.imp ?_ ?_
  · rintro _ _ ⟨none, -⟩
    revert none
    decide +kernel
  · rintro e after ⟨failed, kept, threshold, same⟩
    refine ⟨?_, kept, by rw [threshold]; rfl, fun unchanged => ?_⟩
    · rcases failed with ⟨cause, -, refused⟩ | ⟨isInstalled, -⟩
      · have parsed : (JournalEngine.standard.filter .forImports {}).toOption.isSome = true := by
          decide +kernel
        rw [refused] at parsed
        contradiction
      · exact isInstalled
    · have same := same.mp unchanged
      revert same
      decide +kernel

/-- A second setting up fails and sets the threshold of its settings, and so does one whose
directives cannot be read. -/
theorem exists_overwritten :
    let first := ({} : JournalOutput Filter).replay .standard
      [.initialise .forCollection {}, .setThreshold (some 50)]
    let second := ({} : JournalOutput Filter).replay .standard [.setThreshold (some 50)]
    first.threshold.limit = some 50 ∧ second.threshold.limit = some 50 ∧
      failsWith (fun e after => e = .alreadyInstalled ∧ after.threshold.limit = some 0)
        (JournalEngine.standard.initialise .forImports {} first) = true ∧
      failsWith (fun e after => e = .invalidFilter .unknownLevel ∧ after.threshold.limit = none)
        (JournalEngine.standard.initialise { directives := some "native=loud" } {} second) =
          true := by
  decide +kernel

end JournalOutput

end ComputeImport
