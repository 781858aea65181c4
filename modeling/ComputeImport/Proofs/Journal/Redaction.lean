import ComputeImport.Journal.Standard
import Mathlib.Data.List.Forall2

/-!
# What a subscriber tells of masked fields

Two events that differ in the values of masked fields alone are one event to someone who reads the
journal, where every event is one line of text.  In the other forms nothing is masked: the form for
people writes the fields by itself, and structured output is given no mask, so that a list of fields to
mask makes no difference there.
-/

namespace ComputeImport

/-- Two events are alike outside some fields: they agree on the level, the target, the names of the
fields, and the values of all other fields. -/
structure TraceEvent.AlikeOutside (hidden : List String) (first second : TraceEvent) : Prop where
  level : first.level = second.level
  target : first.target = second.target
  fields : List.Forall₂
    (fun field other => field.1 = other.1 ∧ (field.1 ∈ hidden ∨ field.2 = other.2))
    first.fields second.fields

namespace TraceEvent.AlikeOutside

variable {hidden : List String} {first second : TraceEvent}

/-- What is made of the fields, by something that does not see the hidden values, is the same. -/
theorem map_fields_eq {α : Type} (alike : first.AlikeOutside hidden second)
    (write : String × FieldValue → α)
    (blind : ∀ name ∈ hidden, ∀ value other, write (name, value) = write (name, other)) :
    first.fields.map write = second.fields.map write := by
  have same := alike.fields
  generalize first.fields = fields, second.fields = others at same
  induction same with
  | nil => rfl
  | @cons field other _ _ agree _ ih =>
      obtain ⟨name, value⟩ := field
      obtain ⟨_, other_value⟩ := other
      obtain ⟨rfl, isHidden | rfl⟩ := agree
      · rw [List.map_cons, List.map_cons, ih, blind name isHidden value other_value]
      · rw [List.map_cons, List.map_cons, ih]

theorem sameOutline (alike : first.AlikeOutside hidden second) : first.SameOutline second :=
  ⟨alike.level, alike.target, alike.map_fields_eq Prod.fst fun _ _ _ _ => rfl⟩

/-- Outside no fields at all, only one and the same event is alike. -/
theorem eq_of_nil (alike : first.AlikeOutside [] second) : first = second := by
  have fields : first.fields = second.fields := by
    simpa using alike.map_fields_eq id (by simp)
  obtain ⟨level, target, -⟩ := alike
  cases first
  cases second
  simp_all

end TraceEvent.AlikeOutside

namespace Mask

variable {mask : Mask} {name : String} {first second : TraceEvent}

/-- The text of a masked field is the token, whatever it hides. -/
theorem write_masked (masked : name ∈ mask.fields) (value : FieldValue) :
    mask.write name value = Text.quoted mask.token :=
  if_pos masked

/-- What is written with a mask tells nothing of the values that it masks. -/
theorem writeAll_eq (alike : first.AlikeOutside mask.fields second) :
    mask.writeAll first.fields = mask.writeAll second.fields := by
  unfold writeAll
  congr 1
  apply alike.map_fields_eq
  intro name isMasked value other
  dsimp only
  rw [write_masked isMasked, write_masked isMasked]

end Mask

/-- The same settings, where no fields are listed. -/
def JournalSettings.unlisted (settings : JournalSettings) : JournalSettings :=
  { settings with redacted := [] }

namespace JournalEngine

variable {φ : Type} {engine : JournalEngine φ} {settings : JournalSettings}
  {environment : Text.Environment} {subscriber : Subscriber φ} {first second : TraceEvent}

/-- On one line of text, settings tell nothing of the fields that they list. -/
theorem print_eq (writes : engine.WritesFields) (compact : settings.output = .compact)
    (alike : first.AlikeOutside settings.redacted second) :
    engine.print settings.style first = engine.print settings.style second := by
  by_cases listed : settings.redacted = []
  · rw [listed] at alike
    rw [alike.eq_of_nil]
  · have output : settings.style.output = some .compact := by
      simp [JournalSettings.style, compact]
    have masked : settings.style.mask = some ⟨settings.redacted, settings.token⟩ := by
      simp [JournalSettings.style, compact, listed]
    exact writes.compact _ _ first second output masked alike.sameOutline (Mask.writeAll_eq alike)

/-- In the other forms it makes no difference which fields are listed. -/
theorem print_unlisted (writes : engine.WritesFields) (notCompact : settings.output ≠ .compact)
    (event : TraceEvent) :
    engine.print settings.style event = engine.print settings.unlisted.style event := by
  cases output : settings.output with
  | compact => contradiction
  | pretty =>
      have listed : settings.style =
          { settings.unlisted.style with mask := settings.style.mask } := by
        simp [JournalSettings.style, JournalSettings.unlisted, output]
      rw [listed]
      exact writes.pretty _ _ event (by simp [JournalSettings.style, JournalSettings.unlisted, output])
  | json =>
      have unmasked : settings.style = settings.unlisted.style := by
        simp [JournalSettings.style, JournalSettings.unlisted, output]
      rw [unmasked]

theorem style_of_subscriber (built : engine.subscriber settings environment = .ok subscriber) :
    subscriber.style = settings.style := by
  unfold JournalEngine.subscriber at built
  split at built
  · cases built
    rfl
  · contradiction

/-- The same subscriber is built where no fields are listed, but for its style. -/
theorem subscriber_unlisted (built : engine.subscriber settings environment = .ok subscriber) :
    engine.subscriber settings.unlisted environment =
      .ok ⟨subscriber.filter, settings.unlisted.style⟩ := by
  have same : engine.filter settings.unlisted environment = engine.filter settings environment := rfl
  unfold JournalEngine.subscriber at built ⊢
  rw [same]
  split at built
  · cases built
    rfl
  · contradiction

end JournalEngine

/-- What a subscriber prints on one line of text tells nothing of the fields that its settings list, and
whether it prints an event tells nothing in any form.  In the other forms it prints what it would print
if the settings listed no fields at all: nothing is masked, and structured output keeps the values. -/
theorem Subscriber.masked_values_unseen {φ : Type} {engine : JournalEngine φ}
    {settings : JournalSettings} {environment : Text.Environment} {subscriber : Subscriber φ}
    (byOutline : engine.GoesByOutline) (writes : engine.WritesFields)
    (built : engine.subscriber settings environment = .ok subscriber) :
    (∀ first second, TraceEvent.AlikeOutside settings.redacted first second →
      (engine.print? subscriber first).isSome = (engine.print? subscriber second).isSome ∧
      (settings.output = .compact →
        engine.print? subscriber first = engine.print? subscriber second)) ∧
    (settings.output ≠ .compact →
      ∃ unmasked, engine.subscriber settings.unlisted environment = .ok unmasked ∧
        ∀ event, engine.print? subscriber event = engine.print? unmasked event) ∧
    (settings.output = .json → ∀ event printed, engine.print? subscriber event = some printed →
      ∃ target, printed = .value event.level target event.fields) := by
  have style := JournalEngine.style_of_subscriber built
  refine ⟨fun first second alike => ?_, fun notCompact => ?_, fun json event printed shown => ?_⟩
  · have enabled := byOutline subscriber.filter first second alike.sameOutline
    constructor
    · simp only [JournalEngine.print?, enabled]
      split <;> rfl
    · intro compact
      simp only [JournalEngine.print?, enabled, style, JournalEngine.print_eq writes compact alike]
  · refine ⟨_, JournalEngine.subscriber_unlisted built, fun event => ?_⟩
    simp only [JournalEngine.print?, style, JournalEngine.print_unlisted writes notCompact event]
  · have output : subscriber.style.output = some .json := by
      rw [style]
      simp [JournalSettings.style, json]
    obtain ⟨target, prints⟩ := writes.json subscriber.style event output
    rw [JournalEngine.print?, prints] at shown
    split at shown
    · exact ⟨target, (Option.some.inj shown).symm⟩
    · contradiction

/-! ## The standard engine -/

namespace JournalEngine

theorem standard_goesByOutline : standard.GoesByOutline := by
  intro filter first second same
  have ⟨level, target, names⟩ := same
  simp only [standard, level, target, names]

theorem standard_writesFields : standard.WritesFields := by
  constructor
  case compact =>
    intro style mask first second output masked same written
    simp only [standard, Style.print, Style.text, output, masked, same.level, written]
  case pretty =>
    intro style mask event output
    simp only [standard, Style.print, Style.text, output]
  case json =>
    intro style event output
    refine ⟨if style.showsTargets then event.target else "", ?_⟩
    simp only [standard, Style.print, output]

end JournalEngine

/-- The report of an import, with the handle of a native object. -/
def TraceEvent.sample (native : Nat) : TraceEvent :=
  ⟨.info, "hologram_interop", [(messageField, .plain "imported"), ("native", .unsigned native)]⟩

theorem TraceEvent.sample_alike (native other : Nat) :
    (sample native).AlikeOutside ["native"] (sample other) := by
  constructor
  case level => rfl
  case target => rfl
  case fields => exact .cons ⟨rfl, .inr rfl⟩ (.cons ⟨rfl, .inl (List.mem_singleton.mpr rfl)⟩ .nil)

/-- Settings that mask the handles of native objects in text. -/
def JournalSettings.masking (output : OutputForm) : JournalSettings :=
  { output, redacted := ["native"] }

/-- The subscriber of settings, where nothing else chooses events. -/
def Subscriber.ofSettings (settings : JournalSettings) : Subscriber Filter :=
  ⟨⟨[{ limit := some .info }]⟩, settings.style⟩

/-- Two handles cannot be told apart. -/
theorem Subscriber.masked_values_unseen_sample :
    (JournalSettings.masking .compact).subscriber {} = .ok (ofSettings (.masking .compact)) ∧
      (TraceEvent.sample 4096).AlikeOutside ["native"] (.sample 4097) ∧
      (ofSettings (.masking .compact)).print? (.sample 4096) =
        (ofSettings (.masking .compact)).print? (.sample 4097) ∧
      ((ofSettings (.masking .compact)).print? (.sample 4096)).isSome = true := by
  have built : (JournalSettings.masking .compact).subscriber {} =
      .ok (ofSettings (.masking .compact)) := by decide +kernel
  have alike := TraceEvent.sample_alike 4096 4097
  obtain ⟨unseen, -, -⟩ := masked_values_unseen JournalEngine.standard_goesByOutline
    JournalEngine.standard_writesFields built
  exact ⟨built, alike, (unseen _ _ alike).2 rfl, by decide +kernel⟩

/-- Structured output and text for people tell handles apart that the settings mask. -/
theorem Subscriber.masked_values_seen :
    (JournalSettings.forCollection.subscriber {} = .ok (ofSettings .forCollection) ∧
      (TraceEvent.sample 4096).AlikeOutside JournalSettings.forCollection.redacted (.sample 4097) ∧
      (ofSettings .forCollection).print? (.sample 4096) ≠
        (ofSettings .forCollection).print? (.sample 4097)) ∧
    ((JournalSettings.masking .pretty).subscriber {} = .ok (ofSettings (.masking .pretty)) ∧
      (TraceEvent.sample 4096).AlikeOutside (JournalSettings.masking .pretty).redacted
        (.sample 4097) ∧
      (ofSettings (.masking .pretty)).print? (.sample 4096) ≠
        (ofSettings (.masking .pretty)).print? (.sample 4097)) := by
  refine ⟨⟨?_, TraceEvent.sample_alike 4096 4097, ?_⟩, ?_, TraceEvent.sample_alike 4096 4097, ?_⟩
  all_goals decide +kernel

end ComputeImport
