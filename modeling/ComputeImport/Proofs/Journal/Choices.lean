import ComputeImport.Journal.Settings
import ComputeImport.Proofs.Text.Decoding

/-!
# What an environment chooses

Each variable has a meaning of its own, which the blanks around its value do not change, and a value
without a meaning counts as no value.  The settings depend on these meanings alone: each of them on
the profile, and on the meaning of one more variable at most.
-/

namespace ComputeImport

open Text

namespace JournalSettings

/-! ## Lists -/

section Lists

variable {before cs after : List Char}

/-- The items of a comma-separated list, given by its characters. -/
def itemsOf (cs : List Char) : List String :=
  ((cs.splitOn ',').map trimChars).filterMap fun item =>
    if item.isEmpty then none else some (String.ofList item)

theorem listItems_eq (text : String) : listItems text = itemsOf text.toList := rfl

theorem itemsOf_append_comma (front back : List Char) :
    itemsOf (front ++ ',' :: back) = itemsOf front ++ itemsOf back := by
  simp only [itemsOf, List.splitOn_append_cons_self, List.map_append, List.filterMap_append]

/-- What stands between commas is one item. -/
theorem itemsOf_eq_of_trimChars_eq {ds : List Char} (one : ',' ∉ cs) (other : ',' ∉ ds)
    (same : trimChars cs = trimChars ds) : itemsOf cs = itemsOf ds := by
  rw [itemsOf, itemsOf, List.splitOn_eq_singleton one, List.splitOn_eq_singleton other,
    List.map_singleton, List.map_singleton, same]

theorem comma_not_mem (blank : before.all isBlank = true) : ',' ∉ before := fun member =>
  Bool.false_ne_true (List.all_eq_true.mp blank ',' member)

theorem itemsOf_blank_append (blank : before.all isBlank = true) :
    itemsOf (before ++ cs) = itemsOf cs := by
  have same (item : List Char) : trimChars (before ++ item) = trimChars item := by
    simpa using @trimChars_pad before item [] blank List.all_nil
  by_cases comma : ',' ∈ cs
  · -- the first item alone has changed
    obtain ⟨item, rest, rfl, one⟩ := List.eq_append_cons_of_mem comma
    have other : ',' ∉ before ++ item := by simp [comma_not_mem blank, one]
    rw [← List.append_assoc, itemsOf_append_comma, itemsOf_append_comma,
      itemsOf_eq_of_trimChars_eq other one (same item)]
  · have other : ',' ∉ before ++ cs := by simp [comma_not_mem blank, comma]
    exact itemsOf_eq_of_trimChars_eq other comma (same cs)

theorem itemsOf_append_blank (blank : after.all isBlank = true) :
    itemsOf (cs ++ after) = itemsOf cs := by
  have same (item : List Char) : trimChars (item ++ after) = trimChars item :=
    @trimChars_pad [] item after List.all_nil blank
  by_cases comma : ',' ∈ cs
  · -- the last item alone has changed
    obtain ⟨front, item, rfl, one⟩ : ∃ front item, cs = front ++ ',' :: item ∧ ',' ∉ item := by
      obtain ⟨item, front, reversed, one⟩ :=
        List.eq_append_cons_of_mem (List.mem_reverse.mpr comma)
      refine ⟨front.reverse, item.reverse, ?_, one ∘ List.mem_reverse.mp⟩
      rw [← List.reverse_reverse cs, reversed]
      simp
    have other : ',' ∉ item ++ after := by simp [comma_not_mem blank, one]
    rw [List.append_assoc, List.cons_append, itemsOf_append_comma, itemsOf_append_comma,
      itemsOf_eq_of_trimChars_eq other one (same item)]
  · have other : ',' ∉ cs ++ after := by simp [comma_not_mem blank, comma]
    exact itemsOf_eq_of_trimChars_eq other comma (same cs)

theorem itemsOf_surrounded (first : before.all isBlank = true) (last : after.all isBlank = true) :
    itemsOf (before ++ cs ++ after) = itemsOf cs := by
  rw [itemsOf_append_blank last, itemsOf_blank_append first]

/-- Blanks around a list do not change its items. -/
theorem listItems_surrounded {before text after : String} (first : isBlankText before = true)
    (last : isBlankText after = true) : listItems (before ++ text ++ after) = listItems text := by
  rw [listItems_eq, String.toList_append, String.toList_append, itemsOf_surrounded first last,
    listItems_eq]

theorem listItems_trim (text : String) : listItems (trim text) = listItems text := by
  obtain ⟨before, after, first, last, whole⟩ := exists_append_trimChars text.toList
  rw [listItems_eq, listItems_eq, trim, String.toList_ofList]
  conv_rhs => rw [whole, itemsOf_surrounded first last]

theorem listItems_append_comma (front back : String) :
    listItems (front ++ "," ++ back) = listItems front ++ listItems back := by
  rw [listItems_eq, String.toList_append, String.toList_append, List.append_assoc]
  exact itemsOf_append_comma front.toList back.toList

theorem listItems_eq_nil_iff {text : String} :
    listItems text = [] ↔ ∀ item ∈ text.toList.splitOn ',', item.all isBlank = true := by
  simp [listItems, List.filterMap_eq_nil_iff, trimChars_eq_nil_iff]

/-- Every item of a list is a text without blanks at its ends. -/
theorem isTrimmed_of_mem_listItems {text item : String} (member : item ∈ listItems text) :
    IsTrimmed item := by
  obtain ⟨cs, isPart, kept⟩ := List.mem_filterMap.mp member
  obtain ⟨part, -, rfl⟩ := List.mem_map.mp isPart
  split_ifs at kept with empty
  obtain rfl := Option.some.inj kept
  exact isTrimmed_ofList fun nothing => empty (List.isEmpty_iff.mpr nothing)

end Lists

/-! ## Variables and their meanings -/

/-- The variables that choose settings. -/
inductive Choice where
  | profile | directives | form | fields | token | threshold
  deriving DecidableEq

namespace Choice

/-- The name of a variable. -/
def key : Choice → String
  | profile => "HOLOGRAM_TRACING_PROFILE"
  | directives => "HOLOGRAM_TRACING_DIRECTIVES"
  | form => "HOLOGRAM_TRACING_FORMAT"
  | fields => "HOLOGRAM_TRACING_REDACT_FIELDS"
  | token => "HOLOGRAM_TRACING_REDACT_TOKEN"
  | threshold => "HOLOGRAM_IMPORT_TIMING_THRESHOLD_US"

theorem key_injective : Function.Injective key := by
  intro first second same
  cases first <;> cases second <;> first | rfl | (revert same; decide)

end Choice

section Meanings

variable {value other : Option ByteArray} {bytes : ByteArray}

/-- The profile that a value stands for. -/
def profileOf (value : Option ByteArray) : JournalSettings :=
  ofProfile (reading? value)

/-- The output form that a value stands for, if any. -/
def formOf? (value : Option ByteArray) : Option OutputForm :=
  (reading? value).bind OutputForm.ofName?

/-- The fields that a value stands for, if any. -/
def fieldsOf? (value : Option ByteArray) : Option (List String) :=
  ((reading? value).map listItems).filter fun items => !items.isEmpty

/-- The threshold that a value stands for, if any. -/
def thresholdOf? (value : Option ByteArray) : Option UInt64 :=
  (reading? value).bind readWord?

/-- The settings that some values of the variables choose: the profile, with each of the other
settings replaced for which there is a value. -/
def ofGiven (given : Choice → Option ByteArray) : JournalSettings :=
  let profile := profileOf (given .profile)
  { profile with
    directives := (reading? (given .directives)).or profile.directives
    output := (formOf? (given .form)).getD profile.output
    ansi := profile.ansi && (formOf? (given .form)).all (· != .json)
    redacted := (fieldsOf? (given .fields)).getD profile.redacted
    token := (reading? (given .token)).getD profile.token
    threshold := (thresholdOf? (given .threshold)).or profile.threshold }

theorem ofEnvironment_eq (environment : Environment) :
    ofEnvironment environment = ofGiven fun choice => environment.value? choice.key := by
  unfold ofEnvironment ofGiven profileOf formOf? fieldsOf? thresholdOf?
  simp -zeta only [Environment.trimmed?_eq, Choice.key]
  generalize ofProfile (reading? (environment.value? "HOLOGRAM_TRACING_PROFILE")) = profile
  generalize reading? (environment.value? "HOLOGRAM_TRACING_DIRECTIVES") = directives
  generalize reading? (environment.value? "HOLOGRAM_TRACING_FORMAT") = name
  generalize Option.map listItems _ = fields
  generalize reading? (environment.value? "HOLOGRAM_TRACING_REDACT_TOKEN") = token
  generalize Option.bind _ readWord? = threshold
  cases directives <;> cases token <;> cases threshold <;>
    rcases fields with _ | _ | ⟨field, fields⟩ <;> dsimp only <;>
    cases name.bind OutputForm.ofName? <;> simp [withOutput, Option.filter]

/-- Two values of a variable that mean the same. -/
def Choice.SameMeaning (value other : Option ByteArray) : Choice → Prop
  | profile => profileOf value = profileOf other
  | directives | token => reading? value = reading? other
  | form => formOf? value = formOf? other
  | fields => fieldsOf? value = fieldsOf? other
  | threshold => thresholdOf? value = thresholdOf? other

theorem Choice.sameMeaning_of_reading (same : reading? value = reading? other) (choice : Choice) :
    choice.SameMeaning value other := by
  cases choice <;>
    simp only [SameMeaning, profileOf, formOf?, fieldsOf?, thresholdOf?, same]

/-- The settings depend on the meanings of the values alone. -/
theorem ofGiven_eq {given given' : Choice → Option ByteArray}
    (same : ∀ choice : Choice, choice.SameMeaning (given choice) (given' choice)) :
    ofGiven given = ofGiven given' := by
  have profile : profileOf _ = profileOf _ := same .profile
  have directives : reading? _ = reading? _ := same .directives
  have form : formOf? _ = formOf? _ := same .form
  have fields : fieldsOf? _ = fieldsOf? _ := same .fields
  have token : reading? _ = reading? _ := same .token
  have threshold : thresholdOf? _ = thresholdOf? _ := same .threshold
  simp only [ofGiven, profile, directives, form, fields, token, threshold]

/-- Another value of a variable with the meaning of the old one makes no difference. -/
theorem ofEnvironment_assign {environment : Environment} {key : String}
    (same : ∀ choice : Choice, choice.key = key →
      choice.SameMeaning value (environment.value? key)) :
    ofEnvironment (environment.assign key value) = ofEnvironment environment := by
  rw [ofEnvironment_eq, ofEnvironment_eq]
  apply ofGiven_eq
  intro choice
  by_cases isKey : choice.key = key
  · rw [isKey, Environment.value?_assign_self]
    exact same choice isKey
  · rw [Environment.value?_assign_of_ne isKey]
    exact Choice.sameMeaning_of_reading rfl choice

end Meanings

/-! ## Values without a meaning -/

/-- The values of variables that count as no value. -/
inductive Ignored : String → ByteArray → Prop
  | undecodable {key : String} {bytes : ByteArray} (unread : ¬bytes.IsValidUTF8) :
      Ignored key bytes
  | blank {key text : String} (blank : isBlankText text = true) : Ignored key text.toUTF8
  | profile {text : String} (unknown : lowerAscii (trim text) ∉ ["local", "ci", "import"]) :
      Ignored Choice.profile.key text.toUTF8
  | form {text : String} (unknown : lowerAscii (trim text) ∉ ["compact", "pretty", "json"]) :
      Ignored Choice.form.key text.toUTF8
  /-- No item of the list is left. -/
  | fields {text : String} (blank : ∀ item ∈ text.toList.splitOn ',', item.all isBlank = true) :
      Ignored Choice.fields.key text.toUTF8
  | threshold {text : String} (unread : readWord? (trim text) = none) :
      Ignored Choice.threshold.key text.toUTF8

theorem ofProfile_eq_forTerminal {name : String}
    (unknown : lowerAscii name ∉ ["local", "ci", "import"]) :
    ofProfile (some name) = forTerminal := by
  unfold ofProfile
  split <;> simp_all

theorem ofName?_eq_none {name : String}
    (unknown : lowerAscii name ∉ ["compact", "pretty", "json"]) :
    OutputForm.ofName? name = none := by
  unfold OutputForm.ofName?
  split <;> simp_all

/-- A text that means nothing may as well not be there. -/
theorem mean_reading?_toUTF8 {α : Type} (mean : Option String → α) {text : String}
    (nothing : mean (some (trim text)) = mean none) :
    mean (reading? none) = mean (reading? (some text.toUTF8)) := by
  rw [reading?_toUTF8]
  split
  · rfl
  · exact nothing.symm

theorem Ignored.sameMeaning {key : String} {bytes : ByteArray} (ignored : Ignored key bytes)
    {choice : Choice} (isKey : choice.key = key) : choice.SameMeaning none (some bytes) := by
  cases ignored with
  | undecodable unread =>
      refine Choice.sameMeaning_of_reading ?_ choice
      rw [reading?, reading?, Option.bind_some, fromUTF8?_eq_none_iff.mpr unread, Option.bind_none]
  | blank blank =>
      refine Choice.sameMeaning_of_reading ?_ choice
      rw [reading?_toUTF8, if_pos blank]
      rfl
  | profile unknown =>
      obtain rfl := Choice.key_injective isKey
      exact mean_reading?_toUTF8 ofProfile (ofProfile_eq_forTerminal unknown)
  | form unknown =>
      obtain rfl := Choice.key_injective isKey
      refine mean_reading?_toUTF8 (Option.bind · OutputForm.ofName?) ?_
      rw [Option.bind_some, ofName?_eq_none unknown, Option.bind_none]
  | fields blank =>
      obtain rfl := Choice.key_injective isKey
      refine mean_reading?_toUTF8
        (fun text => (text.map listItems).filter fun items => !items.isEmpty) ?_
      rw [Option.map_some, listItems_trim, listItems_eq_nil_iff.mpr blank]
      rfl
  | threshold unread =>
      obtain rfl := Choice.key_injective isKey
      refine mean_reading?_toUTF8 (Option.bind · readWord?) ?_
      rw [Option.bind_some, unread, Option.bind_none]

/-! ## Blanks and case -/

/-- Bytes that are taken apart at some of their commas, and put together again with blanks around
the parts. -/
inductive Widened : ByteArray → ByteArray → Prop
  | last {bytes : ByteArray} {before after : String} (first : isBlankText before = true)
      (last : isBlankText after = true) :
      Widened bytes (before.toUTF8 ++ bytes ++ after.toUTF8)
  | more {bytes rest widened : ByteArray} {before after : String}
      (first : isBlankText before = true) (last : isBlankText after = true)
      (others : Widened rest widened) :
      Widened (bytes ++ ",".toUTF8 ++ rest)
        (before.toUTF8 ++ bytes ++ after.toUTF8 ++ ",".toUTF8 ++ widened)

theorem map_listItems_append_comma (front : String) (back : Option String) :
    (back.map fun last => front ++ "," ++ last).map listItems =
      (back.map listItems).map (listItems front ++ ·) := by
  cases back with
  | none => rfl
  | some last => exact congrArg some (listItems_append_comma front last)

/-- Blanks around the parts of a list do not change its items. -/
theorem Widened.map_listItems_eq {bytes widened : ByteArray} (wider : Widened bytes widened) :
    (String.fromUTF8? widened).map listItems = (String.fromUTF8? bytes).map listItems := by
  induction wider with
  | @last bytes before after first last =>
      rw [fromUTF8?_surrounded, Option.map_map]
      congr 1
      funext text
      exact listItems_surrounded first last
  | @more bytes rest widened before after first last others ih =>
      rw [fromUTF8?_separated (by decide), fromUTF8?_separated (by decide), fromUTF8?_surrounded]
      cases String.fromUTF8? bytes with
      | none => rfl
      | some text =>
          rw [Option.map_some, Option.bind_some, Option.bind_some, map_listItems_append_comma,
            map_listItems_append_comma, ih, listItems_surrounded first last]

theorem fieldsOf?_eq (bytes : ByteArray) :
    fieldsOf? (some bytes) =
      ((String.fromUTF8? bytes).map listItems).filter fun items => !items.isEmpty := by
  rw [fieldsOf?, reading?, Option.bind_some]
  cases String.fromUTF8? bytes with
  | none => rfl
  | some text =>
      rw [Option.filter_some]
      split
      · rw [Option.map_some, Option.map_some, listItems_trim, Option.map_some]
      · rename_i blank
        have blank : isBlankText text = true := by simpa using blank
        have nothing : listItems text = [] := by
          rw [← listItems_trim, trim, trimChars_eq_nil_iff.mpr blank]
          rfl
        rw [Option.map_some, nothing]
        rfl

/-- The case of ASCII letters does not change what a profile or an output form means. -/
theorem sameMeaning_of_lowerBytes_eq {bytes recased : ByteArray} {choice : Choice}
    (named : choice = .profile ∨ choice = .form) (same : lowerBytes recased = lowerBytes bytes) :
    choice.SameMeaning (some recased) (some bytes) := by
  have lowered : (reading? (some recased)).map lowerAscii =
      (reading? (some bytes)).map lowerAscii := by
    rw [← reading?_lowerBytes, same, reading?_lowerBytes]
  rcases named with rfl | rfl
  · rw [Choice.SameMeaning, profileOf, profileOf, ofProfile, ofProfile, lowered]
  · rw [Choice.SameMeaning, formOf?, formOf?]
    generalize reading? (some recased) = name, reading? (some bytes) = name' at lowered
    cases name <;> cases name' <;> simp at lowered ⊢
    rw [OutputForm.ofName?, OutputForm.ofName?, lowered]

/-! ## Tidiness -/

/-- Settings in which structured output is not coloured and all texts are trimmed. -/
structure Tidy (settings : JournalSettings) : Prop where
  json : settings.output = .json → settings.ansi = false
  redacted : ∀ field ∈ settings.redacted, IsTrimmed field
  token : IsTrimmed settings.token
  directives : ∀ directives ∈ settings.directives, IsTrimmed directives

theorem tidy_ofProfile (name : Option String) : (ofProfile name).Tidy := by
  unfold ofProfile
  split <;> constructor <;> decide +kernel

theorem tidy_ofGiven (given : Choice → Option ByteArray) : (ofGiven given).Tidy := by
  have profile : (profileOf (given .profile)).Tidy := tidy_ofProfile _
  constructor
  · simp only [ofGiven]
    cases formOf? (given .form) with
    | none => simpa using profile.json
    | some form => rintro rfl; simp
  · intro field listed
    simp only [ofGiven] at listed
    cases fields : fieldsOf? (given .fields) with
    | none => exact profile.redacted field (by simpa [fields] using listed)
    | some items =>
        rw [fields, Option.getD_some] at listed
        obtain ⟨text, -, rfl⟩ := Option.map_eq_some_iff.mp (Option.filter_eq_some_iff.mp fields).1
        exact isTrimmed_of_mem_listItems listed
  · simp only [ofGiven]
    cases token : reading? (given .token) with
    | none => exact profile.token
    | some text => exact isTrimmed_of_reading? token
  · simp only [ofGiven]
    cases directives : reading? (given .directives) with
    | none => simpa using profile.directives
    | some text => simpa using isTrimmed_of_reading? directives

/-! ## The settings of an environment -/

/-- Two environments that agree on a variable agree on the settings that it chooses, and they agree
on those that none chooses. -/
structure OwnChoices (environment other : Environment) : Prop where
  directives : environment.value? Choice.directives.key = other.value? Choice.directives.key →
    (ofEnvironment environment).directives = (ofEnvironment other).directives
  output : environment.value? Choice.form.key = other.value? Choice.form.key →
    (ofEnvironment environment).output = (ofEnvironment other).output
  ansi : environment.value? Choice.form.key = other.value? Choice.form.key →
    (ofEnvironment environment).ansi = (ofEnvironment other).ansi
  redacted : environment.value? Choice.fields.key = other.value? Choice.fields.key →
    (ofEnvironment environment).redacted = (ofEnvironment other).redacted
  token : environment.value? Choice.token.key = other.value? Choice.token.key →
    (ofEnvironment environment).token = (ofEnvironment other).token
  threshold : environment.value? Choice.threshold.key = other.value? Choice.threshold.key →
    (ofEnvironment environment).threshold = (ofEnvironment other).threshold
  defaultDirective : (ofEnvironment environment).defaultDirective =
    (ofEnvironment other).defaultDirective
  showsTargets : (ofEnvironment environment).showsTargets = (ofEnvironment other).showsTargets
  spanEvents : (ofEnvironment environment).spanEvents = (ofEnvironment other).spanEvents

/-- Under one profile, each of the other settings depends on its own variable alone. -/
theorem ownChoices_of_profile_eq {environment other : Environment}
    (same : environment.value? Choice.profile.key = other.value? Choice.profile.key) :
    OwnChoices environment other := by
  constructor
  all_goals
    simp only [ofEnvironment_eq, ofGiven, same]
  all_goals
    grind

/-- An environment chooses settings by what can be read in it. -/
structure HeedsReadable (environment : Environment) : Prop where
  /-- A variable whose value counts as none may as well be removed. -/
  ignored : ∀ key bytes, environment.value? key = some bytes → Ignored key bytes →
    ofEnvironment (environment.assign key none) = ofEnvironment environment
  /-- Blanks around a value, whether it can be read or not, make no difference. -/
  blanks : ∀ key bytes before after, environment.value? key = some bytes →
    isBlankText before = true → isBlankText after = true →
      ofEnvironment (environment.assign key (some (before.toUTF8 ++ bytes ++ after.toUTF8))) =
        ofEnvironment environment
  /-- Blanks around the items of the list of fields make no difference. -/
  items : ∀ bytes widened, environment.value? Choice.fields.key = some bytes →
    Widened bytes widened →
      ofEnvironment (environment.assign Choice.fields.key (some widened)) =
        ofEnvironment environment
  /-- The case of ASCII letters makes no difference in the profile and in the output form. -/
  cased : ∀ choice bytes recased, choice = Choice.profile ∨ choice = Choice.form →
    environment.value? choice.key = some bytes → lowerBytes recased = lowerBytes bytes →
      ofEnvironment (environment.assign choice.key (some recased)) = ofEnvironment environment
  /-- Structured output is not coloured, and fields, token and directives are trimmed. -/
  tidy : (ofEnvironment environment).Tidy
  /-- With the profile given, every variable makes a difference to its own settings alone. -/
  own : ∀ other : Environment,
    other.value? Choice.profile.key = environment.value? Choice.profile.key →
      OwnChoices other environment

/-- Whatever the bytes of its variables are, an environment chooses settings by what can be read in
it. -/
theorem heedsReadable (environment : Environment) : HeedsReadable environment where
  ignored key bytes isSet ignored := by
    apply ofEnvironment_assign
    intro choice isKey
    rw [isSet]
    exact ignored.sameMeaning isKey
  blanks key bytes before after isSet first last := by
    apply ofEnvironment_assign
    intro choice _
    rw [isSet]
    exact Choice.sameMeaning_of_reading (reading?_surrounded first last) choice
  items bytes widened isSet wider := by
    apply ofEnvironment_assign
    intro choice isKey
    obtain rfl := Choice.key_injective isKey
    rw [isSet, Choice.SameMeaning, fieldsOf?_eq, fieldsOf?_eq, wider.map_listItems_eq]
  cased choice bytes recased named isSet same := by
    apply ofEnvironment_assign
    intro choice' isKey
    obtain rfl := Choice.key_injective isKey
    rw [isSet]
    exact sameMeaning_of_lowerBytes_eq named same
  tidy := by
    rw [ofEnvironment_eq]
    exact tidy_ofGiven _
  own _ same := ownChoices_of_profile_eq same

/-- A threshold that cannot be read leaves that of the profile. -/
example : ofEnvironment ⟨[("HOLOGRAM_TRACING_PROFILE", " Import".toUTF8),
    ("HOLOGRAM_IMPORT_TIMING_THRESHOLD_US", "soon".toUTF8)]⟩ = forImports := by
  decide +kernel

end JournalSettings

end ComputeImport
