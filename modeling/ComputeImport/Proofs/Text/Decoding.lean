import ComputeImport.Proofs.Text.Trimming
import ComputeImport.Text.Environment

/-!
# Decoding the values of variables

The bytes of a variable may be the encoding of a text or not.  Texts around them make no difference
to that, and neither does the case of ASCII letters; and what a variable says does not change with
the blanks around its value.
-/

namespace ComputeImport.Text

variable {bytes front back : ByteArray} {text : String}

theorem fromUTF8?_toUTF8 (text : String) : String.fromUTF8? text.toUTF8 = some text :=
  dif_pos text.isValidUTF8

theorem fromUTF8?_eq_some_iff : String.fromUTF8? bytes = some text ↔ bytes = text.toUTF8 := by
  constructor
  · intro decoded
    unfold String.fromUTF8? at decoded
    split at decoded
    · obtain rfl := Option.some.inj decoded
      rfl
    · contradiction
  · rintro rfl
    exact fromUTF8?_toUTF8 text

theorem fromUTF8?_eq_none_iff : String.fromUTF8? bytes = none ↔ ¬ bytes.IsValidUTF8 := by
  unfold String.fromUTF8?
  split <;> simp_all

/-- What stands in front of a text is the encoding of a text, if the whole is, whatever follows. -/
theorem isValidUTF8_front {text : String} (visible : text ≠ "")
    (valid : (front ++ text.toUTF8 ++ back).IsValidUTF8) : front.IsValidUTF8 := by
  let whole : String := ⟨front ++ text.toUTF8 ++ back, valid⟩
  have some : 0 < text.toUTF8.size := by
    rw [String.toUTF8_eq_toByteArray, String.size_toByteArray]
    exact Nat.pos_of_ne_zero (visible ∘ String.utf8ByteSize_eq_zero_iff.mp)
  have isPos : (⟨front.size⟩ : String.Pos.Raw).IsValid whole := by
    have within : front.size < whole.toByteArray.size := by
      simp only [whole, ByteArray.size_append]
      omega
    -- the first byte of the text is the first byte of a character
    have byte : whole.toByteArray[front.size] = text.toUTF8[0] := by
      simp only [whole, ByteArray.append_assoc]
      rw [ByteArray.getElem_append_right (Nat.le_refl _)]
      simp only [Nat.sub_self]
      exact ByteArray.getElem_append_left some
    refine String.Pos.Raw.isValid_iff_isUTF8FirstByte.mpr (.inr ⟨within, ?_⟩)
    rw [String.getUTF8Byte_eq_getElem, byte]
    exact text.isValidUTF8.isUTF8FirstByte_getElem_zero some
  have extracted : whole.toByteArray.extract 0 front.size = front := by
    simp only [whole, ByteArray.append_assoc]
    exact ByteArray.extract_append_eq_left rfl
  exact extracted ▸ isPos.isValidUTF8_extract_zero

/-- What stands behind a text is the encoding of a text, if the whole is. -/
theorem isValidUTF8_back {text : String} (valid : (text.toUTF8 ++ back).IsValidUTF8) :
    back.IsValidUTF8 := by
  obtain ⟨cs, encoded⟩ := valid
  rw [String.toUTF8_eq_toByteArray, ← String.utf8Encode_toList] at encoded
  obtain ⟨rest, rfl⟩ := List.isPrefix_of_utf8Encode_append_eq_utf8Encode back encoded
  rw [List.utf8Encode_append, ByteArray.append_right_inj] at encoded
  exact ⟨rest, encoded⟩

/-- Bytes with a text between them are the encoding of a text if both parts are. -/
theorem fromUTF8?_separated {text : String} (visible : text ≠ "") :
    String.fromUTF8? (front ++ text.toUTF8 ++ back) =
      (String.fromUTF8? front).bind fun first =>
        (String.fromUTF8? back).map fun last => first ++ text ++ last := by
  cases decodedFront : String.fromUTF8? front with
  | none =>
      rw [fromUTF8?_eq_none_iff] at decodedFront
      rw [Option.bind_none, fromUTF8?_eq_none_iff]
      exact decodedFront ∘ isValidUTF8_front visible
  | some first =>
      obtain rfl := fromUTF8?_eq_some_iff.mp decodedFront
      have joined : first.toUTF8 ++ text.toUTF8 = (first ++ text).toUTF8 := by simp
      rw [joined, Option.bind_some]
      cases decodedBack : String.fromUTF8? back with
      | none =>
          rw [fromUTF8?_eq_none_iff] at decodedBack
          rw [Option.map_none, fromUTF8?_eq_none_iff]
          exact decodedBack ∘ isValidUTF8_back
      | some last =>
          obtain rfl := fromUTF8?_eq_some_iff.mp decodedBack
          rw [Option.map_some, fromUTF8?_eq_some_iff]
          simp

/-- Texts around some bytes do not change whether these are the encoding of a text. -/
theorem fromUTF8?_surrounded (bytes : ByteArray) (before after : String) :
    String.fromUTF8? (before.toUTF8 ++ bytes ++ after.toUTF8) =
      (String.fromUTF8? bytes).map (before ++ · ++ after) := by
  cases decoded : String.fromUTF8? bytes with
  | none =>
      rw [fromUTF8?_eq_none_iff] at decoded
      rw [Option.map_none, fromUTF8?_eq_none_iff]
      intro valid
      apply decoded
      by_cases visible : after = ""
      · have nothing : "".toUTF8 = ByteArray.empty := rfl
        rw [visible, nothing, ByteArray.append_empty] at valid
        exact isValidUTF8_back valid
      · rw [← ByteArray.append_empty (b := _ ++ after.toUTF8)] at valid
        exact isValidUTF8_back (isValidUTF8_front visible valid)
  | some text =>
      obtain rfl := fromUTF8?_eq_some_iff.mp decoded
      rw [Option.map_some, fromUTF8?_eq_some_iff]
      simp

/-! ## Case -/

/-- A byte in lower case, if it is an ASCII letter. -/
def lowerByte (byte : UInt8) : UInt8 :=
  if 65 ≤ byte ∧ byte ≤ 90 then byte + 32 else byte

/-- Bytes in lower case, as far as they are ASCII letters. -/
def lowerBytes (bytes : ByteArray) : ByteArray :=
  (bytes.data.toList.map lowerByte).toByteArray

theorem toNat_lowerByte (byte : UInt8) :
    (lowerByte byte).toNat =
      if 65 ≤ byte.toNat ∧ byte.toNat ≤ 90 then byte.toNat + 32 else byte.toNat := by
  unfold lowerByte
  split
  · rename_i isCapital
    have lower : 65 ≤ byte.toNat := UInt8.le_iff_toNat_le.mp isCapital.1
    have upper : byte.toNat ≤ 90 := UInt8.le_iff_toNat_le.mp isCapital.2
    have added : (byte + 32).toNat = (byte.toNat + 32) % 256 := UInt8.toNat_add byte 32
    rw [added, if_pos ⟨lower, upper⟩]
    omega
  · rename_i notCapital
    exact (if_neg notCapital).symm

/-- Bytes that are not ASCII have no case. -/
theorem lowerByte_of_le {byte : UInt8} (wide : 128 ≤ (lowerByte byte).toNat) :
    lowerByte byte = byte := by
  rw [toNat_lowerByte] at wide
  apply UInt8.toNat_inj.mp
  rw [toNat_lowerByte]
  split_ifs at * <;> omega

theorem map_lowerByte_of_le {bytes : List UInt8}
    (wide : ∀ byte ∈ bytes, 128 ≤ (lowerByte byte).toNat) : bytes.map lowerByte = bytes :=
  (List.map_congr_left fun byte member => lowerByte_of_le (wide byte member)).trans
    (List.map_id bytes)

theorem utf8EncodeChar_of_ascii {c : Char} (ascii : c.toNat ≤ 127) :
    String.utf8EncodeChar c = [UInt8.ofNat c.toNat] :=
  if_pos ascii

/-- The bytes of a character that is not ASCII are not ASCII. -/
theorem le_of_mem_utf8EncodeChar {c : Char} {byte : UInt8} (wide : 127 < c.toNat)
    (member : byte ∈ String.utf8EncodeChar c) : 128 ≤ byte.toNat := by
  have notAscii : ¬ c.val.toNat ≤ 0x7f := Nat.not_le.mpr wide
  simp only [String.utf8EncodeChar, if_neg notAscii] at member
  split_ifs at member <;>
    simp only [List.mem_cons, List.not_mem_nil, or_false] at member <;>
    rcases member with rfl | rfl | rfl | rfl <;>
    simp only [UInt8.toNat_ofNat'] <;> omega

/-- A character in lower case has the bytes of the character, in lower case. -/
theorem map_lowerByte_utf8EncodeChar (c : Char) :
    (String.utf8EncodeChar c).map lowerByte = String.utf8EncodeChar c.toLower := by
  have small := toNat_toLower c
  by_cases ascii : c.toNat ≤ 127
  · have ascii' : c.toLower.toNat ≤ 127 := by split_ifs at small <;> omega
    rw [utf8EncodeChar_of_ascii ascii, utf8EncodeChar_of_ascii ascii', List.map_singleton]
    congr 1
    apply UInt8.toNat_inj.mp
    rw [toNat_lowerByte, small, UInt8.toNat_ofNat', UInt8.toNat_ofNat',
      Nat.mod_eq_of_lt (by omega : c.toNat < 2 ^ 8)]
    split_ifs <;> omega
  · have same : c.toLower = c := by
      rw [if_neg (by omega)] at small
      exact Char.toNat_inj.mp small
    rw [same]
    apply map_lowerByte_of_le
    intro byte member
    have wide := le_of_mem_utf8EncodeChar (Nat.not_le.mp ascii) member
    rw [toNat_lowerByte]
    split_ifs <;> omega

/-- Bytes that in lower case encode a character encode one already. -/
theorem exists_utf8EncodeChar_eq {bytes : List UInt8} {d : Char}
    (encoded : bytes.map lowerByte = String.utf8EncodeChar d) :
    ∃ c, bytes = String.utf8EncodeChar c := by
  by_cases ascii : d.toNat ≤ 127
  · rw [utf8EncodeChar_of_ascii ascii, List.map_eq_singleton_iff] at encoded
    obtain ⟨byte, rfl, lowered⟩ := encoded
    have bound := congrArg UInt8.toNat lowered
    rw [toNat_lowerByte, UInt8.toNat_ofNat'] at bound
    have ascii' : byte.toNat ≤ 127 := by split_ifs at bound <;> omega
    obtain ⟨c, toNat⟩ : ∃ c : Char, c.toNat = byte.toNat :=
      ⟨Char.ofUInt8 byte, UInt8.toNat_toUInt32 byte⟩
    refine ⟨c, ?_⟩
    rw [utf8EncodeChar_of_ascii (toNat ▸ ascii'), toNat, UInt8.ofNat_toNat]
  · refine ⟨d, encoded ▸ ?_⟩
    symm
    apply map_lowerByte_of_le
    intro byte member
    have lowered : lowerByte byte ∈ String.utf8EncodeChar d := encoded ▸ List.mem_map_of_mem member
    exact le_of_mem_utf8EncodeChar (Nat.not_le.mp ascii) lowered

theorem exists_flatMap_utf8EncodeChar_eq {bytes : List UInt8} {ds : List Char}
    (encoded : bytes.map lowerByte = ds.flatMap String.utf8EncodeChar) :
    ∃ cs : List Char, bytes = cs.flatMap String.utf8EncodeChar := by
  induction ds generalizing bytes with
  | nil => exact ⟨[], List.map_eq_nil_iff.mp encoded⟩
  | cons d ds ih =>
      rw [List.flatMap_cons, List.map_eq_append_iff] at encoded
      obtain ⟨front, back, rfl, first, others⟩ := encoded
      obtain ⟨c, rfl⟩ := exists_utf8EncodeChar_eq first
      obtain ⟨cs, rfl⟩ := ih others
      exact ⟨c :: cs, List.flatMap_cons.symm⟩

theorem map_lowerByte_flatMap (cs : List Char) :
    (cs.flatMap String.utf8EncodeChar).map lowerByte =
      (cs.map Char.toLower).flatMap String.utf8EncodeChar := by
  rw [List.map_flatMap, List.flatMap_map]
  exact congrArg (List.flatMap · cs) (funext map_lowerByte_utf8EncodeChar)

/-- Bytes in lower case are the encoding of the text in lower case, if they are one of a text. -/
theorem fromUTF8?_lowerBytes (bytes : ByteArray) :
    String.fromUTF8? (lowerBytes bytes) = (String.fromUTF8? bytes).map lowerAscii := by
  cases decoded : String.fromUTF8? bytes with
  | none =>
      rw [fromUTF8?_eq_none_iff] at decoded
      rw [Option.map_none, fromUTF8?_eq_none_iff]
      rintro ⟨ds, encoded⟩
      obtain ⟨cs, same⟩ := exists_flatMap_utf8EncodeChar_eq (List.toByteArray_inj.mp encoded)
      refine decoded ⟨cs, ?_⟩
      rw [List.utf8Encode, ← same]
      exact ByteArray.ext List.data_toByteArray.symm
  | some text =>
      rw [fromUTF8?_eq_some_iff] at decoded
      rw [Option.map_some, fromUTF8?_eq_some_iff, decoded]
      unfold lowerBytes
      rw [String.toUTF8_eq_toByteArray, ← String.utf8Encode_toList, List.utf8Encode]
      rw [List.toList_data_toByteArray, map_lowerByte_flatMap]
      rw [lowerAscii, String.toUTF8_eq_toByteArray, String.toByteArray_ofList, List.utf8Encode]

/-! ## Variables -/

/-- The text that a variable with some bytes stands for: no text, unless the bytes encode one that
is not blank. -/
def reading? (value : Option ByteArray) : Option String :=
  ((value.bind String.fromUTF8?).filter fun text => !isBlankText text).map trim

theorem reading?_toUTF8 (text : String) :
    reading? (some text.toUTF8) = if isBlankText text then none else some (trim text) := by
  rw [reading?, Option.bind_some, fromUTF8?_toUTF8, Option.filter_some]
  cases isBlankText text <;> rfl

theorem isTrimmed_of_reading? {value : Option ByteArray} (read : reading? value = some text) :
    IsTrimmed text := by
  obtain ⟨whole, kept, rfl⟩ := Option.map_eq_some_iff.mp read
  have visible := (Option.filter_eq_some_iff.mp kept).2
  exact isTrimmed_trim (by simpa using visible)

/-- Blanks around the bytes of a variable make no difference. -/
theorem reading?_surrounded {before after : String} (first : isBlankText before = true)
    (last : isBlankText after = true) :
    reading? (some (before.toUTF8 ++ bytes ++ after.toUTF8)) = reading? (some bytes) := by
  unfold reading?
  rw [Option.bind_some, Option.bind_some, fromUTF8?_surrounded]
  cases String.fromUTF8? bytes with
  | none => rfl
  | some text =>
      simp only [Option.map_some, Option.filter_some, isBlankText_pad first last]
      split <;> simp [trim_pad first last]

/-- A variable in lower case has the same text, in lower case. -/
theorem reading?_lowerBytes (bytes : ByteArray) :
    reading? (some (lowerBytes bytes)) = (reading? (some bytes)).map lowerAscii := by
  unfold reading?
  rw [Option.bind_some, Option.bind_some, fromUTF8?_lowerBytes]
  cases String.fromUTF8? bytes with
  | none => rfl
  | some text =>
      simp only [Option.map_some, Option.filter_some, isBlankText_lowerAscii]
      split <;> simp [lowerAscii_trim]

namespace Environment

variable {environment : Environment} {key other : String} {value : Option ByteArray}

/-- The bytes of a variable, if it is set. -/
def value? (environment : Environment) (key : String) : Option ByteArray :=
  (environment.entries.find? fun entry => entry.1 == key).map Prod.snd

/-- The environment with other bytes for a variable, or without the variable. -/
def assign (environment : Environment) (key : String) (value : Option ByteArray) : Environment :=
  ⟨(value.map fun bytes => (key, bytes)).toList ++
    environment.entries.filter fun entry => entry.1 != key⟩

theorem value?_assign_self : (environment.assign key value).value? key = value := by
  cases value with
  | some bytes => simp [value?, assign]
  | none =>
      have gone : (environment.entries.filter fun entry => entry.1 != key).find?
          (fun entry => entry.1 == key) = none := by
        simp
      exact congrArg (Option.map Prod.snd) gone

theorem value?_assign_of_ne (different : other ≠ key) :
    (environment.assign key value).value? other = environment.value? other := by
  have kept : (environment.entries.filter fun entry => entry.1 != key).find?
      (fun entry => entry.1 == other) =
        environment.entries.find? fun entry => entry.1 == other := by
    rw [List.find?_filter]
    congr 1
    funext entry
    grind
  have front : (value.map fun bytes => (key, bytes)).toList.find?
      (fun entry => entry.1 == other) = none := by
    cases value <;> simp [different.symm]
  rw [value?, assign, List.find?_append, front, Option.none_or, kept, value?]

theorem trimmed?_eq : environment.trimmed? key = reading? (environment.value? key) := by
  unfold trimmed? nonBlank? text? reading? value?
  cases environment.entries.find? fun entry => entry.1 == key <;> rfl

end Environment

end ComputeImport.Text
