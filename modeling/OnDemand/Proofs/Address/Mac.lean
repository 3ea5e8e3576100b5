import Mathlib.Data.List.Forall2
import Mathlib.Data.Nat.Digits.Defs
import Mathlib.Tactic.Ring
import OnDemand.Address.Mac

/-!
# The grammar of device addresses

The text of a device address is cut at every colon and dash.  It is read exactly when there are
six parts and each is a hexadecimal numeral of a byte: perhaps one plus sign, and then digits of
either case, any number of zeros among them in front.  What is written for an address is read as
that address.
-/

namespace OnDemand

namespace Text

variable {char : Char} {text : List Char} {value : Nat}

/-! ## Digits -/

/-- A character is the digit of a value below sixteen, in lower or in upper case. -/
def IsHexDigit (char : Char) (value : Nat) : Prop :=
  value < 16 ∧ (char = value.digitChar ∨ char = value.digitChar.toUpper)

instance : Decidable (IsHexDigit char value) := inferInstanceAs (Decidable (_ ∧ _))

/-- No character beyond the first 128 is a digit. -/
theorem toNat_lt_of_digitIn? {base : Nat} (read : digitIn? base char = some value) :
    char.toNat < 128 := by
  have ends : ∀ {last : Char}, char ≤ last → last.toNat < 128 → char.toNat < 128 :=
    fun le small => Nat.lt_of_le_of_lt le small
  obtain ⟨read, _⟩ := Option.filter_eq_some_iff.mp read
  simp only [digitValue?] at read
  split at read
  · next range => exact ends range.2 (by decide)
  · split at read
    · next range => exact ends range.2 (by decide)
    · split at read
      · next range => exact ends range.2 (by decide)
      · cases read

theorem digitIn?_eq_some_iff : digitIn? 16 char = some value ↔ IsHexDigit char value := by
  constructor
  · intro read
    -- a digit is one of the first 128 characters, which can be gone through one by one
    have table : ∀ code < 128, ∀ value, digitIn? 16 (Char.ofNat code) = some value →
        IsHexDigit (Char.ofNat code) value := by decide +kernel
    have digit := table char.toNat (toNat_lt_of_digitIn? read)
    rw [Char.ofNat_toNat] at digit
    exact digit value read
  · rintro ⟨small, rfl | rfl⟩
    · exact (by decide : ∀ value < 16, digitIn? 16 value.digitChar = some value) _ small
    · exact (by decide : ∀ value < 16, digitIn? 16 value.digitChar.toUpper = some value) _ small

theorem isHexDigit_hexDigit (small : value < 16) : IsHexDigit (hexDigit value) value :=
  (by decide : ∀ value < 16, IsHexDigit (hexDigit value) value) value small

/-! ## Numerals -/

/-- A text consists of digits, the most significant first, and has a value. -/
def IsHexSequence (text : List Char) (value : Nat) : Prop :=
  ∃ digits, List.Forall₂ IsHexDigit text digits ∧ Nat.ofDigits 16 digits.reverse = value

/-- A text is a numeral: perhaps one plus sign, and then at least one digit. -/
def IsHexNumeral (text : List Char) (value : Nat) : Prop :=
  ∃ digits, (text = digits ∨ text = '+' :: digits) ∧ digits ≠ [] ∧ IsHexSequence digits value

theorem ofDigits_reverse_cons (digit : Nat) (digits : List Nat) :
    Nat.ofDigits 16 (digit :: digits).reverse =
      digit * 16 ^ digits.length + Nat.ofDigits 16 digits.reverse := by
  rw [List.reverse_cons, Nat.ofDigits_append, Nat.ofDigits_singleton, List.length_reverse,
    Nat.mul_comm, Nat.add_comm]

/-- What the reader has when it has read further digits after a value. -/
theorem foldlM_eq_some_iff {start : Nat} :
    text.foldlM (fun value digit => (digitIn? 16 digit).map (value * 16 + ·)) start =
        some value ↔
      ∃ digits, List.Forall₂ IsHexDigit text digits ∧
        start * 16 ^ digits.length + Nat.ofDigits 16 digits.reverse = value := by
  induction text generalizing start with
  | nil => simp
  | cons char rest ih =>
      simp only [List.foldlM_cons, Option.bind_eq_bind, Option.bind_eq_some_iff,
        Option.map_eq_some_iff, digitIn?_eq_some_iff, ih, List.forall₂_cons_left_iff]
      constructor
      · rintro ⟨_, ⟨digit, own, rfl⟩, digits, others, rfl⟩
        refine ⟨digit :: digits, ⟨digit, digits, own, others, rfl⟩, ?_⟩
        rw [ofDigits_reverse_cons, List.length_cons]
        ring
      · rintro ⟨_, ⟨digit, digits, own, others, rfl⟩, rfl⟩
        refine ⟨_, ⟨digit, own, rfl⟩, digits, others, ?_⟩
        rw [ofDigits_reverse_cons, List.length_cons]
        ring

theorem digitsIn?_eq_some_iff :
    digitsIn? 16 text = some value ↔ text ≠ [] ∧ IsHexSequence text value := by
  cases text with
  | nil => simp [digitsIn?]
  | cons char rest =>
      simp only [digitsIn?, foldlM_eq_some_iff, IsHexSequence, Nat.zero_mul, Nat.zero_add, ne_eq,
        reduceCtorEq, not_false_eq_true, true_and]

/-- A plus sign is no digit. -/
theorem not_isHexSequence_plus : ¬ IsHexSequence ('+' :: text) value := by
  rintro ⟨_, all, _⟩
  obtain ⟨digit, _, own, _⟩ := List.forall₂_cons_left_iff.mp all
  cases (by decide : digitIn? 16 '+' = none).symm.trans (digitIn?_eq_some_iff.mpr own)

theorem numeralIn?_eq_some_iff : numeralIn? 16 text = some value ↔ IsHexNumeral text value := by
  unfold numeralIn?
  split
  · next digits =>
      rw [digitsIn?_eq_some_iff]
      constructor
      · exact fun ⟨filled, all⟩ => ⟨digits, .inr rfl, filled, all⟩
      · rintro ⟨_, rfl | same, filled, all⟩
        -- the sign itself would have to be a digit
        · exact absurd all not_isHexSequence_plus
        · cases same
          exact ⟨filled, all⟩
  · next unsigned =>
      rw [digitsIn?_eq_some_iff]
      constructor
      · exact fun ⟨filled, all⟩ => ⟨text, .inl rfl, filled, all⟩
      · rintro ⟨_, rfl | rfl, filled, all⟩
        · exact ⟨filled, all⟩
        · exact absurd rfl (unsigned _)

/-! ## Numerals that are written -/

theorem IsHexSequence.concat {digit : Char} {last : Nat} (before : IsHexSequence text value)
    (own : IsHexDigit digit last) : IsHexSequence (text ++ [digit]) (value * 16 + last) := by
  obtain ⟨digits, all, rfl⟩ := before
  refine ⟨digits ++ [last], List.rel_append all (.cons own .nil), ?_⟩
  rw [List.reverse_append, List.reverse_singleton, List.singleton_append, Nat.ofDigits_cons,
    Nat.add_comm, Nat.mul_comm]

theorem isHexSequence_hexDigits (value : Nat) : IsHexSequence (hexDigits value) value := by
  fun_induction hexDigits value with
  | case1 value small => exact ⟨[value], .cons (isHexDigit_hexDigit small) .nil, by simp⟩
  | case2 value large ih =>
      have own := isHexDigit_hexDigit (Nat.mod_lt value (Nat.succ_pos 15))
      have whole := ih.concat own
      rwa [Nat.div_add_mod'] at whole

/-- Zeros in front do not change the value. -/
theorem IsHexSequence.replicate_append (all : IsHexSequence text value) (count : Nat) :
    IsHexSequence (List.replicate count '0' ++ text) value := by
  induction count with
  | zero => exact all
  | succ count ih =>
      obtain ⟨digits, more, rfl⟩ := ih
      have zero : IsHexDigit '0' 0 := by decide
      refine ⟨0 :: digits, .cons zero more, ?_⟩
      rw [ofDigits_reverse_cons, Nat.zero_mul, Nat.zero_add]

theorem isHexSequence_hex (width value : Nat) : IsHexSequence (hex width value).toList value := by
  rw [hex, String.toList_ofList]
  exact (isHexSequence_hexDigits value).replicate_append _

theorem hexDigits_ne_nil (value : Nat) : hexDigits value ≠ [] := by
  unfold hexDigits
  split
  · exact List.cons_ne_nil _ _
  · exact List.append_ne_nil_of_right_ne_nil _ (List.cons_ne_nil _ _)

theorem isHexNumeral_hex (width value : Nat) : IsHexNumeral (hex width value).toList value := by
  refine ⟨_, .inl rfl, ?_, isHexSequence_hex width value⟩
  rw [hex, String.toList_ofList]
  exact List.append_ne_nil_of_right_ne_nil _ (hexDigits_ne_nil value)

/-! ## Parts -/

theorem splitWhen_eq_splitOnP (separator : Char → Bool) (text : List Char) :
    splitWhen separator text = text.splitOnP separator := by
  induction text with
  | nil => rfl
  | cons char rest ih =>
      rw [List.splitOnP_cons_eq_if_modifyHead, splitWhen, ih]
      split
      · rfl
      · split
        · next none => exact absurd none (List.splitOnP_ne_nil _ _)
        · next part parts split => rw [split, List.modifyHead_cons]

/-- Parts without separators that are put together with one are cut apart again. -/
theorem splitOnP_intercalate {separator : Char → Bool} {between : Char}
    (separates : separator between = true) {parts : List (List Char)} (filled : parts ≠ [])
    (pure : ∀ part ∈ parts, ∀ char ∈ part, separator char = false) :
    ([between].intercalate parts).splitOnP separator = parts := by
  induction parts with
  | nil => exact absurd rfl filled
  | cons part rest ih =>
      obtain ⟨own, others⟩ := List.forall_mem_cons.mp pure
      cases rest with
      | nil => rw [List.intercalate_singleton, List.splitOnP_eq_singleton own]
      | cons next rest =>
          rw [List.intercalate_cons_cons, List.append_assoc, List.singleton_append,
            List.splitOnP_append_cons_of_forall_mem own _ separates,
            ih (List.cons_ne_nil _ _) others]

end Text

namespace MacAddress

open Text

variable {mac : MacAddress} {text : String} {part : List Char}

/-- The parts of a text between colons and dashes. -/
def parts (text : String) : List (List Char) :=
  text.toList.splitOnP fun char => char = ':' ∨ char = '-'

theorem splitWhen_isSeparator (text : String) :
    splitWhen isSeparator text.toList = parts text := by
  have same : isSeparator = fun char => decide (char = ':' ∨ char = '-') := by
    funext char
    simp only [isSeparator, Bool.decide_or, beq_eq_decide]
  rw [splitWhen_eq_splitOnP, same, parts]

theorem part?_eq_some_iff {byte : UInt8} :
    part? part = some byte ↔ IsHexNumeral part byte.toNat := by
  simp only [part?, Option.map_eq_some_iff, Option.filter_eq_some_iff, numeralIn?_eq_some_iff,
    decide_eq_true_eq]
  constructor
  · rintro ⟨value, ⟨numeral, small⟩, rfl⟩
    rwa [UInt8.toNat_ofNat_of_lt' small]
  · exact fun numeral => ⟨byte.toNat, ⟨numeral, byte.toNat_lt⟩, UInt8.ofNat_toNat⟩

/-- Reading each part. -/
theorem mapM_part?_eq_some_iff {texts : List (List Char)} {bytes : List UInt8} :
    texts.mapM part? = some bytes ↔
      List.Forall₂ (fun part byte => IsHexNumeral part byte.toNat) texts bytes := by
  induction texts generalizing bytes with
  | nil => simp [eq_comm]
  | cons part rest ih =>
      simp only [List.mapM_cons, Option.bind_eq_bind, Option.bind_eq_some_iff, Option.pure_def,
        Option.some.injEq, part?_eq_some_iff, ih, List.forall₂_cons_left_iff]
      constructor
      · rintro ⟨byte, own, bytes, others, rfl⟩
        exact ⟨byte, bytes, own, others, rfl⟩
      · rintro ⟨byte, bytes, own, others, rfl⟩
        exact ⟨byte, own, bytes, others, rfl⟩

theorem parse?_eq_some : parse? text = some mac ↔
    List.Forall₂ (fun part byte => IsHexNumeral part byte.toNat) (parts text) mac.bytes := by
  rw [← mapM_part?_eq_some_iff, parse?, splitWhen_isSeparator]
  cases (parts text).mapM part? with
  | none => simp
  | some bytes =>
      simp only [Option.bind_eq_bind, Option.bind_some, Option.some.injEq]
      constructor
      · intro built
        split at built
        · cases built
          rfl
        · cases built
      · rintro rfl
        exact dif_pos mac.octets.property

/-- A text can be read exactly when it has six parts, all of them numerals of bytes. -/
theorem isSome_parse?_iff : (parse? text).isSome ↔
    (parts text).length = 6 ∧ ∀ part ∈ parts text, ∃ value ≤ 255, IsHexNumeral part value := by
  simp only [Option.isSome_iff_exists, parse?_eq_some]
  constructor
  · rintro ⟨mac, all⟩
    have bytes : List.Forall₂ (fun part byte => (∃ value ≤ 255, IsHexNumeral part value) ∧
        IsHexNumeral part byte.toNat) (parts text) mac.bytes :=
      all.imp fun _ byte numeral =>
        ⟨⟨byte.toNat, Nat.le_of_lt_succ byte.toNat_lt, numeral⟩, numeral⟩
    exact ⟨all.length_eq.trans mac.octets.property, ((List.forall₂_and_left _ _).mp bytes).1⟩
  · rintro ⟨six, numerals⟩
    have read : List.Forall₂ (fun part byte => IsHexNumeral part byte.toNat) (parts text)
        ((parts text).map fun part => (part? part).getD 0) := by
      rw [List.forall₂_map_right_iff, List.forall₂_same]
      intro part member
      obtain ⟨value, small, numeral⟩ := numerals part member
      have byte : part? part = some (UInt8.ofNat value) := by
        rw [part?_eq_some_iff, UInt8.toNat_ofNat_of_lt' (Nat.lt_succ_of_le small)]
        exact numeral
      exact part?_eq_some_iff.mp (byte ▸ rfl)
    exact ⟨⟨_, (List.length_map _).trans six⟩, read⟩

/-! ## Addresses that are written -/

/-- What is written for a byte has no separators in it. -/
theorem not_separator_of_mem_hex {byte : UInt8} {char : Char}
    (member : char ∈ (hex 2 byte.toNat).toList) : decide (char = ':' ∨ char = '-') = false := by
  obtain ⟨digits, all, _⟩ := isHexSequence_hex 2 byte.toNat
  have each := all.imp fun char value own => And.intro (Exists.intro value own) own
  obtain ⟨value, own⟩ := ((List.forall₂_and_left _ _).mp each).1 char member
  have read := digitIn?_eq_some_iff.mpr own
  refine decide_eq_false ?_
  rintro (rfl | rfl)
  · cases (by decide : digitIn? 16 ':' = none).symm.trans read
  · cases (by decide : digitIn? 16 '-' = none).symm.trans read

theorem parts_text (mac : MacAddress) :
    parts mac.text = mac.bytes.map fun byte => (hex 2 byte.toNat).toList := by
  have filled : mac.bytes ≠ [] := fun none => by
    have six := mac.octets.property
    rw [← bytes, none] at six
    cases six
  rw [parts, MacAddress.text, String.toList_intercalate, List.map_map]
  refine splitOnP_intercalate (by decide) (mt List.map_eq_nil_iff.mp filled) ?_
  rintro _ member char own
  obtain ⟨byte, _, rfl⟩ := List.mem_map.mp member
  exact not_separator_of_mem_hex own

theorem parse?_text (mac : MacAddress) : parse? mac.text = some mac := by
  rw [parse?_eq_some, parts_text, List.forall₂_map_left_iff, List.forall₂_same]
  exact fun byte _ => isHexNumeral_hex 2 byte.toNat

/-- A text can be read exactly when it has six parts between colons and dashes, all of them
numerals of bytes, and is then read as the address of these bytes, in order.  What is written for
an address is read as that address. -/
theorem parse?_accepts_grammar :
    (∀ text, (parse? text).isSome ↔ (parts text).length = 6 ∧
      ∀ part ∈ parts text, ∃ value ≤ 255, IsHexNumeral part value) ∧
    (∀ text mac, parse? text = some mac ↔
      List.Forall₂ (fun part byte => IsHexNumeral part byte.toNat) (parts text) mac.bytes) ∧
    ∀ mac, parse? (MacAddress.text mac) = some mac :=
  ⟨fun _ => isSome_parse?_iff, fun _ _ => parse?_eq_some, parse?_text⟩

example : (parse? "0-1A:+2b:0003c-4D:5E").map bytes =
    some [0x00, 0x1A, 0x2B, 0x3C, 0x4D, 0x5E] := by
  decide +kernel

end MacAddress

end OnDemand
