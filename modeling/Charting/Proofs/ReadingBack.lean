import Charting.Proofs.LabelLength
import Mathlib.Algebra.Ring.Int.Defs
import Mathlib.Algebra.Ring.Nat

namespace Charting

namespace Numeral

theorem digit_eq (n : Nat) : digit n = Nat.digitChar (n % 10) := by
  have digits : ∀ k < 10, Char.ofNat ('0'.toNat + k) = Nat.digitChar k := by decide
  exact digits (n % 10) (Nat.mod_lt n (by decide))

theorem ofNat_eq (n : Nat) : ofNat n = Nat.toDigits 10 n := by
  induction n using Nat.strongRecOn with
  | ind n ih =>
    rw [ofNat, Nat.toDigits_eq_if (by decide), digit_eq]
    by_cases short : n < 10
    · rw [if_pos short, if_pos short, Nat.mod_eq_of_lt short]
    · rw [if_neg short, if_neg short, ih (n / 10) (by omega)]

theorem padded_isDigit {places n : Nat} {c : Char} (member : c ∈ padded places n) : c.isDigit := by
  induction places generalizing n with
  | zero => cases member
  | succ places ih =>
    rcases List.mem_append.mp member with earlier | last
    · exact ih earlier
    · rw [List.mem_singleton.mp last, digit_eq, Nat.isDigit_digitChar]
      exact decide_eq_true (Nat.mod_lt n (by decide))

theorem ofDigitChars_padded (places n : Nat) : Nat.ofDigitChars 10 (padded places n) 0 = n % 10 ^ places := by
  induction places generalizing n with
  | zero => rw [padded, Nat.ofDigitChars_nil, Nat.pow_zero, Nat.mod_one]
  | succ places ih =>
    have last := Nat.mod_lt n (show 0 < 10 by decide)
    rw [padded, Nat.ofDigitChars_append, ih, digit_eq, Nat.ofDigitChars_cons_digitChar_of_lt_ten last,
      Nat.ofDigitChars_nil, Nat.pow_succ', Nat.mod_mul, Nat.add_comm]

def minus (value : Int) : List Char :=
  if value < 0 then ['-'] else []

theorem ofInt_eq (value : Int) : ofInt value = minus value ++ ofNat value.natAbs := by
  unfold ofInt minus
  split <;> rfl

theorem ofInt_eq_toString (value : Int) : String.ofList (ofInt value) = toString value := by
  rw [Int.toString_eq_repr, Int.repr_eq_if, ofInt_eq, minus, ofNat_eq, String.ofList_append]
  by_cases negative : value < 0
  · rw [if_pos negative, if_neg (by omega), show (-value).toNat = value.natAbs by omega]
    rfl
  · rw [if_neg negative, if_pos (by omega), show value.toNat = value.natAbs by omega]
    exact String.empty_append

def read : List Char → Int
  | '-' :: digits => -(Nat.ofDigitChars 10 digits 0 : Int)
  | digits => Nat.ofDigitChars 10 digits 0

theorem read_minus {value : Int} {digits : List Char} (plain : ∀ c ∈ digits, c.isDigit) (factor : Nat)
    (magnitude : Nat.ofDigitChars 10 digits 0 = value.natAbs * factor) :
    read (minus value ++ digits) = value * factor := by
  by_cases negative : value < 0
  · have signed : read (minus value ++ digits) = -(Nat.ofDigitChars 10 digits 0 : Int) := by
      rw [minus, if_pos negative]
      rfl
    rw [signed, magnitude, Int.natCast_mul, Int.ofNat_natAbs_of_nonpos (by omega), Int.neg_mul, Int.neg_neg]
  · have unsigned : read (minus value ++ digits) = Nat.ofDigitChars 10 digits 0 := by
      rw [minus, if_neg negative, List.nil_append]
      unfold read
      split
      · cases plain '-' List.mem_cons_self
      · rfl
    rw [unsigned, magnitude, Int.natCast_mul, Int.natAbs_of_nonneg (by omega)]

theorem ofDigitChars_ofNat (n : Nat) : Nat.ofDigitChars 10 (ofNat n) 0 = n := by
  rw [ofNat_eq, Nat.ofDigitChars_ten_toDigits]

theorem ofNat_isDigit {n : Nat} {c : Char} (member : c ∈ ofNat n) : c.isDigit := by
  rw [ofNat_eq] at member
  exact Nat.isDigit_of_mem_toDigits (by decide) (by decide) member

end Numeral

namespace Axis

-- The value that a text shows, from the power of ten of the axis and the number of characters behind the separator.
def decode (exponent : Int) (behind : Nat) (text : String) : Int :=
  if 0 ≤ exponent then Numeral.read text.toList / 10 ^ exponent.toNat
  else Numeral.read (text.toList.eraseIdx (text.length - (behind + 1)))

variable {axis : Axis}

theorem digits_up (up : 0 ≤ axis.exponent) (separator : Char) (value : Int) :
    axis.digits separator value =
      Numeral.minus value ++ (Numeral.ofNat value.natAbs ++ List.replicate axis.exponent.toNat '0') := by
  rw [digits, if_pos up, Numeral.ofInt_eq, List.append_assoc]

theorem digits_down (down : axis.exponent < 0) (separator : Char) (value : Int) :
    axis.digits separator value =
      Numeral.minus value ++ Numeral.ofNat (value.natAbs / 10 ^ axis.places) ++
        separator :: Numeral.padded axis.places (value.natAbs % 10 ^ axis.places) := by
  rw [digits, if_neg (by omega)]
  rfl

theorem read_digits_up (up : 0 ≤ axis.exponent) (separator : Char) (value : Int) :
    Numeral.read (axis.digits separator value) = value * 10 ^ axis.exponent.toNat := by
  have plain : ∀ c ∈ Numeral.ofNat value.natAbs ++ List.replicate axis.exponent.toNat '0', c.isDigit := by
    intro c member
    rcases List.mem_append.mp member with numeral | zero
    · exact Numeral.ofNat_isDigit numeral
    · rw [List.eq_of_mem_replicate zero]
      rfl
  rw [digits_up up, Numeral.read_minus plain (10 ^ axis.exponent.toNat)]
  · rw [Int.natCast_pow]
    rfl
  · rw [Nat.ofDigitChars_append, Numeral.ofDigitChars_ofNat, Nat.ofDigitChars_replicate_zero, Nat.mul_comm]

theorem read_digits_down (down : axis.exponent < 0) (separator : Char) (value : Int) :
    Numeral.read ((axis.digits separator value).eraseIdx
      ((axis.digits separator value).length - (axis.places + 1))) = value := by
  let whole := Numeral.ofNat (value.natAbs / 10 ^ axis.places)
  let fraction := Numeral.padded axis.places (value.natAbs % 10 ^ axis.places)
  have erased : (axis.digits separator value).eraseIdx ((axis.digits separator value).length - (axis.places + 1)) =
      Numeral.minus value ++ (whole ++ fraction) := by
    rw [digits_down down, List.length_append, List.length_cons, Numeral.length_padded, Nat.add_sub_cancel,
      List.eraseIdx_append_of_length_le (Nat.le_refl _), Nat.sub_self, List.eraseIdx_cons_zero, List.append_assoc]
  have plain : ∀ c ∈ whole ++ fraction, c.isDigit := by
    intro c member
    exact (List.mem_append.mp member).elim Numeral.ofNat_isDigit Numeral.padded_isDigit
  have magnitude : Nat.ofDigitChars 10 (whole ++ fraction) 0 = value.natAbs * 1 := by
    rw [Nat.ofDigitChars_append, Numeral.ofDigitChars_ofNat, Nat.ofDigitChars_eq_ofDigitChars_zero,
      Numeral.length_padded, Numeral.ofDigitChars_padded, Nat.mod_mod, Nat.div_add_mod, Nat.mul_one]
  rw [erased, Numeral.read_minus plain 1 magnitude]
  exact Int.mul_one value

theorem decode_digits (axis : Axis) (separator : Char) (value : Int) :
    decode axis.exponent axis.places (String.ofList (axis.digits separator value)) = value := by
  unfold decode
  rw [String.length_ofList, String.toList_ofList]
  by_cases up : 0 ≤ axis.exponent
  · rw [if_pos up, read_digits_up up]
    exact Int.mul_ediv_cancel value (Int.pow_ne_zero (by decide))
  · rw [if_neg up]
    exact read_digits_down (by omega) separator value

theorem ofList_digits_up (up : 0 ≤ axis.exponent) (separator : Char) (value : Int) :
    String.ofList (axis.digits separator value) =
      toString value ++ String.ofList (List.replicate axis.exponent.toNat '0') := by
  rw [← Numeral.ofInt_eq_toString, ← String.ofList_append, Numeral.ofInt_eq, List.append_assoc, digits_up up]

theorem ofList_digits_down (down : axis.exponent < 0) (separator : Char) (value : Int) :
    String.ofList (axis.digits separator value) =
      (if value < 0 then "-" else "") ++ toString (value.natAbs / 10 ^ axis.places) ++
        String.ofList (separator :: Numeral.padded axis.places (value.natAbs % 10 ^ axis.places)) := by
  have sign : (if value < 0 then "-" else "") = String.ofList (Numeral.minus value) := by
    unfold Numeral.minus
    split <;> rfl
  rw [sign, Nat.toString_eq_ofList_toDigits, ← Numeral.ofNat_eq, ← String.ofList_append, ← String.ofList_append,
    digits_down down]

theorem format_raw (axis : Axis) (separator : Char) (raw : Int32) :
    axis.format separator raw.toInt = String.ofList (axis.digits separator (raw.toInt + axis.offset.toInt)) := by
  have low := raw.le_toInt
  have high := raw.toInt_lt
  have offsetLow := axis.offset.le_toInt
  have offsetHigh := axis.offset.toInt_lt
  have shown : axis.displayed raw.toInt = raw.toInt + axis.offset.toInt := by
    unfold displayed saturate
    omega
  rw [format, shown]

theorem decode_format (axis : Axis) (separator : Char) (raw : Int32) :
    decode axis.exponent axis.places (axis.format separator raw.toInt) = raw.toInt + axis.offset.toInt := by
  rw [format_raw, decode_digits]

-- What an axis writes for a value of 32 bits, which is shifted by the offset first, and how it is read back. With a
-- power of ten, zeros follow the numeral. With places, a minus is written just for what is below zero, also where the
-- whole part is zero. For one axis no two values have the same text, whatever separates the places in either.
theorem format_legible (axis : Axis) (separator : Char) (raw : Int32) :
    let value := raw.toInt + axis.offset.toInt
    let text := axis.format separator raw.toInt
    (0 ≤ axis.exponent →
      text = toString value ++ String.ofList (List.replicate axis.exponent.toNat '0') ∧
        Numeral.read text.toList = value * 10 ^ axis.exponent.toNat) ∧
      (axis.exponent < 0 →
        ∃ fraction : List Char,
          text = (if value < 0 then "-" else "") ++ toString (value.natAbs / 10 ^ axis.places) ++
              String.ofList (separator :: fraction) ∧
            fraction.length = axis.places ∧ (∀ c ∈ fraction, c.isDigit) ∧
            Nat.ofDigitChars 10 fraction 0 = value.natAbs % 10 ^ axis.places) ∧
      decode axis.exponent axis.places text = value ∧
      ∀ (other : Char) (raw' : Int32), axis.format other raw'.toInt = text → raw' = raw := by
  intro value text
  have written : text = String.ofList (axis.digits separator value) := axis.format_raw separator raw
  refine ⟨?_, ?_, axis.decode_format separator raw, ?_⟩
  · intro up
    rw [written]
    refine ⟨ofList_digits_up up separator value, ?_⟩
    rw [String.toList_ofList, read_digits_up up]
  · intro down
    rw [written]
    refine ⟨_, ofList_digits_down down separator value, Numeral.length_padded _ _, ?_, ?_⟩
    · exact fun c member => Numeral.padded_isDigit member
    · rw [Numeral.ofDigitChars_padded, Nat.mod_mod]
  · intro other raw' same
    have values : raw'.toInt + axis.offset.toInt = value := by
      rw [← axis.decode_format other raw', same, axis.decode_format separator raw]
    exact Int32.toInt_inj.mp (by omega)

example : ({ exponent := -2 } : Axis).format '-' (-5) = "-0-05" ∧ decode (-2) 2 "-0-05" = -5 := by
  decide +kernel

end Axis

end Charting
