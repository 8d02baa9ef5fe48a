import Mathlib.Algebra.Group.Nat.Defs
import WebCompat.Number.Shortest
import WebCompat.Proofs.Json.Literal

/-!
# Decimals of floating-point numbers as literals

The shortest decimal of a number begins with a digit other than zero, unless the
number is zero itself.  So it is written without needless zeros in front, and is a
number in a JSON document.
-/

namespace WebCompat

/-!
## Parts of number literals
-/

namespace Json

structure AreDigits (text : List Char) : Prop where
  ne_nil : text ≠ []
  isDigit : ∀ c ∈ text, c.isDigit = true

def IsWhole (text : List Char) : Prop :=
  text = ['0'] ∨ AreDigits text ∧ text.head? ≠ some '0'

def IsFraction (text : List Char) : Prop :=
  text = [] ∨ ∃ digits, text = '.' :: digits ∧ AreDigits digits

def IsExponent (text : List Char) : Prop :=
  text = [] ∨ ∃ sign digits, text = 'e' :: (sign ++ digits) ∧ (sign = [] ∨ sign = ['-']) ∧
    AreDigits digits

def IsUnsigned (text : List Char) : Prop :=
  ∃ whole fraction exponent, text = whole ++ fraction ++ exponent ∧
    IsWhole whole ∧ IsFraction fraction ∧ IsExponent exponent

theorem areDigits_toDigits (n : Nat) : AreDigits (Nat.toDigits 10 n) :=
  ⟨Nat.toDigits_ne_nil, all_isDigit_toDigits n⟩

theorem AreDigits.append_left {text zeros : List Char} (h : AreDigits text)
    (hzeros : ∀ c ∈ zeros, c.isDigit = true) : AreDigits (zeros ++ text) :=
  ⟨List.append_ne_nil_of_right_ne_nil _ h.ne_nil, List.forall_mem_append.mpr ⟨hzeros, h.isDigit⟩⟩

theorem AreDigits.append_right {text zeros : List Char} (h : AreDigits text)
    (hzeros : ∀ c ∈ zeros, c.isDigit = true) : AreDigits (text ++ zeros) :=
  ⟨List.append_ne_nil_of_left_ne_nil h.ne_nil _, List.forall_mem_append.mpr ⟨h.isDigit, hzeros⟩⟩

theorem AreDigits.take {text : List Char} (h : AreDigits text) {count : Nat} (hcount : 0 < count) :
    AreDigits (text.take count) := by
  refine ⟨?_, fun c hc => h.isDigit c (List.mem_of_mem_take hc)⟩
  rw [Ne, List.take_eq_nil_iff, not_or]
  exact ⟨Nat.ne_of_gt hcount, h.ne_nil⟩

theorem AreDigits.drop {text : List Char} (h : AreDigits text) {count : Nat}
    (hcount : count < text.length) : AreDigits (text.drop count) := by
  refine ⟨?_, fun c hc => h.isDigit c (List.mem_of_mem_drop hc)⟩
  rw [Ne, List.drop_eq_nil_iff]
  exact Nat.not_le.mpr hcount

theorem AreDigits.head?_ne {text : List Char} (h : AreDigits text) {c : Char}
    (hc : c.isDigit = false) : text.head? ≠ some c := by
  intro hhead
  have hdigit := h.isDigit c (List.mem_of_mem_head? hhead)
  rw [hc] at hdigit
  cases hdigit

theorem AreDigits.someDigits_append {digits : List Char} (h : AreDigits digits) {rest : List Char}
    (hrest : ∀ c ∈ rest.head?, c.isDigit = false) :
    someDigits (digits ++ rest) = some (digits, rest) := by
  have htake := List.takeWhile_eq_self_iff.mpr h.isDigit
  have hdrop := List.dropWhile_eq_nil_iff.mpr h.isDigit
  rw [someDigits, takeWhile_append_of_head hrest, dropWhile_append_of_head hrest, htake, hdrop]
  cases digits with
  | nil =>
      exact absurd rfl h.ne_nil
  | cons c digits =>
      rfl

theorem AreDigits.someDigits {digits : List Char} (h : AreDigits digits) :
    someDigits digits = some (digits, []) := by
  have hdigits : Json.someDigits (digits ++ []) = some (digits, []) :=
    h.someDigits_append (by simp)
  rwa [List.append_nil] at hdigits

theorem IsWhole.wholePart_append {whole : List Char} (h : IsWhole whole) {rest : List Char}
    (hrest : ∀ c ∈ rest.head?, c.isDigit = false) :
    wholePart (whole ++ rest) = some (whole, rest) := by
  rcases h with rfl | ⟨hdigits, hhead⟩
  · rfl
  · rw [wholePart_of_head?, hdigits.someDigits_append hrest]
    rwa [List.head?_append_of_ne_nil _ hdigits.ne_nil]

theorem IsExponent.head? {exponent : List Char} (h : IsExponent exponent) :
    ∀ c ∈ exponent.head?, c = 'e' := by
  rcases h with rfl | ⟨sign, digits, rfl, _⟩
  · intro c hc
    cases hc
  · rintro c ⟨⟩
    rfl

theorem IsFraction.head?_append {fraction : List Char} (h : IsFraction fraction)
    {rest : List Char} : ∀ c ∈ (fraction ++ rest).head?, c = '.' ∨ c ∈ rest.head? := by
  rcases h with rfl | ⟨digits, rfl, _⟩
  · intro c hc
    exact .inr hc
  · rintro c ⟨⟩
    exact .inl rfl

theorem IsFraction.fractionPart_append {fraction : List Char} (h : IsFraction fraction)
    {rest : List Char} (hrest : ∀ c ∈ rest.head?, c = 'e') :
    fractionPart (fraction ++ rest) = some (fraction, rest) := by
  rcases h with rfl | ⟨digits, rfl, hdigits⟩
  · apply fractionPart_of_head?
    intro hhead
    exact absurd (hrest '.' hhead) (by decide)
  · have hnot : ∀ c ∈ rest.head?, c.isDigit = false := by
      intro c hc
      rw [hrest c hc]
      decide
    rw [List.cons_append, fractionPart, hdigits.someDigits_append hnot]
    rfl

theorem IsExponent.exponentPart {exponent : List Char} (h : IsExponent exponent) :
    exponentPart exponent = some (exponent, []) := by
  rcases h with rfl | ⟨sign, digits, rfl, hsign, hdigits⟩
  · rfl
  · have hpart : signPart (sign ++ digits) = some (sign, digits) := by
      rcases hsign with rfl | rfl
      · exact signPart_of_head? (hdigits.head?_ne (by decide)) (hdigits.head?_ne (by decide))
      · rfl
    rw [Json.exponentPart, if_pos (.inl rfl)]
    refine Option.bind_eq_some_iff.mpr ⟨_, hpart, ?_⟩
    exact Option.bind_eq_some_iff.mpr ⟨_, hdigits.someDigits, rfl⟩

theorem IsUnsigned.unsignedNumber {text : List Char} (h : IsUnsigned text) :
    unsignedNumber text = some (text, []) := by
  obtain ⟨whole, fraction, exponent, rfl, hwhole, hfraction, hexponent⟩ := h
  have hbehind : ∀ c ∈ (fraction ++ exponent).head?, c.isDigit = false := by
    intro c hc
    rcases hfraction.head?_append c hc with rfl | hexp
    · decide
    · rw [hexponent.head? c hexp]
      decide
  rw [Json.unsignedNumber, List.append_assoc, hwhole.wholePart_append hbehind]
  refine Option.bind_eq_some_iff.mpr ⟨_, rfl, ?_⟩
  refine Option.bind_eq_some_iff.mpr ⟨_, hfraction.fractionPart_append hexponent.head?, ?_⟩
  refine Option.bind_eq_some_iff.mpr ⟨_, hexponent.exponentPart, ?_⟩
  rw [← List.append_assoc]
  rfl

theorem IsUnsigned.numberLiteral {text : List Char} (h : IsUnsigned text) :
    numberLiteral text = some (text, []) := by
  rw [numberLiteral_of_head?, h.unsignedNumber]
  obtain ⟨whole, fraction, exponent, rfl, hwhole, _, _⟩ := h
  rcases hwhole with rfl | ⟨hdigits, _⟩
  · simp
  · rw [List.append_assoc, List.head?_append_of_ne_nil _ hdigits.ne_nil]
    exact hdigits.head?_ne (by decide)

theorem IsUnsigned.numberLiteral_minus {text : List Char} (h : IsUnsigned text) :
    Json.numberLiteral ('-' :: text) = some ('-' :: text, []) := by
  rw [Json.numberLiteral, h.unsignedNumber]
  rfl

end Json

/-!
## Written decimals
-/

namespace Number

open Json (AreDigits IsWhole IsFraction IsExponent IsUnsigned areDigits_toDigits)

theorem isDigit_of_mem_replicate (count : Nat) :
    ∀ c ∈ List.replicate count '0', c.isDigit = true := by
  intro c hc
  rw [List.eq_of_mem_replicate hc]
  decide

theorem isUnsigned_withFraction {whole digits : List Char} (hwhole : IsWhole whole)
    (hdigits : AreDigits digits) : IsUnsigned (whole ++ '.' :: digits) :=
  ⟨whole, '.' :: digits, [], (List.append_nil _).symm, hwhole, .inr ⟨digits, rfl, hdigits⟩,
    .inl rfl⟩

namespace Decimal

/-- Whether a decimal is not a zero with digits behind it. -/
def IsPlain (decimal : Decimal) : Prop :=
  decimal.digits = 0 → decimal.power ≤ 0

theorem isWhole_positional {decimal : Decimal} (h : decimal.IsPlain) (hpower : 0 ≤ decimal.power) :
    IsWhole decimal.positional.toList := by
  rw [positional, if_pos hpower, String.toList_ofList]
  by_cases hzero : decimal.digits = 0
  · have hnone : decimal.power.toNat = 0 := by
      have hle := h hzero
      omega
    rw [hzero, hnone]
    exact .inl rfl
  · right
    refine ⟨(areDigits_toDigits _).append_right (isDigit_of_mem_replicate _), ?_⟩
    rw [List.head?_append_of_ne_nil _ Nat.toDigits_ne_nil]
    exact Json.head?_toDigits_ne_zero (Nat.pos_of_ne_zero hzero)

theorem isUnsigned_positional {decimal : Decimal} (hpower : decimal.power < 0) :
    IsUnsigned decimal.positional.toList := by
  rw [positional, if_neg (by omega), String.toList_ofList]
  have hplaces : 0 < (-decimal.power).toNat := by
    omega
  have hdigits := areDigits_toDigits decimal.digits
  generalize (-decimal.power).toNat = places at hplaces
  by_cases hlong : places < (Nat.toDigits 10 decimal.digits).length
  · have hzero : 0 < decimal.digits := by
      apply Nat.pos_of_ne_zero
      intro hzero
      rw [hzero, Nat.toDigits_zero, List.length_singleton] at hlong
      omega
    have hnone : places + 1 - (Nat.toDigits 10 decimal.digits).length = 0 := by
      omega
    rw [hnone, List.replicate_zero, List.nil_append]
    apply isUnsigned_withFraction
    · refine .inr ⟨hdigits.take (by omega), ?_⟩
      rw [List.head?_take, if_neg (by omega)]
      exact Json.head?_toDigits_ne_zero hzero
    · exact hdigits.drop (by omega)
  · obtain ⟨count, hcount⟩ : ∃ count,
        places + 1 - (Nat.toDigits 10 decimal.digits).length = count + 1 :=
      Nat.exists_eq_succ_of_ne_zero (by omega)
    have hone : (List.replicate (count + 1) '0' ++ Nat.toDigits 10 decimal.digits).length - places =
        1 := by
      rw [List.length_append, List.length_replicate]
      omega
    rw [hcount, hone]
    apply isUnsigned_withFraction (.inl rfl)
    exact hdigits.append_left (isDigit_of_mem_replicate count)

theorem isExponent_toString (power : Int) : IsExponent ('e' :: (toString power).toList) := by
  right
  cases power with
  | ofNat n =>
      refine ⟨[], Nat.toDigits 10 n, ?_, .inl rfl, areDigits_toDigits n⟩
      rw [List.nil_append, ← Json.toList_toString]
      rfl
  | negSucc n =>
      refine ⟨['-'], Nat.toDigits 10 (n + 1), ?_, .inr rfl, areDigits_toDigits _⟩
      have htext : toString (Int.negSucc n) = "-" ++ toString (n + 1) :=
        String.toByteArray_inj.mp rfl
      rw [htext, String.toList_append, Json.toList_toString]
      rfl

theorem isWhole_singleton {c : Char} (h : c.isDigit = true) : IsWhole [c] := by
  by_cases hzero : c = '0'
  · exact .inl (by rw [hzero])
  · refine .inr ⟨⟨List.cons_ne_nil _ _, by simpa using h⟩, ?_⟩
    intro hhead
    exact hzero (Option.some.inj hhead)

theorem isUnsigned_withExponent {digits : List Char} (h : AreDigits digits) (power : Int) :
    IsUnsigned (String.ofList (digits.take 1) ++
      (if (String.ofList (digits.drop 1)).isEmpty then ""
        else "." ++ String.ofList (digits.drop 1)) ++
      "e" ++ toString power).toList := by
  cases digits with
  | nil =>
      exact absurd rfl h.ne_nil
  | cons first more =>
      have hdigit := h.isDigit
      rw [List.forall_mem_cons] at hdigit
      cases more with
      | nil =>
          refine ⟨[first], [], 'e' :: (toString power).toList, ?_, isWhole_singleton hdigit.left,
            .inl rfl, isExponent_toString power⟩
          simp
      | cons second more =>
          refine ⟨[first], '.' :: second :: more, 'e' :: (toString power).toList, ?_,
            isWhole_singleton hdigit.left, .inr ⟨_, rfl, List.cons_ne_nil _ _, hdigit.right⟩,
            isExponent_toString power⟩
          simp

theorem isUnsigned_scientific {decimal : Decimal} (h : decimal.IsPlain) :
    IsUnsigned decimal.scientific.toList := by
  rw [scientific]
  dsimp only
  split
  · rename_i hcase
    refine ⟨decimal.positional.toList, ".0".toList, [], ?_, isWhole_positional h hcase.left,
      .inr ⟨['0'], rfl, List.cons_ne_nil _ _, List.forall_mem_singleton.mpr rfl⟩, .inl rfl⟩
    rw [String.toList_append, List.append_nil]
  · rename_i hnot
    split
    · apply isUnsigned_positional
      omega
    · exact isUnsigned_withExponent (areDigits_toDigits decimal.digits) _

end Decimal

/-!
## Digits of shortest decimals
-/

section

variable {numerator denominator : Nat} {power : Int}

/-- Whether a quotient is at least a power of ten. -/
def Reaches (numerator denominator : Nat) (power : Int) : Prop :=
  denominator * 10 ^ power.toNat ≤ numerator * 10 ^ (-power).toNat

theorem reaches_of_nonneg (h : 0 ≤ power) :
    Reaches numerator denominator power ↔ denominator * 10 ^ power.toNat ≤ numerator := by
  rw [Reaches, Int.toNat_of_nonpos (Int.neg_nonpos_of_nonneg h), Nat.pow_zero, Nat.mul_one]

theorem reaches_of_nonpos (h : power ≤ 0) :
    Reaches numerator denominator power ↔ denominator ≤ numerator * 10 ^ (-power).toNat := by
  rw [Reaches, Int.toNat_of_nonpos h, Nat.pow_zero, Nat.mul_one]

theorem Reaches.sub_one (h : Reaches numerator denominator power) :
    Reaches numerator denominator (power - 1) := by
  by_cases hpower : power ≤ 0
  · have hshift : (-(power - 1)).toNat = (-power).toNat + 1 := by
      omega
    rw [reaches_of_nonpos (by omega), hshift, Nat.pow_succ, ← Nat.mul_assoc]
    exact ((reaches_of_nonpos hpower).mp h).trans (Nat.le_mul_of_pos_right _ (by decide))
  · have hshift : power.toNat = (power - 1).toNat + 1 := by
      omega
    rw [reaches_of_nonneg (by omega)]
    rw [reaches_of_nonneg (by omega), hshift, Nat.pow_succ, ← Nat.mul_assoc] at h
    exact (Nat.le_mul_of_pos_right _ (by decide)).trans h

theorem pow_length_toDigits_le {n : Nat} (h : 0 < n) :
    10 ^ ((Nat.toDigits 10 n).length - 1) ≤ n := by
  by_cases hone : (Nat.toDigits 10 n).length - 1 = 0
  · rw [hone]
    exact h
  · rw [← Nat.not_lt, ← Nat.length_toDigits_le_iff (by decide) (Nat.pos_of_ne_zero hone)]
    omega

theorem lt_pow_length_toDigits (n : Nat) : n < 10 ^ (Nat.toDigits 10 n).length :=
  (Nat.length_toDigits_le_iff (by decide) (List.length_pos_iff.mpr Nat.toDigits_ne_nil)).mp
    (Nat.le_refl _)

/-- The lengths of two numbers tell their quotient but for one power of ten. -/
theorem reaches_rough (h : 0 < numerator) (denominator : Nat) :
    Reaches numerator denominator
      ((Nat.toDigits 10 numerator).length - (Nat.toDigits 10 denominator).length - 1) := by
  have hlow := pow_length_toDigits_le h
  have hhigh := lt_pow_length_toDigits denominator
  have hpos : 0 < (Nat.toDigits 10 numerator).length :=
    List.length_pos_iff.mpr Nat.toDigits_ne_nil
  generalize (Nat.toDigits 10 numerator).length = longer at *
  generalize (Nat.toDigits 10 denominator).length = shorter at *
  generalize hrough : (longer - shorter - 1 : Int) = rough
  have hsame : shorter + rough.toNat = longer - 1 + (-rough).toNat := by
    omega
  calc denominator * 10 ^ rough.toNat
      ≤ 10 ^ shorter * 10 ^ rough.toNat := Nat.mul_le_mul_right _ hhigh.le
    _ = 10 ^ (longer - 1) * 10 ^ (-rough).toNat := by rw [← Nat.pow_add, hsame, Nat.pow_add]
    _ ≤ numerator * 10 ^ (-rough).toNat := Nat.mul_le_mul_right _ hlow

theorem reaches_leadingPower (h : 0 < numerator) :
    Reaches numerator denominator (leadingPower numerator denominator) := by
  have hrough := reaches_rough h denominator
  unfold leadingPower
  extract_lets rough reached
  split
  · rename_i hreached
    by_cases hsign : 0 ≤ rough
    · exact (reaches_of_nonneg hsign).mpr ((iff_of_eq (if_pos hsign)).mp hreached)
    · exact (reaches_of_nonpos (by omega)).mpr ((iff_of_eq (if_neg hsign)).mp hreached)
  · exact hrough

theorem Reaches.digits_neighbours_pos (h : Reaches numerator denominator power)
    (hdenominator : 0 < denominator) :
    0 < (neighbours numerator denominator power).1.digits := by
  rw [neighbours]
  dsimp only
  by_cases hpower : 0 ≤ power
  · rw [if_pos hpower]
    exact Nat.div_pos ((reaches_of_nonneg hpower).mp h)
      (Nat.mul_pos hdenominator (Nat.pow_pos (by decide)))
  · rw [if_neg hpower]
    exact Nat.div_pos ((reaches_of_nonpos (by omega)).mp h) hdenominator

theorem Reaches.digits_shortestFrom_pos (format : Format) (number : Magnitude) (more : Nat)
    (h : Reaches numerator denominator power) (hdenominator : 0 < denominator) :
    0 < (shortestFrom format number numerator denominator power more).digits := by
  induction more generalizing power with
  | zero =>
      exact h.digits_neighbours_pos hdenominator
  | succ more ih =>
      have hlower := h.digits_neighbours_pos hdenominator
      have hupper : 0 < (neighbours numerator denominator power).2.digits :=
        Nat.succ_pos _
      rw [shortestFrom]
      dsimp only
      split_ifs
      · exact hupper
      · exact hlower
      · exact hlower
      · exact hupper
      · exact ih h.sub_one

end

theorem digits_shortest_pos (format : Format) {significand : Nat} (h : significand ≠ 0)
    (exponent : Int) : 0 < (shortest format significand exponent).digits := by
  rw [shortest, if_neg h]
  have hpow : ∀ n : Nat, 0 < Nat.pow 2 n := fun n => Nat.pow_pos (by decide)
  have hsignificand := Nat.pos_of_ne_zero h
  by_cases hexponent : 0 ≤ exponent
  · rw [if_pos hexponent]
    exact (reaches_leadingPower (Nat.mul_pos hsignificand (hpow _))).digits_shortestFrom_pos
      _ _ _ (by decide)
  · rw [if_neg hexponent]
    exact (reaches_leadingPower hsignificand).digits_shortestFrom_pos _ _ _ (hpow _)

theorem isPlain_shortest (format : Format) (significand : Nat) (exponent : Int) :
    (shortest format significand exponent).IsPlain := by
  intro hdigits
  by_cases h : significand = 0
  · subst h
    exact Int.le_refl 0
  · exact absurd hdigits (digits_shortest_pos format h exponent).ne'

theorem Floating.numberLiteral_literal (negative : Bool) (significand : Nat) (exponent : Int) :
    Json.numberLiteral (literal (.signed negative (.finite significand exponent))).toList =
      some ((literal (.signed negative (.finite significand exponent))).toList, []) := by
  have hunsigned :=
    Decimal.isUnsigned_scientific (isPlain_shortest .single significand exponent)
  rw [literal, String.toList_append]
  cases negative with
  | false =>
      exact hunsigned.numberLiteral
  | true =>
      exact hunsigned.numberLiteral_minus

end Number
end WebCompat
