import Automation.Number.Conversion
import Automation.Proofs.Fallible
import Automation.Proofs.Text.Classes
import Automation.Proofs.Value.Printing

/-!
How long an integer can be that a value stands for.

A text is read as an integer only if its digits are not too many, and the largest double has far
fewer. So a value that is printed stands for no integer that is not.
-/

namespace Automation

theorem Text.decimalValue?_lt {c : Char} {digit : Nat}
    (isValue : Text.decimalValue? c = some digit) : digit < 10 := by
  simp only [Text.decimalValue?] at isValue
  split at isValue
  · split at isValue
    · next ascii =>
        have atMost := Text.toNat_le_toNat (of_decide_eq_true (Bool.and_eq_true_iff.mp ascii).2)
        cases isValue
        exact Nat.lt_succ_of_le (Nat.sub_le_sub_right atMost '0'.toNat)
    · cases isValue
  · obtain ⟨base, found, rfl⟩ := Option.map_eq_some_iff.mp isValue
    have within := List.find?_some found
    simp only [Bool.and_eq_true, decide_eq_true_eq] at within
    omega

theorem lt_ten_of_mem_takeSpacedDigits {text : List Char} {afterDigit : Bool} :
    ∀ digit ∈ (takeSpacedDigits afterDigit text).1, digit < 10 := by
  induction text generalizing afterDigit with
  | nil => exact nofun
  | cons c rest inductionHypothesis =>
      intro digit member
      rw [takeSpacedDigits] at member
      split at member
      · next first isFirst =>
          rcases List.mem_cons.mp member with rfl | further
          · exact Text.decimalValue?_lt isFirst
          · exact inductionHypothesis digit further
      · split at member
        · split at member
          · cases member
          · exact inductionHypothesis digit member
        · cases member

/-- A number has at most as many digits as it is read from. -/
theorem ofDigits_lt {digits : List Nat} (small : ∀ digit ∈ digits, digit < 10) :
    ofDigits digits < Nat.pow 10 digits.length := by
  have further (start : Nat) :
      digits.foldl (fun value digit => 10 * value + digit) start <
        (start + 1) * Nat.pow 10 digits.length := by
    induction digits generalizing start with
    | nil => exact Nat.lt_of_lt_of_eq (Nat.lt_succ_self start) (Nat.mul_one _).symm
    | cons digit rest inductionHypothesis =>
        rw [List.forall_mem_cons] at small
        calc rest.foldl (fun value digit => 10 * value + digit) (10 * start + digit)
          _ < (10 * start + digit + 1) * Nat.pow 10 rest.length := inductionHypothesis small.2 _
          _ ≤ (start + 1) * 10 * Nat.pow 10 rest.length := by
              apply Nat.mul_le_mul_right
              omega
          _ = (start + 1) * Nat.pow 10 (digit :: rest).length := by
              rw [Nat.mul_assoc, List.length_cons, Nat.pow_eq, Nat.pow_eq, Nat.pow_succ,
                Nat.mul_comm 10]
  exact Nat.lt_of_lt_of_eq (further 0) (Nat.one_mul _)

theorem pow_le_pow {base other low high : Nat} (positive : 0 < base) (bases : base ≤ other)
    (exponents : low ≤ high) : Nat.pow base low ≤ Nat.pow other high :=
  Nat.le_trans (Nat.pow_le_pow_right positive exponents) (Nat.pow_le_pow_left bases high)

namespace Value

theorem isPrintableInteger_of_readInteger {text : List Char} {number : Int}
    (isRead : readInteger text = .ok number) : isPrintableInteger number = true := by
  simp only [readInteger] at isRead
  split at isRead
  · cases isRead
  · next digits rest _ taken =>
      have small : ∀ digit ∈ digits, digit < 10 := by
        have all := @lt_ten_of_mem_takeSpacedDigits (takeSign (Text.trimSpacing text)).2 false
        rwa [taken] at all
      split at isRead
      · rw [integerOfDigits] at isRead
        split at isRead
        · cases isRead
        · next short =>
            rw [isPrintableInteger_iff]
            have size : number.natAbs = ofDigits digits := by
              cases isRead
              split <;> simp
            rw [size]
            apply Nat.lt_of_lt_of_le (ofDigits_lt small)
            exact pow_le_pow (by decide) (Nat.le_refl _) (Nat.not_lt.mp short)
      · cases isRead

end Value

namespace Binary64

theorem significand_lt (magnitude : Nat) : significand magnitude < Nat.pow 2 53 := by
  have double : Nat.pow 2 53 = Nat.pow 2 52 + Nat.pow 2 52 := rfl
  unfold significand
  split
  · next small =>
      have below : magnitude < Nat.pow 2 52 := (Nat.div_eq_zero_iff_lt (by decide)).mp small
      omega
  · have below := Nat.mod_lt magnitude (show Nat.pow 2 52 > 0 by decide)
    omega

theorem natAbs_num_scaled_le (factor exponent : Int) :
    (scaled factor exponent).num.natAbs ≤ factor.natAbs * Nat.pow 2 exponent.toNat := by
  unfold scaled
  split
  · apply Nat.le_of_eq
    rw [Rat.num_intCast, Int.natAbs_mul, Int.natAbs_natCast]
  · rw [Rat.num_mkRat]
    split
    · exact Nat.zero_le _
    · calc (factor / _).natAbs
        _ ≤ factor.natAbs := Int.natAbs_ediv_le_natAbs _ _
        _ ≤ factor.natAbs * Nat.pow 2 exponent.toNat :=
            Nat.le_mul_of_pos_right _ (Nat.pow_pos (by decide))

theorem scale_le (magnitude : Fin magnitudeBound) : scale magnitude.val ≤ 971 := by
  have below : magnitude.val / Nat.pow 2 52 < 2047 :=
    Nat.div_lt_of_lt_mul (Nat.lt_of_lt_of_eq magnitude.isLt (by decide))
  unfold scale
  split <;> omega

/-- A number without its fraction has at most 1024 bits. -/
theorem natAbs_lt_of_truncate? {number : Binary64} {whole : Int} {bits : Nat}
    (isWhole : number.truncate? = some whole) (enough : 1024 ≤ bits) :
    whole.natAbs < Nat.pow 2 bits := by
  cases number with
  | finite negative magnitude =>
      cases isWhole
      have factor (sign : Bool) : (if sign then -(significand magnitude : Int)
          else significand magnitude).natAbs = significand magnitude := by
        cases sign <;> simp
      have exponent : 53 + (scale magnitude).toNat ≤ bits := by
        have bound := scale_le magnitude
        omega
      have cut := natAbs_num_scaled_le
        (if negative then -(significand magnitude : Int) else significand magnitude)
        (scale magnitude)
      rw [factor] at cut
      rw [Int.natAbs_tdiv]
      apply Nat.lt_of_le_of_lt (Nat.le_trans (Nat.div_le_self _ _) cut)
      calc significand magnitude * Nat.pow 2 (scale magnitude).toNat
        _ < Nat.pow 2 53 * Nat.pow 2 (scale magnitude).toNat :=
            Nat.mul_lt_mul_of_pos_right (significand_lt _) (Nat.pow_pos (by decide))
        _ = Nat.pow 2 (53 + (scale magnitude).toNat) := (Nat.pow_add 2 53 _).symm
        _ ≤ Nat.pow 2 bits := pow_le_pow (by decide) (Nat.le_refl _) exponent
  | _ => cases isWhole

end Binary64

namespace Value

/-- A value that is printed stands for no integer that is not. -/
theorem isPrintableInteger_of_toInteger? {value : Value} {number : Int}
    (printable : value.isPrintable = true) (stands : value.toInteger? = .ok (some number)) :
    isPrintableInteger number = true := by
  cases value with
  | bool truth =>
      cases stands
      cases truth <;> decide
  | int other =>
      cases stands
      exact printable
  | float double =>
      have below : number.natAbs < Nat.pow 2 digitLimit := by
        cases double with
        | infinite => cases stands
        | _ => exact Binary64.natAbs_lt_of_truncate? (Except.ok.inj stands) (by decide)
      rw [isPrintableInteger_iff]
      exact Nat.lt_of_lt_of_le below (pow_le_pow (by decide) (by decide) (Nat.le_refl _))
  | text characters =>
      apply isPrintableInteger_of_readInteger
      exact toOption_eq_some_iff.mp (Except.ok.inj stands)
  | _ => cases stands

end Value
end Automation
