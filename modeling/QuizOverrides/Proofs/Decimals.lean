import Mathlib.Algebra.Group.Nat.Defs
import Mathlib.Tactic.Lemma
import Mathlib.Tactic.SplitIfs
import QuizOverrides.Number.Whole

set_option autoImplicit false

/-!
# Written numbers

Decimal digits read back as the number that they write, and so does the text of a whole number with
53 significant bits. Such a text is found by trying ever more digits; up to 53 bits nothing is
rounded, so that digits read back as a number only if they write it.

## Main results

* `QuizOverrides.Text.digitsValue_digits` — digits are read back.
* `QuizOverrides.Text.digitsValue_injective` — so many digits write a number in one way only.
* `QuizOverrides.Number.Ratio.nearest_ofNat` — nothing is rounded up to 53 bits.
* `QuizOverrides.Number.decimalText_eq` — the text of a number of at most fifteen digits.
-/

namespace QuizOverrides

open Text

/-! ### Digits -/

namespace Text

/-- **Digits read back as the number** that they write. -/
theorem digitsValue_digits (n : Nat) : digitsValue (digits n) = n :=
  Nat.ofDigitChars_ten_toDigits

/-- A decimal number is written in digits. -/
lemma isDigit_of_mem_digits {n : Nat} {c : Char} (h : c ∈ digits n) : isDigit c = true := by
  have hdigit := Nat.isDigit_of_mem_toDigits (by decide) (by decide) h
  simpa [isDigit, Char.isDigit, Char.le_def] using hdigit

/-- A decimal number has at least one digit. -/
lemma digits_ne_nil (n : Nat) : digits n ≠ [] := Nat.toDigits_ne_nil

/-- A number below a power of ten has at most as many digits. -/
lemma length_digits_le {n k : Nat} (hk : 0 < k) (h : n < 10 ^ k) : (digits n).length ≤ k :=
  (Nat.length_toDigits_le_iff (by decide) hk).mpr h

/-- A number that is not zero is at least the power of ten of its first digit. -/
lemma pow_length_digits_le {n : Nat} (h : n ≠ 0) : 10 ^ ((digits n).length - 1) ≤ n := by
  by_cases hone : (digits n).length = 1
  · rw [hone, Nat.sub_self, Nat.pow_zero]
    exact Nat.pos_of_ne_zero h
  · refine Nat.le_of_not_lt fun hlt => ?_
    have hpos : 0 < (digits n).length := Nat.length_toDigits_pos
    have hle := length_digits_le (show 0 < (digits n).length - 1 by omega) hlt
    omega

/-- One digit more. -/
lemma digits_ten_mul {n : Nat} (h : n ≠ 0) : digits (10 * n) = digits n ++ ['0'] :=
  (Nat.toDigits_append_toDigits (b := 10) (d := 0) (by decide) (Nat.pos_of_ne_zero h)
    (by decide)).symm

/-- A multiple of a power of ten ends in zeros. -/
lemma digits_mul_pow {n : Nat} (h : n ≠ 0) (e : Nat) :
    digits (n * 10 ^ e) = digits n ++ List.replicate e '0' := by
  induction e with
  | zero => simp
  | succ e ih =>
    have hne : n * 10 ^ e ≠ 0 := Nat.mul_ne_zero h (Nat.ne_of_gt (Nat.pow_pos (by decide)))
    rw [show n * 10 ^ (e + 1) = 10 * (n * 10 ^ e) by rw [Nat.pow_succ]; ac_rfl,
      digits_ten_mul hne, ih, List.replicate_succ', List.append_assoc]

/-! ### Digits and their number -/

/-- The digits are the characters from `0` to `9`. -/
lemma isDigit_iff {c : Char} : isDigit c = true ↔ '0' ≤ c ∧ c ≤ '9' := by
  simp [isDigit]

/-- The first digit counts the most. -/
lemma digitsValue_cons (c : Char) (cs : List Char) :
    digitsValue (c :: cs) = 10 ^ cs.length * digitValue c + digitsValue cs := by
  change Nat.ofDigitChars 10 (c :: cs) 0 = 10 ^ cs.length * digitValue c + Nat.ofDigitChars 10 cs 0
  rw [Nat.ofDigitChars_cons, Nat.ofDigitChars_eq_ofDigitChars_zero, Nat.mul_zero, Nat.zero_add]
  rfl

/-- A digit is worth at most nine. -/
lemma digitValue_le {c : Char} (h : isDigit c = true) : digitValue c ≤ 9 := by
  have hle : c.toNat ≤ '9'.toNat := UInt32.le_iff_toNat_le.mp (isDigit_iff.mp h).2
  unfold digitValue
  exact Nat.sub_le_sub_right hle _

/-- Digits of the same value are the same. -/
lemma digitValue_injective {c d : Char} (hc : isDigit c = true) (hd : isDigit d = true)
    (h : digitValue c = digitValue d) : c = d := by
  have hcle : '0'.toNat ≤ c.toNat := UInt32.le_iff_toNat_le.mp (isDigit_iff.mp hc).1
  have hdle : '0'.toNat ≤ d.toNat := UInt32.le_iff_toNat_le.mp (isDigit_iff.mp hd).1
  unfold digitValue at h
  exact Char.toNat_inj.mp (by omega)

/-- A text of digits is worth less than the power of ten of its length. -/
lemma digitsValue_lt {cs : List Char} (h : ∀ c ∈ cs, isDigit c = true) :
    digitsValue cs < 10 ^ cs.length := by
  induction cs with
  | nil => decide
  | cons c cs ih =>
    have hfirst := Nat.mul_le_mul_left (10 ^ cs.length) (digitValue_le (h c List.mem_cons_self))
    have hrest := ih fun d hd => h d (List.mem_cons_of_mem c hd)
    rw [digitsValue_cons, List.length_cons, Nat.pow_succ]
    omega

/-- **Digits are told by their number** and how many they are. -/
lemma digitsValue_injective {cs ds : List Char} (hcs : ∀ c ∈ cs, isDigit c = true)
    (hds : ∀ d ∈ ds, isDigit d = true) (hlength : cs.length = ds.length)
    (h : digitsValue cs = digitsValue ds) : cs = ds := by
  induction cs generalizing ds with
  | nil => exact (List.length_eq_zero_iff.mp hlength.symm).symm
  | cons c cs ih =>
    cases ds with
    | nil => exact absurd hlength (by simp)
    | cons d ds =>
      obtain ⟨hc, hcs⟩ := List.forall_mem_cons.mp hcs
      obtain ⟨hd, hds⟩ := List.forall_mem_cons.mp hds
      have hlength : cs.length = ds.length := Nat.succ.inj hlength
      have hclt := digitsValue_lt hcs
      have hdlt := digitsValue_lt hds
      rw [digitsValue_cons, digitsValue_cons, hlength] at h
      rw [hlength] at hclt
      have hpos : 0 < 10 ^ ds.length := Nat.pow_pos (by decide)
      -- the first digit is the quotient by the power of ten, the others are the rest
      have hfirst : digitValue c = digitValue d := by
        have := congrArg (· / 10 ^ ds.length) h
        simpa [Nat.mul_add_div hpos, Nat.div_eq_of_lt hclt, Nat.div_eq_of_lt hdlt] using this
      rw [hfirst] at h
      rw [digitValue_injective hc hd hfirst, ih hcs hds hlength (Nat.add_left_cancel h)]

/-! ### Padded digits -/

/-- A padded number is written in digits. -/
lemma isDigit_of_mem_padded {k n : Nat} {c : Char} (h : c ∈ padded k n) : isDigit c = true := by
  rcases List.mem_append.mp h with h | h
  · rw [(List.mem_replicate.mp h).2]
    decide
  · exact isDigit_of_mem_digits h

/-- Leading zeros do not count. -/
lemma digitsValue_padded (k n : Nat) : digitsValue (padded k n) = n := by
  change Nat.ofDigitChars 10 (padded k n) 0 = n
  unfold padded
  rw [Nat.ofDigitChars_append, Nat.ofDigitChars_replicate_zero, Nat.mul_zero]
  exact digitsValue_digits n

/-- A number of more digits has a digit after the first `k`. -/
lemma exists_padded_of_le {k n : Nat} (hk : 0 < k) (h : 10 ^ k ≤ n) :
    ∃ cs d rest, padded k n = cs ++ d :: rest ∧ cs.length = k ∧ isDigit d = true := by
  have hlong : k < (digits n).length := by
    refine Nat.lt_of_not_le fun hle => ?_
    exact absurd ((Nat.length_toDigits_le_iff (by decide) hk).mp hle) (Nat.not_lt.mpr h)
  have hpadded : padded k n = digits n := by
    rw [padded, Nat.sub_eq_zero_of_le (Nat.le_of_lt hlong), List.replicate_zero, List.nil_append]
  refine ⟨(digits n).take k, (digits n)[k], (digits n).drop (k + 1), ?_, ?_, ?_⟩
  · rw [hpadded, List.getElem_cons_drop, List.take_append_drop]
  · exact List.length_take_of_le (Nat.le_of_lt hlong)
  · exact isDigit_of_mem_digits (List.getElem_mem hlong)

/-- A number that fits is padded to the width. -/
lemma length_padded {k n : Nat} (hk : 0 < k) (h : n < 10 ^ k) : (padded k n).length = k := by
  have := length_digits_le hk h
  simp only [padded, List.length_append, List.length_replicate]
  omega

/-- Digits are the number that they write, padded to as many. -/
lemma eq_padded {cs : List Char} (hpos : 0 < cs.length) (h : ∀ c ∈ cs, isDigit c = true) :
    cs = padded cs.length (digitsValue cs) :=
  digitsValue_injective h (fun _ hc => isDigit_of_mem_padded hc)
    (length_padded hpos (digitsValue_lt h)).symm (digitsValue_padded _ _).symm

end Text

namespace Number

/-! ### Rounding -/

namespace Ratio

/-- A number divided by a power that is no whole one. -/
lemma unscale_neg (base : Nat) (x : Ratio) (k : Nat) :
    x.unscale base (-(k : Int)) = ⟨x.num * base ^ k, x.den⟩ := by
  unfold unscale
  split_ifs with h
  · obtain rfl : k = 0 := by omega
    simp
  · rw [Int.neg_neg, Int.toNat_natCast]
    rfl

/-- A number times a power that is no whole one. -/
lemma scale_neg (base n k : Nat) : scale base n (-(k : Int)) = ⟨n, base ^ k⟩ := by
  unfold scale
  split_ifs with h
  · obtain rfl : k = 0 := by omega
    simp
  · rw [Int.neg_neg, Int.toNat_natCast]
    rfl

/-- Dividing by a natural power of the base multiplies the denominator. -/
lemma unscale_natCast (base : Nat) (x : Ratio) (k : Nat) :
    x.unscale base k = ⟨x.num, x.den * base ^ k⟩ := by
  unfold unscale
  rw [if_pos (Int.natCast_nonneg k), Int.toNat_natCast]
  rfl

/-- A natural power of the base is a natural factor. -/
lemma scale_natCast (base n k : Nat) : scale base n k = ofNat (n * base ^ k) := by
  unfold scale
  rw [if_pos (Int.natCast_nonneg k), Int.toNat_natCast]
  rfl

/-- The last bit of a number of at most 53 bits is a whole one or a part of one. -/
lemma lastBit_ofNat {n : Nat} (hn : n ≠ 0) (h : n < 2 ^ 53) :
    ∃ k : Nat, (ofNat n).lastBit = -(k : Int) := by
  have hlog : n.log2 ≤ 52 := Nat.le_of_lt_succ ((Nat.log2_lt hn).mpr h)
  have hguess : ((ofNat n).num.log2 : Int) - (ofNat n).den.log2 - 52 =
      -((52 - n.log2 : Nat) : Int) := by
    change (n.log2 : Int) - ((1 : Nat).log2 : Int) - 52 = _
    rw [show (1 : Nat).log2 = 0 by decide]
    omega
  -- with so many bits after the point the number has 53 bits
  have hlarge : ¬n * 2 ^ (52 - n.log2) < Nat.pow 2 52 := by
    have hle : 2 ^ n.log2 * 2 ^ (52 - n.log2) ≤ n * 2 ^ (52 - n.log2) :=
      Nat.mul_le_mul_right _ (Nat.log2_self_le hn)
    rw [← Nat.pow_add, show n.log2 + (52 - n.log2) = 52 by omega] at hle
    exact Nat.not_lt.mpr hle
  refine ⟨52 - n.log2, ?_⟩
  unfold lastBit
  dsimp only
  rw [hguess, unscale_neg]
  unfold floor
  rw [show (ofNat n).num = n from rfl, show (ofNat n).den = 1 from rfl, Nat.div_one,
    if_neg hlarge]
  omega

/-- **Up to 53 bits nothing is rounded.** -/
theorem nearest_ofNat {n : Nat} (hn : n ≠ 0) (h : n < 2 ^ 53) :
    ∃ k : Nat, (ofNat n).nearest = ⟨n * 2 ^ k, 2 ^ k⟩ := by
  obtain ⟨k, hk⟩ := lastBit_ofNat hn h
  refine ⟨k, ?_⟩
  unfold nearest
  dsimp only
  rw [hk, unscale_neg, scale_neg]
  have hround : (⟨(ofNat n).num * 2 ^ k, (ofNat n).den⟩ : Ratio).round = n * 2 ^ k := by
    simp [round, ofNat, Nat.mod_one]
  rw [hround]

/-- Digits read back as a number of at most 53 bits only if they write it. -/
lemma nearest_same_iff {m n : Nat} (hm : m ≠ 0) (h : m < 2 ^ 53) :
    (ofNat m).nearest.same (ofNat n) = true ↔ m = n := by
  obtain ⟨k, hk⟩ := nearest_ofNat hm h
  have hpos : 0 < 2 ^ k := Nat.pow_pos (by decide)
  rw [hk, same, beq_iff_eq]
  change m * 2 ^ k * 1 = n * 2 ^ k ↔ m = n
  rw [Nat.mul_one, Nat.mul_left_inj (Nat.ne_of_gt hpos)]

/-! ### Texts -/

/-- As many digits stand before the point of a whole number as it has. -/
lemma point_ofNat {n : Nat} (hn : n ≠ 0) : (ofNat n).point = (digits n).length := by
  have hpos : 0 < (digits n).length := Nat.length_toDigits_pos
  have hguess : ((digits (ofNat n).num).length : Int) - (digits (ofNat n).den).length =
      ((digits n).length - 1 : Nat) := by
    change ((digits n).length : Int) - ((digits 1).length : Int) = _
    rw [show (digits 1).length = 1 by decide]
    omega
  unfold point
  dsimp only
  rw [hguess, unscale_natCast, if_neg, Int.natCast_sub hpos]
  · omega
  · change ¬n / (1 * 10 ^ ((digits n).length - 1)) = 0
    rw [Nat.one_mul]
    exact Nat.ne_of_gt (Nat.div_pos (pow_length_digits_le hn) (Nat.pow_pos (by decide)))

/-- **The digits found with at most `k` of them** are those of the number, if it is a multiple of
the power of ten that is left out. -/
lemma withDigits?_ofNat {n e k : Nat} (hn : n ≠ 0) (hlimit : n < 10 ^ 15)
    (hk : 0 < k) (he : (digits n).length = k + e) :
    (ofNat n).withDigits? k =
      if 10 ^ e ∣ n then some (.ofScaled (n / 10 ^ e) e) else none := by
  have hpow : 0 < 10 ^ e := Nat.pow_pos (by decide)
  have hexponent : (ofNat n).point - k = (e : Int) := by
    rw [point_ofNat hn, he]
    omega
  have hle : 10 ^ e ≤ n :=
    Nat.le_trans (Nat.pow_le_pow_right (by decide) (by omega)) (pow_length_digits_le hn)
  have hbelow : ((ofNat n).unscale 10 e).floor = n / 10 ^ e := by
    rw [unscale_natCast]
    change n / (1 * 10 ^ e) = _
    rw [Nat.one_mul]
  have hmul : n / 10 ^ e * 10 ^ e ≤ n := Nat.div_mul_le_self n (10 ^ e)
  have hlt : n < (n / 10 ^ e + 1) * 10 ^ e := by
    rw [Nat.mul_comm]
    exact Nat.lt_mul_div_succ n hpow
  have hsum : (n / 10 ^ e + 1) * 10 ^ e = n / 10 ^ e * 10 ^ e + 10 ^ e := Nat.succ_mul _ _
  have hone : 1 ≤ n / 10 ^ e := Nat.div_pos hle hpow
  -- numbers below `10 ^ 15` round to themselves, so only an exact quotient gives back the number
  have hback : ((scale 10 (n / 10 ^ e) e).nearest.same (ofNat n)) = decide (10 ^ e ∣ n) := by
    rw [scale_natCast, Bool.eq_iff_iff, nearest_same_iff (by omega) (by omega),
      decide_eq_true_iff]
    exact ⟨fun h => ⟨n / 10 ^ e, by rw [Nat.mul_comm]; exact h.symm⟩, Nat.div_mul_cancel⟩
  have habove : ((scale 10 (n / 10 ^ e + 1) e).nearest.same (ofNat n)) = false := by
    rw [scale_natCast, Bool.eq_false_iff, ne_eq, nearest_same_iff (by omega) (by omega)]
    omega
  unfold withDigits?
  dsimp only
  rw [hexponent, hbelow, hback, habove]
  by_cases h : 10 ^ e ∣ n <;> simp [h]

/-- The first of the values that a function has on numbers comes from one that is not greater than a
number where it has a value. -/
lemma exists_of_findSome?_range {α : Type} {f : Nat → Option α} {m n : Nat} {a b : α} (hm : m < n)
    (hf : f m = some b) (h : (List.range n).findSome? f = some a) : ∃ k ≤ m, f k = some a := by
  obtain ⟨i, rfl⟩ : ∃ i, n = m + 1 + i := ⟨n - (m + 1), by omega⟩
  rw [List.range_add, List.findSome?_append] at h
  rcases hfirst : (List.range (m + 1)).findSome? f with _ | a'
  · have hnone := List.findSome?_eq_none_iff.mp hfirst m (List.mem_range.mpr (Nat.lt_succ_self m))
    rw [hf] at hnone
    exact absurd hnone (by simp)
  · rw [hfirst, Option.some_or] at h
    obtain ⟨k, hk, hvalue⟩ := List.exists_of_findSome?_eq_some hfirst
    exact ⟨k, Nat.le_of_lt_succ (List.mem_range.mp hk), hvalue.trans h⟩

/-- **The shortest digits** of a whole number leave out nothing but zeros at its end. -/
lemma shortest_ofNat {n : Nat} (hn : n ≠ 0) (hlimit : n < 10 ^ 15) :
    ∃ e : Nat, 10 ^ e ∣ n ∧ (ofNat n).shortest = .ofScaled (n / 10 ^ e) e := by
  have hlength := length_digits_le (k := 15) (by decide) hlimit
  have hpos : 0 < (digits n).length := Nat.length_toDigits_pos
  have hall : (ofNat n).withDigits? ((digits n).length - 1 + 1) =
      some (.ofScaled (n / 10 ^ 0) (0 : Nat)) := by
    rw [withDigits?_ofNat (e := 0) hn hlimit (by omega) (by omega), if_pos ⟨n, by simp⟩]
  unfold shortest
  rcases hfound : (List.range 17).findSome? fun k => (ofNat n).withDigits? (k + 1) with _ | d
  · have hnone := List.findSome?_eq_none_iff.mp hfound ((digits n).length - 1)
      (List.mem_range.mpr (by omega))
    rw [hall] at hnone
    exact absurd hnone (by simp)
  · obtain ⟨k, hk, hd⟩ := exists_of_findSome?_range
      (f := fun k => (ofNat n).withDigits? (k + 1)) (by omega) hall hfound
    rw [withDigits?_ofNat (e := (digits n).length - (k + 1)) hn hlimit (by omega) (by omega)] at hd
    split_ifs at hd with hdvd
    exact ⟨_, hdvd, (Option.some.inj hd).symm⟩

/-- Zeros that have been dropped at the end of a list are put back. -/
lemma dropZeros_append (cs : List Char) :
    (cs.reverse.dropWhile (· == '0')).reverse ++
      List.replicate (cs.length - (cs.reverse.dropWhile (· == '0')).reverse.length) '0' = cs := by
  have hsplit := List.takeWhile_append_dropWhile (p := (· == '0')) (l := cs.reverse)
  have hzeros : cs.reverse.takeWhile (· == '0') =
      List.replicate (cs.reverse.takeWhile (· == '0')).length '0' := by
    refine List.eq_replicate_iff.mpr ⟨rfl, fun c hc => ?_⟩
    simpa using List.all_eq_true.mp List.all_takeWhile c hc
  have hlength := congrArg List.length hsplit
  rw [List.length_append, List.length_reverse] at hlength
  have hcount : cs.length - (cs.reverse.dropWhile (· == '0')).reverse.length =
      (cs.reverse.takeWhile (· == '0')).length := by
    rw [List.length_reverse]
    omega
  rw [hcount]
  conv => rhs; rw [← List.reverse_reverse cs, ← hsplit, List.reverse_append, hzeros]
  rw [List.reverse_replicate]

/-- Decimal digits with their zeros and a point at the end. -/
lemma text_ofScaled {m e : Nat} (h : (digits m).length + e ≤ 21) :
    (Decimal.ofScaled m e).text = digits m ++ List.replicate e '0' := by
  have hdrop := dropZeros_append (digits m)
  have hle : ((digits m).reverse.dropWhile (· == '0')).reverse.length ≤ (digits m).length := by
    have hlength := congrArg List.length hdrop
    rw [List.length_append] at hlength
    omega
  unfold Decimal.text Decimal.ofScaled
  dsimp only
  rw [if_pos (by omega)]
  conv => rhs; rw [← hdrop]
  rw [List.append_assoc, List.replicate_append_replicate]
  congr 2
  omega

/-! ### Characters of texts -/

/-- A scaled decimal is written in digits. -/
lemma isDigit_of_mem_ofScaled {n : Nat} {exponent : Int} {c : Char}
    (h : c ∈ (Decimal.ofScaled n exponent).digits) : isDigit c = true :=
  isDigit_of_mem_digits
    (List.mem_reverse.mp ((List.dropWhile_sublist _).subset (List.mem_reverse.mp h)))

/-- The shortest digits are digits. -/
lemma isDigit_of_mem_shortest {x : Ratio} {c : Char} (h : c ∈ x.shortest.digits) :
    isDigit c = true := by
  unfold shortest at h
  rcases hfound : (List.range 17).findSome? fun k => x.withDigits? (k + 1) with _ | d
  · rw [hfound] at h
    exact isDigit_of_mem_digits h
  · rw [hfound, Option.getD_some] at h
    obtain ⟨k, -, hd⟩ := List.exists_of_findSome?_eq_some hfound
    obtain ⟨n, e, rfl⟩ : ∃ n e, d = .ofScaled n e := by
      unfold withDigits? at hd
      dsimp only at hd
      split at hd
      · exact ⟨_, _, (Option.some.inj hd).symm⟩
      · exact ⟨_, _, (Option.some.inj hd).symm⟩
      · exact ⟨_, _, (Option.some.inj hd).symm⟩
      · exact absurd hd (by simp)
    exact isDigit_of_mem_ofScaled h

/-- The text of digits has nothing else in it than digits, a point, signs and the letter of an
exponent. -/
lemma Decimal.isNumeral_text {d : Decimal} (h : ∀ c ∈ d.digits, isDigit c = true) :
    ∀ c ∈ d.text, isDigit c = true ∨ c ∈ ['.', 'e', '+', '-'] := by
  have hzeros (n : Nat) : ∀ c ∈ List.replicate n '0', isDigit c = true ∨ c ∈ ['.', 'e', '+', '-'] :=
    fun c hc => .inl ((List.mem_replicate.mp hc).2 ▸ by decide)
  have hdigits : ∀ c ∈ d.digits, isDigit c = true ∨ c ∈ ['.', 'e', '+', '-'] :=
    fun c hc => .inl (h c hc)
  unfold Decimal.text
  dsimp only
  split_ifs
  · exact List.forall_mem_append.mpr ⟨hdigits, hzeros _⟩
  · exact List.forall_mem_append.mpr ⟨fun c hc => hdigits c (List.mem_of_mem_take hc),
      List.forall_mem_cons.mpr ⟨by simp, fun c hc => hdigits c (List.mem_of_mem_drop hc)⟩⟩
  · exact List.forall_mem_append.mpr ⟨List.forall_mem_cons.mpr
      ⟨.inl (by decide), List.forall_mem_cons.mpr ⟨by simp, hzeros _⟩⟩, hdigits⟩
  all_goals
    refine List.forall_mem_append.mpr ⟨?_, List.forall_mem_cons.mpr ⟨by simp,
      List.forall_mem_cons.mpr ⟨by simp, fun c hc => .inl (isDigit_of_mem_digits hc)⟩⟩⟩
    split
    · rename_i first second rest hcons
      rw [hcons] at hdigits
      obtain ⟨hfirst, hrest⟩ := List.forall_mem_cons.mp hdigits
      exact List.forall_mem_cons.mpr ⟨hfirst, List.forall_mem_cons.mpr ⟨by simp, hrest⟩⟩
    · exact hdigits

/-- No number is written with a line end. -/
lemma return_not_mem_text (x : Ratio) : '\r' ∉ x.text.toList := by
  unfold text
  split_ifs
  · decide
  · rw [String.toList_ofList]
    intro hmem
    have hnumeral := Decimal.isNumeral_text (fun c hc => isDigit_of_mem_shortest hc) '\r' hmem
    exact absurd hnumeral (by decide)
  · decide
end Ratio

/-- A number of at most 53 bits is finite. -/
lemma lt_bound {n : Nat} (h : n < 2 ^ 53) : n < bound := by
  unfold bound
  generalize hk : (1024 : Nat) = k
  exact Nat.lt_of_lt_of_le h (Nat.pow_le_pow_right (by decide) (by omega))

/-- **The text of a whole number** that has at most fifteen digits is these digits. -/
theorem decimalText_eq {n : Nat} (h : n < 10 ^ 15) :
    decimalText n = String.ofList (digits n) := by
  by_cases hn : n = 0
  · subst hn
    decide
  · obtain ⟨e, hdvd, hshortest⟩ := Ratio.shortest_ofNat hn h
    have hquotient : n / 10 ^ e ≠ 0 :=
      Nat.ne_of_gt (Nat.div_pos (Nat.le_of_dvd (Nat.pos_of_ne_zero hn) hdvd)
        (Nat.pow_pos (by decide)))
    have hdigits : digits n = digits (n / 10 ^ e) ++ List.replicate e '0' := by
      rw [← digits_mul_pow hquotient, Nat.div_mul_cancel hdvd]
    have hlength := length_digits_le (k := 15) (by decide) h
    rw [hdigits, List.length_append, List.length_replicate] at hlength
    have hfinite : (Ratio.ofNat n).isFinite = true := by
      unfold Ratio.isFinite Ratio.floor
      change decide (n / 1 < bound) = true
      rw [Nat.div_one, decide_eq_true_iff]
      exact lt_bound (by omega)
    unfold decimalText Ratio.text
    rw [if_neg (show ¬(Ratio.ofNat n).num = 0 from hn), if_pos hfinite, hshortest,
      Ratio.text_ofScaled (by omega), hdigits]

end Number

/-- A number is written without a carriage return. -/
lemma Whole.return_not_mem_text (w : Whole) : '\r' ∉ w.text.toList := by
  unfold text
  split
  · split_ifs
    · rw [String.toList_append]
      exact List.not_mem_append (by decide) (Number.Ratio.return_not_mem_text _)
    · exact Number.Ratio.return_not_mem_text _
  · decide
  · decide

end QuizOverrides
