import HeaderAbi.Json.Token
import Mathlib.Data.List.TakeWhile

/-!
# Integers in text

The digits of an integer are read back as that integer (`integer?_toString`).  Both text formats
refuse padded numbers, so it matters that a numeral starts with a zero only when it is zero
(`toDigits_eq_cons`).
-/

namespace HeaderAbi.Data

/-- The characters of a numeral. -/
def numeral (n : Int) : List Char :=
  match n with
  | .ofNat m => Nat.toDigits 10 m
  | .negSucc m => '-' :: Nat.toDigits 10 (m + 1)

theorem toList_toString (n : Int) : (toString n).toList = numeral n := by
  cases n with
  | ofNat m => exact Nat.toList_repr
  | negSucc m =>
    change ("-" ++ Nat.repr (m + 1)).toList = _
    rw [String.toList_append, Nat.toList_repr]
    rfl

theorem isDigit_of_mem_toDigits {n : Nat} {c : Char} (h : c ∈ Nat.toDigits 10 n) :
    c.isDigit = true :=
  Nat.isDigit_of_mem_toDigits (by decide) (by decide) h

/-- **A numeral starts with a zero only when it is zero**, and never with a sign. -/
theorem toDigits_eq_cons {n : Nat} (hn : 0 < n) :
    ∃ c cs, Nat.toDigits 10 n = c :: cs ∧ c ≠ '0' ∧ c ≠ '-' ∧ c ≠ '+' := by
  have hhead : ∃ c cs, Nat.toDigits 10 n = c :: cs ∧ c ≠ '0' := by
    induction n using Nat.strongRecOn with
    | ind n ih =>
      by_cases h : n < 10
      · refine ⟨_, [], Nat.toDigits_of_lt_base h, ?_⟩
        rw [Ne, Nat.digitChar_eq_zero]
        omega
      · obtain ⟨c, cs, hc, hne⟩ := ih (n / 10) (by omega) (by omega)
        refine ⟨c, cs ++ [(n % 10).digitChar], ?_, hne⟩
        rw [Nat.toDigits_of_base_le (by decide) (by omega), hc, List.cons_append]
  obtain ⟨c, cs, hc, hne⟩ := hhead
  have hdigit : c.isDigit = true := isDigit_of_mem_toDigits (hc ▸ List.mem_cons_self)
  refine ⟨c, cs, hc, hne, ?_, ?_⟩ <;> rintro rfl <;> exact absurd hdigit (by decide)

theorem digit?_of_isDigit {c : Char} (h : c.isDigit = true) :
    digit? 10 c = some (c.toNat - 48) := by
  obtain ⟨hlo, hhi⟩ := Char.isDigit_iff_toNat.1 h
  have hlo' : 48 ≤ c.toNat := hlo
  have hhi' : c.toNat ≤ 57 := hhi
  have hlt : c.toNat - 48 < 10 := by omega
  simp only [digit?, hlo', hhi', decide_true, Bool.and_self, if_true, hlt]

theorem foldlM_digit? {cs : List Char} (h : ∀ c ∈ cs, c.isDigit = true) (n : Nat) :
    cs.foldlM (fun acc c => (digit? 10 c).map (acc * 10 + ·)) n =
      some (Nat.ofDigitChars 10 cs n) := by
  induction cs generalizing n with
  | nil => rfl
  | cons c cs ih =>
    rw [List.foldlM_cons, digit?_of_isDigit (h c List.mem_cons_self), Nat.ofDigitChars_cons,
      Nat.mul_comm]
    exact ih (fun c hc => h c (List.mem_cons_of_mem _ hc)) _

theorem digits?_toDigits (n : Nat) : digits? 10 (Nat.toDigits 10 n) = some n := by
  have hne : (Nat.toDigits 10 n).isEmpty = false := by simp [Nat.toDigits_ne_nil]
  rw [digits?, hne, if_neg Bool.false_ne_true,
    foldlM_digit? (fun c => isDigit_of_mem_toDigits) 0, Nat.ofDigitChars_ten_toDigits]

theorem isZeroPadded_toDigits (n : Nat) : isZeroPadded (Nat.toDigits 10 n) = false := by
  obtain rfl | hn := Nat.eq_zero_or_pos n
  · rfl
  · obtain ⟨c, cs, hc, hzero, hminus, hplus⟩ := toDigits_eq_cons hn
    simp [hc, isZeroPadded, hzero, hminus, hplus]

theorem unsigned?_toDigits (n : Nat) : unsigned? (Nat.toDigits 10 n) = some n := by
  obtain rfl | hn := Nat.eq_zero_or_pos n
  · rfl
  · have hpadded := isZeroPadded_toDigits n
    have hdigits := digits?_toDigits n
    obtain ⟨c, cs, hc, hzero, -, hplus⟩ := toDigits_eq_cons hn
    rw [hc] at hpadded hdigits ⊢
    simp [unsigned?, hzero, hplus, hpadded, hdigits]

theorem unsigned?_neg (cs : List Char) : unsigned? ('-' :: cs) = none := by
  have hdigits : digits? 10 ('-' :: cs) = none := rfl
  simp [unsigned?, hdigits]

theorem negative?_toDigits {n : Nat} (hn : 0 < n) :
    negative? ('-' :: Nat.toDigits 10 n) = some (-(Int.ofNat n)) := by
  have hdigits := digits?_toDigits n
  obtain ⟨c, cs, hc, hzero, -, -⟩ := toDigits_eq_cons hn
  rw [hc] at hdigits ⊢
  simp [negative?, isZeroPadded, hzero, hdigits]

/-- **The numeral of an integer is read as that integer.** -/
theorem integer?_toString (n : Int) : integer? (toString n) = some n := by
  rw [integer?, toList_toString]
  cases n with
  | ofNat m => rw [numeral, unsigned?_toDigits]
  | negSucc m =>
    rw [numeral, unsigned?_neg, negative?_toDigits (Nat.succ_pos m)]
    rfl

theorem isNullWord_of_integer? {s : String} (h : (integer? s).isSome = true) :
    (s.isEmpty || isNullWord s) = false := by
  simp only [isNullWord, Bool.or_eq_false_iff, beq_eq_false_iff_ne]
  refine ⟨?_, ⟨⟨?_, ?_⟩, ?_⟩, ?_⟩
  · rw [Bool.eq_false_iff, Ne, String.isEmpty_iff]
    rintro rfl
    exact absurd h (by decide)
  all_goals
    rintro rfl
    exact absurd h (by decide)

theorem truthWord?_of_integer? {s : String} (h : (integer? s).isSome = true) :
    truthWord? s = none := by
  rw [truthWord?, if_neg, if_neg] <;> simp only [Bool.or_eq_true, beq_iff_eq] <;>
    rintro ((rfl | rfl) | rfl) <;> exact absurd h (by decide)

/-- An integer of 64 bits, written without quotes, is given back its type. -/
theorem ofPlain?_toString {n : Int} (hlo : -0x8000000000000000 ≤ n) (hhi : n < 0x10000000000000000) :
    ofPlain? (toString n) = some (.int n) := by
  have hn := integer?_toString n
  have hsome : (integer? (toString n)).isSome = true := by rw [hn, Option.isSome_some]
  have hrange : (decide (-0x8000000000000000 ≤ n) && decide (n < 0x10000000000000000)) = true := by
    simp only [Bool.and_eq_true, decide_eq_true_eq]
    exact ⟨hlo, hhi⟩
  rw [ofPlain?, isNullWord_of_integer? hsome, truthWord?_of_integer? hsome, hn]
  simp only [Bool.false_eq_true, if_false, hrange, if_true]

end HeaderAbi.Data

namespace HeaderAbi.Json

open Data

theorem takeWhile_toDigits (n : Nat) :
    (Nat.toDigits 10 n).takeWhile Char.isDigit = Nat.toDigits 10 n :=
  List.takeWhile_eq_self_iff.2 fun _ => isDigit_of_mem_toDigits

theorem dropWhile_toDigits (n : Nat) : (Nat.toDigits 10 n).dropWhile Char.isDigit = [] :=
  List.dropWhile_eq_nil_iff.2 fun _ => isDigit_of_mem_toDigits

theorem isNumber_toDigits (n : Nat) : isNumber (Nat.toDigits 10 n) = true := by
  obtain rfl | hn := Nat.eq_zero_or_pos n
  · rfl
  · have htake := takeWhile_toDigits n
    have hdrop := dropWhile_toDigits n
    obtain ⟨c, cs, hc, hzero, hminus, -⟩ := toDigits_eq_cons hn
    rw [hc] at htake hdrop ⊢
    simp [isNumber, hminus, htake, hdrop, hzero, isExponent]

theorem isNumber_neg_toDigits {n : Nat} (hn : 0 < n) :
    isNumber ('-' :: Nat.toDigits 10 n) = true := by
  have htake := takeWhile_toDigits n
  have hdrop := dropWhile_toDigits n
  obtain ⟨c, cs, hc, hzero, -, -⟩ := toDigits_eq_cons hn
  rw [hc] at htake hdrop ⊢
  simp [isNumber, htake, hdrop, hzero, isExponent]

theorem all_isDigit_toDigits (n : Nat) : (Nat.toDigits 10 n).all Char.isDigit = true :=
  List.all_eq_true.2 fun _ => isDigit_of_mem_toDigits

theorem head?_toDigits (n : Nat) : ((Nat.toDigits 10 n).head? == some '-') = false := by
  obtain rfl | hn := Nat.eq_zero_or_pos n
  · rfl
  · obtain ⟨c, cs, hc, -, hminus, -⟩ := toDigits_eq_cons hn
    simpa [hc] using hminus

/-- **The numeral of an integer of 64 bits is a number of that value.** -/
theorem number?_numeral {n : Int} (hlo : -0x8000000000000000 ≤ n) (hhi : n < 0x10000000000000000) :
    number? (numeral n) = some (.int n) := by
  cases n with
  | ofNat m =>
    have hm : m < 0x10000000000000000 := Int.ofNat_lt.1 hhi
    simp only [number?, numeral, head?_toDigits, isNumber_toDigits, all_isDigit_toDigits,
      digits?_toDigits, Bool.false_eq_true, Bool.not_true, if_false, if_true, Option.getD_some, hm]
  | negSucc m =>
    have hm : 0 < m + 1 ∧ m + 1 ≤ 0x8000000000000000 := by omega
    simp only [number?, numeral, isNumber_neg_toDigits hm.1, List.head?_cons, beq_self_eq_true,
      List.drop_succ_cons, List.drop_zero, all_isDigit_toDigits, digits?_toDigits, Bool.not_true,
      Bool.false_eq_true, if_false, if_true, Option.getD_some, hm.1, hm.2, decide_true,
      Bool.and_self]
    rfl

end HeaderAbi.Json
