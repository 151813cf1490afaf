import Gatehouse.Text.Base64

/-!
# Base64 is undone

A group of characters holds its bytes in digits of six bits. The last group may be short: its
padding stands for bits that are zero, so that decoding accepts what encoding writes.
-/

namespace Gatehouse.Base64

theorem digitValue?_digit {n : Nat} (hDigit : n < 64) : digitValue? (digit n) = some n := by
  have hAll : ∀ m : Fin 64, digitValue? (digit m) = some m.val := by decide +kernel
  exact hAll ⟨n, hDigit⟩

theorem digit_ne_pad {n : Nat} (hDigit : n < 64) : digit n ≠ '=' := by
  intro hPad
  have hValue := digitValue?_digit hDigit
  rw [hPad] at hValue
  exact nomatch (show digitValue? '=' = none by decide).symm.trans hValue

theorem ofNat_of_eq {n : Nat} {b : UInt8} (hValue : n = b.toNat) : UInt8.ofNat n = b := by
  rw [hValue, UInt8.ofNat_toNat]

/-- Three bytes as four digits of six bits. -/
structure Group (a b c : UInt8) (x y z w : Nat) : Prop where
  digits : x < 64 ∧ y < 64 ∧ z < 64 ∧ w < 64
  first : x * 4 + y / 16 = a.toNat
  second : y % 16 * 16 + z / 4 = b.toNat
  third : z % 4 * 64 + w = c.toNat

theorem group_of_bytes {a b c : UInt8} {n : Nat}
    (hNumber : n = (a.toNat * 256 + b.toNat) * 256 + c.toNat) :
    Group a b c (n / 262144) (n / 4096 % 64) (n / 64 % 64) (n % 64) := by
  have ha := a.toNat_lt
  have hb := b.toNat_lt
  have hc := c.toNat_lt
  refine ⟨⟨?_, ?_, ?_, ?_⟩, ?_, ?_, ?_⟩ <;> omega

namespace Group

variable {a b c : UInt8} {x y z w : Nat}

theorem decodeLast_eq (hGroup : Group a b c x y z w) :
    decodeLast (digit x) (digit y) (digit z) (digit w) = some [a, b, c] := by
  obtain ⟨hx, hy, hz, hw⟩ := hGroup.digits
  have hPad : ¬ (digit z = '=' ∧ digit w = '=') := fun h => digit_ne_pad hw h.2
  simp only [decodeLast, digitValue?_digit hx, digitValue?_digit hy, digitValue?_digit hz,
    digitValue?_digit hw, if_neg hPad, if_neg (digit_ne_pad hw), Option.bind_eq_bind,
    Option.bind_some, ofNat_of_eq hGroup.first, ofNat_of_eq hGroup.second,
    ofNat_of_eq hGroup.third]

theorem decode_append (hGroup : Group a b c x y z w) {chars : List Char} {bs : Octets}
    (hSome : chars ≠ []) (hRest : decode chars = some bs) :
    decode (digit x :: digit y :: digit z :: digit w :: chars) = some (a :: b :: c :: bs) := by
  obtain ⟨hx, hy, hz, hw⟩ := hGroup.digits
  obtain ⟨head, tail, rfl⟩ := List.exists_cons_of_ne_nil hSome
  simp only [decode, digitValue?_digit hx, digitValue?_digit hy, digitValue?_digit hz,
    digitValue?_digit hw, hRest, Option.bind_eq_bind, Option.bind_some, Option.pure_def,
    ofNat_of_eq hGroup.first, ofNat_of_eq hGroup.second, ofNat_of_eq hGroup.third]

end Group

theorem encode_eq_nil_iff {bs : Octets} : encode bs = [] ↔ bs = [] := by
  fun_cases encode bs <;> simp

theorem decode_encode (bs : Octets) : decode (encode bs) = some bs := by
  fun_induction encode bs with
  | case1 => rfl
  | case2 a n =>
    have ha := a.toNat_lt
    have hFirst : n / 64 * 4 + n % 64 / 16 = a.toNat := by omega
    have hRest : n % 64 % 16 = 0 := by omega
    simp only [decode, decodeLast, digitValue?_digit (show n / 64 < 64 by omega),
      digitValue?_digit (show n % 64 < 64 by omega), and_self, if_true, hRest,
      Option.bind_eq_bind, Option.bind_some, ofNat_of_eq hFirst]
  | case3 a b n =>
    have ha := a.toNat_lt
    have hb := b.toNat_lt
    have hz : n % 64 < 64 := Nat.mod_lt _ (by decide)
    have hFirst : n / 4096 * 4 + n / 64 % 64 / 16 = a.toNat := by omega
    have hSecond : n / 64 % 64 % 16 * 16 + n % 64 / 4 = b.toNat := by omega
    have hRest : n % 64 % 4 = 0 := by omega
    simp only [decode, decodeLast, digitValue?_digit (show n / 4096 < 64 by omega),
      digitValue?_digit (show n / 64 % 64 < 64 by omega), digitValue?_digit hz, digit_ne_pad hz,
      false_and, if_false, if_true, hRest, Option.bind_eq_bind, Option.bind_some,
      ofNat_of_eq hFirst, ofNat_of_eq hSecond]
  | case4 a b c rest n ih =>
    have hGroup := group_of_bytes (n := n) rfl
    by_cases hRest : rest = []
    · subst hRest
      exact hGroup.decodeLast_eq
    · exact hGroup.decode_append (mt encode_eq_nil_iff.mp hRest) ih

theorem toNat_lt_of_mem_encode {bs : Octets} : ∀ c ∈ encode bs, c.toNat < 256 := by
  have hDigit : ∀ n, (digit n).toNat < 256 := by
    intro n
    rw [digit, List.getD_eq_getElem?_getD]
    cases hChar : alphabet[n]? with
    | none => decide
    | some c =>
      have hAlphabet : alphabet.all (fun c => c.toNat < 256) = true := rfl
      exact of_decide_eq_true (List.all_eq_true.mp hAlphabet c (List.mem_of_getElem? hChar))
  fun_induction encode bs with
  | case1 => exact fun _ hc => nomatch hc
  | case2 | case3 => simp [hDigit]
  | case4 a b c rest n ih => simpa [hDigit] using ih

end Gatehouse.Base64
