import BlobRetrieval.Decimal
import BlobRetrieval.Proofs.Text.Splitting

/-!
# Reading decimal digits

Reading below a bound adds up the digits of the whole text and compares the sum with
the bound once: stopping early changes nothing, since no digit makes the sum smaller.
Nothing is read as a number but the ways of writing it.
-/

set_option autoImplicit false

namespace BlobRetrieval.Decimal

theorem le_ofDigitChars (text : List Char) (value : Nat) :
    value ≤ Nat.ofDigitChars 10 text value := by
  induction text generalizing value with
  | nil => exact Nat.le_of_eq Nat.ofDigitChars_nil.symm
  | cons c text ih =>
    rw [Nat.ofDigitChars_cons]
    have hle := ih (10 * value + (c.toNat - '0'.toNat))
    omega

theorem extend?_eq (bound value : Nat) (text : List Char) (hv : value < bound)
    (hd : ∀ c ∈ text, c.isDigit = true) :
    extend? bound value text =
      if Nat.ofDigitChars 10 text value < bound then some (Nat.ofDigitChars 10 text value)
      else none := by
  induction text generalizing value with
  | nil => rw [extend?, Nat.ofDigitChars_nil, if_pos hv]
  | cons c text ih =>
    have hc : digit? c = some (c.toNat - 48) := if_pos (hd c List.mem_cons_self)
    have hcons : Nat.ofDigitChars 10 (c :: text) value =
        Nat.ofDigitChars 10 text (value * 10 + (c.toNat - 48)) := by
      rw [Nat.ofDigitChars_cons, Nat.mul_comm]
      rfl
    have hle := le_ofDigitChars text (value * 10 + (c.toNat - 48))
    rw [extend?, hc, hcons]
    simp only
    split
    · rename_i hlt
      exact ih _ hlt fun d hm => hd d (List.mem_cons_of_mem c hm)
    · rw [if_neg (by omega)]

theorem toNat_of_isDigit {c : Char} (h : c.isDigit = true) : 48 ≤ c.toNat ∧ c.toNat ≤ 57 := by
  simpa [Char.isDigit, UInt32.le_iff_toNat_le] using h

/-- What holds of the ten digits holds of each character that is one. -/
theorem of_isDigit {P : Char → Prop} (h : ∀ n < 10, P (Nat.digitChar n)) {c : Char}
    (hc : c.isDigit = true) : P c := by
  obtain ⟨hl, hu⟩ := toNat_of_isDigit hc
  have hchar : Nat.digitChar (c.toNat - 48) = c := by
    apply Char.toNat_inj.mp
    rw [Nat.toNat_digitChar_of_lt_ten (by omega)]
    omega
  have hdigit := h (c.toNat - 48) (by omega)
  rwa [hchar] at hdigit

theorem isDigit_digits (n : Nat) : ∀ c ∈ digits n, c.isDigit = true :=
  fun _ h => Nat.isDigit_of_mem_toDigits (by decide) (by decide) h

theorem digits_inj {m n : Nat} : digits m = digits n ↔ m = n := by
  constructor
  · intro h
    rw [← Nat.ofDigitChars_ten_toDigits (n := m), ← Nat.ofDigitChars_ten_toDigits (n := n)]
    exact congrArg (Nat.ofDigitChars 10 · 0) h
  · exact congrArg digits

theorem toString_inj {m n : Nat} : toString m = toString n ↔ m = n := by
  rw [← digits_inj]
  exact ⟨String.ofList_injective, congrArg String.ofList⟩

theorem toList_toString (n : Nat) : (toString n).toList = digits n :=
  String.toList_ofList

/-- A number ends where no digit follows, so it can be told from what stands behind it. -/
theorem digits_append_inj {m n : Nat} {rest left : List Char}
    (hrest : ∀ c ∈ rest.head?, c.isDigit = false) (hleft : ∀ c ∈ left.head?, c.isDigit = false)
    (h : digits m ++ rest = digits n ++ left) : m = n ∧ rest = left := by
  obtain ⟨hdigits, hbehind⟩ :=
    append_inj_of_head (isDigit_digits m) (isDigit_digits n) hrest hleft h
  exact ⟨digits_inj.mp hdigits, hbehind⟩

theorem digits_separated_inj {m n : Nat} {separator rest left : List Char}
    (hseparator : separator.head?.map Char.isDigit = some false)
    (h : digits m ++ (separator ++ rest) = digits n ++ (separator ++ left)) :
    m = n ∧ rest = left := by
  have hhead (text : List Char) : ∀ c ∈ (separator ++ text).head?, c.isDigit = false := by
    intro c hc
    obtain ⟨d, hd, hdigit⟩ := Option.map_eq_some_iff.mp hseparator
    rw [List.head?_append, hd] at hc
    cases hc
    exact hdigit
  obtain ⟨hnumber, hbehind⟩ := digits_append_inj (hhead rest) (hhead left) h
  exact ⟨hnumber, List.append_cancel_left hbehind⟩

/-- No zero is in front of a number. -/
theorem digits_of_pos {n : Nat} (h : 0 < n) : ∃ c rest, digits n = c :: rest ∧ c ≠ '0' := by
  induction n using Nat.strongRecOn with
  | ind n ih =>
    by_cases hn : n < 10
    · have hfirst : ∀ m < 10, 0 < m → Nat.digitChar m ≠ '0' := by decide
      exact ⟨_, [], Nat.toDigits_of_lt_base hn, hfirst n hn h⟩
    · obtain ⟨c, rest, hfront, hc⟩ := ih (n / 10) (by omega) (by omega)
      have happend := Nat.toDigits_append_toDigits (show 1 < 10 by decide)
        (show 0 < n / 10 by omega) (Nat.mod_lt n (by decide))
      rw [Nat.div_add_mod] at happend
      refine ⟨c, rest ++ Nat.toDigits 10 (n % 10), ?_, hc⟩
      rw [digits, ← happend, ← digits, hfront, List.cons_append]

theorem extend?_zeros {bound : Nat} (hb : 0 < bound) (zeros : Nat) (text : List Char) :
    extend? bound 0 (List.replicate zeros '0' ++ text) = extend? bound 0 text := by
  induction zeros with
  | zero => rfl
  | succ zeros ih =>
    have hdigit : digit? '0' = some 0 := rfl
    rw [List.replicate_succ, List.cons_append, extend?, hdigit]
    simp only [Nat.zero_mul, Nat.zero_add, if_pos hb]
    exact ih

def Form (n : Nat) (text : List Char) : Prop :=
  ∃ plus zeros, (plus = [] ∨ plus = ['+']) ∧ text = plus ++ (List.replicate zeros '0' ++ digits n)

theorem form_digits (n : Nat) : Form n (digits n) :=
  ⟨[], 0, .inl rfl, rfl⟩

theorem dropPlus_digits {text : List Char} (h : ∀ c ∈ text, c.isDigit = true) :
    dropPlus text = text := by
  cases text with
  | nil => rfl
  | cons c text =>
    unfold dropPlus
    split
    · rename_i hc
      cases hc
      exact absurd (h '+' List.mem_cons_self) (by decide)
    · rfl

theorem isDigit_zeros_digits (zeros n : Nat) :
    ∀ c ∈ List.replicate zeros '0' ++ digits n, c.isDigit = true := by
  intro c hc
  rcases List.mem_append.mp hc with hz | hn
  · rw [List.eq_of_mem_replicate hz]
    rfl
  · exact isDigit_digits n c hn

/-- A number in any form is read just if it is below the bound. -/
theorem read?_form_eq {bound n : Nat} (hb : 0 < bound) {text : List Char} (hf : Form n text) :
    read? bound text = if n < bound then some n else none := by
  obtain ⟨plus, zeros, hplus, rfl⟩ := hf
  have hd := isDigit_zeros_digits zeros n
  have hdrop : dropPlus (plus ++ (List.replicate zeros '0' ++ digits n)) =
      List.replicate zeros '0' ++ digits n := by
    rcases hplus with rfl | rfl
    · exact dropPlus_digits hd
    · rfl
  have hextend : extend? bound 0 (List.replicate zeros '0' ++ digits n) =
      if n < bound then some n else none := by
    rw [extend?_zeros hb, extend?_eq bound 0 (digits n) hb (isDigit_digits n), digits,
      Nat.ofDigitChars_ten_toDigits]
  have hne : List.replicate zeros '0' ++ digits n ≠ [] := by
    simp [digits, Nat.toDigits_ne_nil]
  obtain ⟨c, rest, hcons⟩ := List.exists_cons_of_ne_nil hne
  rw [hcons] at hextend
  rw [read?, hdrop, hcons]
  exact hextend

theorem read?_form {bound n : Nat} (h : n < bound) {text : List Char} (hf : Form n text) :
    read? bound text = some n := by
  rw [read?_form_eq (by omega) hf, if_pos h]

theorem readUInt64?_form {n : UInt64} {text : List Char} (h : Form n.toNat text) :
    readUInt64? text = some n := by
  rw [readUInt64?, read?_form n.toNat_lt_size h, Option.map_some, UInt64.ofNat_toNat]

/-- All forms of a number are read alike, also of one that is too large. -/
theorem readUInt64?_congr {n : Nat} {text other : List Char} (h : Form n text)
    (ho : Form n other) : readUInt64? text = readUInt64? other := by
  have hbound : 0 < UInt64.size := by decide
  rw [readUInt64?, readUInt64?, read?_form_eq hbound h, read?_form_eq hbound ho]

theorem isDigit_of_extend? {bound value n : Nat} {text : List Char}
    (h : extend? bound value text = some n) : ∀ c ∈ text, c.isDigit = true := by
  induction text generalizing value with
  | nil => simp
  | cons c text ih =>
    rw [extend?] at h
    by_cases hc : c.isDigit = true
    · rw [digit?, if_pos hc] at h
      simp only at h
      split at h
      · intro d hd
        rcases List.mem_cons.mp hd with rfl | hd
        · exact hc
        · exact ih h d hd
      · contradiction
    · rw [digit?, if_neg hc] at h
      contradiction

theorem digits_of_isDigit {c : Char} (hc : c.isDigit = true) : digits (c.toNat - 48) = [c] :=
  of_isDigit (P := fun c => digits (c.toNat - 48) = [c]) (by decide) hc

/-- More digits behind a number make the number that they add up to with it. -/
theorem digits_append {value : Nat} (hv : 0 < value) {text : List Char}
    (hd : ∀ c ∈ text, c.isDigit = true) :
    digits value ++ text = digits (Nat.ofDigitChars 10 text value) := by
  induction text generalizing value with
  | nil => rw [List.append_nil, Nat.ofDigitChars_nil]
  | cons c text ih =>
    have hc := toNat_of_isDigit (hd c List.mem_cons_self)
    have hlonger : digits value ++ [c] = digits (10 * value + (c.toNat - 48)) := by
      rw [← digits_of_isDigit (hd c List.mem_cons_self)]
      exact Nat.toDigits_append_toDigits (by decide) hv (by omega)
    rw [Nat.ofDigitChars_cons, List.append_cons, hlonger]
    exact ih (by omega) fun d hm => hd d (List.mem_cons_of_mem c hm)

/-- Digits are some zeros in front of the number that they add up to. -/
theorem eq_zeros_digits {text : List Char} (hne : text ≠ [])
    (hd : ∀ c ∈ text, c.isDigit = true) :
    ∃ zeros, text = List.replicate zeros '0' ++ digits (Nat.ofDigitChars 10 text 0) := by
  induction text with
  | nil => contradiction
  | cons c text ih =>
    have hmore : ∀ d ∈ text, d.isDigit = true := fun d hm => hd d (List.mem_cons_of_mem c hm)
    have hfirst := digits_of_isDigit (hd c List.mem_cons_self)
    have hvalue : Nat.ofDigitChars 10 (c :: text) 0 =
        Nat.ofDigitChars 10 text (c.toNat - 48) := by
      rw [Nat.ofDigitChars_cons, Nat.mul_zero, Nat.zero_add]
      rfl
    rw [hvalue]
    rcases Nat.eq_zero_or_pos (c.toNat - 48) with hzero | hpos
    · rw [hzero] at hfirst ⊢
      have hc : c = '0' := (List.cons.inj hfirst).1.symm
      cases text with
      | nil => exact ⟨0, by rw [hc]; rfl⟩
      | cons next text =>
        obtain ⟨zeros, hzeros⟩ := ih (List.cons_ne_nil next text) hmore
        exact ⟨zeros + 1, by rw [List.replicate_succ, List.cons_append, ← hzeros, hc]⟩
    · exact ⟨0, by rw [← digits_append hpos hmore, hfirst]; rfl⟩

theorem dropPlus_eq (text : List Char) :
    ∃ plus, (plus = [] ∨ plus = ['+']) ∧ text = plus ++ dropPlus text := by
  unfold dropPlus
  split
  · exact ⟨['+'], .inr rfl, rfl⟩
  · exact ⟨[], .inl rfl, rfl⟩

theorem form_of_read? {bound n : Nat} (hb : 0 < bound) {text : List Char}
    (h : read? bound text = some n) : Form n text := by
  obtain ⟨plus, hplus, htext⟩ := dropPlus_eq text
  rw [read?] at h
  generalize dropPlus text = rest at h htext
  cases rest with
  | nil => contradiction
  | cons c rest =>
    change extend? bound 0 (c :: rest) = some n at h
    have hd := isDigit_of_extend? h
    obtain ⟨zeros, hzeros⟩ := eq_zeros_digits (List.cons_ne_nil c rest) hd
    rw [extend?_eq bound 0 _ hb hd, Option.ite_none_right_eq_some] at h
    rw [Option.some.inj h.2] at hzeros
    exact ⟨plus, zeros, hplus, by rw [htext, hzeros]⟩

theorem readUInt64?_eq_some {n : UInt64} {text : List Char} :
    readUInt64? text = some n ↔ Form n.toNat text := by
  refine ⟨fun h => ?_, readUInt64?_form⟩
  obtain ⟨m, hm, rfl⟩ := Option.map_eq_some_iff.mp h
  have hform := form_of_read? (by decide) hm
  have hlt : m < UInt64.size := by
    rw [read?_form_eq (by decide) hform, Option.ite_none_right_eq_some] at hm
    exact hm.1
  rwa [UInt64.toNat_ofNat_of_lt' hlt]

/-- A plus sign and zeros in front of a number. -/
example : readUInt64? "+0012".toList = some 12 := by
  decide

end BlobRetrieval.Decimal
