/-
  CmlCloudManager.Foundation.DottedNumerals
  ─────────────────────────────────────────
  **VERSIONS AS TEXTS AND AS NUMBERS.**

  A version is a list of decimal numerals, written with dots between them.  It can
  be compared with another one in two ways:

    • as a text, character by character,
    • by its numbers, component by component.

  As the dot comes before the digits, the order of the texts is the component-wise
  order of the numerals AS TEXTS (`text_lt_iff`).  The two orders differ exactly when
  the first two numerals that are written differently are in one order as texts and
  in the other by their numbers (`misordered_iff`); without leading zeros that means
  that the longer one is the smaller text (`reversed_iff`).
-/
import Mathlib.Algebra.Group.Nat.Defs
import Mathlib.Data.List.Basic
import Mathlib.Tactic.ByContra

namespace CmlCloudManager.Foundation

/-! ## §1. Numerals. -/

/-- The number that decimal digits stand for. -/
def digitsValue : List Char → Nat
  | [] => 0
  | c :: rest => (c.toNat - 48) * 10 ^ rest.length + digitsValue rest

/-- A nonempty text of decimal digits. -/
structure Numeral where
  digits : List Char
  nonempty : digits ≠ []
  decimal : ∀ c ∈ digits, c.isDigit = true

/-- What it stands for. -/
def Numeral.value (n : Numeral) : Nat := digitsValue n.digits

theorem isDigit_iff {c : Char} : c.isDigit = true ↔ 48 ≤ c.toNat ∧ c.toNat ≤ 57 := by
  unfold Char.isDigit
  rw [Bool.and_eq_true, decide_eq_true_iff, decide_eq_true_iff]
  exact Iff.rfl

theorem char_lt_iff {c d : Char} : c < d ↔ c.toNat < d.toNat := Iff.rfl

/-- The dot comes before every digit. -/
theorem dot_lt_of_isDigit {c : Char} (h : c.isDigit = true) : '.' < c := by
  rw [char_lt_iff]
  exact Nat.lt_of_lt_of_le (by decide) (isDigit_iff.mp h).1

theorem digitsValue_lt : ∀ {l : List Char}, (∀ c ∈ l, c.isDigit = true) →
    digitsValue l < 10 ^ l.length
  | [], _ => Nat.one_pos
  | c :: rest, h => by
      have hrest := digitsValue_lt fun d hd => h d (List.mem_cons_of_mem _ hd)
      have hc := (isDigit_iff.mp (h c List.mem_cons_self)).2
      have hdigit : (c.toNat - 48) * 10 ^ rest.length ≤ 9 * 10 ^ rest.length :=
        Nat.mul_le_mul_right _ (by omega)
      rw [digitsValue, List.length_cons, Nat.pow_succ]
      omega

/-- Of equally many digits the order of the texts is that of the numbers. -/
theorem digits_lt_iff_of_length_eq :
    ∀ {x y : List Char}, (∀ c ∈ x, c.isDigit = true) → (∀ c ∈ y, c.isDigit = true) →
      x.length = y.length → (x < y ↔ digitsValue x < digitsValue y)
  | [], [], _, _, _ => iff_of_false (List.not_lt_nil _) (Nat.lt_irrefl _)
  | c :: x, d :: y, hx, hy, hlength => by
      have hx' : ∀ c ∈ x, c.isDigit = true := fun e he => hx e (List.mem_cons_of_mem _ he)
      have hy' : ∀ c ∈ y, c.isDigit = true := fun e he => hy e (List.mem_cons_of_mem _ he)
      have hlength : x.length = y.length := Nat.succ.inj hlength
      have ih := digits_lt_iff_of_length_eq hx' hy' hlength
      have hxlt := digitsValue_lt hx'
      have hylt := digitsValue_lt hy'
      have hc := (isDigit_iff.mp (hx c List.mem_cons_self)).1
      have hd := (isDigit_iff.mp (hy d List.mem_cons_self)).1
      rw [List.cons_lt_cons_iff, digitsValue, digitsValue, ih, hlength, char_lt_iff]
      rw [hlength] at hxlt
      rcases Nat.lt_trichotomy c.toNat d.toNat with hlt | heq | hgt
      · -- the first digit decides
        have hstep : (c.toNat - 48 + 1) * 10 ^ y.length ≤ (d.toNat - 48) * 10 ^ y.length :=
          Nat.mul_le_mul_right _ (by omega)
        rw [Nat.succ_mul] at hstep
        exact iff_of_true (.inl hlt) (by omega)
      · have hcd : c = d := Char.ext (UInt32.toNat_inj.mp heq)
        subst hcd
        simp
      · have hstep : (d.toNat - 48 + 1) * 10 ^ y.length ≤ (c.toNat - 48) * 10 ^ y.length :=
          Nat.mul_le_mul_right _ (by omega)
        rw [Nat.succ_mul] at hstep
        refine iff_of_false ?_ (by omega)
        rintro (hlt | ⟨rfl, -⟩)
        · omega
        · omega

/-- No zero stands before other digits. -/
def Numeral.Canonical (n : Numeral) : Prop := n.digits.head? = some '0' → n.digits = ['0']

theorem pow_le_value_of_canonical {n : Numeral} (h : n.Canonical) (hlong : 1 < n.digits.length) :
    10 ^ (n.digits.length - 1) ≤ n.value := by
  unfold Numeral.value
  cases hdigits : n.digits with
  | nil => exact absurd hdigits n.nonempty
  | cons c rest =>
      rw [hdigits] at hlong
      have hc : c ≠ '0' := by
        rintro rfl
        have hsingle := h (by rw [hdigits]; rfl)
        rw [hdigits] at hsingle
        rw [hsingle] at hlong
        exact absurd hlong (by decide)
      have hdigit := isDigit_iff.mp (n.decimal c (by rw [hdigits]; exact List.mem_cons_self))
      have hpos : c.toNat ≠ 48 := fun heq => hc (Char.ext (UInt32.toNat_inj.mp heq))
      have hle : 1 * 10 ^ rest.length ≤ (c.toNat - 48) * 10 ^ rest.length :=
        Nat.mul_le_mul_right _ (by omega)
      rw [digitsValue, List.length_cons, Nat.add_sub_cancel]
      omega

/-- A canonical numeral with more digits stands for the greater number. -/
theorem value_lt_of_length_lt {n m : Numeral} (hm : m.Canonical)
    (h : n.digits.length < m.digits.length) : n.value < m.value := by
  have hn := List.length_pos_iff.mpr n.nonempty
  have hlow := pow_le_value_of_canonical hm (by omega)
  have hhigh : n.value < 10 ^ n.digits.length := digitsValue_lt n.decimal
  have hpow : 10 ^ n.digits.length ≤ 10 ^ (m.digits.length - 1) :=
    Nat.pow_le_pow_right (by omega) (by omega)
  omega

/-- Equally many digits for the same number are the same digits. -/
theorem digits_eq_of_length_eq {n m : Numeral} (hlength : n.digits.length = m.digits.length)
    (hvalue : n.value = m.value) : n.digits = m.digits := by
  have hvalue : digitsValue n.digits = digitsValue m.digits := hvalue
  refine List.le_antisymm ?_ ?_
  · intro hlt
    have := (digits_lt_iff_of_length_eq m.decimal n.decimal hlength.symm).mp hlt
    omega
  · intro hlt
    have := (digits_lt_iff_of_length_eq n.decimal m.decimal hlength).mp hlt
    omega

/-- A number has one canonical numeral. -/
theorem digits_eq_of_value_eq {n m : Numeral} (hn : n.Canonical) (hm : m.Canonical)
    (hvalue : n.value = m.value) : n.digits = m.digits := by
  rcases Nat.lt_trichotomy n.digits.length m.digits.length with hlt | heq | hgt
  · have := value_lt_of_length_lt hm hlt
    omega
  · exact digits_eq_of_length_eq heq hvalue
  · have := value_lt_of_length_lt hn hgt
    omega

/-! ## §2. Versions. -/

/-- Numerals with dots between them. -/
structure Version where
  components : List Numeral
  nonempty : components ≠ []

/-- How the components are written. -/
def spelled (components : List Numeral) : List (List Char) := components.map Numeral.digits

/-- The numbers of the components. -/
def numbers (components : List Numeral) : List Nat := components.map Numeral.value

/-- The version as a text. -/
def Version.text (v : Version) : String :=
  ".".intercalate (v.components.map fun n => String.ofList n.digits)

/-- `v` comes before `w` as a version: the numbers decide, component by component. -/
def Version.Before (v w : Version) : Prop := numbers v.components < numbers w.components

instance (v w : Version) : Decidable (v.Before w) :=
  inferInstanceAs (Decidable (numbers v.components < numbers w.components))

/-! ## §3. The order of the texts. -/

/-- What follows a numeral in a text: nothing, or a dot and the rest. -/
def afterNumeral : List Numeral → List Char
  | [] => []
  | n :: rest => '.' :: (n.digits ++ afterNumeral rest)

theorem toList_text (n : Numeral) (rest : List Numeral) (h : n :: rest ≠ []) :
    (Version.mk (n :: rest) h).text.toList = n.digits ++ afterNumeral rest := by
  unfold Version.text
  induction rest generalizing n with
  | nil => simp [afterNumeral]
  | cons m rest ih =>
      have htail := ih m (List.cons_ne_nil _ _)
      simp only [List.map_cons] at htail ⊢
      rw [String.intercalate_cons_cons, String.toList_append, String.toList_append, htail,
        String.toList_ofList, List.append_assoc]
      rfl

theorem Version.text_ne_empty (v : Version) : v.text ≠ "" := by
  obtain ⟨components, hne⟩ := v
  cases components with
  | nil => exact absurd rfl hne
  | cons n rest =>
      intro h
      have hlist := congrArg String.toList h
      rw [toList_text] at hlist
      exact n.nonempty (List.append_eq_nil_iff.mp hlist).1

/-- Different numerals decide whatever follows them. -/
theorem append_afterNumeral_lt_iff (xs ys : List Numeral) :
    ∀ {x y : List Char}, (∀ c ∈ x, c.isDigit = true) → (∀ c ∈ y, c.isDigit = true) → x ≠ y →
      (x ++ afterNumeral xs < y ++ afterNumeral ys ↔ x < y)
  | [], [], _, _, hne => absurd rfl hne
  | [], d :: y, _, hy, _ => by
      refine iff_of_true ?_ (List.nil_lt_cons _ _)
      rw [List.nil_append, List.cons_append]
      cases xs with
      | nil => exact List.nil_lt_cons _ _
      | cons n xs =>
          exact List.cons_lt_cons_iff.mpr (.inl (dot_lt_of_isDigit (hy d List.mem_cons_self)))
  | c :: x, [], hx, _, _ => by
      refine iff_of_false ?_ (List.not_lt_nil _)
      rw [List.nil_append, List.cons_append]
      cases ys with
      | nil => exact List.not_lt_nil _
      | cons n ys =>
          have hdot := dot_lt_of_isDigit (hx c List.mem_cons_self)
          rw [afterNumeral, List.cons_lt_cons_iff]
          rintro (hlt | ⟨rfl, -⟩)
          · exact absurd (Nat.lt_trans hlt hdot) (Nat.lt_irrefl _)
          · exact absurd hdot (Nat.lt_irrefl _)
  | c :: x, d :: y, hx, hy, hne => by
      rw [List.cons_append, List.cons_append, List.cons_lt_cons_iff, List.cons_lt_cons_iff]
      refine or_congr_right (and_congr_right fun hcd => ?_)
      subst hcd
      refine append_afterNumeral_lt_iff xs ys (fun e he => hx e (List.mem_cons_of_mem _ he))
        (fun e he => hy e (List.mem_cons_of_mem _ he)) fun heq => hne ?_
      rw [heq]

theorem append_lt_append_iff_right {s t : List Char} :
    ∀ x : List Char, x ++ s < x ++ t ↔ s < t
  | [] => Iff.rfl
  | c :: x => by
      rw [List.cons_append, List.cons_append, List.cons_lt_cons_iff]
      constructor
      · rintro (hlt | ⟨-, hlt⟩)
        · exact absurd hlt (Nat.lt_irrefl _)
        · exact (append_lt_append_iff_right x).mp hlt
      · exact fun hlt => .inr ⟨rfl, (append_lt_append_iff_right x).mpr hlt⟩

/-- Component by component: what follows in the texts is ordered as it is written. -/
theorem afterNumeral_lt_iff :
    ∀ xs ys : List Numeral, afterNumeral xs < afterNumeral ys ↔ spelled xs < spelled ys
  | [], [] => iff_of_false (List.not_lt_nil _) (List.not_lt_nil _)
  | [], _ :: _ => iff_of_true (List.nil_lt_cons _ _) (List.nil_lt_cons _ _)
  | _ :: _, [] => iff_of_false (List.not_lt_nil _) (List.not_lt_nil _)
  | n :: xs, m :: ys => by
      have ih := afterNumeral_lt_iff xs ys
      have hnotlt : ∀ l : List Char, ¬l < l := List.lt_irrefl
      show ['.'] ++ (n.digits ++ afterNumeral xs) < ['.'] ++ (m.digits ++ afterNumeral ys)
        ↔ n.digits :: spelled xs < m.digits :: spelled ys
      rw [append_lt_append_iff_right, List.cons_lt_cons_iff]
      by_cases heq : n.digits = m.digits
      · rw [heq, append_lt_append_iff_right, ih]
        simp only [hnotlt, true_and, false_or]
      · rw [append_afterNumeral_lt_iff xs ys n.decimal m.decimal heq]
        simp only [heq, false_and, or_false]

/-- **The order of the texts** is the component-wise order of what is written. -/
theorem text_lt_iff (v w : Version) :
    v.text < w.text ↔ spelled v.components < spelled w.components := by
  obtain ⟨xs, hxs⟩ := v
  obtain ⟨ys, hys⟩ := w
  cases xs with
  | nil => exact absurd rfl hxs
  | cons n xs =>
  cases ys with
  | nil => exact absurd rfl hys
  | cons m ys =>
      show (Version.mk (n :: xs) hxs).text.toList < (Version.mk (m :: ys) hys).text.toList ↔ _
      rw [toList_text, toList_text, ← afterNumeral_lt_iff]
      exact (append_lt_append_iff_right ['.']).symm

/-! ## §4. Where the two orders differ. -/

/-- The first two components that are written differently are in one order as texts, and in
the other by their numbers; of two spellings of one number the rest decides. -/
def Misordered : List Numeral → List Numeral → Prop
  | n :: xs, m :: ys =>
      if n.digits = m.digits then Misordered xs ys
      else if n.value = m.value then ¬(n.digits < m.digits ↔ numbers xs < numbers ys)
      else n.digits < m.digits ↔ m.value < n.value
  | _, _ => False

/-- **The two orders of two versions differ exactly when they are misordered.** -/
theorem misordered_iff :
    ∀ xs ys : List Numeral,
      Misordered xs ys ↔ ¬(spelled xs < spelled ys ↔ numbers xs < numbers ys)
  | [], [] =>
      iff_of_false id (not_not_intro (iff_of_false (List.not_lt_nil _) (List.not_lt_nil _)))
  | [], _ :: _ =>
      iff_of_false id (not_not_intro (iff_of_true (List.nil_lt_cons _ _) (List.nil_lt_cons _ _)))
  | _ :: _, [] =>
      iff_of_false id (not_not_intro (iff_of_false (List.not_lt_nil _) (List.not_lt_nil _)))
  | n :: xs, m :: ys => by
      have ih := misordered_iff xs ys
      have hnotlt : ∀ l : List Char, ¬l < l := List.lt_irrefl
      show (if n.digits = m.digits then Misordered xs ys
          else if n.value = m.value then ¬(n.digits < m.digits ↔ numbers xs < numbers ys)
          else n.digits < m.digits ↔ m.value < n.value)
        ↔ ¬(n.digits :: spelled xs < m.digits :: spelled ys
            ↔ n.value :: numbers xs < m.value :: numbers ys)
      rw [List.cons_lt_cons_iff, List.cons_lt_cons_iff]
      by_cases hdigits : n.digits = m.digits
      · have hvalue : n.value = m.value := congrArg digitsValue hdigits
        rw [if_pos hdigits, ih]
        simp only [hdigits, hvalue, hnotlt, Nat.lt_irrefl, true_and, false_or]
      · rw [if_neg hdigits]
        simp only [hdigits, false_and, or_false]
        by_cases hvalue : n.value = m.value
        · rw [if_pos hvalue]
          simp only [hvalue, Nat.lt_irrefl, true_and, false_or]
        · rw [if_neg hvalue]
          simp only [hvalue, false_and, or_false]
          by_cases hlt : n.digits < m.digits
          · simp only [hlt, true_iff]
            omega
          · simp only [hlt, false_iff]
            omega

/-- **Without leading zeros** two numerals are in one order as texts and in the other by
their numbers when the one with more digits is the smaller text. -/
theorem reversed_iff {n m : Numeral} (hn : n.Canonical) (hm : m.Canonical)
    (hne : n.digits ≠ m.digits) :
    (n.digits < m.digits ↔ m.value < n.value)
      ↔ n.digits.length ≠ m.digits.length
        ∧ (n.digits < m.digits ↔ m.digits.length < n.digits.length) := by
  rcases Nat.lt_trichotomy n.digits.length m.digits.length with hlt | heq | hgt
  · have hvalue := value_lt_of_length_lt hm hlt
    have hnot : ¬m.value < n.value := by omega
    have hnot' : ¬m.digits.length < n.digits.length := by omega
    simp only [hnot, hnot', iff_false, ne_eq, Nat.ne_of_lt hlt, not_false_eq_true, true_and]
  · -- equally many digits are never in the wrong order
    have hbelow : n.digits < m.digits ↔ n.value < m.value :=
      digits_lt_iff_of_length_eq n.decimal m.decimal heq
    have habove : m.digits < n.digits ↔ m.value < n.value :=
      digits_lt_iff_of_length_eq m.decimal n.decimal heq.symm
    simp only [heq, ne_eq, not_true_eq_false, false_and, iff_false]
    by_cases hlt : n.digits < m.digits
    · have hvalue := hbelow.mp hlt
      exact fun h => absurd (h.mp hlt) (by omega)
    · have hgt : m.digits < n.digits := by
        by_contra hnot
        exact hne (List.le_antisymm hnot hlt)
      exact fun h => hlt (h.mpr (habove.mp hgt))
  · have hvalue := value_lt_of_length_lt hn hgt
    simp only [hvalue, hgt, iff_true, ne_eq, (Nat.ne_of_lt hgt).symm, not_false_eq_true,
      true_and]

/-- Misordered versions without leading zeros have such a pair of components. -/
theorem exists_reversed_of_misordered :
    ∀ {xs ys : List Numeral}, (∀ n ∈ xs, n.Canonical) → (∀ m ∈ ys, m.Canonical) →
      Misordered xs ys →
      ∃ n ∈ xs, ∃ m ∈ ys, n.digits.length ≠ m.digits.length
        ∧ (n.digits < m.digits ↔ m.digits.length < n.digits.length)
  | [], _, _, _, h => h.elim
  | _ :: _, [], _, _, h => h.elim
  | n :: xs, m :: ys, hxs, hys, h => by
      unfold Misordered at h
      have hn := hxs n List.mem_cons_self
      have hm := hys m List.mem_cons_self
      by_cases hdigits : n.digits = m.digits
      · rw [if_pos hdigits] at h
        obtain ⟨n', hn', m', hm', hpair⟩ := exists_reversed_of_misordered
          (fun k hk => hxs k (List.mem_cons_of_mem _ hk))
          (fun k hk => hys k (List.mem_cons_of_mem _ hk)) h
        exact ⟨n', List.mem_cons_of_mem _ hn', m', List.mem_cons_of_mem _ hm', hpair⟩
      · rw [if_neg hdigits, if_neg fun heq => hdigits (digits_eq_of_value_eq hn hm heq)] at h
        exact ⟨n, List.mem_cons_self, m, List.mem_cons_self, (reversed_iff hn hm hdigits).mp h⟩

end CmlCloudManager.Foundation
