import Mathlib.Algebra.Group.Nat.Defs
import Testbed.Time.Timestamp

/-!
# Reading printed timestamps

A timestamp prints its numbers in fixed widths, with a mark between any two of them. So each number
is read back by itself, and reading a printed timestamp gives the timestamp again.
-/

namespace Testbed

/-! ## Numbers of a fixed width -/

/-- The digits of `n`, of which there are `width`. -/
structure Text.Writes (width n : Nat) (cs : List Char) : Prop where
  length : cs.length = width
  digits : ∀ c ∈ cs, c.isDigit = true
  value : Nat.ofDigitChars 10 cs 0 = n

theorem Text.isDigit_of_mem_padZero {width n : Nat} {c : Char}
    (h : c ∈ (padZero width n).toList) : c.isDigit = true := by
  rw [padZero, String.toList_ofList, List.mem_append] at h
  rcases h with zero | digit
  · rw [List.eq_of_mem_replicate zero]
    rfl
  · exact Nat.isDigit_of_mem_toDigits (by decide) (by decide) digit

theorem Text.padZero_writes {width n : Nat} (h : n < 10 ^ width) (pos : 0 < width) :
    Writes width n (padZero width n).toList := by
  have fits : (Nat.toDigits 10 n).length ≤ width :=
    (Nat.length_toDigits_le_iff (by decide) pos).2 h
  refine ⟨?_, fun c mem => isDigit_of_mem_padZero mem, ?_⟩
  · simp [padZero]
    omega
  · simp [padZero, Nat.ofDigitChars_append]

namespace Timestamp

open Text (Writes)

theorem digitValue_of_isDigit {c : Char} (h : c.isDigit = true) :
    digitValue c = some (c.toNat - '0'.toNat) := by
  simp only [Char.isDigit, Bool.and_eq_true, decide_eq_true_eq] at h
  exact if_pos h

theorem digits_go {cs : List Char} (h : ∀ c ∈ cs, c.isDigit = true) (value : Nat)
    (rest : List Char) :
    digits.go cs.length value (cs ++ rest) = some (Nat.ofDigitChars 10 cs value, rest) := by
  induction cs generalizing value with
  | nil => rfl
  | cons c cs ih =>
    have first := digitValue_of_isDigit (h c List.mem_cons_self)
    have later := ih (fun c mem => h c (List.mem_cons_of_mem _ mem))
    simp [digits.go, first, later, Nat.ofDigitChars_cons, Nat.mul_comm]

theorem digits_of_writes {width n : Nat} {cs : List Char} (h : Writes width n cs)
    (rest : List Char) : digits width (cs ++ rest) = some (n, rest) := by
  rw [digits, ← h.length, digits_go h.digits, h.value]

@[simp] theorem literal_cons (c : Char) (cs : List Char) : literal c (c :: cs) = some cs :=
  if_pos rfl

/-- Nine digits are nanoseconds. -/
theorem fraction_of_writes {n : Nat} {cs : List Char} (h : Writes 9 n cs) : fraction cs = n := by
  have nine : (cs ++ List.replicate 9 '0').take 9 = cs := by
    rw [← h.length, List.take_left]
  rw [fraction, nine, ← h.value, Nat.ofDigitChars]
  simp only [Nat.mul_comm]

theorem secondFraction_of_writes {n : Nat} {cs : List Char} (h : Writes 9 n cs)
    (rest : List Char) :
    secondFraction ('.' :: (cs ++ 'Z' :: rest)) = some (n, 'Z' :: rest) := by
  have digits : ∀ c ∈ cs, (digitValue c).isSome = true := fun c mem => by
    rw [digitValue_of_isDigit (h.digits c mem)]
    rfl
  have taken : (cs ++ 'Z' :: rest).takeWhile (fun c => (digitValue c).isSome) = cs := by
    rw [List.takeWhile_append_of_pos digits]
    simp [digitValue]
  have left : (cs ++ 'Z' :: rest).dropWhile (fun c => (digitValue c).isSome) = 'Z' :: rest := by
    rw [List.dropWhile_append_of_pos digits]
    simp [digitValue]
  rw [secondFraction, taken, left]
  cases cs with
  | nil => cases h.length
  | cons c cs => simp [fraction_of_writes h]

/-! ## Whole timestamps -/

variable {t : Timestamp}

/-- A timestamp in UTC is taken as it is. -/
theorem earlierBy_zero (h : t.Valid) : t.earlierBy 0 = t := by
  obtain ⟨-, -, -, -, hour, minute, -, -⟩ := h
  obtain ⟨year, month, day, hour', minute', second, nano⟩ := t
  simp only [earlierBy] at *
  have early : ¬ ((hour' * 60 + minute' : Int) - 0 < 0) := by omega
  have late : ¬ ((1440 : Int) ≤ hour' * 60 + minute' - 0) := by omega
  rw [if_neg early, if_neg late]
  congr 1 <;> omega

/-- A year of four digits is printed without a sign. -/
theorem text_toList (first : 0 ≤ t.year) (last : t.year ≤ 9999) :
    t.text.toList = (Text.padZero 4 t.year.natAbs).toList ++ '-' ::
      ((Text.padZero 2 t.month).toList ++ '-' :: ((Text.padZero 2 t.day).toList ++ 'T' ::
        ((Text.padZero 2 t.hour).toList ++ ':' :: ((Text.padZero 2 t.minute).toList ++ ':' ::
          ((Text.padZero 2 t.second).toList ++ '.' ::
            ((Text.padZero 9 t.nano).toList ++ ['Z'])))))) := by
  simp [text, yearText, Int.not_lt.2 first, Int.not_lt.2 last]

/-- A printed timestamp consists of visible characters, each of which is one byte. -/
theorem visible_of_mem_text (first : 0 ≤ t.year) (last : t.year ≤ 9999) {c : Char}
    (h : c ∈ t.text.toList) : 0x20 < c.toNat ∧ c.toNat < 0x7F := by
  have digit {width n : Nat} (mem : c ∈ (Text.padZero width n).toList) :
      0x20 < c.toNat ∧ c.toNat < 0x7F := by
    have bounds : 48 ≤ c.toNat ∧ c.toNat ≤ 57 :=
      Char.isDigit_iff_toNat.1 (Text.isDigit_of_mem_padZero mem)
    omega
  rw [text_toList first last] at h
  simp only [List.mem_append, List.mem_cons, List.not_mem_nil, or_false] at h
  rcases h with h | h | h | h | h | h | h | h | h | h | h | h | h | h <;>
    first | exact digit h | (subst h; decide)

theorem daysInMonth_le (year : Int) (month : Nat) : daysInMonth year month ≤ 31 := by
  grind [daysInMonth]

/-- What is printed of a time in a year of four digits is read as this time. -/
def Reader.UndoesPrinting (reader : Reader) : Prop :=
  ∀ t : Timestamp, t.Valid → 0 ≤ t.year → t.year ≤ 9999 → reader t.text.toList = some t

theorem parse_undoesPrinting : Reader.UndoesPrinting parse := by
  intro t valid first last
  have fields := valid
  obtain ⟨-, month, -, day, hour, minute, second, nano⟩ := fields
  have days := daysInMonth_le t.year t.month
  have two {n : Nat} (small : n ≤ 99) (rest : List Char) :
      digits 2 ((Text.padZero 2 n).toList ++ rest) = some (n, rest) :=
    digits_of_writes (Text.padZero_writes (by omega) (by decide)) rest
  have four : Writes 4 t.year.natAbs (Text.padZero 4 t.year.natAbs).toList :=
    Text.padZero_writes (by omega) (by decide)
  have nine : Writes 9 t.nano (Text.padZero 9 t.nano).toList :=
    Text.padZero_writes (by omega) (by decide)
  have year : (t.year.natAbs : Int) = t.year := Int.natAbs_of_nonneg first
  have reads {α β : Type} {o : Option α} {f : α → Option β} {a : α} {b : β} (h : o = some a)
      (rest : f a = some b) : (o >>= f) = some b := by
    rw [h]
    exact rest
  have ends {t' : Timestamp} (same : t' = t) :
      (if ([] : List Char).isEmpty ∧ t'.Valid then some (t'.earlierBy 0) else none) = some t := by
    rw [same, if_pos ⟨rfl, valid⟩, earlierBy_zero valid]
  rw [text_toList first last]
  -- Each number is read, and then the character after it.
  refine reads (digits_of_writes four _) (reads (literal_cons _ _) ?_)
  refine reads (two (by omega) _) (reads (literal_cons _ _) ?_)
  refine reads (two (by omega) _) (reads (congrArg (· <|> _) (literal_cons _ _)) ?_)
  refine reads (two (by omega) _) (reads (literal_cons _ _) ?_)
  refine reads (two (by omega) _) (reads (literal_cons _ _) ?_)
  refine reads (two (by omega) _) (reads (secondFraction_of_writes nine _) ?_)
  exact reads (rfl : zone ['Z'] = some (0, [])) (ends (by rw [year]))

end Timestamp

end Testbed
