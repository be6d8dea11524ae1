import AmqpEndpoints.Number.Unsigned

/-!
# Reading back decimal numbers

A number within a limit is read from its decimal digits, and whatever is read is a number within the
limit that was written with digits.
-/

set_option autoImplicit false

namespace AmqpEndpoints.Number

theorem digit?_eq (c : Char) : digit? c = if c.isDigit then some (c.toNat - 48) else none := by
  have same : ('0' ≤ c && c ≤ '9') = c.isDigit := by
    rw [Bool.eq_iff_iff, Bool.and_eq_true, decide_eq_true_eq, decide_eq_true_eq,
      Char.isDigit_iff_toNat]
    exact Iff.rfl
  rw [digit?, same]
  rfl

/-- Digits only add to what was read. -/
theorem le_ofDigitChars (digits : List Char) (value : Nat) :
    value ≤ Nat.ofDigitChars 10 digits value := by
  induction digits generalizing value with
  | nil => exact Nat.le_refl value
  | cons c rest ih =>
      rw [Nat.ofDigitChars_cons]
      exact Nat.le_trans (by omega) (ih _)

theorem readDigits_of_isDigit {limit value : Nat} {digits : List Char}
    (all : ∀ c ∈ digits, c.isDigit = true)
    (small : Nat.ofDigitChars 10 digits value ≤ limit) :
    readDigits limit value digits = .ok (Nat.ofDigitChars 10 digits value) := by
  induction digits generalizing value with
  | nil => rw [readDigits, Nat.ofDigitChars_nil]
  | cons c rest ih =>
      obtain ⟨first, others⟩ := List.forall_mem_cons.mp all
      rw [Nat.ofDigitChars_cons, Nat.mul_comm] at small ⊢
      have next := Nat.le_trans (le_ofDigitChars rest _) small
      rw [readDigits, digit?_eq, if_pos first]
      exact (if_pos next).trans (ih others small)

theorem readDigits_le {limit value result : Nat} {text : List Char}
    (read : readDigits limit value text = .ok result) (small : value ≤ limit) :
    result ≤ limit := by
  induction text generalizing value with
  | nil =>
      cases read
      exact small
  | cons c rest ih =>
      rw [readDigits] at read
      split at read
      · cases read
      · split at read
        · exact ih read ‹_›
        · cases read

theorem isDigit_of_readDigits {limit value result : Nat} {text : List Char}
    (read : readDigits limit value text = .ok result) : ∀ c ∈ text, c.isDigit = true := by
  induction text generalizing value with
  | nil => exact List.forall_mem_nil _
  | cons c rest ih =>
      rw [readDigits, digit?_eq] at read
      by_cases first : c.isDigit
      · rw [if_pos first] at read
        dsimp only at read
        split at read
        · exact List.forall_mem_cons.mpr ⟨first, ih read⟩
        · cases read
      · rw [if_neg first] at read
        cases read

/-- What is read is written with digits, apart from a sign in front. -/
theorem read_cases {limit result : Nat} {text : List Char} (read : read limit text = .ok result) :
    ∃ digits, readDigits limit 0 digits = .ok result ∧
      (text = digits ∨ text = '+' :: digits) := by
  unfold Number.read at read
  split at read
  · cases read
  · cases read
  · exact ⟨_, read, .inr rfl⟩
  · exact ⟨_, read, .inl rfl⟩

theorem read_ne_ok_of_mem {limit number : Nat} {text : List Char} {c : Char} (member : c ∈ text)
    (other : c.isDigit = false) (unsigned : c ≠ '+') : read limit text ≠ .ok number := by
  intro read
  obtain ⟨digits, digitsRead, whole⟩ := read_cases read
  have all := isDigit_of_readDigits digitsRead
  have digit : c.isDigit = true := by
    rcases whole with rfl | rfl
    · exact all c member
    · exact all c (List.mem_of_ne_of_mem unsigned member)
  rw [digit] at other
  cases other

theorem read_of_unsigned {limit : Nat} {text : List Char} (some : text ≠ [])
    (unsigned : '+' ∉ text) : read limit text = readDigits limit 0 text := by
  unfold Number.read
  split
  · exact absurd rfl some
  · exact absurd List.mem_cons_self unsigned
  · exact absurd List.mem_cons_self unsigned
  · rfl

theorem read_le {limit result : Nat} {text : List Char} (read : read limit text = .ok result) :
    result ≤ limit := by
  obtain ⟨digits, digitsRead, _⟩ := read_cases read
  exact readDigits_le digitsRead (Nat.zero_le limit)

theorem read_toDigits {limit number : Nat} (small : number ≤ limit) :
    read limit (Nat.toDigits 10 number) = .ok number := by
  have all : ∀ c ∈ Nat.toDigits 10 number, c.isDigit = true := fun c member =>
    Nat.isDigit_of_mem_toDigits (by decide) (by decide) member
  have reads : readDigits limit 0 (Nat.toDigits 10 number) = .ok number := by
    rw [readDigits_of_isDigit all (by rw [Nat.ofDigitChars_ten_toDigits]; exact small),
      Nat.ofDigitChars_ten_toDigits]
  have unsigned : '+' ∉ Nat.toDigits 10 number := fun member => absurd (all _ member) (by decide)
  exact (read_of_unsigned Nat.toDigits_ne_nil unsigned).trans reads

end AmqpEndpoints.Number
