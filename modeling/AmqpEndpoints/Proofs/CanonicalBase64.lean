import Mathlib.Algebra.Group.Nat.Defs
import AmqpEndpoints.Proofs.Base64

/-!
# Canonical base64

Symbols that are read are the written form of their bytes, so that bytes are read from one form
only. This form is the one that the format lays down: the bits of the bytes in groups of six, in the
standard alphabet, with all of the padding and with zeros for the bits that no byte uses.
-/

set_option autoImplicit false

namespace AmqpEndpoints.Text.Base64

/-!
## Symbols that are read
-/

theorem eq_symbol_of_value? {byte : UInt8} {number : Nat} (valued : value? byte = some number) :
    number < 64 ∧ byte = symbol number := by
  have code : ∀ number, byte.toNat = number → byte = UInt8.ofNat number := by
    rintro _ rfl
    exact UInt8.ofNat_toNat.symm
  unfold value? at valued
  dsimp only at valued
  unfold symbol
  repeat' split at valued
  all_goals cases valued
  · exact ⟨by omega, by rw [if_pos (by omega)]; exact code _ (by omega)⟩
  · exact ⟨by omega, by rw [if_neg (by omega), if_pos (by omega)]; exact code _ (by omega)⟩
  · refine ⟨by omega, ?_⟩
    rw [if_neg (by omega), if_neg (by omega), if_pos (by omega)]
    exact code _ (by omega)
  · exact ⟨by decide, code 43 ‹_›⟩
  · exact ⟨by decide, code 47 ‹_›⟩

theorem eq_symbols_of_values {offset : Nat} {symbols : List UInt8} {numbers : List Nat}
    (valued : values offset symbols = .ok numbers) :
    symbols = numbers.map symbol ∧ ∀ number ∈ numbers, number < 64 := by
  induction symbols generalizing offset numbers with
  | nil =>
      cases valued
      exact ⟨rfl, List.forall_mem_nil _⟩
  | cons byte rest ih =>
      rw [values] at valued
      cases read : value? byte with
      | none => simp [read] at valued
      | some number =>
          cases later : values (offset + 1) rest with
          | error fault => simp [read, later, Except.map] at valued
          | ok others =>
              simp only [read, later, Except.map, Except.ok.injEq] at valued
              subst valued
              obtain ⟨small, same⟩ := eq_symbol_of_value? read
              obtain ⟨sames, smalls⟩ := ih later
              exact ⟨by rw [same, sames]; rfl, List.forall_mem_cons.mpr ⟨small, smalls⟩⟩

/-- Numbers of six bits that leave no bits over are the ones that their bytes are written with. -/
theorem encode_gather {numbers : List Nat} (small : ∀ number ∈ numbers, number < 64)
    (least : 2 ≤ numbers.length) (most : numbers.length ≤ 4) (whole : (gather numbers).2 = 0) :
    encode (gather numbers).1 =
      numbers.map symbol ++ List.replicate (4 - numbers.length) pad := by
  rcases numbers with _ | ⟨a, _ | ⟨b, _ | ⟨c, _ | ⟨d, _ | ⟨more, numbers⟩⟩⟩⟩⟩
  case nil | cons.nil =>
    simp only [List.length_cons, List.length_nil] at least
    omega
  case cons.cons.cons.cons.cons =>
    simp only [List.length_cons] at most
    omega
  all_goals
    simp only [List.mem_cons, List.not_mem_nil, or_false, forall_eq_or_imp, forall_eq] at small
    simp only [gather, encode]
  case cons.cons.nil =>
    change b % 16 = 0 at whole
    have first : (a * 4 + b / 16) / 4 = a := by omega
    have second : (a * 4 + b / 16) % 4 * 16 = b := by omega
    rw [toNat_ofNat _ (by omega), first, second]
    rfl
  case cons.cons.cons.nil =>
    change c % 4 = 0 at whole
    have first : (a * 4 + b / 16) / 4 = a := by omega
    have second : (a * 4 + b / 16) % 4 * 16 + (b % 16 * 16 + c / 4) / 16 = b := by omega
    have third : (b % 16 * 16 + c / 4) % 16 * 4 = c := by omega
    rw [toNat_ofNat _ (by omega), toNat_ofNat _ (by omega), first, second, third]
    rfl
  case cons.cons.cons.cons.nil =>
    have first : (a * 4 + b / 16) / 4 = a := by omega
    have second : (a * 4 + b / 16) % 4 * 16 + (b % 16 * 16 + c / 4) / 16 = b := by omega
    have third : (b % 16 * 16 + c / 4) % 16 * 4 + (c % 4 * 64 + d) / 64 = c := by omega
    have fourth : (c % 4 * 64 + d) % 64 = d := by omega
    rw [toNat_ofNat _ (by omega), toNat_ofNat _ (by omega), toNat_ofNat _ (by omega), first, second,
      third, fourth]
    rfl

/-- A last group that is read is the written form of its bytes: it is empty, or two to four symbols
are filled up to four. -/
theorem eq_encode_of_decodeLast {offset : Nat} {group bytes : List UInt8}
    (most : group.length ≤ 4) (read : decodeLast offset group = .ok bytes) :
    group = encode bytes := by
  unfold decodeLast at read
  dsimp only at read
  have cut : group.takeWhile (· != pad) ++ group.dropWhile (· != pad) = group :=
    List.takeWhile_append_dropWhile
  generalize group.takeWhile (· != pad) = symbols at read cut
  generalize group.dropWhile (· != pad) = padding at read cut
  cases valued : values offset symbols with
  | error fault => simp [valued] at read
  | ok numbers =>
      rw [valued] at read
      dsimp only at read
      obtain ⟨rfl, small⟩ := eq_symbols_of_values valued
      split at read
      · cases read
      rename_i placed
      split at read
      · cases read
      rename_i enough
      split at read
      · cases read
      rename_i full
      have filled : padding = List.replicate padding.length pad := by
        rw [List.eq_replicate_iff]
        refine ⟨rfl, fun byte member => Classical.byContradiction fun other => placed ?_⟩
        exact ⟨List.ne_nil_of_mem member,
          .inr (List.any_eq_true.mpr ⟨byte, member, bne_iff_ne.mpr other⟩)⟩
      rw [← cut, List.length_append, List.length_map] at full most
      cases numbers with
      | nil =>
          have nothing : group = [] := Classical.byContradiction fun some =>
            enough ⟨.inr some, Nat.zero_lt_two⟩
          cases read
          exact nothing
      | cons first rest =>
          have some : group ≠ [] := by
            rw [← cut]
            exact List.cons_ne_nil _ _
          have two : 2 ≤ (first :: rest).length := by
            refine Nat.le_of_not_lt fun short => enough ⟨.inr some, ?_⟩
            rwa [List.length_map]
          have visible : (first :: rest).map symbol ≠ [] := List.cons_ne_nil _ _
          rw [List.getLast?_eq_some_getLast visible] at read
          dsimp only at read
          split at read
          · cases read
          rename_i whole
          cases read
          have four : 4 - (first :: rest).length = padding.length := by omega
          rw [encode_gather small two (by omega) (by simpa using whole), four, ← filled, cut]

theorem eq_encode_of_decodeFrom {offset : Nat} {symbols bytes : List UInt8}
    (read : decodeFrom offset symbols = .ok bytes) : symbols = encode bytes := by
  fun_induction decodeFrom offset symbols generalizing bytes with
  | case1 offset a b c d e rest fault valued => cases read
  | case2 offset a b c d e rest numbers valued ih =>
      cases later : decodeFrom (offset + 4) (e :: rest) with
      | error fault => simp [later, Except.map] at read
      | ok others =>
          simp only [later, Except.map, Except.ok.injEq] at read
          obtain ⟨same, small⟩ := eq_symbols_of_values valued
          -- Four symbols are four numbers, which three bytes are made of.
          rcases numbers with _ | ⟨w, _ | ⟨x, _ | ⟨y, _ | ⟨z, _ | ⟨more, numbers⟩⟩⟩⟩⟩
          all_goals
            simp only [List.map_cons, List.map_nil, List.cons.injEq, reduceCtorEq,
              and_false] at same
          obtain ⟨rfl, rfl, rfl, rfl, -⟩ := same
          have front := encode_gather small (Nat.le_add_left 2 2) (Nat.le_refl 4) rfl
          rw [← read]
          change _ = encode (_ :: _ :: _ :: others)
          rw [encode_cons_cons_cons, ← ih later]
          exact congrArg (· ++ e :: rest) front.symm
  | case3 offset group last =>
      refine eq_encode_of_decodeLast (Nat.le_of_not_lt fun more => ?_) read
      rcases group with _ | ⟨a, _ | ⟨b, _ | ⟨c, _ | ⟨d, _ | ⟨e, rest⟩⟩⟩⟩⟩
      case cons.cons.cons.cons.cons => exact last a b c d e rest rfl
      all_goals
        simp only [List.length_cons, List.length_nil] at more
        omega

/-- What is read is the written form of its bytes, and nothing else is. -/
theorem decode_eq_ok_iff {symbols bytes : List UInt8} :
    decode symbols = .ok bytes ↔ symbols = encode bytes := by
  constructor
  · intro read
    unfold decode at read
    split at read
    · cases read
    · exact eq_encode_of_decodeFrom read
  · rintro rfl
    exact decode_encode bytes

/-!
## Bits
-/

/-- The lowest bits of a number, the highest of them first. -/
def bits : Nat → Nat → List Bool
  | 0, _ => []
  | width + 1, number => bits width (number / 2) ++ [number % 2 == 1]

theorem length_bits (width number : Nat) : (bits width number).length = width := by
  induction width generalizing number with
  | zero => rfl
  | succ width ih => simp [bits, ih]

/-- The bits of two numbers side by side are those of one. -/
theorem bits_add (high low : Nat) {first second : Nat} (fits : second < 2 ^ low) :
    bits (high + low) (first * 2 ^ low + second) = bits high first ++ bits low second := by
  induction low generalizing second with
  | zero =>
      obtain rfl : second = 0 := by simpa using fits
      simp [bits]
  | succ low ih =>
      rw [pow_succ] at fits ⊢
      have half : (first * (2 ^ low * 2) + second) / 2 = first * 2 ^ low + second / 2 := by
        rw [← Nat.mul_assoc]
        omega
      have odd : (first * (2 ^ low * 2) + second) % 2 = second % 2 := by
        rw [← Nat.mul_assoc]
        omega
      rw [← Nat.add_assoc, bits, half, odd, ih (by omega), bits, List.append_assoc]

theorem bits_injective {width first second : Nat} (one : first < 2 ^ width)
    (other : second < 2 ^ width) (same : bits width first = bits width second) :
    first = second := by
  induction width generalizing first second with
  | zero => simp at one other; omega
  | succ width ih =>
      rw [pow_succ] at one other
      obtain ⟨high, low⟩ := List.append_inj' same rfl
      have half := ih (by omega) (by omega) high
      have odd : (first % 2 == 1) = (second % 2 == 1) := List.cons.inj low |>.1
      rw [Bool.eq_iff_iff, beq_iff_eq, beq_iff_eq] at odd
      omega

theorem flatMap_bits_injective {width : Nat} {first second : List Nat}
    (one : ∀ number ∈ first, number < 2 ^ width) (other : ∀ number ∈ second, number < 2 ^ width)
    (length : first.length = second.length)
    (same : first.flatMap (bits width) = second.flatMap (bits width)) : first = second := by
  induction first generalizing second with
  | nil => exact (List.length_eq_zero_iff.mp length.symm).symm
  | cons number rest ih =>
      cases second with
      | nil => cases length
      | cons number' rest' =>
          rw [List.forall_mem_cons] at one other
          obtain ⟨head, tail⟩ := List.append_inj same (by rw [length_bits, length_bits])
          rw [bits_injective one.1 other.1 head, ih one.2 other.2 (Nat.succ.inj length) tail]

/-!
## The format
-/

/-- The symbols, in the order of the numbers that they stand for. -/
def alphabet : List Char :=
  "ABCDEFGHIJKLMNOPQRSTUVWXYZabcdefghijklmnopqrstuvwxyz0123456789+/".toList

/-- How bytes are written: their bits and zeros behind them are cut into numbers of six bits, each
of which is written as its symbol, and for every two of these zeros there is one `=` at the end,
which makes the length a multiple of four. -/
def Writes (text : List Char) (bytes : List UInt8) : Prop :=
  ∃ (numbers : List Nat) (count : Nat),
    (∀ number ∈ numbers, number < 64) ∧ count < 3 ∧
    numbers.flatMap (bits 6) =
      bytes.flatMap (fun byte => bits 8 byte.toNat) ++ List.replicate (2 * count) false ∧
    text = numbers.map (fun number => alphabet.getD number '=') ++ List.replicate count '=' ∧
    text.length % 4 = 0

theorem length_flatMap_bits {α : Type} (width : Nat) (number : α → Nat) (items : List α) :
    (items.flatMap fun item => bits width (number item)).length = width * items.length := by
  induction items with
  | nil => rfl
  | cons item rest ih =>
      rw [List.flatMap_cons, List.length_append, ih, length_bits, List.length_cons, Nat.mul_succ,
        Nat.add_comm]

/-- There is only one way to write bytes. -/
theorem Writes.unique {first second : List Char} {bytes : List UInt8} (one : Writes first bytes)
    (other : Writes second bytes) : first = second := by
  obtain ⟨numbers, count, small, few, same, rfl, _⟩ := one
  obtain ⟨numbers', count', small', few', same', rfl, _⟩ := other
  have length := congrArg List.length same
  have length' := congrArg List.length same'
  have six := length_flatMap_bits 6 fun number => number
  rw [List.length_append, List.length_replicate, length_flatMap_bits 8, six] at length length'
  obtain rfl : count = count' := by omega
  have equal : numbers = numbers' :=
    @flatMap_bits_injective 6 _ _ small small' (by omega) (same.trans same'.symm)
  rw [equal]

theorem getD_alphabet {number : Nat} (small : number < 64) :
    alphabet.getD number '=' = Char.ofNat (symbol number).toNat := by
  have all : ∀ number < 64, alphabet.getD number '=' = Char.ofNat (symbol number).toNat := by
    decide +kernel
  exact all number small

/-- Numbers that leave no bits over have the bits of the bytes that are made of them, and zeros. -/
theorem bits_gather {numbers : List Nat} (small : ∀ number ∈ numbers, number < 64)
    (least : 2 ≤ numbers.length) (most : numbers.length ≤ 4) (whole : (gather numbers).2 = 0) :
    numbers.flatMap (bits 6) = (gather numbers).1.flatMap (fun byte => bits 8 byte.toNat) ++
      List.replicate (2 * (4 - numbers.length)) false := by
  have second : ∀ b, b < 64 → bits 6 b = bits 2 (b / 16) ++ bits 4 (b % 16) := by
    intro b fits
    rw [← bits_add 2 4 (by omega)]
    congr 1
    omega
  have third : ∀ c, c < 64 → bits 6 c = bits 4 (c / 4) ++ bits 2 (c % 4) := by
    intro c fits
    rw [← bits_add 4 2 (by omega)]
    congr 1
    omega
  have one : ∀ a b, b < 64 → bits 8 (a * 4 + b / 16) = bits 6 a ++ bits 2 (b / 16) :=
    fun a b fits => bits_add 6 2 (by omega)
  have two : ∀ b c, c < 64 → bits 8 (b % 16 * 16 + c / 4) = bits 4 (b % 16) ++ bits 4 (c / 4) :=
    fun b c fits => bits_add 4 4 (by omega)
  have three : ∀ c d, d < 64 → bits 8 (c % 4 * 64 + d) = bits 2 (c % 4) ++ bits 6 d :=
    fun c d fits => bits_add 2 6 (by omega)
  rcases numbers with _ | ⟨a, _ | ⟨b, _ | ⟨c, _ | ⟨d, _ | ⟨more, numbers⟩⟩⟩⟩⟩
  case nil | cons.nil =>
    simp only [List.length_cons, List.length_nil] at least
    omega
  case cons.cons.cons.cons.cons =>
    simp only [List.length_cons] at most
    omega
  all_goals
    simp only [List.mem_cons, List.not_mem_nil, or_false, forall_eq_or_imp, forall_eq] at small
    simp only [gather, List.flatMap_cons, List.flatMap_nil, List.append_nil, List.append_assoc]
  case cons.cons.nil =>
    change b % 16 = 0 at whole
    rw [toNat_ofNat _ (by omega), one a b (by omega), second b (by omega), whole, List.append_assoc]
    rfl
  case cons.cons.cons.nil =>
    change c % 4 = 0 at whole
    rw [toNat_ofNat _ (by omega), toNat_ofNat _ (by omega), one a b (by omega), two b c (by omega),
      second b (by omega), third c (by omega), whole]
    simp only [List.append_assoc]
    rfl
  case cons.cons.cons.cons.nil =>
    rw [toNat_ofNat _ (by omega), toNat_ofNat _ (by omega), toNat_ofNat _ (by omega),
      one a b (by omega), two b c (by omega), three c d (by omega), second b (by omega),
      third c (by omega)]
    simp only [List.append_assoc]
    rfl

theorem writes_group {group : List UInt8} (some : group ≠ []) (most : group.length ≤ 3) :
    ∃ numbers : List Nat, (∀ number ∈ numbers, number < 64) ∧
      numbers.flatMap (bits 6) = group.flatMap (fun byte => bits 8 byte.toNat) ++
        List.replicate (2 * (3 - group.length)) false ∧
      encode group = numbers.map symbol ++ List.replicate (3 - group.length) pad := by
  obtain ⟨numbers, written, count, small, whole⟩ := encode_group some most
  have least : 0 < group.length := List.length_pos_iff.mpr some
  have cut := bits_gather small (by omega) (by omega) (congrArg Prod.snd whole)
  have zeros : 4 - numbers.length = 3 - group.length := by omega
  rw [whole, zeros] at cut
  exact ⟨numbers, small, cut, written⟩

theorem map_symbol {numbers : List Nat} (small : ∀ number ∈ numbers, number < 64) :
    (numbers.map symbol).map (fun byte => Char.ofNat byte.toNat) =
      numbers.map fun number => alphabet.getD number '=' := by
  rw [List.map_map]
  exact List.map_congr_left fun number member => (getD_alphabet (small number member)).symm

theorem encode_bits (bytes : List UInt8) :
    ∃ (numbers : List Nat) (count : Nat), (∀ number ∈ numbers, number < 64) ∧ count < 3 ∧
      numbers.flatMap (bits 6) =
        bytes.flatMap (fun byte => bits 8 byte.toNat) ++ List.replicate (2 * count) false ∧
      encode bytes = numbers.map symbol ++ List.replicate count pad := by
  induction bytes using encode.induct with
  | case1 a b c rest ih =>
      obtain ⟨front, smallFront, cutFront, written⟩ :=
        writes_group (List.cons_ne_nil a [b, c]) (Nat.le_refl 3)
      obtain ⟨numbers, count, small, few, cut, later⟩ := ih
      refine ⟨front ++ numbers, count, List.forall_mem_append.mpr ⟨smallFront, small⟩, few, ?_, ?_⟩
      · rw [List.flatMap_append, cutFront, cut]
        simp
      · rw [encode_cons_cons_cons, written, later]
        simp
  | case2 a b =>
      obtain ⟨numbers, small, cut, written⟩ :=
        writes_group (List.cons_ne_nil a [b]) (Nat.le_succ 2)
      exact ⟨numbers, 1, small, by decide, cut, written⟩
  | case3 a =>
      obtain ⟨numbers, small, cut, written⟩ :=
        writes_group (List.cons_ne_nil a []) (Nat.le_add_left 1 2)
      exact ⟨numbers, 2, small, by decide, cut, written⟩
  | case4 => exact ⟨[], 0, List.forall_mem_nil _, by decide, rfl, rfl⟩

theorem writes_iff {text : List Char} {bytes : List UInt8} :
    Writes text bytes ↔ text = (encode bytes).map fun byte => Char.ofNat byte.toNat := by
  have written : Writes ((encode bytes).map fun byte => Char.ofNat byte.toNat) bytes := by
    obtain ⟨numbers, count, small, few, cut, same⟩ := encode_bits bytes
    refine ⟨numbers, count, small, few, cut, ?_, ?_⟩
    · rw [same, List.map_append, map_symbol small, List.map_replicate]
      rfl
    · rw [List.length_map, length_encode]
  constructor
  · intro other
    exact other.unique written
  · rintro rfl
    exact written

end AmqpEndpoints.Text.Base64
