import AmqpEndpoints.Proofs.Utf8
import AmqpEndpoints.Text.Base64

/-!
# Reading back base64

Encoded bytes are read back as they were: each group of three bytes is four numbers of six bits, and
the last group leaves no bits over. The symbols are letters, digits and four marks.
-/

set_option autoImplicit false

namespace AmqpEndpoints.Text.Base64

/-!
## Symbols
-/

theorem value?_symbol {number : Nat} (small : number < 64) :
    value? (symbol number) = some number := by
  have all : ∀ number < 64, value? (symbol number) = some number := by decide
  exact all number small

theorem symbol_ne_pad {number : Nat} (small : number < 64) : symbol number ≠ pad := by
  have all : ∀ number < 64, symbol number ≠ pad := by decide
  exact all number small

theorem values_symbols (offset : Nat) {numbers : List Nat} (small : ∀ number ∈ numbers, number < 64) :
    values offset (numbers.map symbol) = .ok numbers := by
  induction numbers generalizing offset with
  | nil => rfl
  | cons number rest ih =>
      obtain ⟨first, others⟩ := List.forall_mem_cons.mp small
      rw [List.map_cons, values, value?_symbol first]
      dsimp only
      rw [ih (offset + 1) others]
      rfl

/-!
## Groups
-/

/-- A group of up to three bytes is written as numbers of six bits, one more than it has bytes, that
leave no bits over. -/
theorem encode_group {group : List UInt8} (some : group ≠ []) (most : group.length ≤ 3) :
    ∃ numbers : List Nat,
      encode group = numbers.map symbol ++ List.replicate (3 - group.length) pad ∧
      numbers.length = group.length + 1 ∧ (∀ number ∈ numbers, number < 64) ∧
      gather numbers = (group, 0) := by
  match group with
  | [] => exact absurd rfl some
  | [a] =>
      have first := a.toNat_lt
      refine ⟨[a.toNat / 4, a.toNat % 4 * 16], rfl, rfl, ?_, ?_⟩
      · simp only [List.mem_cons, List.not_mem_nil, or_false, forall_eq_or_imp, forall_eq]
        omega
      · rw [gather, ofNat_eq a (by omega)]
        congr 1
        omega
  | [a, b] =>
      have first := a.toNat_lt
      have second := b.toNat_lt
      refine ⟨[a.toNat / 4, a.toNat % 4 * 16 + b.toNat / 16, b.toNat % 16 * 4], rfl, rfl, ?_, ?_⟩
      · simp only [List.mem_cons, List.not_mem_nil, or_false, forall_eq_or_imp, forall_eq]
        omega
      · rw [gather, ofNat_eq a (by omega), ofNat_eq b (by omega)]
        congr 1
        omega
  | [a, b, c] =>
      have first := a.toNat_lt
      have second := b.toNat_lt
      have third := c.toNat_lt
      refine ⟨[a.toNat / 4, a.toNat % 4 * 16 + b.toNat / 16, b.toNat % 16 * 4 + c.toNat / 64,
        c.toNat % 64], rfl, rfl, ?_, ?_⟩
      · simp only [List.mem_cons, List.not_mem_nil, or_false, forall_eq_or_imp, forall_eq]
        omega
      · rw [gather, ofNat_eq a (by omega), ofNat_eq b (by omega),
          ofNat_eq c (by omega)]
  | _ :: _ :: _ :: _ :: _ =>
      simp only [List.length_cons] at most
      omega

theorem mem_group {group : List UInt8} {byte : UInt8} (some : group ≠ [])
    (most : group.length ≤ 3) (member : byte ∈ encode group) :
    byte = pad ∨ ∃ number < 64, byte = symbol number := by
  obtain ⟨numbers, written, _, small, _⟩ := encode_group some most
  rw [written] at member
  rcases List.mem_append.mp member with digit | padding
  · obtain ⟨number, there, rfl⟩ := List.mem_map.mp digit
    exact .inr ⟨number, small number there, rfl⟩
  · exact .inl (List.mem_replicate.mp padding).2

/-- The last group of encoded bytes is read as it was. -/
theorem decodeLast_encode (offset : Nat) {group : List UInt8} (some : group ≠ [])
    (most : group.length ≤ 3) : decodeLast offset (encode group) = .ok group := by
  obtain ⟨numbers, written, count, small, whole⟩ := encode_group some most
  have least : 0 < group.length := List.length_pos_iff.mpr some
  have visible : ∀ byte ∈ numbers.map symbol, (byte != pad) = true := by
    intro byte member
    obtain ⟨number, there, rfl⟩ := List.mem_map.mp member
    exact bne_iff_ne.mpr (symbol_ne_pad (small number there))
  have hidden : ∀ count, (List.replicate count pad).takeWhile (· != pad) = [] ∧
      (List.replicate count pad).dropWhile (· != pad) = List.replicate count pad := by
    intro count
    cases count <;> exact ⟨rfl, rfl⟩
  have front : (encode group).takeWhile (· != pad) = numbers.map symbol := by
    rw [written, List.takeWhile_append_of_pos visible, (hidden _).1, List.append_nil]
  have back : (encode group).dropWhile (· != pad) = List.replicate (3 - group.length) pad := by
    rw [written, List.dropWhile_append_of_pos visible, (hidden _).2]
  have enough : ¬ (numbers.map symbol).length < 2 := by
    rw [List.length_map]
    omega
  have padded : ¬ (List.replicate (3 - group.length) pad).any (· != pad) = true := by
    simp
  have full : (encode group).length % 4 = 0 := by
    rw [written, List.length_append, List.length_map, List.length_replicate]
    omega
  unfold decodeLast
  dsimp only
  rw [front, back, values_symbols offset small]
  dsimp only
  rw [if_neg (fun misplaced => misplaced.2.elim enough padded), if_neg (fun short => enough short.2),
    if_neg (fun ragged => ragged full), whole]
  dsimp only
  split <;> rfl

theorem encode_cons_cons_cons (a b c : UInt8) (rest : List UInt8) :
    encode (a :: b :: c :: rest) = encode [a, b, c] ++ encode rest :=
  rfl

theorem encode_ne_nil {bytes : List UInt8} (some : bytes ≠ []) : encode bytes ≠ [] := by
  match bytes with
  | [] => exact absurd rfl some
  | [_] => exact List.cons_ne_nil _ _
  | [_, _] => exact List.cons_ne_nil _ _
  | _ :: _ :: _ :: _ => exact List.cons_ne_nil _ _

theorem length_encode (bytes : List UInt8) : (encode bytes).length % 4 = 0 := by
  induction bytes using encode.induct with
  | case1 a b c rest ih =>
      rw [encode_cons_cons_cons, List.length_append]
      change (4 + (encode rest).length) % 4 = 0
      omega
  | case2 a b => simp [encode]
  | case3 a => simp [encode]
  | case4 => rfl

theorem decodeFrom_of_values {offset : Nat} {a b c d e : UInt8} {rest : List UInt8}
    {numbers : List Nat} (valued : values offset [a, b, c, d] = .ok numbers) :
    decodeFrom offset (a :: b :: c :: d :: e :: rest) =
      (decodeFrom (offset + 4) (e :: rest)).map fun bytes => (gather numbers).1 ++ bytes := by
  rw [decodeFrom, valued]

/-- A full group in front of others is read on its own. -/
theorem decodeFrom_append (offset : Nat) {a b c e : UInt8} {rest : List UInt8} :
    decodeFrom offset (encode [a, b, c] ++ e :: rest) =
      (decodeFrom (offset + 4) (e :: rest)).map fun bytes => [a, b, c] ++ bytes := by
  obtain ⟨numbers, written, count, small, whole⟩ :=
    encode_group (List.cons_ne_nil a [b, c]) (Nat.le_refl 3)
  have valued : values offset (encode [a, b, c]) = .ok numbers := by
    rw [written]
    change values offset (numbers.map symbol ++ []) = _
    rw [List.append_nil, values_symbols offset small]
  have read := @decodeFrom_of_values offset _ _ _ _ e rest numbers valued
  rw [whole] at read
  exact read

theorem decodeFrom_encode (offset : Nat) {bytes : List UInt8} (some : bytes ≠ []) :
    decodeFrom offset (encode bytes) = .ok bytes := by
  induction bytes using encode.induct generalizing offset with
  | case1 a b c rest ih =>
      rw [encode_cons_cons_cons]
      -- A full group with nothing behind it is read as the last one.
      cases rest with
      | nil => exact decodeLast_encode offset some (Nat.le_refl 3)
      | cons d others =>
          have read := ih (offset + 4) (List.cons_ne_nil d others)
          obtain ⟨e, symbols, later⟩ :=
            List.exists_cons_of_ne_nil (encode_ne_nil (List.cons_ne_nil d others))
          rw [later] at read ⊢
          rw [decodeFrom_append, read]
          rfl
  | case2 a b => exact decodeLast_encode offset some (Nat.le_succ 2)
  | case3 a => exact decodeLast_encode offset some (Nat.le_add_left 1 2)
  | case4 => exact absurd rfl some

theorem decode_encode (bytes : List UInt8) : decode (encode bytes) = .ok bytes := by
  have complete : stray? (encode bytes) = none := by
    rw [stray?, length_encode]
    rfl
  rw [decode, complete]
  cases bytes with
  | nil => rfl
  | cons first rest => exact decodeFrom_encode 0 (List.cons_ne_nil first rest)

/-!
## The alphabet
-/

theorem mem_encode {bytes : List UInt8} {byte : UInt8} (member : byte ∈ encode bytes) :
    byte = pad ∨ ∃ number < 64, byte = symbol number := by
  induction bytes using encode.induct with
  | case1 a b c rest ih =>
      rw [encode_cons_cons_cons] at member
      rcases List.mem_append.mp member with here | later
      · exact mem_group (List.cons_ne_nil a [b, c]) (Nat.le_refl 3) here
      · exact ih later
  | case2 a b => exact mem_group (List.cons_ne_nil a [b]) (Nat.le_succ 2) member
  | case3 a => exact mem_group (List.cons_ne_nil a []) (Nat.le_add_left 1 2) member
  | case4 => cases member

end AmqpEndpoints.Text.Base64
