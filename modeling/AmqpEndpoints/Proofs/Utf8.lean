import AmqpEndpoints.Text.Utf8

/-!
# Reading back encoded texts

The bytes of a text are cut into exactly its characters, so that decoding gives the text again, and
bytes that are a text are no other than its encoded form.
-/

set_option autoImplicit false

namespace AmqpEndpoints.Text

theorem ofNat_eq (byte : UInt8) {number : Nat} (same : number = byte.toNat) :
    UInt8.ofNat number = byte := by
  rw [same, UInt8.ofNat_toNat]

theorem toNat_ofNat (number : Nat) (small : number < 256) :
    (UInt8.ofNat number).toNat = number :=
  UInt8.toNat_ofNat_of_lt' small

namespace Utf8

theorem within_iff {low high byte : UInt8} :
    within low high byte = true ↔ low.toNat ≤ byte.toNat ∧ byte.toNat ≤ high.toNat := by
  simp [within, UInt8.le_iff_toNat_le]

/-!
## First bytes
-/

namespace Lead

/-- The kind of a first byte, by its number. -/
theorem ofByte_eq (byte : UInt8) :
    ofByte byte =
      if byte.toNat < 0x80 then .one
      else if 0xC2 ≤ byte.toNat ∧ byte.toNat ≤ 0xDF then .two
      else if byte.toNat = 0xE0 then .three 0xA0 0xBF
      else if byte.toNat = 0xED then .three 0x80 0x9F
      else if 0xE1 ≤ byte.toNat ∧ byte.toNat ≤ 0xEF then .three 0x80 0xBF
      else if byte.toNat = 0xF0 then .four 0x90 0xBF
      else if 0xF1 ≤ byte.toNat ∧ byte.toNat ≤ 0xF3 then .four 0x80 0xBF
      else if byte.toNat = 0xF4 then .four 0x80 0x8F
      else .none := by
  have same : ∀ other : UInt8, (byte == other) = true ↔ byte.toNat = other.toNat := by
    intro other
    rw [beq_iff_eq, UInt8.toNat_inj]
  simp only [ofByte, UInt8.lt_iff_toNat_lt, same, within_iff, UInt8.reduceToNat]

theorem ofByte_one {byte : UInt8} (most : byte.toNat < 0x80) : ofByte byte = .one := by
  rw [ofByte_eq, if_pos most]

theorem ofByte_two {byte : UInt8} (least : 0xC2 ≤ byte.toNat) (most : byte.toNat ≤ 0xDF) :
    ofByte byte = .two := by
  rw [ofByte_eq]
  grind

/-- A first byte of three takes a second one in a range that leaves out what fewer bytes can hold,
and the surrogates. -/
theorem ofByte_three (byte : UInt8) (least : 0xE0 ≤ byte.toNat) (most : byte.toNat ≤ 0xEF) :
    ∃ low high, ofByte byte = .three low high ∧ ∀ second : UInt8,
      0x80 ≤ second.toNat ∧ second.toNat ≤ 0xBF →
        (byte.toNat = 0xE0 → 0xA0 ≤ second.toNat) → (byte.toNat = 0xED → second.toNat ≤ 0x9F) →
          within low high second = true := by
  rw [ofByte_eq]
  by_cases first : byte.toNat = 0xE0
  · exact ⟨0xA0, 0xBF, by grind, fun second inside low _ => within_iff.mpr ⟨low first, inside.2⟩⟩
  by_cases surrogate : byte.toNat = 0xED
  · exact ⟨0x80, 0x9F, by grind, fun second inside _ high =>
      within_iff.mpr ⟨inside.1, high surrogate⟩⟩
  · exact ⟨0x80, 0xBF, by grind, fun second inside _ _ => within_iff.mpr inside⟩

/-- A first byte of four takes a second one in a range that leaves out what fewer bytes can hold,
and the numbers of no character. -/
theorem ofByte_four (byte : UInt8) (least : 0xF0 ≤ byte.toNat) (most : byte.toNat ≤ 0xF4) :
    ∃ low high, ofByte byte = .four low high ∧ ∀ second : UInt8,
      0x80 ≤ second.toNat ∧ second.toNat ≤ 0xBF →
        (byte.toNat = 0xF0 → 0x90 ≤ second.toNat) → (byte.toNat = 0xF4 → second.toNat ≤ 0x8F) →
          within low high second = true := by
  rw [ofByte_eq]
  by_cases first : byte.toNat = 0xF0
  · exact ⟨0x90, 0xBF, by grind, fun second inside low _ => within_iff.mpr ⟨low first, inside.2⟩⟩
  by_cases last : byte.toNat = 0xF4
  · exact ⟨0x80, 0x8F, by grind, fun second inside _ high => within_iff.mpr ⟨inside.1, high last⟩⟩
  · exact ⟨0x80, 0xBF, by grind, fun second inside _ _ => within_iff.mpr inside⟩

end Lead

/-!
## Characters
-/

theorem compose_eq {c : Char} {lead : Nat} {following : List UInt8}
    (same : following.foldl (fun number byte => number * 64 + byte.toNat % 64) lead = c.toNat) :
    compose lead following = c := by
  rw [compose, same, Char.ofNat_toNat]

theorem continues_ofNat (bits : Nat) : continues (UInt8.ofNat (bits % 64 + 0x80)) = true := by
  have small : bits % 64 + 0x80 < 256 := by omega
  refine within_iff.mpr ?_
  rw [UInt8.toNat_ofNat_of_lt' small]
  change 0x80 ≤ _ ∧ _ ≤ 0xBF
  omega

theorem pieces_one {first : UInt8} (rest : List UInt8) (lead : Lead.ofByte first = .one) :
    pieces (first :: rest) = .character (compose first.toNat []) :: pieces rest := by
  rw [pieces.eq_def]
  simp only [lead]

theorem pieces_two {first second : UInt8} (rest : List UInt8) (lead : Lead.ofByte first = .two)
    (tail : continues second = true) :
    pieces (first :: second :: rest) =
      .character (compose (first.toNat % 32) [second]) :: pieces rest := by
  rw [pieces.eq_def]
  simp only [lead, tail, if_true]

theorem pieces_three {first second third low high : UInt8} (rest : List UInt8)
    (lead : Lead.ofByte first = .three low high) (inside : within low high second = true)
    (tail : continues third = true) :
    pieces (first :: second :: third :: rest) =
      .character (compose (first.toNat % 16) [second, third]) :: pieces rest := by
  rw [pieces.eq_def]
  simp only [lead, inside, tail, if_true]

theorem pieces_four {first second third fourth low high : UInt8} (rest : List UInt8)
    (lead : Lead.ofByte first = .four low high) (inside : within low high second = true)
    (tail : continues third = true) (last : continues fourth = true) :
    pieces (first :: second :: third :: fourth :: rest) =
      .character (compose (first.toNat % 8) [second, third, fourth]) :: pieces rest := by
  rw [pieces.eq_def]
  simp only [lead, inside, tail, last, if_true]

/-- The bytes of a character are one piece, whatever follows them. -/
theorem pieces_encodeChar (c : Char) (rest : List UInt8) :
    pieces (String.utf8EncodeChar c ++ rest) = .character c :: pieces rest := by
  have scalar : c.val.toNat < 0xD800 ∨ 0xDFFF < c.val.toNat ∧ c.val.toNat < 0x110000 := c.valid
  have whole : ∀ lead following, (following.foldl
      (fun number (byte : UInt8) => number * 64 + byte.toNat % 64) lead) = c.val.toNat →
        compose lead following = c := fun _ _ => compose_eq
  unfold String.utf8EncodeChar
  dsimp only
  generalize c.val.toNat = code at scalar whole
  split
  · have first := toNat_ofNat code (by omega)
    rw [List.singleton_append, pieces_one rest (Lead.ofByte_one (by omega)), whole]
    exact first
  split
  · have first := toNat_ofNat (code / 64 % 0x20 + 0xC0) (by omega)
    have second := toNat_ofNat (code % 0x40 + 0x80) (by omega)
    have lead : Lead.ofByte (UInt8.ofNat (code / 64 % 0x20 + 0xC0)) = .two :=
      Lead.ofByte_two (by omega) (by omega)
    rw [List.cons_append, List.singleton_append, pieces_two rest lead (continues_ofNat code),
      whole]
    simp only [List.foldl_cons, List.foldl_nil]
    omega
  split
  · have first := toNat_ofNat (code / 4096 % 0x10 + 0xE0) (by omega)
    have second := toNat_ofNat (code / 64 % 0x40 + 0x80) (by omega)
    have third := toNat_ofNat (code % 0x40 + 0x80) (by omega)
    obtain ⟨low, high, lead, inside⟩ := Lead.ofByte_three
      (UInt8.ofNat (code / 4096 % 0x10 + 0xE0)) (by omega) (by omega)
    have range := inside (UInt8.ofNat (code / 64 % 0x40 + 0x80)) (by omega) (by omega) (by omega)
    rw [List.cons_append, List.cons_append, List.singleton_append,
      pieces_three rest lead range (continues_ofNat code), whole]
    simp only [List.foldl_cons, List.foldl_nil]
    omega
  · have first := toNat_ofNat (code / 262144 % 0x08 + 0xF0) (by omega)
    have second := toNat_ofNat (code / 4096 % 0x40 + 0x80) (by omega)
    have third := toNat_ofNat (code / 64 % 0x40 + 0x80) (by omega)
    have fourth := toNat_ofNat (code % 0x40 + 0x80) (by omega)
    obtain ⟨low, high, lead, inside⟩ := Lead.ofByte_four
      (UInt8.ofNat (code / 262144 % 0x08 + 0xF0)) (by omega) (by omega)
    have range := inside (UInt8.ofNat (code / 4096 % 0x40 + 0x80)) (by omega) (by omega) (by omega)
    rw [List.cons_append, List.cons_append, List.cons_append, List.singleton_append,
      pieces_four rest lead range (continues_ofNat (code / 64)) (continues_ofNat code), whole]
    simp only [List.foldl_cons, List.foldl_nil]
    omega

/-!
## Texts
-/

theorem pieces_encodeList (text : List Char) :
    pieces (encodeList text) = text.map .character := by
  induction text with
  | nil => rfl
  | cons c rest ih =>
      rw [encodeList, List.flatMap_cons, pieces_encodeChar, List.map_cons]
      exact congrArg _ ih

theorem encodeList_injective {first second : List Char}
    (same : encodeList first = encodeList second) : first = second := by
  have read := congrArg pieces same
  rw [pieces_encodeList, pieces_encodeList] at read
  exact (List.map_inj_right fun _ _ equal => Piece.character.inj equal).mp read

/-- Encoded texts are read back as they were. -/
theorem decodeLossy_encode (text : String) : decodeLossy (encode text) = text := by
  rw [decodeLossy, encode, pieces_encodeList, List.map_map]
  change String.ofList (text.toList.map id) = text
  rw [List.map_id, String.ofList_toList]

theorem characters_map (index : Nat) (text : List Char) :
    characters index (text.map .character) = .ok text := by
  induction text generalizing index with
  | nil => rfl
  | cons c rest ih =>
      rw [List.map_cons, characters, ih]
      rfl

/-- Strict decoding reads encoded texts back as well. -/
theorem decode_encode (text : String) : decode (encode text) = .ok text := by
  rw [decode, encode, pieces_encodeList, characters_map]
  exact congrArg Except.ok String.ofList_toList

/-- Bytes of ASCII are the encoded form of the characters with their numbers. -/
theorem encodeList_ascii {bytes : List UInt8} (ascii : ∀ byte ∈ bytes, byte.toNat < 128) :
    encodeList (bytes.map fun byte => Char.ofNat byte.toNat) = bytes := by
  have single : ∀ number < 128, String.utf8EncodeChar (Char.ofNat number) =
      [UInt8.ofNat number] := by decide
  induction bytes with
  | nil => rfl
  | cons byte rest ih =>
      obtain ⟨first, others⟩ := List.forall_mem_cons.mp ascii
      rw [List.map_cons, encodeList, List.flatMap_cons, single _ first, UInt8.ofNat_toNat]
      exact congrArg (byte :: ·) (ih others)

/-!
## Decoded bytes
-/

namespace Lead

theorem bounds_one {byte : UInt8} (lead : ofByte byte = .one) : byte.toNat < 0x80 := by
  rw [ofByte_eq] at lead
  repeat' split at lead
  all_goals first | assumption | cases lead

theorem bounds_two {byte : UInt8} (lead : ofByte byte = .two) :
    0xC2 ≤ byte.toNat ∧ byte.toNat ≤ 0xDF := by
  rw [ofByte_eq] at lead
  repeat' split at lead
  all_goals first | assumption | cases lead

theorem bounds_three {byte low high second : UInt8} (lead : ofByte byte = .three low high)
    (inside : within low high second = true) :
    (0xE0 ≤ byte.toNat ∧ byte.toNat ≤ 0xEF) ∧ (0x80 ≤ second.toNat ∧ second.toNat ≤ 0xBF) ∧
      (byte.toNat = 0xE0 → 0xA0 ≤ second.toNat) ∧ (byte.toNat = 0xED → second.toNat ≤ 0x9F) := by
  rw [ofByte_eq] at lead
  rw [within_iff] at inside
  repeat' split at lead
  all_goals cases lead
  all_goals
    simp only [UInt8.reduceToNat] at inside
    omega

theorem bounds_four {byte low high second : UInt8} (lead : ofByte byte = .four low high)
    (inside : within low high second = true) :
    (0xF0 ≤ byte.toNat ∧ byte.toNat ≤ 0xF4) ∧ (0x80 ≤ second.toNat ∧ second.toNat ≤ 0xBF) ∧
      (byte.toNat = 0xF0 → 0x90 ≤ second.toNat) ∧ (byte.toNat = 0xF4 → second.toNat ≤ 0x8F) := by
  rw [ofByte_eq] at lead
  rw [within_iff] at inside
  repeat' split at lead
  all_goals cases lead
  all_goals
    simp only [UInt8.reduceToNat] at inside
    omega

end Lead

theorem toNat_charOfNat {code : Nat} (scalar : code < 0xD800 ∨ 0xDFFF < code ∧ code < 0x110000) :
    (Char.ofNat code).val.toNat = code := by
  rw [Char.ofNat, dif_pos scalar]
  rfl

theorem bounds_of_continues {byte : UInt8} (tail : continues byte = true) :
    0x80 ≤ byte.toNat ∧ byte.toNat ≤ 0xBF :=
  within_iff.mp tail

theorem encodeChar_compose_one {first : UInt8} (lead : Lead.ofByte first = .one) :
    String.utf8EncodeChar (compose first.toNat []) = [first] := by
  have small := Lead.bounds_one lead
  have code : (compose first.toNat []).val.toNat = first.toNat := toNat_charOfNat (by simp; omega)
  rw [String.utf8EncodeChar, code, if_pos (by omega), UInt8.ofNat_toNat]

theorem encodeChar_compose_two {first second : UInt8} (lead : Lead.ofByte first = .two)
    (tail : continues second = true) :
    String.utf8EncodeChar (compose (first.toNat % 32) [second]) = [first, second] := by
  have one := Lead.bounds_two lead
  have two := bounds_of_continues tail
  have code : (compose (first.toNat % 32) [second]).val.toNat =
      first.toNat % 32 * 64 + second.toNat % 64 := toNat_charOfNat (by simp; omega)
  rw [String.utf8EncodeChar, code, if_neg (by omega), if_pos (by omega), ofNat_eq first (by omega),
    ofNat_eq second (by omega)]

theorem encodeChar_compose_three {first second third low high : UInt8}
    (lead : Lead.ofByte first = .three low high) (inside : within low high second = true)
    (tail : continues third = true) :
    String.utf8EncodeChar (compose (first.toNat % 16) [second, third]) =
      [first, second, third] := by
  obtain ⟨one, two, least, most⟩ := Lead.bounds_three lead inside
  have three := bounds_of_continues tail
  have code : (compose (first.toNat % 16) [second, third]).val.toNat =
      (first.toNat % 16 * 64 + second.toNat % 64) * 64 + third.toNat % 64 :=
    toNat_charOfNat (by simp; omega)
  rw [String.utf8EncodeChar, code, if_neg (by omega), if_neg (by omega), if_pos (by omega),
    ofNat_eq first (by omega), ofNat_eq second (by omega), ofNat_eq third (by omega)]

theorem encodeChar_compose_four {first second third fourth low high : UInt8}
    (lead : Lead.ofByte first = .four low high) (inside : within low high second = true)
    (tail : continues third = true) (last : continues fourth = true) :
    String.utf8EncodeChar (compose (first.toNat % 8) [second, third, fourth]) =
      [first, second, third, fourth] := by
  obtain ⟨one, two, least, most⟩ := Lead.bounds_four lead inside
  have three := bounds_of_continues tail
  have four := bounds_of_continues last
  have code : (compose (first.toNat % 8) [second, third, fourth]).val.toNat =
      ((first.toNat % 8 * 64 + second.toNat % 64) * 64 + third.toNat % 64) * 64 +
        fourth.toNat % 64 := toNat_charOfNat (by simp; omega)
  rw [String.utf8EncodeChar, code, if_neg (by omega), if_neg (by omega), if_neg (by omega),
    ofNat_eq first (by omega), ofNat_eq second (by omega), ofNat_eq third (by omega),
    ofNat_eq fourth (by omega)]

/-- A piece that is a character stands for the bytes of this character. -/
theorem eq_append_of_pieces {bytes : List UInt8} {c : Char} {rest : List Piece}
    (read : pieces bytes = .character c :: rest) :
    ∃ tail, bytes = String.utf8EncodeChar c ++ tail ∧ pieces tail = rest := by
  rw [pieces.eq_def] at read
  repeat' split at read
  all_goals cases read
  · exact ⟨_, by rw [encodeChar_compose_one ‹_›]; rfl, rfl⟩
  · exact ⟨_, by rw [encodeChar_compose_two ‹_› ‹_›]; rfl, rfl⟩
  · exact ⟨_, by rw [encodeChar_compose_three ‹_› ‹_› ‹_›]; rfl, rfl⟩
  · exact ⟨_, by rw [encodeChar_compose_four ‹_› ‹_› ‹_› ‹_›]; rfl, rfl⟩

theorem eq_encodeList_of_pieces {bytes : List UInt8} {text : List Char}
    (read : pieces bytes = text.map .character) : bytes = encodeList text := by
  induction text generalizing bytes with
  | nil =>
      cases bytes with
      | nil => rfl
      | cons first rest =>
          rw [pieces.eq_def] at read
          repeat' split at read
          all_goals contradiction
  | cons c rest ih =>
      obtain ⟨tail, rfl, later⟩ := eq_append_of_pieces read
      rw [ih later]
      rfl

theorem eq_map_of_characters {index : Nat} {found : List Piece} {text : List Char}
    (read : characters index found = .ok text) : found = text.map .character := by
  induction found generalizing index text with
  | nil =>
      cases read
      rfl
  | cons piece rest ih =>
      cases piece with
      | character c =>
          rw [characters] at read
          cases later : characters (index + c.utf8Size) rest with
          | error fault =>
              rw [later] at read
              cases read
          | ok others =>
              rw [later] at read
              cases read
              rw [ih later]
              rfl
      | malformed size => cases read
      | truncated size => cases read

/-- Bytes are a text exactly if they are its encoded form. -/
theorem decode_eq_ok_iff {bytes : List UInt8} {text : String} :
    decode bytes = .ok text ↔ bytes = encode text := by
  constructor
  · intro read
    rw [decode] at read
    cases found : characters 0 (pieces bytes) with
    | error fault =>
        rw [found] at read
        cases read
    | ok characters =>
        rw [found] at read
        cases read
        rw [encode, String.toList_ofList]
        exact eq_encodeList_of_pieces (eq_map_of_characters found)
  · rintro rfl
    exact decode_encode text

end Utf8

end AmqpEndpoints.Text
