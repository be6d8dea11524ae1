import AmqpEndpoints.Proofs.CanonicalBase64
import AmqpEndpoints.Proofs.Credentials

/-!
# Obfuscated passwords

Behind the mark, exactly the written form of a password is accepted, with blanks around it. So no two
texts stand for one password, and every text that is not such a form fails as a credential.
-/

set_option autoImplicit false

namespace AmqpEndpoints.Password

theorem afterStart?_marked (rest : String) :
    Text.afterStart? mark.toList (mark ++ rest).toList = some rest.toList :=
  Text.afterStart?_eq_some_iff.mpr String.toList_append

theorem decode_marked_eq_ok_iff (rest password : String) :
    decode (mark ++ rest) = .ok password ↔ Text.trimBlanks rest.toList = obfuscated password := by
  unfold decode
  rw [afterStart?_marked]
  dsimp only
  constructor
  · intro read
    split at read
    · cases read
    rename_i bytes symbols
    split at read
    · cases read
    rename_i decoded text
    cases read
    rw [Text.Base64.decode_eq_ok_iff, Text.Utf8.decode_eq_ok_iff.mp text,
      ← encodeList_obfuscated] at symbols
    exact Text.Utf8.encodeList_injective symbols
  · intro written
    rw [written, encodeList_obfuscated, Text.Base64.decode_encode]
    dsimp only
    rw [Text.Utf8.decode_encode]

/-- A marked text that is no password fails as a credential. -/
theorem decode_marked_total (rest : String) :
    (∃ password, decode (mark ++ rest) = .ok password) ∨
      ∃ reason, decode (mark ++ rest) = .error (.credential reason) := by
  unfold decode
  rw [afterStart?_marked]
  dsimp only
  split
  · exact .inr ⟨_, rfl⟩
  · split
    · exact .inr ⟨_, rfl⟩
    · exact .inl ⟨_, rfl⟩

theorem encode_eq_iff (rest password : String) :
    encode password = mark ++ Text.trim rest ↔
      Text.trimBlanks rest.toList = obfuscated password := by
  rw [← String.toList_inj, toList_encode, String.toList_append, Text.trim, String.toList_ofList,
    List.append_cancel_left_eq]
  exact eq_comm

/-- Behind the mark, a password is read from its own written form only, with blanks around it. This
form is the canonical base64 of its UTF-8 bytes, and whatever else stands there fails as a
credential. -/
theorem decode_accepts_encoded_only (rest : String) :
    (∀ password,
      decode (mark ++ rest) = .ok password ↔ encode password = mark ++ Text.trim rest) ∧
    (∀ password, decode (mark ++ rest) = .ok password ↔
      Text.Base64.Writes (Text.trim rest).toList (Text.Utf8.encode password)) ∧
    (∀ other password, decode (mark ++ rest) = .ok password →
      decode (mark ++ other) = .ok password → Text.trim rest = Text.trim other) ∧
    ((∀ password, encode password ≠ mark ++ Text.trim rest) →
      ∃ reason, decode (mark ++ rest) = .error (.credential reason)) := by
  have accepted : ∀ password,
      decode (mark ++ rest) = .ok password ↔ encode password = mark ++ Text.trim rest :=
    fun password => (decode_marked_eq_ok_iff rest password).trans (encode_eq_iff rest password).symm
  refine ⟨accepted, ?_, ?_, ?_⟩
  · intro password
    rw [decode_marked_eq_ok_iff, Text.Base64.writes_iff, Text.trim, String.toList_ofList]
    rfl
  · intro other password one two
    rw [decode_marked_eq_ok_iff] at one two
    rw [Text.trim, Text.trim, one, two]
  · intro none
    rcases decode_marked_total rest with ⟨password, read⟩ | failed
    · exact absurd ((accepted password).mp read) (none password)
    · exact failed

/-- Blanks around the written form of a password change nothing, and a last symbol with a bit that
no byte uses is refused. -/
theorem decode_accepts_encoded_among_blanks :
    decode (mark ++ " czNjcmV0 ") = .ok "s3cret" ∧ Text.trim " czNjcmV0 " = "czNjcmV0" ∧
      ∃ reason, decode (mark ++ "QR==") = .error (.credential reason) := by
  have blanks : encode "s3cret" = mark ++ Text.trim " czNjcmV0 " := by decide +kernel
  have plain : encode "s3cret" = mark ++ Text.trim "czNjcmV0" := by decide +kernel
  have read := ((decode_accepts_encoded_only " czNjcmV0 ").1 "s3cret").mpr blanks
  have same := (decode_accepts_encoded_only " czNjcmV0 ").2.2.1 "czNjcmV0" "s3cret" read
    (((decode_accepts_encoded_only "czNjcmV0").1 "s3cret").mpr plain)
  have refused : ∀ password, encode password ≠ mark ++ Text.trim "QR==" := by
    intro password written
    have accepted := ((decode_accepts_encoded_only "QR==").1 password).mpr written
    have failed : (decode (mark ++ "QR==")).toOption = none := by decide +kernel
    rw [accepted] at failed
    cases failed
  have trimmed : Text.trim "czNjcmV0" = "czNjcmV0" := by decide +kernel
  exact ⟨read, same.trans trimmed, (decode_accepts_encoded_only "QR==").2.2.2 refused⟩

end AmqpEndpoints.Password
