import AmqpEndpoints.Proofs.Timestamps
import AmqpEndpoints.Proofs.Translation

/-!
# Standard fields in metadata

Each standard field has one metadata key and one way to be written as a text. Reading the keys gives
back what was written, up to texts that are trimmed, or dropped where they are blank, and timestamps
that no text stands for.
-/

set_option autoImplicit false

namespace AmqpEndpoints

/-!
## Reading a key
-/

namespace Text

/-- A text without the blanks at its ends, if anything is left. -/
def visible? (text : String) : Option String :=
  if blank text then none else some (trim text)

theorem trim_eq_empty_iff (text : String) : trim text = "" ↔ blank text = true := by
  have ends : trimBlanks text.toList = [] ↔ blank text = true := by
    unfold trimBlanks blank
    rw [List.reverse_eq_nil_iff, dropBlanks_eq_nil_iff, ← dropBlanks_eq_nil_iff text.toList]
    cases dropped : dropBlanks text.toList with
    | nil => simp
    | cons c rest =>
        have first : isBlank c = false := by
          refine @head_dropBlanks text.toList c ?_
          rw [dropped]
          rfl
        simp [first]
  rw [← ends, trim]
  exact String.ofList_eq_empty_iff

theorem visible?_eq (text : String) :
    visible? text = (some (trim text)).filter fun trimmed => !trimmed.isEmpty := by
  have empty : (trim text).isEmpty = blank text := by
    rw [Bool.eq_iff_iff, String.isEmpty_iff, trim_eq_empty_iff]
  unfold visible?
  rw [Option.filter_some, empty]
  cases blank text <;> rfl

end Text

namespace Properties

variable {metadata : Metadata} {key : String}

theorem textAt_eq (metadata : Metadata) (key : String) :
    textAt metadata key = (metadata.get? key).bind Text.visible? := by
  unfold textAt
  cases metadata.get? key with
  | none => rfl
  | some text => exact (Text.visible?_eq text).symm

/-- What is read of a text that is trimmed first, and of no empty text, needs no trimming. -/
theorem textAt_bind {α : Type} (read : String → Option α) (empty : read "" = none) :
    (textAt metadata key).bind read =
      (metadata.get? key).bind fun text => read (Text.trim text) := by
  rw [textAt_eq]
  cases metadata.get? key with
  | none => rfl
  | some text =>
      change (Text.visible? text).bind read = read (Text.trim text)
      unfold Text.visible?
      split
      · rw [(Text.trim_eq_empty_iff text).mpr ‹_›, empty]
        rfl
      · rfl

theorem octetAt_eq (metadata : Metadata) (key : String) :
    octetAt metadata key = (metadata.get? key).bind fun text =>
      (Number.unsigned Number.limit8 (Text.trim text)).toOption.map UInt8.ofNat :=
  textAt_bind (fun text => (Number.unsigned Number.limit8 text).toOption.map UInt8.ofNat) rfl

theorem timestampAt_eq (metadata : Metadata) (key : String) :
    timestampAt metadata key = (metadata.get? key).bind fun text =>
      (Time.parseTimestamp text).map UInt64.ofNat := by
  have none : (Time.parseTimestamp "").map UInt64.ofNat = none := by
    rw [Time.parseTimestamp_empty]
    rfl
  unfold timestampAt
  rw [textAt_bind (fun text => (Time.parseTimestamp text).map UInt64.ofNat) none]
  simp only [Time.parseTimestamp_trim]

/-!
## Reading what was written
-/

theorem unsigned_octetText (octet : UInt8) :
    Number.unsigned Number.limit8 (Text.trim (octetText octet)) = .ok octet.toNat := by
  have digits : (octetText octet).toList = Nat.toDigits 10 octet.toNat := Nat.toList_repr
  have plain : Text.trimBlanks (octetText octet).toList = (octetText octet).toList := by
    refine Text.trimBlanks_eq_self fun c member => Time.isBlank_of_isDigit ?_
    rw [digits] at member
    exact Nat.isDigit_of_mem_toDigits (by decide) (by decide) member
  unfold Number.unsigned Text.trim
  rw [plain, String.toList_ofList, digits]
  exact Number.read_toDigits (Nat.le_of_lt_succ octet.toNat_lt)

/-- Properties whose texts are trimmed, or dropped where they are blank, without a timestamp that no
text stands for, and without headers. -/
def normalised (properties : Properties) : Properties where
  appId := properties.appId.bind Text.visible?
  clusterId := properties.clusterId.bind Text.visible?
  contentEncoding := properties.contentEncoding.bind Text.visible?
  contentType := properties.contentType.bind Text.visible?
  correlationId := properties.correlationId.bind Text.visible?
  deliveryMode := properties.deliveryMode
  expiration := properties.expiration.bind Text.visible?
  messageId := properties.messageId.bind Text.visible?
  priority := properties.priority
  replyTo := properties.replyTo.bind Text.visible?
  timestamp := properties.timestamp.filter fun seconds =>
    (Time.formatTimestamp seconds.toNat).isSome
  kind := properties.kind.bind Text.visible?
  userId := properties.userId.bind Text.visible?

theorem octet_read_back (field : Option UInt8) :
    ((field.map octetText).bind fun text =>
      (Number.unsigned Number.limit8 (Text.trim text)).toOption.map UInt8.ofNat) = field := by
  cases field with
  | none => rfl
  | some octet =>
      rw [Option.map_some, Option.bind_some, unsigned_octetText]
      exact congrArg some (UInt8.ofNat_toNat)

theorem timestamp_read_back (field : Option UInt64) :
    ((field.bind fun seconds => Time.formatTimestamp seconds.toNat).bind fun text =>
      (Time.parseTimestamp text).map UInt64.ofNat) =
        field.filter fun seconds => (Time.formatTimestamp seconds.toNat).isSome := by
  cases field with
  | none => rfl
  | some seconds =>
      rw [Option.bind_some, Option.filter_some]
      cases written : Time.formatTimestamp seconds.toNat with
      | none => rfl
      | some text =>
          rw [Option.bind_some, Time.parseTimestamp_formatTimestamp written, Option.map_some,
            UInt64.ofNat_toNat]
          rfl

/-- Properties without headers survive as metadata, up to blanks at the ends of texts and timestamps
that no text stands for. -/
theorem ofMetadata_toMessage (properties : Properties) (without : properties.headers = none)
    (body : List UInt8) (envelope : Option Envelope) (front : String)
    (forEnvelope : EnvelopeHandling) :
    let message := Delivery.toMessage ⟨body, some properties, envelope⟩ (.toMetadata front)
      forEnvelope.handler .plain
    ofMetadata message.metadata = properties.normalised := by
  intro message
  have noHeaders : ∀ key, properties.prefixedText? front key = none := by
    intro key
    rw [prefixedText?, headerTable, without]
    rfl
  have read : ∀ entry ∈ properties.entries, message.metadata.get? entry.1 = entry.2 := by
    intro entry member
    rw [Delivery.get?_toMessage_of_mem rfl (mem_keys_of_entry member), noHeaders,
      standardText?_of_entry member]
    exact Option.or_none
  simp only [entries, List.forall_mem_cons] at read
  simp only [ofMetadata, normalised, textAt_eq, octetAt_eq, timestampAt_eq, read,
    octet_read_back, timestamp_read_back]

/-- Properties with blanks, a timestamp that can be written, and one field for each way to write. -/
theorem ofMetadata_toMessage_of_blanks :
    let properties : Properties :=
      { appId := some " shop ", clusterId := some "  ", priority := some 9,
        timestamp := some 1700000000 }
    let message :=
      Delivery.toMessage ⟨[], some properties, none⟩ (.toMetadata "x-") .toMetadata .plain
    properties.headers = none ∧ ofMetadata message.metadata = properties.normalised ∧
      properties.normalised.appId = some "shop" ∧ properties.normalised.clusterId = none ∧
      properties.normalised.timestamp = some 1700000000 :=
  ⟨rfl, ofMetadata_toMessage _ rfl [] none "x-" .toMetadata, by decide, by decide, by decide⟩

end Properties

end AmqpEndpoints
