import Mathlib.Data.List.Nodup
import AmqpEndpoints.Proofs.Headers
import AmqpEndpoints.Proofs.References
import AmqpEndpoints.Proofs.RoundTrip

/-!
# Configured fields

A configured text for each standard field, resolved against a message, against reading the fields
from the metadata of that message. Both end in one table that is read field by field, so a field
depends on its own text alone, and a reference to the metadata of a field means that metadata.
-/

set_option autoImplicit false

namespace AmqpEndpoints

/-!
## Standard fields
-/

inductive StandardField where
  | appId
  | clusterId
  | contentEncoding
  | contentType
  | correlationId
  | deliveryMode
  | expiration
  | messageId
  | priority
  | replyTo
  | timestamp
  | kind
  | userId
  deriving DecidableEq, Repr

abbrev FieldKind.Value : FieldKind → Type
  | text => String
  | octet => UInt8
  | timestamp => UInt64

/-- What a text stands for, if it stands for anything. -/
def FieldKind.read : (kind : FieldKind) → String → Option kind.Value
  | text, given => Text.visible? given
  | octet, given =>
    (Number.unsigned Number.limit8 (Text.trim given)).toOption.map UInt8.ofNat
  | timestamp, given => (Time.parseTimestamp given).map UInt64.ofNat

namespace StandardField

/-- The fields in the order in which configured texts are resolved. -/
def all : List StandardField :=
  [appId, clusterId, contentEncoding, contentType, correlationId, deliveryMode, expiration,
    messageId, priority, replyTo, timestamp, kind, userId]

def key : StandardField → String
  | appId => Metadata.Key.appId
  | clusterId => Metadata.Key.clusterId
  | contentEncoding => Metadata.Key.contentEncoding
  | contentType => Metadata.Key.contentType
  | correlationId => Metadata.Key.correlationId
  | deliveryMode => Metadata.Key.deliveryMode
  | expiration => Metadata.Key.expiration
  | messageId => Metadata.Key.messageId
  | priority => Metadata.Key.priority
  | replyTo => Metadata.Key.replyTo
  | timestamp => Metadata.Key.timestamp
  | kind => Metadata.Key.kind
  | userId => Metadata.Key.userId

/-- What the text of a field stands for. -/
def form : StandardField → FieldKind
  | deliveryMode => .octet
  | priority => .octet
  | timestamp => .timestamp
  | _ => .text

theorem mem_all (field : StandardField) : field ∈ all := by
  cases field <;> decide

theorem nodup_keys : (all.map key).Nodup := by
  decide

theorem key_injective : Function.Injective key := by
  intro first second same
  exact List.inj_on_of_nodup_map nodup_keys first.mem_all second.mem_all same

/-- Values that are set under the keys of their fields are found there. -/
theorem get?_ofList (value? : StandardField → Option String) (field : StandardField) :
    (Table.ofList (presentEntries (all.map fun field => (field.key, value? field)))).get? field.key =
      value? field := by
  have once : ((all.map fun field => (field.key, value? field)).map (·.1)).Nodup := by
    rw [List.map_map]
    exact nodup_keys
  apply Option.ext
  intro text
  rw [Table.ofList, Table.get?_insertAll, Table.get?_empty, Option.or_none,
    Table.lookupEntry_reverse (nodup_presentEntries once),
    Table.lookupEntry_eq_some_iff (nodup_presentEntries once), mem_presentEntries, List.mem_map]
  constructor
  · intro found
    obtain ⟨other, _, same⟩ := found
    obtain ⟨keys, values⟩ := Prod.mk.inj same
    rw [← key_injective keys, values]
  · intro given
    exact ⟨field, field.mem_all, Prod.ext rfl given⟩

end StandardField

namespace Properties

def get (properties : Properties) : (field : StandardField) → Option field.form.Value
  | .appId => properties.appId
  | .clusterId => properties.clusterId
  | .contentEncoding => properties.contentEncoding
  | .contentType => properties.contentType
  | .correlationId => properties.correlationId
  | .deliveryMode => properties.deliveryMode
  | .expiration => properties.expiration
  | .messageId => properties.messageId
  | .priority => properties.priority
  | .replyTo => properties.replyTo
  | .timestamp => properties.timestamp
  | .kind => properties.kind
  | .userId => properties.userId

theorem get_ofMetadata (metadata : Metadata) (field : StandardField) :
    (ofMetadata metadata).get field = (metadata.get? field.key).bind field.form.read := by
  cases field with
  | deliveryMode => exact octetAt_eq metadata _
  | priority => exact octetAt_eq metadata _
  | timestamp => exact timestampAt_eq metadata _
  | _ => exact textAt_eq metadata _

theorem ext_get {left right : Properties} (headers : left.headers = right.headers)
    (same : ∀ field, left.get field = right.get field) : left = right := by
  obtain ⟨⟩ := left
  obtain ⟨⟩ := right
  have fields := fun field => same field
  simp only [mk.injEq]
  exact ⟨fields .appId, fields .clusterId, fields .contentEncoding, fields .contentType,
    fields .correlationId, fields .deliveryMode, fields .expiration, fields .messageId,
    fields .priority, fields .replyTo, fields .timestamp, fields .kind, fields .userId, headers⟩

end Properties

namespace PropertyTexts

def get (texts : PropertyTexts) : StandardField → Option String
  | .appId => texts.appId
  | .clusterId => texts.clusterId
  | .contentEncoding => texts.contentEncoding
  | .contentType => texts.contentType
  | .correlationId => texts.correlationId
  | .deliveryMode => texts.deliveryMode
  | .expiration => texts.expiration
  | .messageId => texts.messageId
  | .priority => texts.priority
  | .replyTo => texts.replyTo
  | .timestamp => texts.timestamp
  | .kind => texts.kind
  | .userId => texts.userId

def ofFields (text : StandardField → Option String) : PropertyTexts where
  appId := text .appId
  clusterId := text .clusterId
  contentEncoding := text .contentEncoding
  contentType := text .contentType
  correlationId := text .correlationId
  deliveryMode := text .deliveryMode
  expiration := text .expiration
  messageId := text .messageId
  priority := text .priority
  replyTo := text .replyTo
  timestamp := text .timestamp
  kind := text .kind
  userId := text .userId

/-- A configuration with the text of one field changed, or removed. -/
def set (texts : PropertyTexts) (field : StandardField) (text : Option String) : PropertyTexts :=
  ofFields fun other => if other = field then text else texts.get other

@[simp] theorem get_ofFields (text : StandardField → Option String) (field : StandardField) :
    (ofFields text).get field = text field := by
  cases field <;> rfl

theorem get_set_of_ne (texts : PropertyTexts) {field other : StandardField}
    (different : other ≠ field) (text : Option String) :
    (texts.set field text).get other = texts.get other := by
  simp [set, different]

theorem entries_eq (texts : PropertyTexts) :
    texts.entries = StandardField.all.map fun field => (field.key, texts.get field) :=
  rfl

/-!
## Resolved texts
-/

variable {message : Message} {texts : PropertyTexts} {properties : Properties}

theorem resolveEntries_fails_iff {entries : List (String × Option String)} :
    (∃ failure, resolveEntries message entries = .error failure) ↔
      ∃ key text failure, (key, some text) ∈ entries ∧ message.resolve text = .error failure := by
  induction entries with
  | nil => simp [resolveEntries]
  | cons entry rest ih =>
      obtain ⟨key, _ | text⟩ := entry
      · simpa [resolveEntries] using ih
      · rw [resolveEntries]
        cases resolves : message.resolve text with
        | error failure =>
            constructor
            · intro _
              exact ⟨key, text, failure, List.mem_cons_self, resolves⟩
            · intro _
              exact ⟨failure, rfl⟩
        | ok resolved =>
            have later : (∃ failure, (do
                let others ← resolveEntries message rest
                return (key, resolved) :: others) = Except.error failure) ↔
                  ∃ failure, resolveEntries message rest = .error failure := by
              cases resolveEntries message rest <;> simp [bind, Except.bind, pure, Except.pure]
            refine later.trans (ih.trans ?_)
            simp [or_and_right, exists_or, resolves]

theorem resolveEntries_eq {entries : List (String × Option String)}
    {pairs : List (String × String)} (resolved : resolveEntries message entries = .ok pairs) :
    pairs = presentEntries (entries.map fun entry =>
      (entry.1, entry.2.bind fun text => (message.resolve text).toOption)) := by
  induction entries generalizing pairs with
  | nil =>
      cases resolved
      rfl
  | cons entry rest ih =>
      obtain ⟨key, _ | text⟩ := entry
      · exact ih resolved
      · rw [resolveEntries] at resolved
        cases value : message.resolve text with
        | error failure =>
            rw [value] at resolved
            cases resolved
        | ok filled =>
            rw [value] at resolved
            cases others : resolveEntries message rest with
            | error failure =>
                rw [others] at resolved
                cases resolved
            | ok more =>
                rw [others] at resolved
                cases resolved
                rw [ih others]
                simp [presentEntries, value, Except.toOption]

/-- A build fails exactly when the text of some field has no meaning for the message. -/
theorem build_fails_iff :
    (∃ failure, texts.build message = .error failure) ↔
      ∃ field text failure, texts.get field = some text ∧
        message.resolve text = .error failure := by
  have resolving : (∃ failure, texts.build message = .error failure) ↔
      ∃ failure, resolveEntries message texts.entries = .error failure := by
    unfold build
    cases resolveEntries message texts.entries <;> simp [Except.map]
  rw [resolving, resolveEntries_fails_iff, entries_eq]
  constructor
  · intro fails
    obtain ⟨key, text, failure, member, fails⟩ := fails
    obtain ⟨field, _, same⟩ := List.mem_map.mp member
    exact ⟨field, text, failure, (Prod.mk.inj same).2, fails⟩
  · intro fails
    obtain ⟨field, text, failure, configured, fails⟩ := fails
    exact ⟨field.key, text, failure,
      List.mem_map.mpr ⟨field, field.mem_all, Prod.ext rfl configured⟩, fails⟩

/-- The value of the text of a field, where it is configured and has one. -/
def value? (texts : PropertyTexts) (message : Message) (field : StandardField) : Option String :=
  (texts.get field).bind fun text => (message.resolve text).toOption

/-- Each field is read of the value of its own text. -/
theorem get_of_build (built : texts.build message = .ok properties) (field : StandardField) :
    properties.get field = (texts.value? message field).bind field.form.read := by
  unfold build at built
  cases resolved : resolveEntries message texts.entries with
  | error failure =>
      rw [resolved] at built
      cases built
  | ok pairs =>
      rw [resolved] at built
      obtain rfl := Except.ok.inj built
      rw [Properties.get_ofMetadata, resolveEntries_eq resolved, entries_eq, List.map_map]
      exact congrArg (Option.bind · field.form.read)
        (StandardField.get?_ofList (texts.value? message) field)

theorem headers_of_build (built : texts.build message = .ok properties) :
    properties.headers = none :=
  @FieldSource.headers_of_given (some (.configured texts)) _ _ built

end PropertyTexts

/-!
## References to the fields in metadata
-/

namespace Message

/-- A text that refers to the metadata of a key. -/
def reference (key : String) : String :=
  marker ++ key ++ "\x7d"

theorem resolve_reference {message : Message} {key value : String}
    (unclosed : Text.Template.close ∉ key.toList)
    (found : message.metadata.get? key = some value) :
    message.resolve (reference key) = .ok value := by
  have written : (reference key).toList =
      [] ++ marker.toList ++ (key.toList ++ Text.Template.close :: []) := by
    simp [reference, Text.Template.close]
  obtain ⟨c, rest, start, once⟩ := (Lookup.message message).marker_toList
  have cut : Text.cutAt? (Lookup.message message).marker.toList (reference key).toList =
      some ([], key.toList ++ Text.Template.close :: []) := by
    rw [written]
    change Text.cutAt? _ ([] ++ (Lookup.message message).marker.toList ++ _) = _
    rw [start]
    exact Text.cutAt?_append _ once (by simp)
  have template : (Lookup.message message).template (reference key) =
      .hole [] key.toList (.plain []) := by
    rw [Lookup.template, Text.Template.parse_of_key cut unclosed, Text.Template.parse_of_cutAt? rfl]
  have filled := (Lookup.message message).resolve_eq_fill (reference key)
  rw [template] at filled
  simpa [Lookup.resolve, Text.Template.fill, Lookup.value?, found, Except.map] using filled

end Message

/-- The texts that refer to the metadata of each field that a message has. -/
def PropertyTexts.mirroring (message : Message) : PropertyTexts :=
  .ofFields fun field =>
    (message.metadata.get? field.key).map fun _ => Message.reference field.key

theorem PropertyTexts.resolve_of_mirroring {message : Message} {field : StandardField}
    {text : String} (configured : (mirroring message).get field = some text) :
    ∃ value, message.metadata.get? field.key = some value ∧ message.resolve text = .ok value := by
  rw [mirroring, get_ofFields] at configured
  obtain ⟨value, found, rfl⟩ := Option.map_eq_some_iff.mp configured
  have unclosed : Text.Template.close ∉ field.key.toList := by
    cases field <;> decide
  exact ⟨value, found, Message.resolve_reference unclosed found⟩

theorem PropertyTexts.value?_mirroring (message : Message) (field : StandardField) :
    (mirroring message).value? message field = message.metadata.get? field.key := by
  rw [value?]
  cases configured : (mirroring message).get field with
  | none =>
      rw [mirroring, get_ofFields] at configured
      exact (Option.map_eq_none_iff.mp configured).symm
  | some text =>
      obtain ⟨value, found, resolved⟩ := resolve_of_mirroring configured
      rw [found, Option.bind_some, resolved]
      rfl

theorem PropertyTexts.build_mirroring (message : Message) :
    (mirroring message).build message = .ok (.ofMetadata message.metadata) := by
  cases built : (mirroring message).build message with
  | error failure =>
      obtain ⟨field, text, failure, configured, fails⟩ := build_fails_iff.mp ⟨failure, built⟩
      obtain ⟨value, _, resolved⟩ := resolve_of_mirroring configured
      rw [resolved] at fails
      cases fails
  | ok properties =>
      apply congrArg Except.ok
      apply Properties.ext_get (headers_of_build built)
      intro field
      rw [get_of_build built, value?_mirroring, Properties.get_ofMetadata]

/-- Configured texts do all that the metadata of a message does: where they refer to the field of
each key that the message has, they build the same properties. And they do it field by field: a
build fails exactly when some text has no meaning for the message, and else each field is read of its
own text, so that to change or to remove the text of one field changes no other. -/
theorem PropertyTexts.build_generalises_metadata (message : Message) :
    (FieldSource.configured (mirroring message)).build message =
        FieldSource.metadata.build message ∧
      ∀ texts : PropertyTexts,
        ((∃ failure, texts.build message = .error failure) ↔
          ∃ field text failure, texts.get field = some text ∧
            message.resolve text = .error failure) ∧
        ∀ properties, texts.build message = .ok properties →
          properties.headers = none ∧
          (∀ field, properties.get field =
            ((texts.get field).bind fun text => (message.resolve text).toOption).bind
              field.form.read) ∧
          ∀ field text changed, (texts.set field text).build message = .ok changed →
            ∀ other, other ≠ field → changed.get other = properties.get other := by
  refine ⟨build_mirroring message, fun texts => ⟨build_fails_iff, ?_⟩⟩
  intro properties built
  refine ⟨headers_of_build built, get_of_build built, ?_⟩
  intro field text changed after other different
  rw [get_of_build after, get_of_build built, value?, value?, get_set_of_ne texts different]

end AmqpEndpoints
