import AmqpEndpoints.Proofs.Tables
import AmqpEndpoints.Settings

/-!
# What a delivery becomes

Where the metadata of a translated delivery comes from, key by key: from the envelope, else from a
header with something in front of its name, else from a standard field, else from what every message
starts with.
-/

set_option autoImplicit false

namespace AmqpEndpoints

variable {key text : String}

theorem mem_presentEntries {entries : List (String × Option String)} :
    (key, text) ∈ presentEntries entries ↔ (key, some text) ∈ entries := by
  unfold presentEntries
  rw [List.mem_filterMap]
  constructor
  · rintro ⟨⟨found, field⟩, member, same⟩
    obtain ⟨given, rfl, pair⟩ := Option.map_eq_some_iff.mp same
    cases pair
    exact member
  · exact fun member => ⟨_, member, rfl⟩

theorem nodup_presentEntries {entries : List (String × Option String)}
    (once : (entries.map (·.1)).Nodup) : ((presentEntries entries).map (·.1)).Nodup := by
  refine once.sublist ?_
  induction entries with
  | nil => exact .slnil
  | cons entry rest ih =>
      obtain ⟨key, field⟩ := entry
      have others := ih (List.nodup_cons.mp once).2
      cases field with
      | none => exact others.cons key
      | some text => exact others.cons_cons key

/-!
## Standard fields
-/

namespace Properties

/-- The metadata keys of the standard fields. -/
def keys : List String :=
  (({} : Properties).entries).map (·.1)

/-- The text of the standard field of a key. -/
def standardText? (properties : Properties) (key : String) : Option String :=
  Table.lookupEntry key (presentEntries properties.entries)

/-- The text of the header of a key that stands for a name with something in front. -/
def prefixedText? (properties : Properties) (front key : String) : Option String :=
  Table.lookupEntry key
    (properties.headerTable.entries.map fun header => (front ++ header.1, header.2.text))

variable {properties : Properties}

theorem keys_eq (properties : Properties) : properties.entries.map (·.1) = keys :=
  rfl

theorem nodup_entries (properties : Properties) : (properties.entries.map (·.1)).Nodup := by
  rw [keys_eq]
  decide

theorem mem_keys_of_entry {field : Option String} (entry : (key, field) ∈ properties.entries) :
    key ∈ keys := by
  rw [← keys_eq properties]
  exact List.mem_map.mpr ⟨_, entry, rfl⟩

theorem standardText?_eq_some_iff :
    properties.standardText? key = some text ↔ (key, some text) ∈ properties.entries := by
  rw [standardText?, Table.lookupEntry_eq_some_iff (nodup_presentEntries properties.nodup_entries),
    mem_presentEntries]

theorem standardText?_of_entry {field : Option String}
    (entry : (key, field) ∈ properties.entries) : properties.standardText? key = field := by
  refine Option.ext fun text => ?_
  have found := (Table.lookupEntry_eq_some_iff properties.nodup_entries).mpr entry
  rw [standardText?_eq_some_iff]
  constructor
  · intro member
    rw [(Table.lookupEntry_eq_some_iff properties.nodup_entries).mpr member] at found
    exact (Option.some.inj found).symm
  · rintro rfl
    exact entry

theorem nodup_prefixed (properties : Properties) (front : String) :
    ((properties.headerTable.entries.map fun header =>
      (front ++ header.1, header.2.text)).map (·.1)).Nodup := by
  rw [List.map_map]
  have names := properties.headerTable.nodup_keys
  rw [List.Nodup, List.pairwise_map] at names ⊢
  exact names.imp fun different same => different ((String.append_right_inj front).mp same)

theorem prefixedText?_eq_some_iff {front : String} :
    properties.prefixedText? front key = some text ↔
      ∃ name value, key = front ++ name ∧ properties.headerTable.get? name = some value ∧
        value.text = text := by
  rw [prefixedText?, Table.lookupEntry_eq_some_iff (properties.nodup_prefixed front), List.mem_map]
  constructor
  · rintro ⟨⟨name, value⟩, member, same⟩
    cases same
    exact ⟨name, value, rfl, Table.get?_eq_some_iff.mpr member, rfl⟩
  · rintro ⟨name, value, rfl, found, rfl⟩
    exact ⟨(name, value), Table.get?_eq_some_iff.mp found, rfl⟩

end Properties

/-!
## Messages
-/

variable {delivery : Delivery} {properties : Properties} {front : String}

/-- What metadata says once properties were put into it: a header comes before a standard field, and
both come before what was there. -/
theorem PropertiesHandler.get?_toMetadata (message : Message) :
    ((toMetadata front).handle properties message).metadata.get? key =
      (properties.prefixedText? front key).or
        ((properties.standardText? key).or (message.metadata.get? key)) := by
  have standard : Table.lookupEntry key (presentEntries properties.entries).reverse =
      properties.standardText? key :=
    Table.lookupEntry_reverse (nodup_presentEntries properties.nodup_entries)
  have headers : Table.lookupEntry key (properties.headerTable.entries.map fun header =>
      (front ++ header.1, header.2.text)).reverse = properties.prefixedText? front key :=
    Table.lookupEntry_reverse (properties.nodup_prefixed front)
  change (message.metadata.insertAll _).get? key = _
  rw [Table.get?_insertAll, List.reverse_append, Table.lookupEntry_append, standard, headers,
    Option.or_assoc]

/-- No part of an envelope has the key of a standard field. -/
theorem Envelope.key_not_mem {envelope : Envelope} {entry : String × String}
    (member : entry ∈ presentEntries envelope.entries) : entry.1 ∉ Properties.keys := by
  have apart : ∀ key ∈ envelope.entries.map (·.1), key ∉ Properties.keys := by
    change ∀ key ∈ [Metadata.Key.deliveryTag, Metadata.Key.exchange, Metadata.Key.routingKey,
      Metadata.Key.isRedelivery], key ∉ Properties.keys
    decide
  exact apart _ (List.mem_map.mpr ⟨_, mem_presentEntries.mp member, rfl⟩)

theorem EnvelopeHandling.get?_handle (handling : EnvelopeHandling) (envelope : Envelope)
    (message : Message) (member : key ∈ Properties.keys) :
    (handling.handler.handle envelope message).metadata.get? key = message.metadata.get? key := by
  cases handling with
  | ignore => rfl
  | toMetadata =>
      have none : Table.lookupEntry key (presentEntries envelope.entries).reverse = none := by
        refine Table.lookupEntry_eq_none_iff.mpr fun entry listed => ?_
        rintro rfl
        exact Envelope.key_not_mem (List.mem_reverse.mp listed) member
      change (message.metadata.insertAll _).get? key = _
      rw [Table.get?_insertAll, none, Option.none_or]

/-- What a message says under the key of a standard field comes from no envelope. -/
theorem Delivery.get?_toMessage_of_mem {forEnvelope : EnvelopeHandling} {factory : MessageFactory}
    (has : delivery.properties = some properties) (member : key ∈ Properties.keys) :
    (delivery.toMessage (.toMetadata front) forEnvelope.handler factory).metadata.get? key =
      (properties.prefixedText? front key).or ((properties.standardText? key).or
        ((factory.create delivery.body).metadata.get? key)) := by
  unfold Delivery.toMessage
  rw [has]
  cases delivery.envelope with
  | none => exact PropertiesHandler.get?_toMetadata _
  | some envelope =>
      exact (forEnvelope.get?_handle envelope _ member).trans (PropertiesHandler.get?_toMetadata _)

/-- A standard field that is there is told under its key, whatever the envelope says and whatever
message is made of the body, unless a header has that key once the front is put before its name; then
the header is told. -/
theorem Delivery.standard_field_unless_header (delivery : Delivery) (properties : Properties)
    (has : delivery.properties = some properties) (front : String)
    (forEnvelope : EnvelopeHandling) (factory : MessageFactory) (key text : String)
    (entry : (key, some text) ∈ properties.entries) :
    let message := delivery.toMessage (.toMetadata front) forEnvelope.handler factory
    (∀ name value, properties.headerTable.get? name = some value → front ++ name = key →
        message.metadata.get? key = some value.text) ∧
      ((∀ name, properties.headerTable.contains name = true → front ++ name ≠ key) →
        message.metadata.get? key = some text) := by
  intro message
  have told : message.metadata.get? key = (properties.prefixedText? front key).or (some text) := by
    have standard := Properties.standardText?_of_entry entry
    rw [get?_toMessage_of_mem has (Properties.mem_keys_of_entry entry), standard, Option.some_or]
  rw [told]
  constructor
  · intro name value header same
    have found : properties.prefixedText? front key = some value.text :=
      Properties.prefixedText?_eq_some_iff.mpr ⟨name, value, same.symm, header, rfl⟩
    rw [found, Option.some_or]
  · intro free
    cases found : properties.prefixedText? front key with
    | none => rfl
    | some other =>
        obtain ⟨name, value, same, header, _⟩ := Properties.prefixedText?_eq_some_iff.mp found
        refine absurd same.symm (free name ?_)
        rw [Table.contains, header]
        rfl

/-- A user id beside a header of another name, which has something in front as well. -/
theorem Delivery.user_id_beside_header :
    let properties : Properties :=
      { userId := some "alice", headers := some (.ofList [("rmqUserId", .shortText "mallory")]) }
    let message := Delivery.toMessage ⟨[], some properties, none⟩ (.toMetadata "x-") .ignore .plain
    (Metadata.Key.userId, some "alice") ∈ properties.entries ∧
      message.metadata.get? Metadata.Key.userId = some "alice" := by
  intro properties message
  have entry : (Metadata.Key.userId, some "alice") ∈ properties.entries := by decide
  refine ⟨entry, (Delivery.standard_field_unless_header ⟨[], some properties, none⟩ properties rfl
    "x-" .ignore .plain Metadata.Key.userId "alice" entry).2 fun name header same => ?_⟩
  have starts := congrArg String.toList same
  rw [String.toList_append] at starts
  cases starts

/-- A sender that chooses the name of a header well replaces the user id. -/
theorem Delivery.header_replaces_user_id :
    let properties : Properties :=
      { userId := some "alice", headers := some (.ofList [("rmqUserId", .shortText "mallory")]) }
    let message := Delivery.toMessage ⟨[], some properties, none⟩ (.toMetadata "") .ignore .plain
    (Metadata.Key.userId, some "alice") ∈ properties.entries ∧
      message.metadata.get? Metadata.Key.userId = some "mallory" := by
  decide

end AmqpEndpoints
