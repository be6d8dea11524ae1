import AmqpEndpoints.Proofs.Expressions
import AmqpEndpoints.Proofs.Footprint
import AmqpEndpoints.Proofs.Headers
import AmqpEndpoints.Proofs.StandardFields
import AmqpEndpoints.Proofs.Utf8

/-!
# From a producer to a consumer

What a consumer reads of a message that a producer published: the payload as it was, the metadata
that passed the filter of the producer beside the trace context, and the standard fields in their
normal forms.
-/

set_option autoImplicit false

namespace AmqpEndpoints

open Program

/-!
## Normal forms of standard fields
-/

/-- What the text of a standard field stands for. -/
inductive FieldKind where
  | text
  | octet
  | timestamp
  deriving DecidableEq, Repr

/-- A text as it is read and written again, if it stands for something. -/
def FieldKind.normal : FieldKind → String → Option String
  | text, given => Text.visible? given
  | octet, given =>
    (Number.unsigned Number.limit8 (Text.trim given)).toOption.map fun number => toString number
  | timestamp, given => (Time.parseTimestamp given).bind Time.formatTimestamp

namespace Properties

/-- The metadata keys of the standard fields that can be set, with what their texts stand for. -/
def fieldKinds : List (String × FieldKind) :=
  [(Metadata.Key.appId, .text),
    (Metadata.Key.contentEncoding, .text),
    (Metadata.Key.clusterId, .text),
    (Metadata.Key.contentType, .text),
    (Metadata.Key.correlationId, .text),
    (Metadata.Key.deliveryMode, .octet),
    (Metadata.Key.expiration, .text),
    (Metadata.Key.messageId, .text),
    (Metadata.Key.priority, .octet),
    (Metadata.Key.replyTo, .text),
    (Metadata.Key.timestamp, .timestamp),
    (Metadata.Key.kind, .text),
    (Metadata.Key.userId, .text)]

variable {metadata : Metadata} {key text : String}

theorem octetAt_map_octetText (metadata : Metadata) (key : String) :
    (octetAt metadata key).map octetText = (metadata.get? key).bind FieldKind.octet.normal := by
  rw [octetAt_eq]
  cases metadata.get? key with
  | none => rfl
  | some given =>
      rw [Option.bind_some, Option.bind_some, FieldKind.normal]
      cases read : Number.unsigned Number.limit8 (Text.trim given) with
      | error fault => rfl
      | ok number =>
          have small : number < UInt8.size := Nat.lt_succ_of_le (Number.read_le read)
          simp [Except.toOption, octetText, UInt8.toNat_ofNat_of_lt' small]

theorem timestampAt_bind_formatTimestamp (metadata : Metadata) (key : String) :
    ((timestampAt metadata key).bind fun seconds => Time.formatTimestamp seconds.toNat) =
      (metadata.get? key).bind FieldKind.timestamp.normal := by
  rw [timestampAt_eq]
  cases metadata.get? key with
  | none => rfl
  | some given =>
      rw [Option.bind_some, Option.bind_some, FieldKind.normal]
      cases read : Time.parseTimestamp given with
      | none => rfl
      | some seconds =>
          have small : seconds < UInt64.size := Nat.lt_succ_of_le (Time.parseTimestamp_le read)
          simp [UInt64.toNat_ofNat_of_lt' small]

theorem entries_ofMetadata (metadata : Metadata) :
    (ofMetadata metadata).entries.Perm
      ((Metadata.Key.classId, some classId) :: fieldKinds.map fun field =>
        (field.1, (metadata.get? field.1).bind field.2.normal)) := by
  have texts : ∀ key, textAt metadata key = (metadata.get? key).bind FieldKind.text.normal :=
    textAt_eq metadata
  unfold entries ofMetadata
  simp only [texts, octetAt_map_octetText, timestampAt_bind_formatTimestamp]
  exact @List.perm_middle _ _ [_, _, _] _

theorem standardText?_ofMetadata :
    (ofMetadata metadata).standardText? key = some text ↔
      (key = Metadata.Key.classId ∧ text = "60") ∨
        ∃ kind given, (key, kind) ∈ fieldKinds ∧ metadata.get? key = some given ∧
          kind.normal given = some text := by
  rw [standardText?_eq_some_iff, (entries_ofMetadata metadata).mem_iff, List.mem_cons, List.mem_map]
  refine or_congr ?_ ?_
  · rw [Prod.mk.injEq, Option.some.injEq]
    exact Iff.rfl
  · constructor
    · rintro ⟨⟨field, kind⟩, member, same⟩
      obtain ⟨rfl, read⟩ := Prod.mk.inj same
      obtain ⟨given, found, normal⟩ := Option.bind_eq_some_iff.mp read
      exact ⟨kind, given, member, found, normal⟩
    · rintro ⟨kind, given, member, found, normal⟩
      refine ⟨(key, kind), member, ?_⟩
      rw [found, Option.bind_some, normal]

theorem standardText?_empty :
    ({} : Properties).standardText? key = some text ↔
      key = Metadata.Key.classId ∧ text = "60" := by
  rw [standardText?_eq_some_iff]
  simp [entries, classId]

end Properties

/-!
## What is published
-/

/-- The metadata that leaves as headers: what passes a filter, overlaid by the pairs of a trace
context under lower-case names. -/
def Producer.carried (filter : Filter) (pairs : List (String × String)) (metadata : Metadata) :
    Metadata :=
  (filter.apply metadata).insertAll (pairs.map fun pair => (Text.lowerCase pair.1, pair.2))

/-- The properties that a source of fields starts from. -/
def FieldSource.start (source : Option FieldSource) (metadata : Metadata) : Properties :=
  if source.isSome then .ofMetadata metadata else {}

theorem PropertiesBuilder.build_fields {filter : Filter} {source : Option FieldSource}
    {message : Message} {properties : Properties}
    (standard : source = none ∨ source = some .metadata)
    (built : (PropertiesBuilder.fields filter source).build message = .ok (some properties)) :
    properties.headerTable = (filter.apply message.metadata).map Value.ofText ∧
      properties.entries = (FieldSource.start source message.metadata).entries := by
  have given : FieldSource.given source message =
      .ok (FieldSource.start source message.metadata) := by
    obtain rfl | rfl := standard <;> rfl
  obtain ⟨same, _, headers⟩ := build_of_given given built
  rw [← same]
  exact ⟨headers, rfl⟩

/-- Properties that a message is published with were built, and then given the trace context. -/
theorem Producer.exists_built {settings : ProducerSettings} {pairs : List (String × String)}
    {message : Message} {properties : Properties}
    (published : Producer.propertiesFor settings pairs message = .ok (some properties)) :
    ∃ built, settings.properties.build message = .ok (some built) ∧
      properties = Trace.inject pairs built := by
  unfold propertiesFor at published
  cases result : settings.properties.build message with
  | error failure =>
      rw [result] at published
      cases published
  | ok built =>
      rw [result] at published
      obtain ⟨before, rfl, injected⟩ := Option.map_eq_some_iff.mp (Except.ok.inj published)
      exact ⟨before, rfl, injected.symm⟩

theorem Producer.propertiesFor_fields {settings : ProducerSettings} {filter : Filter}
    {source : Option FieldSource} {pairs : List (String × String)} {message : Message}
    {properties : Properties} (fields : settings.properties = .fields filter source)
    (standard : source = none ∨ source = some .metadata)
    (published : Producer.propertiesFor settings pairs message = .ok (some properties)) :
    properties.headerTable = (carried filter pairs message.metadata).map Value.ofText ∧
      properties.entries = (FieldSource.start source message.metadata).entries := by
  obtain ⟨before, built, rfl⟩ := exists_built published
  rw [fields] at built
  obtain ⟨headers, entries⟩ := PropertiesBuilder.build_fields standard built
  refine ⟨?_, entries⟩
  change before.headerTable.insertAll _ = _
  rw [headers, carried, Table.map_insertAll, List.map_map]
  rfl

/-- Whether an action publishes nothing, or a message as a producer publishes it. -/
def Action.PublishesAs (settings : ProducerSettings) (pairs : List (String × String))
    (message : Message) : Action → Prop
  | issue (.publish _ _ _ payload properties) =>
    payload = message.payload ∧ Producer.propertiesFor settings pairs message = .ok properties
  | _ => True

theorem Producer.publishOn_publishesAs (settings : ProducerSettings) (channel : ChannelId)
    (pairs : List (String × String)) (message : Message) :
    (Producer.publishOn settings channel pairs message).run.Uses
      (Action.PublishesAs settings pairs message) := by
  have pureUses : ∀ {α : Type} (result : Except Failure α),
      (publishOn.liftExcept result).run.Uses (Action.PublishesAs settings pairs message) :=
    fun result => uses_pure result
  unfold Producer.publishOn
  refine (pureUses _).attempt_bind fun destination => ?_
  have issuing : ∀ properties, propertiesFor settings pairs message = .ok properties → (do
      let confirmation ← attempt
        (.publish channel settings.exchange.name destination message.payload properties)
      if confirmation = .nack then
        throw (.publishing ("message to `" ++ destination ++ "` was nacked")) :
        Attempt Unit).run.Uses (Action.PublishesAs settings pairs message) := by
    intro properties built
    have issued : Action.PublishesAs settings pairs message
        (.issue (.publish channel settings.exchange.name destination message.payload
          properties)) := ⟨rfl, built⟩
    refine Uses.attempt_bind (uses_attempt issued trivial) fun confirmation => ?_
    split <;> exact uses_pure _
  have delivery : ∀ reply : Unit, (do
      let properties ← publishOn.liftExcept (propertiesFor settings pairs message)
      let confirmation ← attempt
        (.publish channel settings.exchange.name destination message.payload properties)
      if confirmation = .nack then
        throw (.publishing ("message to `" ++ destination ++ "` was nacked")) :
        Attempt Unit).run.Uses (Action.PublishesAs settings pairs message) := by
    intro _
    refine follows_attempt_bind.mpr ?_
    cases built : propertiesFor settings pairs message with
    | error failure => trivial
    | ok properties => exact issuing properties built
  dsimp only
  split
  · exact (uses_attempt trivial trivial).attempt_bind delivery
  · exact delivery ()

theorem Producer.produce_publishesAs (component : ComponentId) (settings : ProducerSettings)
    (pairs : List (String × String)) (message : Message) :
    (Producer.produce component settings pairs message).Uses
      (Action.PublishesAs settings pairs message) := by
  have ending : ∀ outcome : Except Failure Unit, (do
      act (.unlock component)
      return outcome : Program (Except Failure Unit)).Uses
        (Action.PublishesAs settings pairs message) :=
    fun outcome => Uses.bind (uses_act trivial) fun _ => uses_pure outcome
  refine Uses.bind ?_ fun outcome => uses_pure _
  refine Uses.bind (uses_act trivial) fun _ => Uses.bind (uses_act trivial) fun held => ?_
  cases held with
  | none => exact ending _
  | some held => exact Uses.bind (publishOn_publishesAs settings held.channel pairs message) ending

/-!
## The way there and back
-/

/-- Whatever a producer publishes with properties that it makes of the metadata, a consumer reads
back: the payload as it was, and as metadata just what left as headers, with something in front of
each name, the class and, where the producer sets standard fields, their normal forms. -/
theorem Producer.published_message_reads_back (world : World) (component : ComponentId)
    (settings : ProducerSettings) (filter : Filter) (source : Option FieldSource)
    (fields : settings.properties = .fields filter source)
    (standard : source = none ∨ source = some .metadata) (pairs : List (String × String))
    (message : Message) (front : String) (forEnvelope : EnvelopeHandler) {entry : Done}
    (done : entry ∈ (Producer.produce component settings pairs message).trace world)
    {channel : ChannelId} {exchange routingKey : String} {payload : List UInt8}
    {properties : Properties}
    (publishes :
      entry.action = .issue (.publish channel exchange routingKey payload (some properties)))
    (free : ∀ name, (carried filter pairs message.metadata).contains name = true →
      front ++ name ∉ Properties.keys) :
    let delivered :=
      Delivery.toMessage ⟨payload, some properties, none⟩ (.toMetadata front) forEnvelope .plain
    delivered.payload = message.payload ∧
      ∀ key text, delivered.metadata.get? key = some text ↔
        (∃ name, key = front ++ name ∧
          (carried filter pairs message.metadata).get? name = some text) ∨
        (key = Metadata.Key.classId ∧ text = "60") ∨
        (source = some .metadata ∧ ∃ kind given, (key, kind) ∈ Properties.fieldKinds ∧
          message.metadata.get? key = some given ∧ kind.normal given = some text) := by
  intro delivered
  have issued := (produce_publishesAs component settings pairs message).of_mem_trace done
  rw [publishes] at issued
  obtain ⟨samePayload, built⟩ := issued
  obtain ⟨headers, entries⟩ := propertiesFor_fields fields standard built
  refine ⟨samePayload, fun key text => ?_⟩
  have prefixed : properties.prefixedText? front key = some text ↔
      ∃ name, key = front ++ name ∧
        (carried filter pairs message.metadata).get? name = some text := by
    rw [Properties.prefixedText?_eq_some_iff]
    refine exists_congr fun name => ?_
    rw [headers, Table.get?_map]
    constructor
    · rintro ⟨value, same, header, rfl⟩
      obtain ⟨given, carries, rfl⟩ := Option.map_eq_some_iff.mp header
      exact ⟨same, carries.trans (congrArg some (Text.Utf8.decodeLossy_encode given).symm)⟩
    · rintro ⟨same, carries⟩
      exact ⟨.ofText text, same, by rw [carries]; rfl, Text.Utf8.decodeLossy_encode text⟩
  have told : properties.standardText? key = some text ↔
      (key = Metadata.Key.classId ∧ text = "60") ∨
        (source = some .metadata ∧ ∃ kind given, (key, kind) ∈ Properties.fieldKinds ∧
          message.metadata.get? key = some given ∧ kind.normal given = some text) := by
    have start : properties.standardText? key =
        (FieldSource.start source message.metadata).standardText? key :=
      congrArg (fun entries => Table.lookupEntry key (presentEntries entries)) entries
    rw [start]
    obtain rfl | rfl := standard
    · simpa [FieldSource.start] using Properties.standardText?_empty
    · simpa [FieldSource.start] using Properties.standardText?_ofMetadata
  have sought : delivered.metadata.get? key =
      (properties.prefixedText? front key).or (properties.standardText? key) := by
    refine (PropertiesHandler.get?_toMetadata _).trans ?_
    change Option.or _ (Option.or _ none) = _
    rw [Option.or_none]
  rw [sought, ← prefixed, ← told]
  cases found : properties.prefixedText? front key with
  | none => simp
  | some other =>
      have apart : properties.standardText? key ≠ some text := by
        intro standard
        obtain ⟨name, value, same, header, _⟩ := Properties.prefixedText?_eq_some_iff.mp found
        rw [headers, Table.get?_map] at header
        obtain ⟨given, carries, _⟩ := Option.map_eq_some_iff.mp header
        refine free name ?_ (same ▸ Properties.mem_keys_of_entry
          (Properties.standardText?_eq_some_iff.mp standard))
        rw [Table.contains, carries]
        rfl
      simp [apart]

theorem Producer.publish_mem_trace {world : World} {component : ComponentId}
    {settings : ProducerSettings} {pairs : List (String × String)} {message : Message} {held : Held}
    {properties : Option Properties} (started : world.heldBy component = some held)
    (fixed : isExpression settings.queue = false)
    (built : propertiesFor settings pairs message = .ok properties) :
    ⟨.issue (.publish held.channel settings.exchange.name settings.queue message.payload
        properties), ()⟩ ∈ (Producer.produce component settings pairs message).trace world := by
  have looked : ((act (.held component)).run ((act (.lock component)).run world).2).1 =
      some held := by
    change (world.perform (.lock component)).2.heldBy component = some held
    rw [World.heldBy_perform]
    exact started
  have first : ∀ world : World, ⟨.issue (.publish held.channel settings.exchange.name
      settings.queue message.payload properties), ()⟩ ∈
        (publishOn settings held.channel pairs message).run.trace world := by
    intro world
    unfold publishOn
    rw [message.resolve_of_fixed fixed, fixed, built]
    exact List.mem_cons_self
  unfold produce publish
  rw [trace_bind, trace_bind, trace_bind]
  refine List.mem_append_left _ (List.mem_append_right _ (List.mem_append_right _ ?_))
  rw [looked]
  dsimp only
  rw [trace_bind]
  exact List.mem_append_left _ (first _)

/-- A message with an application id and a note, published with a trace context by a producer on its
channel. -/
theorem Producer.published_note_reads_back :
    let settings : ProducerSettings :=
      { queue := "work", properties := .fields .keepAll (some .metadata) }
    let message : Message := ⟨[104, 105], .ofList [("note", "new"), ("rmqAppId", " shop ")]⟩
    let pairs := [("Traceparent", "00-1")]
    let world : World := { components := [{ role := .producer settings, held := some ⟨1, none⟩ }] }
    ∃ properties,
      ⟨.issue (.publish 1 "" "work" [104, 105] (some properties)), ()⟩ ∈
          (Producer.produce 0 settings pairs message).trace world ∧
        (Delivery.toMessage ⟨[104, 105], some properties, none⟩ (.toMetadata "x-") .ignore
          .plain).metadata.get? Metadata.Key.appId = some "shop" := by
  intro settings message pairs world
  have fixed : isExpression settings.queue = false := isExpression_of_cutAt? (by decide)
  let properties := Trace.inject pairs
    (PropertiesBuilder.withHeaders (.ofMetadata message.metadata) message.metadata)
  have built : propertiesFor settings pairs message = .ok (some properties) := rfl
  have started : world.heldBy 0 = some ⟨1, none⟩ := rfl
  have done : ⟨.issue (.publish 1 "" "work" [104, 105] (some properties)), ()⟩ ∈
      (Producer.produce 0 settings pairs message).trace world :=
    publish_mem_trace started fixed built
  refine ⟨properties, done, ?_⟩
  have reads := published_message_reads_back world 0 settings .keepAll (some .metadata) rfl
    (.inr rfl) pairs message "x-" .ignore done rfl ?_
  · exact (reads.2 _ _).mpr (.inr (.inr ⟨rfl, .text, " shop ", by decide, by decide, by decide⟩))
  · intro name _ member
    have starts : ∀ key ∈ Properties.keys, key.toList.head? = some 'r' := by decide
    have first := starts _ member
    rw [String.toList_append] at first
    cases first

end AmqpEndpoints
