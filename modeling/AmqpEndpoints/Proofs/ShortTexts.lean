import AmqpEndpoints.Proofs.ConfiguredFields
import AmqpEndpoints.Proofs.Pool
import AmqpEndpoints.Proofs.TraceContext
import AmqpEndpoints.Session

/-!
# Short texts

On the wire the fields that are texts and the names of headers are short texts, whose length is told
by one byte. Nothing between the metadata of a message and the call that publishes it looks at a
length: what is published are the texts that the builder was given, and they fit if those do.
-/

set_option autoImplicit false

namespace AmqpEndpoints

open Program

/-- The most bytes that a short text can have. -/
def Text.shortLimit : Nat := 255

def Text.IsShort (text : String) : Prop :=
  (Text.Utf8.encode text).length ≤ Text.shortLimit

instance (text : String) : Decidable (Text.IsShort text) :=
  inferInstanceAs (Decidable ((Text.Utf8.encode text).length ≤ Text.shortLimit))

/-!
## Short texts of properties
-/

/-- The value of a field as a short text; the other fields are numbers. -/
def FieldKind.shortText? : (kind : FieldKind) → kind.Value → Option String
  | text, value => some value
  | octet, _ => none
  | timestamp, _ => none

theorem FieldKind.shortText?_of_read {kind : FieldKind} {given shown : String} :
    (kind.read given).bind kind.shortText? = some shown ↔
      kind = .text ∧ Text.visible? given = some shown := by
  rw [Option.bind_eq_some_iff]
  cases kind <;> simp [read, shortText?]

/-- The texts of properties that are short texts on the wire, without the names of a trace context. -/
inductive Properties.HasShort (properties : Properties) (pairs : List (String × String)) :
    String → Prop where
  | field {field : StandardField} {text : String}
      (set : (properties.get field).bind field.form.shortText? = some text) :
      HasShort properties pairs text
  | header {name : String} (listed : name ∈ properties.headerTable.keys)
      (own : ∀ pair ∈ pairs, Text.lowerCase pair.1 ≠ name) :
      HasShort properties pairs name

@[simp] theorem Properties.get_empty (field : StandardField) :
    ({} : Properties).get field = none := by
  cases field <;> rfl

@[simp] theorem Properties.get_setHeaders (properties : Properties)
    (headers : Option (Table Value)) (field : StandardField) :
    { properties with headers := headers }.get field = properties.get field := by
  cases field <;> rfl

namespace PropertiesBuilder

/-- The text that a builder finds for a field. -/
def text? : PropertiesBuilder → Message → StandardField → Option String
  | fields _ (some .metadata), message, field => message.metadata.get? field.key
  | fields _ (some (.configured texts)), message, field => texts.value? message field
  | _, _, _ => none

def Keeps : PropertiesBuilder → String → Prop
  | never, _ => False
  | fields filter _, name => filter.Keeps name

/-- The texts that a builder finds in a message for the fields that are texts, without the blanks at
their ends, and for the names of headers. -/
inductive Finds (builder : PropertiesBuilder) (message : Message)
    (pairs : List (String × String)) : String → Prop where
  | field {field : StandardField} {given text : String} (textual : field.form = .text)
      (found : builder.text? message field = some given)
      (visible : Text.visible? given = some text) :
      Finds builder message pairs text
  | header {name given : String} (found : message.metadata.get? name = some given)
      (keeps : builder.Keeps name) (own : ∀ pair ∈ pairs, Text.lowerCase pair.1 ≠ name) :
      Finds builder message pairs name

/-- Whether a configured text of a builder has no meaning for a message. -/
def Unresolved (builder : PropertiesBuilder) (message : Message) : Prop :=
  ∃ filter texts field text failure, builder = .fields filter (some (.configured texts)) ∧
    texts.get field = some text ∧ message.resolve text = .error failure

/-!
## What is built
-/

variable {builder : PropertiesBuilder} {filter : Filter} {source : Option FieldSource}
  {message : Message} {pairs : List (String × String)} {properties : Properties} {text : String}

/-- No text is too long for a build: it fails only where a configured text has no meaning. -/
theorem build_fails_iff :
    (∃ failure, builder.build message = .error failure) ↔ builder.Unresolved message := by
  cases builder with
  | never => simp [build, Unresolved]
  | fields filter source =>
      have sourced : (∃ failure, (fields filter source).build message = .error failure) ↔
          ∃ failure, FieldSource.given source message = .error failure := by
        rw [build_fields_eq]
        cases FieldSource.given source message <;> simp [Except.map]
      rw [sourced]
      cases source with
      | none => simp [FieldSource.given, Unresolved]
      | some source =>
          cases source with
          | metadata => simp [FieldSource.given, FieldSource.build, Unresolved]
          | configured texts => exact PropertyTexts.build_fails_iff.trans (by simp [Unresolved])

theorem get_of_given {given : Properties} (fields : FieldSource.given source message = .ok given)
    (field : StandardField) :
    given.get field =
      ((PropertiesBuilder.fields filter source).text? message field).bind field.form.read := by
  cases source with
  | none =>
      obtain rfl := Except.ok.inj fields
      simp [text?]
  | some source =>
      cases source with
      | metadata =>
          obtain rfl := Except.ok.inj fields
          exact Properties.get_ofMetadata message.metadata field
      | configured texts => exact PropertyTexts.get_of_build fields field

/-- Each field is read of the text that was found for it, and each header that is kept is set under its
own name, however long the texts are. -/
theorem texts_of_build (built : builder.build message = .ok (some properties)) :
    (∀ field, properties.get field = (builder.text? message field).bind field.form.read) ∧
      ∀ name, name ∈ properties.headerTable.keys ↔
        ∃ given, message.metadata.get? name = some given ∧ builder.Keeps name := by
  cases builder with
  | never => cases built
  | fields filter source =>
      cases fields : FieldSource.given source message with
      | error failure =>
          rw [build_fields_eq, fields] at built
          cases built
      | ok given =>
          obtain ⟨standard, _, headers⟩ := build_of_given fields built
          constructor
          · intro field
            rw [← get_of_given fields, ← standard]
            exact (properties.get_setHeaders none field).symm
          · intro name
            rw [headers, Table.mem_keys_iff, Table.get?_map, Option.isSome_map,
              Option.isSome_iff_exists]
            exact exists_congr fun given => Filter.get?_apply

end PropertiesBuilder

/-!
## What is published
-/

namespace Producer

variable {settings : ProducerSettings} {message : Message} {pairs : List (String × String)}
  {properties : Properties} {text : String}

theorem hasShort_iff_finds
    (published : propertiesFor settings pairs message = .ok (some properties)) :
    properties.HasShort pairs text ↔ settings.properties.Finds message pairs text := by
  obtain ⟨built, build, rfl⟩ := exists_built published
  obtain ⟨fields, headers⟩ := PropertiesBuilder.texts_of_build build
  have injected : ∀ field, (Trace.inject pairs built).get field = built.get field :=
    built.get_setHeaders _
  constructor
  · intro short
    cases short with
    | @field field text set =>
        rw [injected, fields, Option.bind_assoc] at set
        obtain ⟨given, found, shown⟩ := Option.bind_eq_some_iff.mp set
        obtain ⟨textual, visible⟩ := FieldKind.shortText?_of_read.mp shown
        exact .field textual found visible
    | header listed own =>
        obtain ⟨pair, member, same⟩ | before := (Trace.mem_keys_injectHeaders_iff _).mp listed
        · exact absurd same (own pair member)
        · obtain ⟨given, found, keeps⟩ := (headers _).mp before
          exact .header found keeps own
  · intro finds
    cases finds with
    | @field field given text textual found visible =>
        have set : ((Trace.inject pairs built).get field).bind field.form.shortText? =
            some text := by
          rw [injected, fields, found]
          exact FieldKind.shortText?_of_read.mpr ⟨textual, visible⟩
        exact .field set
    | header found keeps own =>
        refine .header ?_ own
        exact (Trace.mem_keys_injectHeaders_iff _).mpr (.inr ((headers _).mpr ⟨_, found, keeps⟩))

/-- A session that publishes a message with a correlation, on a producer that sets the standard
fields. -/
def correlating (text : String) : List Command :=
  [.init, .producer "outbox" { queue := "work", properties := .fields .removeAll (some .metadata) },
    .start "outbox", .produce "outbox" ⟨⟨[1], .ofList [("rmqCorrelationId", text)]⟩, []⟩]

theorem answers_correlating {text : String} (shown : Text.visible? text = some text) :
    let properties : Properties := { correlationId := some text, headers := some .empty }
    ((Session.create "host" (.ok ())).answers (correlating text)).drop 3 =
      [(.produced ⟨.ok (), .ofList [("rmqCorrelationId", text)]⟩,
        [.called (.publish 1 "" "work" [1] (some properties)),
          .returned (.publish 1 "" "work" [1] (some properties)) (.ok .notRequested)])] := by
  intro properties
  have fields : Properties.ofMetadata (.ofList [("rmqCorrelationId", text)]) =
      { correlationId := some text } := by
    refine Properties.ext_get ?_ fun field => ?_
    · rfl
    rw [Properties.get_ofMetadata]
    cases field with
    | correlationId => exact shown
    | _ => rfl
  have published : properties =
      Trace.inject [] (.ofMetadata (.ofList [("rmqCorrelationId", text)])) := by
    rw [fields]
    rfl
  rw [published]
  with_unfolding_all rfl

/-- Whatever a producer publishes, the short texts of the properties are the texts that its builder
found, so they all fit exactly if those do. A text that does not fit is not passed over, and it fails
no build: a build fails only where a configured text has no meaning for the message. -/
theorem published_short_texts (component : ComponentId) (settings : ProducerSettings)
    (pairs : List (String × String)) (message : Message) :
    ((∃ failure, settings.properties.build message = .error failure) ↔
      settings.properties.Unresolved message) ∧
    ∀ entries rest, (produce component settings pairs message).Leaves entries rest →
      ∀ entry ∈ entries, ∀ channel exchange routingKey payload properties,
        entry.action =
            .issue (.publish channel exchange routingKey payload (some properties)) →
          (∀ text, properties.HasShort pairs text ↔
            settings.properties.Finds message pairs text) ∧
          ((∀ text, properties.HasShort pairs text → Text.IsShort text) ↔
            ∀ text, settings.properties.Finds message pairs text → Text.IsShort text) := by
  refine ⟨PropertiesBuilder.build_fails_iff, ?_⟩
  intro entries rest leaves entry done channel exchange routingKey payload properties publishes
  have issued := leaves.allowed (produce_publishesAs component settings pairs message) entry done
  rw [publishes] at issued
  have finds : ∀ text, properties.HasShort pairs text ↔
      settings.properties.Finds message pairs text :=
    fun text => hasShort_iff_finds issued.2
  exact ⟨finds, forall_congr' fun text => imp_congr_left (finds text)⟩

/-- A message with a correlation, of which nothing is too long. -/
theorem published_short_texts_of_order :
    let settings : ProducerSettings :=
      { queue := "work", properties := .fields .keepAll (some .metadata) }
    let message : Message := ⟨[1], .ofList [("rmqCorrelationId", " order-1 ")]⟩
    let world : World := { components := [{ role := .producer settings, held := some ⟨1, none⟩ }] }
    ∃ properties,
      ⟨.issue (.publish 1 "" "work" [1] (some properties)), ()⟩ ∈
          (produce 0 settings [] message).trace world ∧
        properties.HasShort [] "order-1" ∧
        ∀ text, properties.HasShort [] text → Text.IsShort text := by
  intro settings message world
  have fixed : isExpression settings.queue = false := isExpression_of_cutAt? (by decide)
  have started : world.heldBy 0 = some ⟨1, none⟩ := rfl
  have built : propertiesFor settings [] message = .ok (some (Trace.inject []
      (PropertiesBuilder.withHeaders (.ofMetadata message.metadata) message.metadata))) := rfl
  have done := publish_mem_trace started fixed built
  have entry : ∀ {key given : String}, message.metadata.get? key = some given →
      key = "rmqCorrelationId" ∧ given = " order-1 " := by
    intro key given found
    simpa [message, Table.ofList, Table.insertAll, eq_comm] using found
  obtain ⟨finds, fit⟩ := (published_short_texts 0 settings [] message).2 _ _
    (leaves_trace _ world) _ done _ _ _ _ _ rfl
  refine ⟨_, done, ?_, ?_⟩
  · have found : settings.properties.text? message .correlationId = some " order-1 " := by decide
    exact (finds _).mpr (.field rfl found (by decide))
  · apply fit.mpr
    intro text found
    cases found with
    | field _ found visible =>
        obtain ⟨_, rfl⟩ := entry found
        obtain rfl : "order-1" = text := Option.some.inj visible
        decide
    | header found =>
        obtain ⟨rfl, _⟩ := entry found
        decide

/-- A correlation of 256 bytes is handed to the broker as it is, and the producer tells no failure; of
a priority of 256, which does not fit its byte either, nothing is left. -/
theorem overlong_correlation_published :
    let text := String.ofList (List.replicate 256 'a')
    let properties : Properties := { correlationId := some text, headers := some .empty }
    ((Session.create "host" (.ok ())).answers (correlating text)).drop 3 =
        [(.produced ⟨.ok (), .ofList [("rmqCorrelationId", text)]⟩,
          [.called (.publish 1 "" "work" [1] (some properties)),
            .returned (.publish 1 "" "work" [1] (some properties)) (.ok .notRequested)])] ∧
      properties.HasShort [] text ∧ ¬ Text.IsShort text ∧
      (Properties.ofMetadata (.ofList [("rmqPriority", "256")])).priority = none := by
  intro text properties
  have letters : text.toList = List.replicate 256 'a' := String.toList_ofList
  have visible : ∀ c ∈ text.toList, Text.isBlank c = false := by
    intro c member
    rw [letters] at member
    obtain rfl := List.eq_of_mem_replicate member
    decide
  have trimmed : Text.trim text = text := by
    rw [Text.trim, Text.trimBlanks_eq_self visible, String.ofList_toList]
  have shown : Text.visible? text = some text := by
    rw [Text.visible?, trimmed, Text.blank, letters]
    rfl
  have one : 'a'.utf8Size = 1 := by decide
  have size : ∀ count, (Text.Utf8.encodeList (List.replicate count 'a')).length = count := by
    intro count
    simp [Text.Utf8.encodeList, List.length_flatMap, one]
  have long : ¬ Text.IsShort text := by
    rw [Text.IsShort, Text.Utf8.encode, letters, size]
    decide
  have set : (properties.get .correlationId).bind StandardField.correlationId.form.shortText? =
      some text := rfl
  exact ⟨answers_correlating shown, .field set, long, by decide⟩

end Producer

end AmqpEndpoints
