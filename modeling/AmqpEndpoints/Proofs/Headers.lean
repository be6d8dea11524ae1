import AmqpEndpoints.Properties.Builder
import AmqpEndpoints.Proofs.References
import AmqpEndpoints.Proofs.Tables
import AmqpEndpoints.Proofs.Utf8

/-!
# Headers of built properties

The headers that a builder sets are the metadata of the message that passes its filter, and nothing
else of the message: what is not kept can matter for the standard fields only, where the source of
these fields reads it.
-/

set_option autoImplicit false

namespace AmqpEndpoints

/-!
## What passes a filter
-/

namespace Filter

variable {filter : Filter} {metadata : Metadata} {key text : String}

/-- Whether the metadata of a key passes a filter. -/
def Keeps : Filter → String → Prop
  | removeAll, _ => False
  | keepAll, _ => True
  | only keys starts, key => key ∈ keys ∨ ∃ start ∈ starts, start.toList <+: key.toList

def KeepsNothing (filter : Filter) (metadata : Metadata) : Prop :=
  ∀ key, filter.Keeps key → metadata.get? key = none

theorem keeps_iff : filter.keeps key = true ↔ filter.Keeps key := by
  have begins : ∀ start : String, (Text.afterStart? start.toList key.toList).isSome = true ↔
      start.toList <+: key.toList := by
    intro start
    rw [Option.isSome_iff_ne_none, ne_eq, Text.afterStart?_eq_none_iff, not_not]
  cases filter with
  | removeAll => simp [keeps, Keeps]
  | keepAll => simp [keeps, Keeps]
  | only keys starts => simp [keeps, Keeps, begins]

theorem get?_apply :
    (filter.apply metadata).get? key = some text ↔
      metadata.get? key = some text ∧ filter.Keeps key := by
  rw [apply, Table.get?_filterKeys, ← keeps_iff]
  cases filter.keeps key <;> simp

theorem isEmpty_apply_iff : (filter.apply metadata).isEmpty = true ↔ filter.KeepsNothing metadata := by
  constructor
  · intro nothing key keeps
    cases found : metadata.get? key with
    | none => rfl
    | some text =>
        have kept := get?_apply.mpr ⟨found, keeps⟩
        rw [Table.eq_empty_of_isEmpty nothing] at kept
        cases kept
  · intro nothing
    have empty : filter.apply metadata = .empty := by
      apply Table.ext_get?
      intro key
      apply Option.eq_none_iff_forall_ne_some.mpr
      intro text kept
      obtain ⟨found, keeps⟩ := get?_apply.mp kept
      rw [nothing key keeps] at found
      cases found
    rw [empty]
    rfl

theorem apply_congr {other : Metadata}
    (same : ∀ key, filter.Keeps key → other.get? key = metadata.get? key) :
    filter.apply other = filter.apply metadata := by
  apply Table.ext_get?
  intro key
  apply Option.ext
  intro text
  rw [get?_apply, get?_apply]
  exact and_congr_left fun keeps => by rw [same key keeps]

end Filter

/-!
## Fields and headers
-/

/-- The fields that a source gives alone; without source no field is set. -/
def FieldSource.given : Option FieldSource → Message → Except Failure Properties
  | none, _ => .ok {}
  | some source, message => source.build message

theorem FieldSource.headers_of_given {source : Option FieldSource} {message : Message}
    {properties : Properties} (fields : given source message = .ok properties) :
    properties.headers = none := by
  cases source with
  | none =>
      cases fields
      rfl
  | some source =>
      cases source with
      | metadata =>
          cases fields
          rfl
      | configured texts =>
          simp only [given, build, PropertyTexts.build] at fields
          cases resolved : PropertyTexts.resolveEntries message texts.entries with
          | error failure =>
              rw [resolved] at fields
              cases fields
          | ok pairs =>
              rw [resolved] at fields
              cases fields
              rfl

namespace PropertiesBuilder

variable {filter : Filter} {source : Option FieldSource} {message : Message}
  {properties : Properties}

theorem build_fields_eq (filter : Filter) (source : Option FieldSource) (message : Message) :
    (fields filter source).build message =
      (FieldSource.given source message).map fun properties =>
        if (filter.apply message.metadata).isEmpty then source.map fun _ => properties
        else some (withHeaders properties (filter.apply message.metadata)) := by
  cases source with
  | none =>
      simp only [build, FieldSource.given, Except.map]
      cases (filter.apply message.metadata).isEmpty <;> rfl
  | some source =>
      simp only [build, FieldSource.given, Option.mapM_some]
      cases source.build message with
      | error failure => rfl
      | ok properties => cases (filter.apply message.metadata).isEmpty <;> rfl

theorem headerTable_withHeaders {kept : Metadata} (without : properties.headers = none) :
    (withHeaders properties kept).headerTable = kept.map Value.ofText := by
  change properties.headerTable.insertAll (kept.map Value.ofText).entries = _
  rw [Properties.headerTable, without]
  exact Table.insertAll_entries _

/-- What is built of given fields has these fields, and as headers what passes the filter. -/
theorem build_of_given {given : Properties} (fields : FieldSource.given source message = .ok given)
    (built : (PropertiesBuilder.fields filter source).build message = .ok (some properties)) :
    { properties with headers := none } = given ∧
      (properties.headers = none ↔ filter.KeepsNothing message.metadata) ∧
      properties.headerTable = (filter.apply message.metadata).map Value.ofText := by
  have without := FieldSource.headers_of_given fields
  rw [build_fields_eq, fields] at built
  rw [← Filter.isEmpty_apply_iff]
  cases nothing : (filter.apply message.metadata).isEmpty with
  | true =>
      simp only [Except.map, nothing, if_true] at built
      obtain ⟨_, _, rfl⟩ := Option.map_eq_some_iff.mp (Except.ok.inj built)
      rw [Table.eq_empty_of_isEmpty nothing]
      exact ⟨by cases given; cases without; rfl, by simp [without],
        by rw [Properties.headerTable, without]; rfl⟩
  | false =>
      simp only [Except.map, nothing] at built
      cases built
      exact ⟨by cases given; cases without; rfl, by simp [withHeaders],
        headerTable_withHeaders without⟩

theorem header?_of_headerTable {kept : Metadata} {key text : String}
    (headers : properties.headerTable = kept.map Value.ofText) :
    properties.header? key = some text ↔ kept.get? key = some text := by
  have read : ∀ text, (Value.ofText text).text = text := Text.Utf8.decodeLossy_encode
  rw [Properties.header?, headers, Table.get?_map, Option.map_map]
  have whole : Value.text ∘ Value.ofText = id := funext read
  rw [whole, Option.map_id]
  rfl

/-- The headers are the metadata that passes the filter, whatever else the message carries, and the
standard fields are those of their source. Building fails as the source does; there are no properties
at all where there is neither a source nor a header. -/
theorem headers_are_kept_metadata (filter : Filter) (source : Option FieldSource)
    (message : Message) :
    let built := (fields filter source).build message
    (∀ failure, built = .error failure ↔ FieldSource.given source message = .error failure) ∧
    (built = .ok none ↔ source = none ∧ filter.KeepsNothing message.metadata) ∧
    (∀ properties, built = .ok (some properties) →
      FieldSource.given source message = .ok { properties with headers := none } ∧
      (properties.headers = none ↔ filter.KeepsNothing message.metadata) ∧
      ∀ key text, properties.header? key = some text ↔
        message.metadata.get? key = some text ∧ filter.Keeps key) ∧
    ∀ other : Message, FieldSource.given source other = FieldSource.given source message →
      (∀ key, filter.Keeps key → other.metadata.get? key = message.metadata.get? key) →
        (fields filter source).build other = built := by
  intro built
  refine ⟨?_, ?_, ?_, ?_⟩
  · intro failure
    change (fields filter source).build message = _ ↔ _
    rw [build_fields_eq]
    cases FieldSource.given source message <;> simp [Except.map]
  · change (fields filter source).build message = _ ↔ _
    rw [build_fields_eq, ← Filter.isEmpty_apply_iff]
    cases source with
    | none => cases (filter.apply message.metadata).isEmpty <;> simp [FieldSource.given, Except.map]
    | some source =>
        cases FieldSource.given (some source) message <;>
          cases (filter.apply message.metadata).isEmpty <;> simp [Except.map]
  · intro properties present
    change (PropertiesBuilder.fields filter source).build message = _ at present
    cases fields : FieldSource.given source message with
    | error failure =>
        rw [build_fields_eq, fields] at present
        cases present
    | ok given =>
        obtain ⟨standard, absent, headers⟩ := build_of_given fields present
        refine ⟨congrArg Except.ok standard.symm, absent, ?_⟩
        intro key text
        rw [header?_of_headerTable headers, Filter.get?_apply]
  · intro other sameFields sameKept
    change _ = (fields filter source).build message
    rw [build_fields_eq, build_fields_eq, sameFields, Filter.apply_congr sameKept]

end PropertiesBuilder

end AmqpEndpoints
