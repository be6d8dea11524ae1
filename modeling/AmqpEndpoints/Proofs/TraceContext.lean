import AmqpEndpoints.Proofs.Tables
import AmqpEndpoints.Proofs.Utf8
import AmqpEndpoints.Trace

/-!
# Trace contexts in headers

The pairs of a context lie over the headers of a message: under each name in lower case the last pair
decides, whatever the header was before, and all other headers stay as they are. What a propagator
gets to read are these headers, with the text of those that are long texts of UTF-8.
-/

set_option autoImplicit false

namespace AmqpEndpoints

/-- A header carries a text exactly if it is the long text of its UTF-8 bytes. -/
theorem Value.carriedText?_eq_some_iff {value : Value} {text : String} :
    value.carriedText? = some text ↔ value = .longText (Text.Utf8.encode text) := by
  cases value with
  | longText bytes =>
      rw [Value.longText.injEq, ← Text.Utf8.decode_eq_ok_iff, carriedText?]
      cases Text.Utf8.decode bytes with
      | ok decoded => simp [Except.toOption]
      | error fault => simp [Except.toOption]
  | _ => simp [carriedText?]

namespace Trace

theorem carried?_eq_some_iff {headers : Table Value} {name text : String} :
    carried? headers name = some text ↔
      headers.get? name = some (.longText (Text.Utf8.encode text)) := by
  rw [carried?, Option.bind_eq_some_iff]
  constructor
  · rintro ⟨value, found, read⟩
    rw [found, Value.carriedText?_eq_some_iff.mp read]
  · exact fun found => ⟨_, found, Value.carriedText?_eq_some_iff.mpr rfl⟩

/-- The value of the last pair whose name is this one in lower case. -/
inductive LastSet (name : String) : List (String × String) → String → Prop where
  | last {key value : String} {rest : List (String × String)} :
      Text.lowerCase key = name → (∀ pair ∈ rest, Text.lowerCase pair.1 ≠ name) →
      LastSet name ((key, value) :: rest) value
  | later {pair : String × String} {rest : List (String × String)} {value : String} :
      LastSet name rest value → LastSet name (pair :: rest) value

section Pairs

variable {name value : String} {pairs : List (String × String)}

theorem exists_lastSet (given : ∃ pair ∈ pairs, Text.lowerCase pair.1 = name) :
    ∃ value, LastSet name pairs value := by
  induction pairs with
  | nil => simp at given
  | cons pair rest ih =>
      by_cases again : ∃ pair ∈ rest, Text.lowerCase pair.1 = name
      · obtain ⟨value, last⟩ := ih again
        exact ⟨value, .later last⟩
      · obtain ⟨found, member, same⟩ := given
        rcases List.mem_cons.mp member with rfl | more
        · exact ⟨found.2, .last same fun other there equal => again ⟨other, there, equal⟩⟩
        · exact absurd ⟨found, more, same⟩ again

theorem injectHeaders_cons (headers : Table Value) (pair : String × String) :
    injectHeaders headers (pair :: pairs) =
      injectHeaders (headers.insert (Text.lowerCase pair.1) (.ofText pair.2)) pairs :=
  rfl

theorem get?_injectHeaders_of_ne (headers : Table Value)
    (unset : ∀ pair ∈ pairs, Text.lowerCase pair.1 ≠ name) :
    (injectHeaders headers pairs).get? name = headers.get? name := by
  induction pairs generalizing headers with
  | nil => rfl
  | cons pair rest ih =>
      obtain ⟨other, others⟩ := List.forall_mem_cons.mp unset
      rw [injectHeaders_cons, ih _ others, Table.get?_insert, if_neg other.symm]

theorem get?_injectHeaders_of_lastSet (headers : Table Value)
    (last : LastSet name pairs value) :
    (injectHeaders headers pairs).get? name = some (.ofText value) := by
  induction last generalizing headers with
  | last same unset =>
      rw [injectHeaders_cons, get?_injectHeaders_of_ne _ unset, Table.get?_insert, if_pos same.symm]
  | later _ ih => exact ih _

theorem mem_keys_injectHeaders_iff (headers : Table Value) :
    name ∈ (injectHeaders headers pairs).keys ↔
      (∃ pair ∈ pairs, Text.lowerCase pair.1 = name) ∨ name ∈ headers.keys := by
  by_cases given : ∃ pair ∈ pairs, Text.lowerCase pair.1 = name
  · obtain ⟨value, last⟩ := exists_lastSet given
    simp [Table.mem_keys_iff, get?_injectHeaders_of_lastSet headers last, given]
  · have unset : ∀ pair ∈ pairs, Text.lowerCase pair.1 ≠ name := fun pair member same =>
      given ⟨pair, member, same⟩
    simp [Table.mem_keys_iff, get?_injectHeaders_of_ne headers unset, given]

end Pairs

/-- Properties that carry the pairs of a context over the headers of others: of each name the last
pair counts, whatever stood there, and everything else is as it was. -/
structure Overlays (pairs : List (String × String)) (properties carrying : Properties) : Prop where
  fields : { carrying with headers := properties.headers } = properties
  headers : ∃ table, carrying.headers = some table ∧
    (∀ name value, LastSet name pairs value →
      table.get? name = some (.longText (Text.Utf8.encode value))) ∧
    ∀ name, (∀ pair ∈ pairs, Text.lowerCase pair.1 ≠ name) →
      table.get? name = properties.headerTable.get? name

theorem overlays_iff {pairs : List (String × String)} {properties carrying : Properties} :
    Overlays pairs properties carrying ↔ carrying = inject pairs properties := by
  constructor
  · rintro ⟨fields, table, has, set, kept⟩
    have same : table = injectHeaders properties.headerTable pairs := by
      refine Table.ext_get? fun name => ?_
      by_cases given : ∃ pair ∈ pairs, Text.lowerCase pair.1 = name
      · obtain ⟨value, last⟩ := exists_lastSet given
        rw [set name value last, get?_injectHeaders_of_lastSet _ last]
        rfl
      · have unset : ∀ pair ∈ pairs, Text.lowerCase pair.1 ≠ name := fun pair member same =>
          given ⟨pair, member, same⟩
        rw [kept name unset, get?_injectHeaders_of_ne _ unset]
    rw [same] at has
    rw [inject, ← has]
    exact congrArg (fun found => { found with headers := carrying.headers }) fields
  · rintro rfl
    exact ⟨rfl, _, rfl, fun _ _ last => get?_injectHeaders_of_lastSet _ last,
      fun _ unset => get?_injectHeaders_of_ne _ unset⟩

/-- A context in the headers: of each name the last pair counts, whatever stood there, and everything
else about the properties stays. A propagator that reads them back for a span gets these headers to
read, and for every pair it finds the value that counts. -/
theorem inject_overlays_headers (pairs : List (String × String)) (properties : Properties) :
    { inject pairs properties with headers := properties.headers } = properties ∧
    ∃ table carrier, (inject pairs properties).headers = some table ∧
      (∀ (propagator : Propagator) (spanName : String),
        (Span.begin propagator spanName (some (inject pairs properties))).parent =
          propagator.extract carrier) ∧
      (∀ name value, LastSet name pairs value →
        table.get? name = some (.longText (Text.Utf8.encode value)) ∧
          carrier.text? name = some value) ∧
      (∀ name, (∀ pair ∈ pairs, Text.lowerCase pair.1 ≠ name) →
        table.get? name = properties.headerTable.get? name ∧
          ∀ text, carrier.text? name = some text ↔
            properties.headerTable.get? name = some (.longText (Text.Utf8.encode text))) ∧
      (∀ pair ∈ pairs, ∃ value, LastSet (Text.lowerCase pair.1) pairs value ∧
        carrier.text? (Text.lowerCase pair.1) = some value) ∧
      (∀ name, name ∈ table.keys ↔ (∃ pair ∈ pairs, Text.lowerCase pair.1 = name) ∨
        name ∈ properties.headerTable.keys) ∧
      carrier.names = table.keys ∧ carrier.names.Nodup := by
  have set : ∀ name value, LastSet name pairs value →
      (injectHeaders properties.headerTable pairs).get? name =
          some (.longText (Text.Utf8.encode value)) ∧
        carried? (injectHeaders properties.headerTable pairs) name = some value := by
    intro name value last
    have found := get?_injectHeaders_of_lastSet properties.headerTable last
    exact ⟨found, carried?_eq_some_iff.mpr found⟩
  refine ⟨rfl, _, carrier (injectHeaders properties.headerTable pairs), rfl, fun _ _ => rfl, set,
    ?_, ?_, ?_, rfl, Table.nodup_keys _⟩
  · intro name unset
    have kept := get?_injectHeaders_of_ne properties.headerTable unset
    refine ⟨kept, fun text => ?_⟩
    rw [← kept]
    exact carried?_eq_some_iff
  · intro pair member
    obtain ⟨value, last⟩ := exists_lastSet ⟨pair, member, rfl⟩
    exact ⟨value, last, (set _ _ last).2⟩
  · exact fun name => mem_keys_injectHeaders_iff properties.headerTable

/-- A number under the name of a context gives way to the last of two pairs that differ in case. -/
theorem inject_overlays_number :
    let properties : Properties :=
      { headers := some (.ofList [("MY_KEY", .ofText "kept"), ("traceparent", .int64 1)]) }
    ∃ carrier : Carrier,
      (∀ (propagator : Propagator) (spanName : String), (Span.begin propagator spanName (some
          (inject [("TraceParent", "a"), ("traceparent", "b")] properties))).parent =
        propagator.extract carrier) ∧
      carrier.text? "traceparent" = some "b" ∧ carrier.text? "MY_KEY" = some "kept" := by
  intro properties
  obtain ⟨_, _, carrier, _, reads, set, kept, _⟩ :=
    inject_overlays_headers [("TraceParent", "a"), ("traceparent", "b")] properties
  have lower : Text.lowerCase "TraceParent" = "traceparent" ∧
      Text.lowerCase "traceparent" = "traceparent" := by decide +kernel
  have last : LastSet "traceparent" [("TraceParent", "a"), ("traceparent", "b")] "b" :=
    .later (.last lower.2 (List.forall_mem_nil _))
  have unset : ∀ pair ∈ [("TraceParent", "a"), ("traceparent", "b")],
      Text.lowerCase pair.1 ≠ "MY_KEY" := by
    decide +kernel
  exact ⟨carrier, reads, (set _ _ last).2, ((kept _ unset).2 "kept").mpr rfl⟩

end Trace

end AmqpEndpoints
