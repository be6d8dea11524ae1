import Mathlib.Control.Monad.Basic
import AmqpEndpoints.Factory
import AmqpEndpoints.Proofs.Digits

/-!
# Factory properties in closed form

Properties are applied one after the other, and a property that replaces the whole uri throws away
what came before it. In the end each field holds what the last entry for it says, counted from the
last uri on; the name of the connection, which is no part of the uri, is that of its last entry at
all. Which value is refused does not depend on its place.
-/

set_option autoImplicit false

namespace AmqpEndpoints

namespace FactoryProperty

/-!
## Keys
-/

/-- Whether a key names a property: apart from blanks around it and the case of ASCII letters it is
the name of the property. -/
def Names (property : FactoryProperty) (key : String) : Prop :=
  folded (Text.trim key) = folded property.name

instance (property : FactoryProperty) (key : String) : Decidable (property.Names key) :=
  inferInstanceAs (Decidable (folded (Text.trim key) = folded property.name))

theorem mem_all (property : FactoryProperty) : property ∈ all := by
  cases property <;> decide

theorem folded_name_injective {first second : FactoryProperty}
    (same : folded first.name = folded second.name) : first = second := by
  have all : ∀ first ∈ all, ∀ second ∈ all, folded first.name = folded second.name →
      first = second := by decide +kernel
  exact all first (mem_all first) second (mem_all second) same

theorem names_of_ofName? {key : String} {property : FactoryProperty}
    (found : ofName? key = some property) : property.Names key := by
  unfold ofName? at found
  have same := List.find?_some found
  exact (eq_of_beq same).symm

theorem ofName?_eq_some_iff {key : String} {property : FactoryProperty} :
    ofName? key = some property ↔ property.Names key := by
  refine ⟨names_of_ofName?, fun named => ?_⟩
  cases found : ofName? key with
  | none =>
      unfold ofName? at found
      have other := List.find?_eq_none.mp found property (mem_all property)
      exact absurd (beq_iff_eq.mpr (Eq.symm named)) other
  | some other =>
      have same : folded other.name = folded property.name :=
        Eq.trans (Eq.symm (names_of_ofName? found)) named
      exact congrArg some (folded_name_injective same)

theorem ofName?_eq_none_iff {key : String} :
    ofName? key = none ↔ ∀ property : FactoryProperty, ¬ property.Names key := by
  rw [Option.eq_none_iff_forall_ne_some]
  exact forall_congr' fun property => not_congr ofName?_eq_some_iff

/-!
## Values
-/

/-- The greatest value of a property that is a number. -/
def limit? : FactoryProperty → Option Nat
  | port => some Number.limit16
  | heartbeat => some Number.limit16
  | channelMax => some Number.limit16
  | frameMax => some Number.limit32
  | connectionTimeout => some Number.limit64
  | _ => none

/-- Why a property cannot have a value, wherever it is set. -/
inductive Refuses (environment : Environment) : FactoryProperty → String → Failure → Prop where
  | number {property : FactoryProperty} {limit : Nat} {value : String} :
      property.limit? = some limit →
      (∀ number, Number.unsigned limit (Text.trim value) ≠ .ok number) →
      Refuses environment property value (property.invalidValue value)
  | flag {value : String} : Text.trim value ≠ "true" → Text.trim value ≠ "false" →
      Refuses environment ssl value (ssl.invalidValue value)
  | password {value : String} {failure : Failure} :
      readPassword environment value = .error failure → Refuses environment password value failure
  | uri {value : String} {failure : Failure} :
      readBrokerUrl environment value = .error failure → Refuses environment uri value failure

/-- What a field of a factory holds. -/
inductive Held where
  | text (text : Option String)
  | number (number : Option Nat)
  | scheme (scheme : Scheme)
  | mechanism (mechanism : Option Mechanism)
  deriving DecidableEq, Repr

/-- The field that a property sets, in a uri with the name of its connection. The mechanism is set by
whole uris only. -/
def field : FactoryProperty → BrokerUri × Option String → Held
  | host, state => .text (some state.1.host)
  | port, state => .number (some state.1.port.toNat)
  | username, state => .text (some state.1.username)
  | password, state => .text (some state.1.password)
  | virtualHost, state => .text (some state.1.virtualHost)
  | uri, state => .mechanism state.1.mechanism
  | ssl, state => .scheme state.1.scheme
  | heartbeat, state => .number (state.1.heartbeat.map UInt16.toNat)
  | channelMax, state => .number (state.1.channelMax.map UInt16.toNat)
  | frameMax, state => .number (state.1.frameMax.map UInt32.toNat)
  | connectionTimeout, state => .number (state.1.connectionTimeout.map UInt64.toNat)
  | connectionName, state => .text state.2

/-- What a field holds once its property has a value. -/
inductive Means (environment : Environment) : FactoryProperty → String → Held → Prop where
  | host {value : String} : Means environment host value (.text (some value))
  | username {value : String} : Means environment username value (.text (some value))
  | virtualHost {value : String} : Means environment virtualHost value (.text (some value))
  | connectionName {value : String} : Means environment connectionName value (.text (some value))
  | number {property : FactoryProperty} {limit number : Nat} {value : String} :
      property.limit? = some limit → Number.unsigned limit (Text.trim value) = .ok number →
      Means environment property value (.number (some number))
  | encrypted {value : String} : Text.trim value = "true" →
      Means environment ssl value (.scheme .amqps)
  | plain {value : String} : Text.trim value = "false" → Means environment ssl value (.scheme .amqp)
  | password {value secret : String} : readPassword environment value = .ok secret →
      Means environment password value (.text (some secret))
  | uri {value : String} {replaced : BrokerUri} : readBrokerUrl environment value = .ok replaced →
      Means environment uri value (.mechanism replaced.mechanism)

theorem readNumber_cases (property : FactoryProperty) (limit : Nat) (value : String) :
    (∃ number ≤ limit, Number.unsigned limit (Text.trim value) = .ok number ∧
      property.readNumber limit value = .ok number) ∨
    ((∀ number, Number.unsigned limit (Text.trim value) ≠ .ok number) ∧
      property.readNumber limit value = .error (property.invalidValue value)) := by
  unfold readNumber
  cases read : Number.unsigned limit (Text.trim value) with
  | ok number => exact .inl ⟨number, Number.read_le read, rfl, rfl⟩
  | error fault => exact .inr ⟨nofun, rfl⟩

/-- A property that is a number sets its field to the number that its value writes. -/
theorem apply_number {property : FactoryProperty} {limit : Nat}
    (numeric : property.limit? = some limit) (environment : Environment) (value : String)
    (state : BrokerUri × Option String) :
    ∃ store : Nat → BrokerUri × Option String,
      (property.apply environment value state = do
        let number ← property.readNumber limit value
        return store number) ∧
      ∀ number ≤ limit, property.field (store number) = .number (some number) ∧
        ∀ other : FactoryProperty, other ≠ property → other.field (store number) =
          other.field state := by
  have bits16 : ∀ number ≤ Number.limit16, (UInt16.ofNat number).toNat = number :=
    fun number fits => UInt16.toNat_ofNat_of_lt (Nat.lt_succ_of_le fits)
  have bits32 : ∀ number ≤ Number.limit32, (UInt32.ofNat number).toNat = number :=
    fun number fits => UInt32.toNat_ofNat_of_lt (Nat.lt_succ_of_le fits)
  have bits64 : ∀ number ≤ Number.limit64, (UInt64.ofNat number).toNat = number :=
    fun number fits => UInt64.toNat_ofNat_of_lt (Nat.lt_succ_of_le fits)
  obtain ⟨target, name⟩ := state
  cases property <;> cases numeric <;>
    refine ⟨_, rfl, fun number fits => ⟨congrArg (Held.number <| some ·) ?_, fun other different => ?_⟩⟩
  case port.refl.refine_1 | heartbeat.refl.refine_1 | channelMax.refl.refine_1 =>
    exact bits16 number fits
  case frameMax.refl.refine_1 => exact bits32 number fits
  case connectionTimeout.refl.refine_1 => exact bits64 number fits
  all_goals cases other <;> first | rfl | exact absurd rfl different

/-- How a property with a value changes a uri with the name of its connection: the field of the
property gets the meaning of the value and the others stay, but a whole uri leaves the name only. -/
structure Sets (environment : Environment) (property : FactoryProperty) (value : String)
    (state next : BrokerUri × Option String) : Prop where
  means : Means environment property value (property.field next)
  keeps : property ≠ uri → ∀ other : FactoryProperty, other ≠ property →
    other.field next = other.field state
  replaces : property = uri → readBrokerUrl environment value = .ok next.1 ∧ next.2 = state.2

theorem apply_number_cases {property : FactoryProperty} {limit : Nat}
    (numeric : property.limit? = some limit) (environment : Environment) (value : String)
    (state : BrokerUri × Option String) :
    (∃ failure, property.apply environment value state = .error failure ∧
      Refuses environment property value failure) ∨
    ∃ next, property.apply environment value state = .ok next ∧
      Sets environment property value state next := by
  obtain ⟨store, applied, stored⟩ := apply_number numeric environment value state
  rcases readNumber_cases property limit value with ⟨number, fits, read, taken⟩ | ⟨unread, refused⟩
  · obtain ⟨held, kept⟩ := stored number fits
    refine .inr ⟨store number, by rw [applied, taken]; rfl, ?_, fun _ => kept, ?_⟩
    · rw [held]
      exact .number numeric read
    · rintro rfl
      cases numeric
  · exact .inl ⟨_, by rw [applied, refused]; rfl, .number numeric unread⟩

/-- A property sets its field or refuses the value. -/
theorem apply_cases (environment : Environment) (property : FactoryProperty) (value : String)
    (state : BrokerUri × Option String) :
    (∃ failure, property.apply environment value state = .error failure ∧
      Refuses environment property value failure) ∨
    ∃ next, property.apply environment value state = .ok next ∧
      Sets environment property value state next := by
  obtain ⟨target, name⟩ := state
  cases property with
  | host | username | virtualHost | connectionName =>
      refine .inr ⟨_, rfl, by constructor, fun _ other different => ?_, nofun⟩
      cases other <;> first | rfl | exact absurd rfl different
  | password =>
      cases read : readPassword environment value with
      | error failure =>
          exact .inl ⟨failure, by simp [apply, read, bind, Except.bind], .password read⟩
      | ok secret =>
          refine .inr ⟨({ target with password := secret }, name), ?_, .password read,
            fun _ other different => ?_, nofun⟩
          · simp [apply, read, bind, Except.bind, pure, Except.pure]
          · cases other <;> first | rfl | exact absurd rfl different
  | ssl =>
      by_cases yes : Text.trim value = "true"
      · refine .inr ⟨({ target with scheme := .amqps }, name), ?_, .encrypted yes,
          fun _ other different => ?_, nofun⟩
        · simp [apply, readFlag, yes, bind, Except.bind, pure, Except.pure]
        · cases other <;> first | rfl | exact absurd rfl different
      · by_cases no : Text.trim value = "false"
        · refine .inr ⟨({ target with scheme := .amqp }, name), ?_, .plain no,
            fun _ other different => ?_, nofun⟩
          · simp [apply, readFlag, no, bind, Except.bind, pure, Except.pure]
          · cases other <;> first | rfl | exact absurd rfl different
        · refine .inl ⟨_, ?_, .flag yes no⟩
          simp [apply, readFlag, yes, no, bind, Except.bind]
  | uri =>
      cases read : readBrokerUrl environment value with
      | error failure =>
          exact .inl ⟨failure, by simp [apply, read, bind, Except.bind], .uri read⟩
      | ok replaced =>
          refine .inr ⟨(replaced, name), ?_, .uri read, fun same => absurd rfl same,
            fun _ => ⟨read, rfl⟩⟩
          simp [apply, read, bind, Except.bind, pure, Except.pure]
  | port | heartbeat | channelMax | frameMax | connectionTimeout =>
      exact apply_number_cases rfl environment value (target, name)

theorem Means.not_refuses {environment : Environment} {property : FactoryProperty} {value : String}
    {held : Held} {failure : Failure} (means : Means environment property value held) :
    ¬ Refuses environment property value failure := by
  intro refused
  cases means <;> cases refused <;> simp_all [limit?]

theorem Means.unique {environment : Environment} {property : FactoryProperty} {value : String}
    {first second : Held} (one : Means environment property value first)
    (other : Means environment property value second) : first = second := by
  cases one <;> cases other <;> simp_all [limit?]

theorem Refuses.unique {environment : Environment} {property : FactoryProperty} {value : String}
    {first second : Failure} (one : Refuses environment property value first)
    (other : Refuses environment property value second) : first = second := by
  cases one <;> cases other <;> simp_all [limit?]

/-!
## Refused entries
-/

theorem Names.unique {first second : FactoryProperty} {key : String} (one : first.Names key)
    (other : second.Names key) : first = second :=
  folded_name_injective (Eq.trans (Eq.symm one) other)

/-- Whether no property of the key of an entry refuses its value. -/
def Valid (environment : Environment) (entry : String × String) : Prop :=
  ∀ property : FactoryProperty, property.Names entry.1 →
    ∀ failure, ¬ Refuses environment property entry.2 failure

/-- Whether a failure is the one of the first entry that is not valid. -/
def FirstRefused (environment : Environment) (entries : List (String × String))
    (failure : Failure) : Prop :=
  ∃ before entry after, entries = before ++ entry :: after ∧
    (∀ entry ∈ before, Valid environment entry) ∧
    ∃ property : FactoryProperty, property.Names entry.1 ∧
      Refuses environment property entry.2 failure

theorem firstRefused_cons_iff {environment : Environment} {entry : String × String}
    {rest : List (String × String)} {failure : Failure} :
    FirstRefused environment (entry :: rest) failure ↔
      (∃ property : FactoryProperty, property.Names entry.1 ∧
        Refuses environment property entry.2 failure) ∨
      (Valid environment entry ∧ FirstRefused environment rest failure) := by
  constructor
  · rintro ⟨before, refusedEntry, after, split, valid, refused⟩
    cases before with
    | nil =>
        cases split
        exact .inl refused
    | cons first before =>
        cases split
        obtain ⟨here, later⟩ := List.forall_mem_cons.mp valid
        exact .inr ⟨here, before, refusedEntry, after, rfl, later, refused⟩
  · rintro (refused | ⟨here, before, refusedEntry, after, rfl, later, refused⟩)
    · exact ⟨[], entry, rest, rfl, List.forall_mem_nil _, refused⟩
    · exact ⟨entry :: before, refusedEntry, after, rfl, List.forall_mem_cons.mpr ⟨here, later⟩,
        refused⟩

/-- Valid entries do not matter. -/
theorem firstRefused_insert_iff {environment : Environment} {entry : String × String}
    {before after : List (String × String)} {failure : Failure} (valid : Valid environment entry) :
    FirstRefused environment (before ++ entry :: after) failure ↔
      FirstRefused environment (before ++ after) failure := by
  induction before with
  | nil =>
      rw [List.nil_append, List.nil_append, firstRefused_cons_iff]
      constructor
      · rintro (⟨property, named, refused⟩ | ⟨_, later⟩)
        · exact absurd refused (valid property named failure)
        · exact later
      · exact fun later => .inr ⟨valid, later⟩
  | cons first before ih =>
      rw [List.cons_append, List.cons_append, firstRefused_cons_iff, firstRefused_cons_iff, ih]

theorem exists_firstRefused_iff {environment : Environment} {entries : List (String × String)} :
    (∃ failure, FirstRefused environment entries failure) ↔
      ∃ entry ∈ entries, ¬ Valid environment entry := by
  constructor
  · rintro ⟨failure, before, entry, after, rfl, _, property, named, refused⟩
    exact ⟨entry, by simp, fun valid => valid property named failure refused⟩
  · rintro ⟨entry, member, invalid⟩
    induction entries with
    | nil => cases member
    | cons first rest ih =>
        by_cases here : Valid environment first
        · rcases List.mem_cons.mp member with rfl | later
          · exact absurd here invalid
          · obtain ⟨failure, refused⟩ := ih later
            exact ⟨failure, firstRefused_cons_iff.mpr (.inr ⟨here, refused⟩)⟩
        · simp only [Valid, not_forall, not_not] at here
          obtain ⟨property, named, failure, refused⟩ := here
          exact ⟨failure, firstRefused_cons_iff.mpr (.inl ⟨property, named, refused⟩)⟩

theorem applyAll_cons_of_unknown {environment : Environment} {state : BrokerUri × Option String}
    {entry : String × String} {rest : List (String × String)}
    (unknown : ∀ property : FactoryProperty, ¬ property.Names entry.1) :
    applyAll environment state (entry :: rest) = applyAll environment state rest := by
  rw [applyAll, ofName?_eq_none_iff.mpr unknown]

theorem applyAll_cons_of_ok {environment : Environment} {state next : BrokerUri × Option String}
    {entry : String × String} {rest : List (String × String)} {property : FactoryProperty}
    (named : property.Names entry.1) (passed : property.apply environment entry.2 state = .ok next) :
    applyAll environment state (entry :: rest) = applyAll environment next rest := by
  rw [applyAll, ofName?_eq_some_iff.mpr named]
  dsimp only
  rw [passed]
  rfl

theorem applyAll_cons_of_error {environment : Environment} {state : BrokerUri × Option String}
    {entry : String × String} {rest : List (String × String)} {property : FactoryProperty}
    {failure : Failure} (named : property.Names entry.1)
    (stopped : property.apply environment entry.2 state = .error failure) :
    applyAll environment state (entry :: rest) = .error failure := by
  rw [applyAll, ofName?_eq_some_iff.mpr named]
  dsimp only
  rw [stopped]
  rfl

/-- Applying entries fails with the first of them that is refused, whatever is there before. -/
theorem applyAll_eq_error_iff {environment : Environment} {state : BrokerUri × Option String}
    {entries : List (String × String)} {failure : Failure} :
    applyAll environment state entries = .error failure ↔
      FirstRefused environment entries failure := by
  -- For every state at once: an entry that passes changes it and refuses nothing.
  induction entries generalizing state with
  | nil =>
      constructor
      · exact nofun
      · rintro ⟨before, entry, after, split, _⟩
        simp at split
  | cons entry rest ih =>
      rw [firstRefused_cons_iff]
      by_cases known : ∃ property : FactoryProperty, property.Names entry.1
      · obtain ⟨property, named⟩ := known
        have only : ∀ other : FactoryProperty, other.Names entry.1 → other = property :=
          fun other also => also.unique named
        rcases apply_cases environment property entry.2 state with
          ⟨reason, stopped, refused⟩ | ⟨next, applied, sets⟩
        · rw [applyAll_cons_of_error named stopped]
          constructor
          · rintro ⟨⟩
            exact .inl ⟨property, named, refused⟩
          · rintro (⟨other, also, reason⟩ | ⟨valid, _⟩)
            · cases only other also
              exact congrArg Except.error (refused.unique reason)
            · exact absurd refused (valid property named _)
        · rw [applyAll_cons_of_ok named applied]
          have valid : Valid environment entry := by
            intro other also failure
            cases only other also
            exact sets.means.not_refuses
          refine Iff.trans ih ⟨fun later => .inr ⟨valid, later⟩, ?_⟩
          rintro (⟨other, also, reason⟩ | ⟨_, later⟩)
          · exact absurd reason (valid other also failure)
          · exact later
      · have unknown : ∀ property : FactoryProperty, ¬ property.Names entry.1 :=
          fun property named => known ⟨property, named⟩
        rw [applyAll_cons_of_unknown unknown]
        refine Iff.trans ih ⟨fun later => .inr ⟨fun property named => ?_, later⟩, ?_⟩
        · exact absurd named (unknown property)
        · rintro (⟨property, named, _⟩ | ⟨_, later⟩)
          · exact absurd named (unknown property)
          · exact later

theorem exists_applyAll_of_valid {environment : Environment} {entries : List (String × String)}
    (state : BrokerUri × Option String) (valid : ∀ entry ∈ entries, Valid environment entry) :
    ∃ final, applyAll environment state entries = .ok final := by
  cases applied : applyAll environment state entries with
  | ok final => exact ⟨final, rfl⟩
  | error failure =>
      obtain ⟨entry, member, invalid⟩ :=
        exists_firstRefused_iff.mp ⟨failure, applyAll_eq_error_iff.mp applied⟩
      exact absurd (valid entry member) invalid

theorem applyAll_append (environment : Environment) (state : BrokerUri × Option String)
    (first second : List (String × String)) :
    applyAll environment state (first ++ second) =
      match applyAll environment state first with
      | .error failure => .error failure
      | .ok next => applyAll environment next second := by
  induction first generalizing state with
  | nil => rfl
  | cons entry rest ih =>
      rw [List.cons_append, applyAll, applyAll]
      cases ofName? entry.1 with
      | none => exact ih state
      | some property =>
          dsimp only
          cases property.apply environment entry.2 state with
          | error failure => rfl
          | ok next => exact ih next

/-!
## Settled fields
-/

/-- The values that entries give a property, in order. -/
def valuesOf (property : FactoryProperty) (entries : List (String × String)) : List String :=
  (entries.filter fun entry => property.Names entry.1).map (·.2)

theorem valuesOf_cons_of_names {property : FactoryProperty} {entry : String × String}
    {rest : List (String × String)} (named : property.Names entry.1) :
    valuesOf property (entry :: rest) = entry.2 :: valuesOf property rest := by
  rw [valuesOf, List.filter_cons_of_pos (by simpa using named)]
  rfl

theorem valuesOf_cons_of_not_names {property : FactoryProperty} {entry : String × String}
    {rest : List (String × String)} (foreign : ¬ property.Names entry.1) :
    valuesOf property (entry :: rest) = valuesOf property rest := by
  rw [valuesOf, List.filter_cons_of_neg (by simpa using foreign)]
  rfl

theorem valuesOf_append (property : FactoryProperty) (first second : List (String × String)) :
    property.valuesOf (first ++ second) = property.valuesOf first ++ property.valuesOf second := by
  rw [valuesOf, valuesOf, valuesOf, List.filter_append, List.map_append]

theorem valuesOf_eq_nil_iff {property : FactoryProperty} {entries : List (String × String)} :
    property.valuesOf entries = [] ↔ ∀ entry ∈ entries, ¬ property.Names entry.1 := by
  simp [valuesOf]

/-- What a field holds after some values were set: what the last of them means, or else what it held
before. -/
inductive Settles (environment : Environment) (property : FactoryProperty) :
    List String → Held → Held → Prop where
  | kept {held : Held} : Settles environment property [] held held
  | set {values : List String} {value : String} {before after : Held} :
      Means environment property value after →
      Settles environment property (values ++ [value]) before after

theorem Settles.cons {environment : Environment} {property : FactoryProperty} {value : String}
    {values : List String} {before between after : Held}
    (means : Means environment property value between)
    (settles : Settles environment property values between after) :
    Settles environment property (value :: values) before after := by
  cases settles with
  | kept => exact @Settles.set _ _ [] _ _ _ means
  | @set earlier _ _ _ later => exact @Settles.set _ _ (value :: earlier) _ _ _ later

/-- Only the last value decides what a field holds. -/
theorem Settles.unique {environment : Environment} {property : FactoryProperty}
    {values others : List String} {before first second : Held}
    (last : values.getLast? = others.getLast?)
    (one : Settles environment property values before first)
    (other : Settles environment property others before second) : first = second := by
  cases one with
  | kept =>
      cases other with
      | kept => rfl
      | set => simp at last
  | set means =>
      cases other with
      | kept => simp at last
      | set also =>
          rw [List.getLast?_concat, List.getLast?_concat] at last
          cases last
          exact means.unique also

theorem Settles.eq_of_nil {environment : Environment} {property : FactoryProperty}
    {values : List String} {before after : Held}
    (settles : Settles environment property values before after) (none : values = []) :
    after = before := by
  cases settles with
  | kept => rfl
  | set => simp at none

/-- What a field held before does not matter once a value is set. -/
theorem Settles.from {environment : Environment} {property : FactoryProperty}
    {values : List String} {before after : Held}
    (settles : Settles environment property values before after) (some : values ≠ [])
    (other : Held) : Settles environment property values other after := by
  cases settles with
  | kept => exact absurd rfl some
  | set means => exact .set means

/-- Applied entries settle a field, if no whole uri comes in between or the field is the name of the
connection. -/
theorem settles_of_applyAll {environment : Environment} {property : FactoryProperty}
    {entries : List (String × String)} {state final : BrokerUri × Option String}
    (stays : property = connectionName ∨ ∀ entry ∈ entries, ¬ uri.Names entry.1)
    (applied : applyAll environment state entries = .ok final) :
    Settles environment property (valuesOf property entries) (property.field state)
      (property.field final) := by
  induction entries generalizing state with
  | nil =>
      cases applied
      exact .kept
  | cons entry rest ih =>
      have later : property = connectionName ∨ ∀ entry ∈ rest, ¬ uri.Names entry.1 :=
        stays.imp id fun free entry member => free entry (List.mem_cons_of_mem _ member)
      by_cases known : ∃ other : FactoryProperty, other.Names entry.1
      · obtain ⟨other, named⟩ := known
        rcases apply_cases environment other entry.2 state with
          ⟨failure, stopped, _⟩ | ⟨next, passed, sets⟩
        · rw [applyAll_cons_of_error named stopped] at applied
          cases applied
        · rw [applyAll_cons_of_ok named passed] at applied
          by_cases same : property = other
          · subst same
            rw [valuesOf_cons_of_names named]
            exact (ih later applied).cons sets.means
          · -- An entry for another field: a uri can only stand here if the field is the name, which
            -- it leaves.
            have kept : property.field next = property.field state := by
              by_cases whole : other = uri
              · rcases stays with called | free
                · rw [called]
                  exact congrArg Held.text (sets.replaces whole).2
                · exact absurd (whole ▸ named) (free entry List.mem_cons_self)
              · exact sets.keeps whole property same
            rw [valuesOf_cons_of_not_names fun also => same (also.unique named), ← kept]
            exact ih later applied
      · have unknown : ∀ other : FactoryProperty, ¬ other.Names entry.1 :=
          fun other named => known ⟨other, named⟩
        rw [applyAll_cons_of_unknown unknown] at applied
        rw [valuesOf_cons_of_not_names (unknown property)]
        exact ih later applied

/-- Where the fields of a uri start: a given uri and all entries if no entry replaces the uri, or else
the uri of the last such entry and the entries behind it. -/
inductive StartsFrom (environment : Environment) (base : BrokerUri) :
    List (String × String) → BrokerUri → List (String × String) → Prop where
  | given {entries : List (String × String)} : (∀ entry ∈ entries, ¬ uri.Names entry.1) →
      StartsFrom environment base entries base entries
  | replaced {before tail : List (String × String)} {entry : String × String}
      {origin : BrokerUri} : uri.Names entry.1 → readBrokerUrl environment entry.2 = .ok origin →
      (∀ entry ∈ tail, ¬ uri.Names entry.1) →
      StartsFrom environment base (before ++ entry :: tail) origin tail

theorem last_uri_cases (entries : List (String × String)) :
    (∀ entry ∈ entries, ¬ uri.Names entry.1) ∨
    ∃ before entry tail, entries = before ++ entry :: tail ∧ uri.Names entry.1 ∧
      ∀ entry ∈ tail, ¬ uri.Names entry.1 := by
  induction entries with
  | nil => exact .inl (List.forall_mem_nil _)
  | cons entry rest ih =>
      rcases ih with free | ⟨before, last, tail, rfl, named, free⟩
      · by_cases named : uri.Names entry.1
        · exact .inr ⟨[], entry, rest, rfl, named, free⟩
        · exact .inl (List.forall_mem_cons.mpr ⟨named, free⟩)
      · exact .inr ⟨entry :: before, last, tail, rfl, named, free⟩

theorem field_congr {property : FactoryProperty} (other : property ≠ connectionName)
    {target : BrokerUri} (first second : Option String) :
    property.field (target, first) = property.field (target, second) := by
  cases property <;> first | rfl | exact absurd rfl other

/-- Applied entries leave every field as the entries behind the last uri settle it, and the name of
the connection as all entries do. -/
theorem applyAll_settles {environment : Environment} {base : BrokerUri}
    {entries : List (String × String)} {final : BrokerUri × Option String}
    (applied : applyAll environment (base, none) entries = .ok final) :
    (∃ origin tail, StartsFrom environment base entries origin tail ∧
      ∀ property : FactoryProperty, property ≠ connectionName →
        Settles environment property (valuesOf property tail) (property.field (origin, none))
          (property.field final)) ∧
    Settles environment connectionName (valuesOf connectionName entries) (.text none)
      (.text final.2) := by
  refine ⟨?_, settles_of_applyAll (.inl rfl) applied⟩
  rcases last_uri_cases entries with free | ⟨before, entry, tail, rfl, named, free⟩
  · exact ⟨base, entries, .given free, fun property _ => settles_of_applyAll (.inr free) applied⟩
  · rw [applyAll_append] at applied
    cases reached : applyAll environment (base, none) before with
    | error failure =>
        rw [reached] at applied
        cases applied
    | ok state =>
        rw [reached] at applied
        dsimp only at applied
        rcases apply_cases environment uri entry.2 state with
          ⟨failure, stopped, _⟩ | ⟨⟨origin, name⟩, passed, sets⟩
        · rw [applyAll_cons_of_error named stopped] at applied
          cases applied
        · rw [applyAll_cons_of_ok named passed] at applied
          refine ⟨origin, tail, .replaced named (sets.replaces rfl).1 free, fun property other => ?_⟩
          rw [field_congr other none name]
          exact settles_of_applyAll (.inr free) applied

/-- A uri with the name of its connection is its fields. -/
theorem eq_of_field_eq {first second : BrokerUri × Option String}
    (same : ∀ property : FactoryProperty, property.field first = property.field second) :
    first = second := by
  have text : ∀ {left right : String}, Held.text (some left) = Held.text (some right) →
      left = right := fun held => Option.some.inj (Held.text.inj held)
  have limit16 : ∀ {left right : Option UInt16},
      Held.number (left.map UInt16.toNat) = Held.number (right.map UInt16.toNat) → left = right :=
    fun held => Option.map_injective (fun _ _ => UInt16.toNat_inj.mp) (Held.number.inj held)
  have limit32 : ∀ {left right : Option UInt32},
      Held.number (left.map UInt32.toNat) = Held.number (right.map UInt32.toNat) → left = right :=
    fun held => Option.map_injective (fun _ _ => UInt32.toNat_inj.mp) (Held.number.inj held)
  have limit64 : ∀ {left right : Option UInt64},
      Held.number (left.map UInt64.toNat) = Held.number (right.map UInt64.toNat) → left = right :=
    fun held => Option.map_injective (fun _ _ => UInt64.toNat_inj.mp) (Held.number.inj held)
  obtain ⟨⟨scheme, username, password, host, port, virtualHost, frameMax, channelMax, heartbeat,
    connectionTimeout, mechanism⟩, name⟩ := first
  obtain ⟨⟨_, _, _, _, _, _, _, _, _, _, _⟩, _⟩ := second
  obtain rfl := Held.scheme.inj (same ssl)
  obtain rfl := text (same FactoryProperty.username)
  obtain rfl := text (same FactoryProperty.password)
  obtain rfl := text (same FactoryProperty.host)
  obtain rfl := UInt16.toNat_inj.mp (Option.some.inj (Held.number.inj (same FactoryProperty.port)))
  obtain rfl := text (same FactoryProperty.virtualHost)
  obtain rfl := limit32 (same FactoryProperty.frameMax)
  obtain rfl := limit16 (same FactoryProperty.channelMax)
  obtain rfl := limit16 (same FactoryProperty.heartbeat)
  obtain rfl := limit64 (same FactoryProperty.connectionTimeout)
  obtain rfl := Held.mechanism.inj (same uri)
  obtain rfl := Held.text.inj (same FactoryProperty.connectionName)
  rfl

end FactoryProperty

namespace Factory

/-- Without credentials a factory leads to what its properties make of its url. -/
theorem endpoint_advanced {environment : Environment} {url : String} {base : BrokerUri}
    (parsed : readBrokerUrl environment url = .ok base) (hasHandler : Bool)
    (properties : List (String × String)) :
    (Factory.advanced url none none properties).endpoint environment hasHandler =
      (FactoryProperty.applyAll environment (base, none) properties).map fun state =>
        ⟨state.1, state.2, hasHandler⟩ := by
  rw [endpoint, parsed]
  change (FactoryProperty.applyAll environment (base, none) properties >>= _) = _
  cases FactoryProperty.applyAll environment (base, none) properties <;> rfl

end Factory

/-- The closed form of a factory with properties and without credentials, for a url that is read.
It fails exactly if an entry is not valid, with the failure of the first such entry. Otherwise every
field holds what the last entry for it says since the last uri, or what that uri or the url says; the
name of the connection is that of the last entry for it. Keys of no property do not matter, and
without uris only the last value of each property does. -/
theorem endpoint_closed_form {environment : Environment} {url : String} {base : BrokerUri}
    (parsed : readBrokerUrl environment url = .ok base) (hasHandler : Bool)
    (entries : List (String × String)) :
    ((∃ failure, (Factory.advanced url none none entries).endpoint environment hasHandler =
        .error failure) ↔
      ∃ entry ∈ entries, ¬ FactoryProperty.Valid environment entry) ∧
    (∀ failure, (Factory.advanced url none none entries).endpoint environment hasHandler =
        .error failure ↔
      FactoryProperty.FirstRefused environment entries failure) ∧
    ((∀ entry ∈ entries, FactoryProperty.Valid environment entry) →
      ∃ final name origin tail,
        (Factory.advanced url none none entries).endpoint environment hasHandler =
          .ok ⟨final, name, hasHandler⟩ ∧
        FactoryProperty.StartsFrom environment base entries origin tail ∧
        (∀ property : FactoryProperty, property ≠ .connectionName →
          FactoryProperty.Settles environment property (property.valuesOf tail)
            (property.field (origin, none)) (property.field (final, name))) ∧
        FactoryProperty.Settles environment .connectionName
          (FactoryProperty.connectionName.valuesOf entries) (.text none) (.text name)) ∧
    (∀ before entry after, entries = before ++ entry :: after →
      (∀ property : FactoryProperty, ¬ property.Names entry.1) →
      (Factory.advanced url none none entries).endpoint environment hasHandler =
        (Factory.advanced url none none (before ++ after)).endpoint environment hasHandler) ∧
    (∀ others : List (String × String),
      (∀ entry ∈ entries ++ others, FactoryProperty.Valid environment entry ∧
        ¬ FactoryProperty.uri.Names entry.1) →
      (∀ property : FactoryProperty,
        (property.valuesOf entries).getLast? = (property.valuesOf others).getLast?) →
      (Factory.advanced url none none entries).endpoint environment hasHandler =
        (Factory.advanced url none none others).endpoint environment hasHandler) := by
  have endpoint := fun entries => Factory.endpoint_advanced parsed hasHandler entries
  have fails : ∀ failure, (Factory.advanced url none none entries).endpoint environment hasHandler =
      .error failure ↔ FactoryProperty.FirstRefused environment entries failure := by
    intro failure
    rw [endpoint, ← FactoryProperty.applyAll_eq_error_iff]
    cases FactoryProperty.applyAll environment (base, none) entries <;> simp [Except.map]
  refine ⟨?_, fails, ?_, ?_, ?_⟩
  · simp only [fails]
    exact FactoryProperty.exists_firstRefused_iff
  · intro valid
    obtain ⟨⟨final, name⟩, applied⟩ := FactoryProperty.exists_applyAll_of_valid (base, none) valid
    obtain ⟨⟨origin, tail, starts, settled⟩, named⟩ := FactoryProperty.applyAll_settles applied
    exact ⟨final, name, origin, tail, by rw [endpoint, applied]; rfl, starts, settled, named⟩
  · rintro before entry after rfl unknown
    rw [endpoint, endpoint, FactoryProperty.applyAll_append, FactoryProperty.applyAll_append]
    cases FactoryProperty.applyAll environment (base, none) before with
    | error failure => rfl
    | ok state =>
        dsimp only
        rw [FactoryProperty.applyAll_cons_of_unknown unknown]
  · intro others allowed last
    have first := fun entry member => allowed entry (List.mem_append_left others member)
    have second := fun entry member => allowed entry (List.mem_append_right entries member)
    obtain ⟨one, applied⟩ := FactoryProperty.exists_applyAll_of_valid (base, none)
      fun entry member => (first entry member).1
    obtain ⟨two, alsoApplied⟩ := FactoryProperty.exists_applyAll_of_valid (base, none)
      fun entry member => (second entry member).1
    have same : one = two := by
      refine FactoryProperty.eq_of_field_eq fun property => ?_
      exact (FactoryProperty.settles_of_applyAll
        (.inr fun entry member => (first entry member).2) applied).unique (last property)
        (FactoryProperty.settles_of_applyAll
          (.inr fun entry member => (second entry member).2) alsoApplied)
    rw [endpoint, endpoint, applied, alsoApplied, same]

/-- An invalid port is refused although a later uri would replace it. -/
theorem endpoint_refuses_replaced_port :
    (∃ base, readBrokerUrl ⟨.empty⟩ "amqp://broker" = .ok base) ∧
      (Factory.advanced "amqp://broker" none none
        [("Host", "near"), (" PORT", "x"), ("Uri", "amqp://far")]).endpoint ⟨.empty⟩ false =
      .error (.configuration "invalid value `x` for Port") := by
  have parsed : readBrokerUrl ⟨.empty⟩ "amqp://broker" = .ok ⟨.amqp, "guest", "guest", "broker", 5672,
      "/", none, none, none, none, none⟩ := by decide +kernel
  have host : FactoryProperty.ofName? "Host" = some .host := by decide +kernel
  have unread : Number.unsigned Number.limit16 (Text.trim "x") = .error .notADigit := by
    decide +kernel
  refine ⟨⟨_, parsed⟩, ((endpoint_closed_form parsed false _).2.1 _).mpr ?_⟩
  refine ⟨[("Host", "near")], (" PORT", "x"), [("Uri", "amqp://far")], rfl, fun entry member => ?_,
    .port, by decide +kernel, .number rfl fun number read => ?_⟩
  · rintro property named failure
    cases List.mem_singleton.mp member
    cases host.symm.trans (FactoryProperty.ofName?_eq_some_iff.mpr named)
    exact FactoryProperty.Means.not_refuses .host
  · rw [unread] at read
    cases read

end AmqpEndpoints
