import AmqpEndpoints.Proofs.BrokerUrls
import AmqpEndpoints.Proofs.FactoryEntries

/-!
# Encryption by property or by scheme

A factory can ask for encryption with the scheme of its url or with a property, and both ways lead to
the same endpoint if something gives the port. Where nothing does, the port is the one that the scheme
of the url stands for, which the property leaves as it is.
-/

set_option autoImplicit false

namespace AmqpEndpoints

namespace FactoryProperty

/-!
## Fields that start apart
-/

variable {environment : Environment}

/-- A flag in one list of entries and the scheme that it means in the uri of the other: a field ends
the same if it starts the same or some entry sets it, and else it does not. -/
theorem field_eq_iff_of_flag {state other final final' : BrokerUri × Option String}
    {before after : List (String × String)} {key value : String} {property : FactoryProperty}
    (named : ssl.Names key) (means : Means environment ssl value (ssl.field other))
    (free : ∀ entry ∈ before ++ after, ¬ uri.Names entry.1 ∧ ¬ ssl.Names entry.1)
    (applied : applyAll environment state (before ++ (key, value) :: after) = .ok final)
    (applied' : applyAll environment other (before ++ after) = .ok final') :
    property.field final = property.field final' ↔
      property = ssl ∨ property.field state = property.field other ∨
        ∃ entry ∈ before ++ after, property.Names entry.1 := by
  have noUri : ∀ entry ∈ before ++ (key, value) :: after, ¬ uri.Names entry.1 := by
    have own : ¬ uri.Names key := fun also => absurd (also.unique named) (by decide)
    simp only [List.forall_mem_append, List.forall_mem_cons] at free ⊢
    exact ⟨fun entry member => (free.1 entry member).1, own,
      fun entry member => (free.2 entry member).1⟩
  have one := @settles_of_applyAll _ property _ _ _ (.inr noUri) applied
  have two := @settles_of_applyAll _ property _ _ _
    (.inr fun entry member => (free entry member).1) applied'
  by_cases same : property = ssl
  · subst same
    have unset : ssl.valuesOf (before ++ after) = [] :=
      valuesOf_eq_nil_iff.mpr fun entry member => (free entry member).2
    obtain ⟨front, back⟩ := List.append_eq_nil_iff.mp ((valuesOf_append ..).symm.trans unset)
    rw [valuesOf_append, @valuesOf_cons_of_names ssl (key, value) after named, front, back] at one
    rw [one.unique rfl (@Settles.set _ _ [] value _ _ means), two.eq_of_nil unset]
    simp
  · have foreign : ¬ property.Names key := fun also => same (also.unique named)
    rw [valuesOf_append, @valuesOf_cons_of_not_names property (key, value) after foreign,
      ← valuesOf_append] at one
    by_cases none : property.valuesOf (before ++ after) = []
    · rw [one.eq_of_nil none, two.eq_of_nil none]
      have unnamed : ¬ ∃ entry ∈ before ++ after, property.Names entry.1 :=
        fun ⟨entry, member, sets⟩ => valuesOf_eq_nil_iff.mp none entry member sets
      rw [or_iff_right same, or_iff_left unnamed]
    · have set : ∃ entry ∈ before ++ after, property.Names entry.1 := by
        simpa [valuesOf_eq_nil_iff] using none
      have equal := one.unique rfl (two.from none _)
      exact iff_of_true equal (.inr (.inr set))

end FactoryProperty

/-!
## Endpoints
-/

namespace Factory

theorem endpoint_advanced_entries {environment : Environment} {url : String} {base : BrokerUri}
    (parsed : readBrokerUrl environment url = .ok base) (username password : Option String)
    (properties : List (String × String)) (hasHandler : Bool) :
    (Factory.advanced url username password properties).endpoint environment hasHandler =
      (FactoryProperty.applyAll environment (base, none)
        (properties ++ credentialEntries username password)).map fun state =>
          ⟨state.1, state.2, hasHandler⟩ := by
  rw [endpoint_eq_of_entries]
  exact endpoint_advanced parsed hasHandler _

/-- Credentials are neither a whole uri, nor a flag, nor a port. -/
theorem names_credentialEntries {username password : Option String} {entry : String × String}
    (member : entry ∈ credentialEntries username password) {property : FactoryProperty}
    (named : property.Names entry.1) : property = .username ∨ property = .password := by
  have user : FactoryProperty.username.Names "Username" := by decide +kernel
  have secret : FactoryProperty.password.Names "Password" := by decide +kernel
  rcases List.mem_append.mp member with first | second
  · obtain ⟨name, _, rfl⟩ := Option.map_eq_some_iff.mp (Option.mem_toList.mp first)
    exact .inl (named.unique user)
  · obtain ⟨configured, _, rfl⟩ := Option.map_eq_some_iff.mp (Option.mem_toList.mp second)
    exact .inr (named.unique secret)

end Factory

def Endpoint.withPort (port : UInt16) (endpoint : Endpoint) : Endpoint :=
  { endpoint with uri := { endpoint.uri with port := port } }

/-- Whether two factories fail alike or lead to endpoints that differ in the port at most, and not
even there if the port is given. -/
structure AgreeUpToPort (given : Prop) (first second : Except Failure Endpoint) : Prop where
  others : ∀ port, first.map (·.withPort port) = second.map (·.withPort port)
  port : first = second ↔ given ∨ ∃ failure, second = .error failure

theorem AgreeUpToPort.congr {given given' : Prop} {first second : Except Failure Endpoint}
    (agree : AgreeUpToPort given first second) (same : given ↔ given') :
    AgreeUpToPort given' first second where
  others := agree.others
  port := agree.port.trans (or_congr_left same)

theorem AgreeUpToPort.of_error {given : Prop} {failure : Failure} :
    AgreeUpToPort given (.error failure) (.error failure) where
  others _ := rfl
  port := iff_of_true rfl (.inr ⟨failure, rfl⟩)

theorem FactoryProperty.field_withPort {property : FactoryProperty} (other : property ≠ port)
    (target : BrokerUri) (name : Option String) (number : UInt16) :
    property.field ({ target with port := number }, name) = property.field (target, name) := by
  cases property <;> first | rfl | exact absurd rfl other

theorem FactoryProperty.field_port_eq_iff {first second : BrokerUri × Option String} :
    port.field first = port.field second ↔ first.1.port = second.1.port := by
  rw [field, field, Held.number.injEq, Option.some.injEq, UInt16.toNat_inj]

/-- Endpoints that have all fields but the port in common. -/
theorem AgreeUpToPort.of_field_eq {target target' : BrokerUri} {name name' : Option String}
    (hasHandler : Bool)
    (same : ∀ property : FactoryProperty, property ≠ .port →
      property.field (target, name) = property.field (target', name')) :
    AgreeUpToPort (target.port = target'.port)
      (.ok ⟨target, name, hasHandler⟩) (.ok ⟨target', name', hasHandler⟩) where
  others number := by
    have equal : ({ target with port := number }, name) =
        ({ target' with port := number }, name') := by
      refine FactoryProperty.eq_of_field_eq fun property => ?_
      by_cases port : property = .port
      · subst port
        rfl
      · exact (FactoryProperty.field_withPort port target name number).trans
          ((same property port).trans
            (FactoryProperty.field_withPort port target' name' number).symm)
    obtain ⟨targets, names⟩ := Prod.mk.inj equal
    change Except.ok (Endpoint.mk { target with port := number } name hasHandler) =
      .ok ⟨{ target' with port := number }, name', hasHandler⟩
    rw [targets, names]
  port := by
    constructor
    · intro equal
      cases equal
      exact .inl rfl
    · rintro (port | ⟨failure, failed⟩)
      · have equal : (target, name) = (target', name') := by
          refine FactoryProperty.eq_of_field_eq fun property => ?_
          by_cases number : property = .port
          · rw [number]
            exact FactoryProperty.field_port_eq_iff.mpr port
          · exact same property number
        cases equal
        rfl
      · cases failed

/-- A flag among the properties and the scheme that it means in the url, where the uris of both urls
are alike but for scheme and port. -/
theorem Factory.agreeUpToPort_of_flag {environment : Environment} {url url' : String}
    {state other : BrokerUri} (parsed : readBrokerUrl environment url = .ok state)
    (parsed' : readBrokerUrl environment url' = .ok other)
    (alike : ∀ property : FactoryProperty, property ≠ .ssl → property ≠ .port →
      property.field (state, none) = property.field (other, none))
    {before after : List (String × String)} {key flag : String}
    (named : FactoryProperty.ssl.Names key)
    (means : FactoryProperty.Means environment .ssl flag (.scheme other.scheme))
    (free : ∀ entry ∈ before ++ after,
      ¬ FactoryProperty.uri.Names entry.1 ∧ ¬ FactoryProperty.ssl.Names entry.1)
    (username password : Option String) (hasHandler : Bool) :
    AgreeUpToPort
      (state.port = other.port ∨ ∃ entry ∈ before ++ after, FactoryProperty.port.Names entry.1)
      ((Factory.advanced url username password (before ++ (key, flag) :: after)).endpoint
        environment hasHandler)
      ((Factory.advanced url' username password (before ++ after)).endpoint environment
        hasHandler) := by
  rw [endpoint_advanced_entries parsed, endpoint_advanced_entries parsed', List.append_assoc,
    List.append_assoc, List.cons_append]
  have credentials : ∀ entry ∈ credentialEntries username password,
      ¬ FactoryProperty.uri.Names entry.1 ∧ ¬ FactoryProperty.ssl.Names entry.1 ∧
        ¬ FactoryProperty.port.Names entry.1 := by
    intro entry member
    have only := @names_credentialEntries _ _ _ member
    exact ⟨fun named => absurd (only named) (by decide), fun named => absurd (only named) (by decide),
      fun named => absurd (only named) (by decide)⟩
  have valid : FactoryProperty.Valid environment (key, flag) := by
    intro property also failure
    rw [also.unique named]
    exact means.not_refuses
  have noUri : ∀ entry ∈ before ++ (after ++ credentialEntries username password),
      ¬ FactoryProperty.uri.Names entry.1 ∧ ¬ FactoryProperty.ssl.Names entry.1 := by
    intro entry member
    rw [← List.append_assoc] at member
    rcases List.mem_append.mp member with own | credential
    · exact free entry own
    · exact ⟨(credentials entry credential).1, (credentials entry credential).2.1⟩
  cases applied' : FactoryProperty.applyAll environment (other, none)
      (before ++ (after ++ credentialEntries username password)) with
  | error failure =>
      have refused := FactoryProperty.applyAll_eq_error_iff.mp applied'
      have also := (FactoryProperty.firstRefused_insert_iff valid).mpr refused
      rw [FactoryProperty.applyAll_eq_error_iff.mpr also]
      exact .of_error
  | ok final' =>
      cases applied : FactoryProperty.applyAll environment (state, none)
          (before ++ (key, flag) :: (after ++ credentialEntries username password)) with
      | error failure =>
          have refused := FactoryProperty.applyAll_eq_error_iff.mp applied
          have also := (FactoryProperty.firstRefused_insert_iff valid).mp refused
          rw [FactoryProperty.applyAll_eq_error_iff.mpr also] at applied'
          cases applied'
      | ok final =>
          have fields := fun property => @FactoryProperty.field_eq_iff_of_flag _ _ _ _ _ _ _ _ _
            property named means noUri applied applied'
          have ended := @AgreeUpToPort.of_field_eq final.1 final'.1 final.2 final'.2 hasHandler
            fun property number => (fields property).mpr <| by
              by_cases flags : property = .ssl
              · exact .inl flags
              · exact .inr (.inl (alike property flags number))
          refine ⟨ended.others, ended.port.trans (or_congr_left ?_)⟩
          rw [← FactoryProperty.field_port_eq_iff, fields, FactoryProperty.field_port_eq_iff,
            or_iff_right (by decide), ← List.append_assoc]
          refine or_congr_right ⟨?_, ?_⟩
          · rintro ⟨entry, member, sets⟩
            rcases List.mem_append.mp member with own | credential
            · exact ⟨entry, own, sets⟩
            · exact absurd sets (credentials entry credential).2.2
          · rintro ⟨entry, member, sets⟩
            exact ⟨entry, List.mem_append_left _ member, sets⟩

/-- The property for encryption stands for the scheme of the url: with other properties and
credentials, a plain url with the property leads to the endpoint of the encrypted url, and an encrypted
url with the property off to that of the plain one, up to the port. The port is the same exactly if the
url or a property gives it, since else it is the one of the scheme of the url. -/
theorem ssl_stands_for_scheme {environment : Environment} {rest : String}
    {plain : BrokerUri} (plainly : readBrokerUrl environment ("amqp://" ++ rest) = .ok plain)
    {before after : List (String × String)}
    (others : ∀ entry ∈ before ++ after,
      ¬ FactoryProperty.uri.Names entry.1 ∧ ¬ FactoryProperty.ssl.Names entry.1)
    {key : String} (named : FactoryProperty.ssl.Names key) (username password : Option String)
    (hasHandler : Bool) :
    (∀ flag : String, Text.trim flag = "true" →
      AgreeUpToPort (GivesPort environment ("amqp://" ++ rest) ∨
          ∃ entry ∈ before ++ after, FactoryProperty.port.Names entry.1)
        ((Factory.advanced ("amqp://" ++ rest) username password
          (before ++ (key, flag) :: after)).endpoint environment hasHandler)
        ((Factory.advanced ("amqps://" ++ rest) username password
          (before ++ after)).endpoint environment hasHandler)) ∧
    ∀ flag : String, Text.trim flag = "false" →
      AgreeUpToPort (GivesPort environment ("amqp://" ++ rest) ∨
          ∃ entry ∈ before ++ after, FactoryProperty.port.Names entry.1)
        ((Factory.advanced ("amqps://" ++ rest) username password
          (before ++ (key, flag) :: after)).endpoint environment hasHandler)
        ((Factory.advanced ("amqp://" ++ rest) username password
          (before ++ after)).endpoint environment hasHandler) := by
  have starts : Scheme.amqp.start = "amqp://" ∧ Scheme.amqps.start = "amqps://" := by
    decide +kernel
  obtain ⟨port, agree, given⟩ := readBrokerUrl_schemesAgree environment rest
  obtain ⟨target, read⟩ : ∃ target : BrokerUri, ∀ scheme : Scheme,
      readBrokerUrl environment (scheme.start ++ rest) =
        .ok { target with scheme := scheme, port := port.getD scheme.defaultPort } := by
    rcases agree with failed | found
    · obtain ⟨failure, stopped⟩ := failed .amqp
      dsimp only at stopped
      rw [starts.1, plainly] at stopped
      cases stopped
    · exact found
  have plainRead := read .amqp
  have secureRead := read .amqps
  rw [starts.1] at plainRead
  rw [starts.2] at secureRead
  have alike : ∀ (scheme other : Scheme) (property : FactoryProperty), property ≠ .ssl →
      property ≠ .port →
        property.field ({ target with scheme := scheme, port := port.getD scheme.defaultPort }, none)
          = property.field
            ({ target with scheme := other, port := port.getD other.defaultPort }, none) := by
    intro scheme other property flags number
    cases property <;> first | rfl | exact absurd rfl flags | exact absurd rfl number
  have ports : port.getD Scheme.amqp.defaultPort = port.getD Scheme.amqps.defaultPort ↔
      GivesPort environment ("amqp://" ++ rest) := by
    rw [← starts.1, given .amqp]
    cases port with
    | none => decide
    | some number => simp
  constructor
  · intro flag trimmed
    exact (Factory.agreeUpToPort_of_flag plainRead secureRead (alike .amqp .amqps) named
      (.encrypted trimmed) others username password hasHandler).congr (or_congr_left ports)
  · intro flag trimmed
    exact (Factory.agreeUpToPort_of_flag secureRead plainRead (alike .amqps .amqp) named
      (.plain trimmed) others username password hasHandler).congr
        (or_congr_left (eq_comm.trans ports))

/-- With a port among the properties it does not matter where encryption is asked for. -/
theorem ssl_stands_for_scheme_with_port :
    (Factory.advanced "amqp://broker/orders" (some "me") none
        [("Port", "5700"), (" SSL", "true "), ("Heartbeat", "30")]).endpoint ⟨.empty⟩ false =
      (Factory.advanced "amqps://broker/orders" (some "me") none
        [("Port", "5700"), ("Heartbeat", "30")]).endpoint ⟨.empty⟩ false ∧
    (Factory.advanced "amqps://broker/orders" (some "me") none
        [("Port", "5700"), (" SSL", "false"), ("Heartbeat", "30")]).endpoint ⟨.empty⟩ false =
      (Factory.advanced "amqp://broker/orders" (some "me") none
        [("Port", "5700"), ("Heartbeat", "30")]).endpoint ⟨.empty⟩ false := by
  have plain : readBrokerUrl ⟨.empty⟩ ("amqp://" ++ "broker/orders") = .ok ⟨.amqp, "guest", "guest",
      "broker", 5672, "orders", none, none, none, none, none⟩ := by decide +kernel
  have free : ∀ entry ∈ [("Port", "5700")] ++ [("Heartbeat", "30")],
      ¬ FactoryProperty.uri.Names entry.1 ∧ ¬ FactoryProperty.ssl.Names entry.1 := by
    decide +kernel
  have named : FactoryProperty.ssl.Names " SSL" := by decide +kernel
  have port : ∃ entry ∈ [("Port", "5700")] ++ [("Heartbeat", "30")],
      FactoryProperty.port.Names entry.1 :=
    ⟨("Port", "5700"), List.mem_cons_self, by decide +kernel⟩
  obtain ⟨on, off⟩ := ssl_stands_for_scheme plain free named (some "me") none false
  exact ⟨(on "true " (by decide +kernel)).port.mpr (.inl (.inr port)),
    (off "false" (by decide +kernel)).port.mpr (.inl (.inr port))⟩

/-- Without a port the property leaves the one of plain connections, where the encrypted url has its
own. -/
theorem ssl_keeps_plain_port :
    (Factory.advanced "amqp://broker" none none [("Ssl", "true")]).endpoint ⟨.empty⟩ false =
      .ok ⟨⟨.amqps, "guest", "guest", "broker", 5672, "/", none, none, none, none, none⟩, none,
        false⟩ ∧
    (Factory.advanced "amqps://broker" none none []).endpoint ⟨.empty⟩ false =
      .ok ⟨⟨.amqps, "guest", "guest", "broker", 5671, "/", none, none, none, none, none⟩, none,
        false⟩ ∧
    (Factory.advanced "amqp://broker" none none [("Ssl", "true")]).endpoint ⟨.empty⟩ false ≠
      (Factory.advanced "amqps://broker" none none []).endpoint ⟨.empty⟩ false ∧
    (Factory.advanced "amqps://broker" none none [("Ssl", "false")]).endpoint ⟨.empty⟩ false ≠
      (Factory.advanced "amqp://broker" none none []).endpoint ⟨.empty⟩ false := by
  decide +kernel

end AmqpEndpoints
