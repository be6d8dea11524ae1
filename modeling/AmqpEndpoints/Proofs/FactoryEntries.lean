import AmqpEndpoints.Proofs.FactoryProperties

/-!
# Factories as entries

Every factory does what an advanced one with the same url and without credentials does, once all
that is configured beside the url is written as properties: credentials come last, as the properties
that set them. So factories of different kinds with the same entries connect to the same endpoint,
or fail in the same way.
-/

set_option autoImplicit false

namespace AmqpEndpoints

theorem FactoryProperty.applyAll_single {property : FactoryProperty} {key : String}
    (named : property.Names key) (environment : Environment) (value : String)
    (state : BrokerUri × Option String) :
    applyAll environment state [(key, value)] = property.apply environment value state := by
  rw [applyAll, ofName?_eq_some_iff.mpr named]
  dsimp only
  cases property.apply environment value state <;> rfl

namespace Factory

variable (environment : Environment)

/-- Credentials as properties. -/
def credentialEntries (username password : Option String) : List (String × String) :=
  (username.map fun name => ("Username", name)).toList ++
    (password.map fun configured => ("Password", configured)).toList

/-- What is configured beside the url, as properties in the order in which they are applied. -/
def entries : Factory → List (String × String)
  | simple _ => []
  | basic _ username password => credentialEntries username password
  | advanced _ username password properties => properties ++ credentialEntries username password

/-- Credentials are applied as the properties are that set them. -/
theorem applyAll_credentialEntries (username password : Option String)
    (state : BrokerUri × Option String) :
    FactoryProperty.applyAll environment state (credentialEntries username password) =
      (applyCredentials environment username password state.1).map (·, state.2) := by
  have decodes : ∀ (state : BrokerUri × Option String) (configured : String),
      FactoryProperty.applyAll environment state [("Password", configured)] =
        (applyCredentials environment none (some configured) state.1).map (·, state.2) := by
    intro state configured
    have named : FactoryProperty.password.Names "Password" := by decide +kernel
    rw [FactoryProperty.applyAll_single named]
    simp only [FactoryProperty.apply, applyCredentials]
    cases readPassword environment configured <;> rfl
  have sets : ∀ user : String,
      FactoryProperty.applyAll environment state [("Username", user)] =
        .ok ({ state.1 with username := user }, state.2) := by
    intro user
    have named : FactoryProperty.username.Names "Username" := by decide +kernel
    exact FactoryProperty.applyAll_single named environment user state
  cases username with
  | none =>
      cases password with
      | none => rfl
      | some configured => exact decodes state configured
  | some user =>
      cases password with
      | none => exact sets user
      | some configured =>
          change FactoryProperty.applyAll environment state
            ([("Username", user)] ++ [("Password", configured)]) = _
          rw [FactoryProperty.applyAll_append, sets]
          exact decodes ({ state.1 with username := user }, state.2) configured

theorem endpoint_eq_of_entries (hasHandler : Bool) (factory : Factory) :
    factory.endpoint environment hasHandler =
      (advanced factory.brokerUrl none none factory.entries).endpoint environment hasHandler := by
  -- Reading the url and applying the properties may fail; credentials come after both.
  cases factory with
  | simple url =>
      simp only [endpoint, entries, brokerUrl]
      cases readBrokerUrl environment url <;> rfl
  | basic url username password =>
      simp only [endpoint, entries, brokerUrl]
      cases readBrokerUrl environment url with
      | error failure => rfl
      | ok uri =>
          simp only [bind, Except.bind, applyAll_credentialEntries]
          cases applyCredentials environment username password uri <;> rfl
  | advanced url username password properties =>
      simp only [endpoint, entries, brokerUrl]
      cases readBrokerUrl environment url with
      | error failure => rfl
      | ok uri =>
          simp only [bind, Except.bind, FactoryProperty.applyAll_append]
          cases FactoryProperty.applyAll environment (uri, none) properties with
          | error failure => rfl
          | ok state =>
              simp only [applyAll_credentialEntries]
              cases applyCredentials environment username password state.1 <;> rfl

end Factory

/-- The three kinds of factories agree: no credentials are as good as none configured, no properties
as good as none, and credentials as good as the properties that set them, after all others. -/
theorem factories_agree (environment : Environment) (hasHandler : Bool) (url : String)
    (username password : Option String) (properties : List (String × String)) :
    (Factory.basic url none none).endpoint environment hasHandler =
        (Factory.simple url).endpoint environment hasHandler ∧
      (Factory.advanced url username password []).endpoint environment hasHandler =
        (Factory.basic url username password).endpoint environment hasHandler ∧
      (Factory.advanced url username password properties).endpoint environment hasHandler =
        (Factory.advanced url none none
          (properties ++ (username.map fun name => ("Username", name)).toList ++
            (password.map fun configured => ("Password", configured)).toList)).endpoint
          environment hasHandler := by
  have same : ∀ left right : Factory, left.brokerUrl = right.brokerUrl →
      left.entries = right.entries →
        left.endpoint environment hasHandler = right.endpoint environment hasHandler := by
    intro left right url entries
    rw [left.endpoint_eq_of_entries, right.endpoint_eq_of_entries, url, entries]
  refine ⟨same _ _ rfl rfl, same _ _ rfl rfl, same _ _ rfl ?_⟩
  simp [Factory.entries, Factory.credentialEntries]

end AmqpEndpoints
