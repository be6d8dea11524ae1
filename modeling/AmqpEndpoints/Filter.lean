import AmqpEndpoints.Message
import AmqpEndpoints.Text.Search

/-!
# Metadata filters

Which metadata of a message leaves as headers.
-/

set_option autoImplicit false

namespace AmqpEndpoints

/-- A choice of metadata. -/
inductive Filter where
  | removeAll
  | keepAll
  /-- Keeps the listed keys and those with a listed start. -/
  | only (keys starts : List String)
  deriving DecidableEq, Repr

namespace Filter

def keeps : Filter → String → Bool
  | removeAll, _ => false
  | keepAll, _ => true
  | only keys starts, key =>
    keys.contains key ||
      starts.any fun start => (Text.afterStart? start.toList key.toList).isSome

def apply (filter : Filter) (metadata : Metadata) : Metadata :=
  metadata.filterKeys filter.keeps

end Filter

end AmqpEndpoints
