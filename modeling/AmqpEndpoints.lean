import AmqpEndpoints.Configuration
import AmqpEndpoints.Session
import AmqpEndpoints.Proofs.Discipline
import AmqpEndpoints.Proofs.Attachments
import AmqpEndpoints.Proofs.ChannelProtocol
import AmqpEndpoints.Proofs.LastFailure
import AmqpEndpoints.Proofs.LifecycleCalls
import AmqpEndpoints.Proofs.Recovery
import AmqpEndpoints.Proofs.RoundTrip
import AmqpEndpoints.Proofs.CivilTime
import AmqpEndpoints.Proofs.Credentials
import AmqpEndpoints.Proofs.Dispatch
import AmqpEndpoints.Proofs.RestartTurns
import AmqpEndpoints.Proofs.Exclusive
import AmqpEndpoints.Proofs.Newcomers
import AmqpEndpoints.Proofs.Handles
import AmqpEndpoints.Proofs.FactoryEntries
import AmqpEndpoints.Proofs.Registrations
import AmqpEndpoints.Proofs.Producing
import AmqpEndpoints.Proofs.ConfiguredFields
import AmqpEndpoints.Proofs.Reconnecting
import AmqpEndpoints.Proofs.Destinations
import AmqpEndpoints.Proofs.CanonicalBase64
import AmqpEndpoints.Proofs.Passwords
import AmqpEndpoints.Proofs.Offsets
import AmqpEndpoints.Proofs.TraceContext
import AmqpEndpoints.Proofs.BrokerUrls
import AmqpEndpoints.Proofs.Encryption
import AmqpEndpoints.Proofs.ShortTexts
