import Acs.Proofs.DiscoveryComplete
import Acs.Proofs.NonRepeatable
import Acs.Proofs.Copies
import Acs.Proofs.SingleFlight
import Acs.Proofs.Diagnostics
import Acs.Proofs.SecretStore
import Acs.Proofs.Redaction
import Acs.Proofs.Protected
import Acs.Proofs.SecretWrites
import Acs.Proofs.SecretHandles
import Acs.Proofs.Isolation
import Acs.Proofs.Rediscovery
import Acs.Proofs.ReplayStores
import Acs.Proofs.DigestReplay
import Acs.Proofs.Rotation
import Acs.Proofs.MappingOwner
import Acs.Proofs.SubscriberLookup
import Acs.Proofs.InServiceOwner
import Acs.Proofs.TenantSafety
import Acs.Proofs.ConfiguredOnce
import Acs.Proofs.Rollback
import Acs.Proofs.IdempotentOnce
import Acs.Proofs.OrderNotified
import Acs.Proofs.EventDispatched
import Acs.Proofs.OutboxOnce
import Acs.Proofs.NaturalKey
import Acs.Proofs.EventOrder
import Acs.Proofs.AgentConnected
import Acs.Proofs.MqttAttribution
import Acs.Proofs.PendingRead
import Acs.Proofs.SubscriptionsConverge
import Acs.Proofs.AddObjectOnce
import Acs.Proofs.XmppVerified
import Acs.Proofs.OnboardingGate
import Acs.Proofs.QueueRuns
import Acs.Proofs.InstanceEvidence
import Acs.Proofs.DerivedFacets
import Acs.Proofs.FaultPriority
import Acs.Proofs.LinkOrder
import Acs.Proofs.EndpointText
import Acs.Proofs.ArrayText
