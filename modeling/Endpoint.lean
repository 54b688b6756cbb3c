import Endpoint.Delivered
import Endpoint.Invoker
import Endpoint.Network
import Endpoint.Proofs.Envelope
import Endpoint.Proofs.Negotiation
import Endpoint.Proofs.Refusal
import Endpoint.Proofs.Secrecy
import Endpoint.Proofs.Sending
import Endpoint.Proofs.Soundness
import Endpoint.Proofs.Stack
import Endpoint.Proofs.Twin
import Endpoint.Proofs.Unfolding
import Endpoint.Schema.Samples
import Endpoint.Telemetry
import Endpoint.Proofs.Callbacks
import Endpoint.Proofs.Containment
import Endpoint.Proofs.Dispatch
import Endpoint.Proofs.Interleaving
import Endpoint.Proofs.JsonReading
import Endpoint.Proofs.SchemaCodec
import Endpoint.Proofs.JsonBodies
import Endpoint.Proofs.Compatibility
import Endpoint.Proofs.Extension
import Endpoint.Proofs.Multimap
import Endpoint.Proofs.Starting
import Endpoint.Proofs.FormBodies
import Endpoint.Proofs.ParameterValues
import Endpoint.Proofs.TextBodies
import Endpoint.Proofs.Credentials
import Endpoint.Proofs.NestedLists
import Endpoint.Proofs.HeaderSources
import Endpoint.Proofs.RecordReading
import Endpoint.Proofs.ConfigReading
import Endpoint.Proofs.Parameters
import Endpoint.Proofs.ShownTypes
