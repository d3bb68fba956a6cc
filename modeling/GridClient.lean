import GridClient.Proofs.Address.Canonical
import GridClient.Proofs.Address.Hardware
import GridClient.Proofs.Address.Networks
import GridClient.Proofs.Allocation.Codec
import GridClient.Proofs.Allocation.NetworkRequest
import GridClient.Proofs.Allocation.Reading
import GridClient.Proofs.Attribute.Merge
import GridClient.Proofs.Provision.Bodies
import GridClient.Proofs.Provision.Families
import GridClient.Proofs.Provision.Faults
import GridClient.Proofs.Provision.Lookup
import GridClient.Proofs.Provision.Proxy
import GridClient.Proofs.Provision.Release
import GridClient.Proofs.Provision.Reservations
import GridClient.Proofs.Provision.Screening
import GridClient.Proofs.Provision.Search
import GridClient.Proofs.Provision.Update
import GridClient.Proofs.Reference.Grammar
import GridClient.Proofs.Registry.History
import GridClient.Proofs.Request.Authorization
import GridClient.Proofs.Request.Layers
import GridClient.Proofs.Request.Replacement
import GridClient.Proofs.Request.Secrets
import GridClient.Proofs.Request.Selection
import GridClient.Proofs.Request.Url
import GridClient.Proofs.Schema.Codec
import GridClient.Proofs.Session.NamedReads
import GridClient.Proofs.Session.Shapes
import GridClient.Proofs.Session.Status
import GridClient.Proofs.Session.Sweep
import GridClient.Proofs.Settings.Port
import GridClient.Settings.Environment
import GridClient.Settings.JsonForm
import GridClient.Sweep
import GridClient.Transport.Http
