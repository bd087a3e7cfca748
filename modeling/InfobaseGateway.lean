import InfobaseGateway.Log.Capture
import InfobaseGateway.Log.Panic
import InfobaseGateway.Main
import InfobaseGateway.Proofs.Chain.Order
import InfobaseGateway.Proofs.Classification.Wrapping
import InfobaseGateway.Proofs.Config.Override
import InfobaseGateway.Proofs.Config.Saved
import InfobaseGateway.Proofs.Failure
import InfobaseGateway.Proofs.Log.Precedence
import InfobaseGateway.Proofs.Message.RoundTrip
import InfobaseGateway.Proofs.Operation.Audit
import InfobaseGateway.Proofs.Operation.Faults
import InfobaseGateway.Proofs.Operation.Naming
import InfobaseGateway.Proofs.Operation.Withdrawal
import InfobaseGateway.Proofs.Rpc.Access
import InfobaseGateway.Proofs.Rpc.Disclosure
import InfobaseGateway.Proofs.Rpc.Gone
import InfobaseGateway.Proofs.Rpc.Listing
import InfobaseGateway.Proofs.Rpc.NameLanguage
import InfobaseGateway.Proofs.Rpc.Overlap
import InfobaseGateway.Proofs.Rpc.Race
import InfobaseGateway.Proofs.Rpc.Record
import InfobaseGateway.Proofs.Rpc.RequestId
import InfobaseGateway.Proofs.Secrecy.History
import InfobaseGateway.Proofs.Store.Seeding
import InfobaseGateway.Proofs.Time.Timeout
import InfobaseGateway.Rpc.Directory
import InfobaseGateway.Rpc.Handler
