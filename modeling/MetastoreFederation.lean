import MetastoreFederation.InMemory.Pool
import MetastoreFederation.Proofs.Administration.Rejection
import MetastoreFederation.Proofs.Catalog.Listing
import MetastoreFederation.Proofs.Catalog.Reconfiguration
import MetastoreFederation.Proofs.Catalog.Transparency
import MetastoreFederation.Proofs.Federation.Counting
import MetastoreFederation.Proofs.Federation.Restart
import MetastoreFederation.Proofs.Federation.Statuses
import MetastoreFederation.Proofs.Federation.Writing
import MetastoreFederation.Proofs.Health.Refresh
import MetastoreFederation.Proofs.Pattern.Exactness
import MetastoreFederation.Proofs.Routing.Surfacing
import MetastoreFederation.Proofs.Routing.WholeNames
import MetastoreFederation.Proofs.Survey.Execution
import MetastoreFederation.Request.Address
import MetastoreFederation.Settings.Arguments
