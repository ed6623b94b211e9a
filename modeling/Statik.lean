import Statik.Server.RoundTrip
import Statik.Server.Rejection
import Statik.Server.SingleLogin
import Statik.Server.Draining
import Statik.Server.Stability
import Statik.Server.Output
import Statik.Server.Bursts
import Statik.Server.Status
import Statik.Server.Limits
import Statik.Server.Checked
import Statik.Server.Endings
import Statik.Server.Tasks
import Statik.Server.Reservations
import Statik.Server.Canonical
import Statik.Server.Authority
import Statik.Server.Joins
import Statik.Server.Faults
import Statik.Server.ApiSession
import Statik.Server.Completes
import Statik.Server.Amplification
import Statik.Server.Registries
import Statik.Server.Backlog
import Statik.Server.Lingering
import Statik.Core.BitSet
import Statik.BuildTools.RegistryFiles
import Statik.Server.Limbo
