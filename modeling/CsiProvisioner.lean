import CsiProvisioner.Go.Map
import CsiProvisioner.Go.Proc
import CsiProvisioner.Api.Types
import CsiProvisioner.Api.Validation
import CsiProvisioner.Main.Basic
import CsiProvisioner.Main.Topology
import CsiProvisioner.Main.Capacity
import CsiProvisioner.Main.Bootstrap
import CsiProvisioner.Main.Run
import CsiProvisioner.Startup
import CsiProvisioner.Assembly
import CsiProvisioner.Lifecycle
