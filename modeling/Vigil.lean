import Vigil.Main
import Vigil.Proofs.Alert.Feedback
import Vigil.Proofs.Alert.Key
import Vigil.Proofs.Api.SameMachine
import Vigil.Proofs.Api.Shutdown
import Vigil.Proofs.Api.Token
import Vigil.Proofs.Api.Wire
import Vigil.Proofs.Config.Precedence
import Vigil.Proofs.Config.Reach
import Vigil.Proofs.Duration.Search
import Vigil.Proofs.History.Cut
import Vigil.Proofs.Monitor.Dashboard
import Vigil.Proofs.Monitor.Product
import Vigil.Proofs.Probe.Crossing
import Vigil.Proofs.Traffic.Display
import Vigil.Proofs.Traffic.Identity
import Vigil.Proofs.Worker.Silence
import Vigil.Server.Session
