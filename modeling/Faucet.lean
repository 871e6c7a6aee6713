import Faucet.Model.OpenFlow
import Faucet.Model.Datapath
import Faucet.Model.Valve
import Faucet.Model.StackLink
import Faucet.Model.Lacp
import Faucet.Model.Ports
import Faucet.Model.Reload
import Faucet.Model.PacketIn
import Faucet.Model.Metrics
import Faucet.Model.Receive
import Faucet.Model.Advertise
import Faucet.Soundness.StackLink
import Faucet.Soundness.Ports
import Faucet.Soundness.Reload
import Faucet.Soundness.PortStatus
import Faucet.Soundness.Lacp
import Faucet.Soundness.Dot1x
import Faucet.Soundness.PacketIn
import Faucet.Soundness.Metrics
import Faucet.Soundness.Interleaving
import Faucet.Soundness.Receive
import Faucet.Soundness.Controller
import Faucet.Soundness.Advertise
import Faucet.Soundness.Flooding
