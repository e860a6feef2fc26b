import RiotAlarm.Transition
import RiotAlarm.LinkedHeap
import RiotAlarm.ChainedMap
import RiotAlarm.Types
import RiotAlarm.GatewayHashtable
import RiotAlarm.GatewayTable
import RiotAlarm.GatewayMap
import RiotAlarm.GatewayList
import RiotAlarm.GatewayNode
import RiotAlarm.GatewayCoap
import RiotAlarm.GatewayShell
import RiotAlarm.GatewayAdmission
import RiotAlarm.GatewayWatchdog
import RiotAlarm.GatewayAlarm
import RiotAlarm.GatewayPreemption
import RiotAlarm.GatewaySilence
import RiotAlarm.SensorDetector
import RiotAlarm.SensorNode
import RiotAlarm.SensorWakeup
import RiotAlarm.SensorSignals
import RiotAlarm.Network
import RiotAlarm.NetworkAgreement
import RiotAlarm.GatewayRegistration
import RiotAlarm.CMemory
import RiotAlarm.Wire
import RiotAlarm.Identity
import RiotAlarm.GatewayLog
import RiotAlarm.GatewayRequest
import RiotAlarm.GatewayDeletion
import RiotAlarm.SensorFreshness
import RiotAlarm.GatewayLookup
import RiotAlarm.Ledger
import RiotAlarm.GatewayLedger
import RiotAlarm.GatewayTraversal
import RiotAlarm.SensorWarmUp
import RiotAlarm.SensorFilter
import RiotAlarm.SensorSides
import RiotAlarm.SensorTaps
import RiotAlarm.ServerAddress
import RiotAlarm.NodeAnswers
import RiotAlarm.ResourceListing
import RiotAlarm.GatewayConcurrency
import RiotAlarm.GatewayCommands
import RiotAlarm.ActuatorNode
import RiotAlarm.GatewayEffects
import RiotAlarm.Installation
import RiotAlarm.SensorGrounds
import RiotAlarm.InstallationCauses
import RiotAlarm.InstallationResponse
import RiotAlarm.InstallationDisconnection
import RiotAlarm.InstallationSilence
import RiotAlarm.InstallationVigilance
import RiotAlarm.BlockwiseTransfer
