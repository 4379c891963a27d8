import DramSim.Config
import DramSim.State
import DramSim.Update
import DramSim.Run
import DramSim.Frame
import DramSim.Refresh
import DramSim.Banks
import DramSim.Energy
import DramSim.Reads
import DramSim.Stamps
import DramSim.Guards
import DramSim.CommandBus
import DramSim.Admission
import DramSim.WriteData
import DramSim.Power
import DramSim.Statistics
import DramSim.Smart
import DramSim.DataBus
import DramSim.Noninterference
import DramSim.Exits
