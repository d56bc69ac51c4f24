import QBox.GlobalPause.Coordinator
import QBox.GlobalPause.Counters
import QBox.GlobalPause.Registry
import QBox.GlobalPause.Sleeper
import QBox.GlobalPause.Wakeups
import QBox.GlobalPause.Scheduling
import QBox.GlobalPause.Suspension
import QBox.LuaFile.Lua
import QBox.LuaFile.KeyBuffer
import QBox.LuaFile.Number
import QBox.LuaFile.SetParams
import QBox.LuaFile.Params
import QBox.LuaFile.Simulation
import QBox.LuaFile.Termination
import QBox.LuaFile.Stack
import QBox.LuaFile.NameBounds
import QBox.LuaFile.CommandLine
import QBox.LuaFile.Config
import QBox.LibQbox.QemuInstance
