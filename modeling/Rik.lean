import Rik.Basic
import Rik.Fs
import Rik.Riklet.CreateFs
import Rik.Riklet.CreateFsRace
import Rik.Riklet.FunctionRuntime
import Rik.Riklet.Lifecycle
import Rik.Controller.Workload
import Rik.Controller.Server
import Rik.Controller.Serial
