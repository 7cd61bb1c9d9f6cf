import CrashSimulator.Model.Python
import CrashSimulator.Model.World
import CrashSimulator.Model.Configuration
import CrashSimulator.Model.Channel
import CrashSimulator.Model.Matcher
import CrashSimulator.Model.Replay
import CrashSimulator.Interface.Notification
import CrashSimulator.Analysis.Configuration
import CrashSimulator.Analysis.Channel
import CrashSimulator.Analysis.Protocol
import CrashSimulator.Analysis.Matching
import CrashSimulator.Analysis.Siblings
import CrashSimulator.Analysis.Supervision
import CrashSimulator.Analysis.StateFiles
import CrashSimulator.Analysis.Exit
import CrashSimulator.Analysis.Run
import CrashSimulator.Analysis.Assignment
