import Asg.Basic
import Asg.Globals
import Asg.Pool.Spec
import Asg.Pool.Slots
import Asg.Pool.Resources
import Asg.Pool.Run
import Asg.Pool.Reference
import Asg.Pool.Properties
import Asg.Context.Basic
import Asg.Context.UnavailableRead
import Asg.Context.Lifecycle
import Asg.Context.Run
import Asg.Snapshot.Stream
import Asg.Snapshot.Globals
import Asg.Snapshot.Blocks
import Asg.Snapshot.Pools
import Asg.Snapshot.Context
import Asg.Snapshot.Device
import Asg.Snapshot.Restore
import Asg.Snapshot.Resave
import Asg.Context.Protocol
import Asg.Context.Outcomes
import Asg.Context.Bounds
import Asg.Dirent.Basic
import Asg.Dirent.Seek
import Asg.Dirent.Enumerate
import Asg.Base.RecurrentTask
