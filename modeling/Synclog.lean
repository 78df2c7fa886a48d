import Synclog.Client.Alignment
import Synclog.Client.Concurrent
import Synclog.Client.Isolation
import Synclog.Client.Recovery
import Synclog.Client.Routing
import Synclog.Gateway.Denied
import Synclog.Gateway.Renaming
import Synclog.Gateway.Scoping
import Synclog.Gateway.TargetSet
import Synclog.Memory.CursorBound
import Synclog.Memory.Draining
import Synclog.Memory.Listing
import Synclog.Memory.Subscribers
import Synclog.Transport.Announcements
import Synclog.Transport.Failures
import Synclog.Transport.Parts
import Synclog.Transport.Progress
import Synclog.Transport.Pruning
import Synclog.Transport.ReAdd
import Synclog.Transport.Rewind
import Synclog.Transport.Wakeups
