import BotDaemon.Dict
import BotDaemon.Allocator
import BotDaemon.Reactor
import BotDaemon.Queues
import BotDaemon.Ownership
import BotDaemon.Spawning
import BotDaemon.Packing
import BotDaemon.Controller
import BotDaemon.Registration
import BotDaemon.Connections
import BotDaemon.Requests
import BotDaemon.Lifecycle
import BotDaemon.Wanted
import BotDaemon.Requested
