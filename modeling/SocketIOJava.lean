import SocketIOJava.FrameProgress
import SocketIOJava.FrameCodec
import SocketIOJava.JettyTraversal
import SocketIOJava.Lifecycle
import SocketIOJava.Disconnect
import SocketIOJava.Watch
import SocketIOJava.JettyWatch
import SocketIOJava.PollingPayload
import SocketIOJava.PollingWatch
import SocketIOJava.Handshake
import SocketIOJava.CloseFrame
import SocketIOJava.EventText
import SocketIOJava.Manager
import SocketIOJava.Proxy
import SocketIOJava.Routing
import SocketIOJava.TimeoutReset
import SocketIOJava.EndedTimers
import SocketIOJava.PendingTimers
import SocketIOJava.PollingDelivery
import SocketIOJava.CloseReason
import SocketIOJava.Receiving
import SocketIOJava.Namespace
import SocketIOJava.FailedRequests
import SocketIOJava.EndedCalls
import SocketIOJava.PostData
import SocketIOJava.OutboundFrames
import SocketIOJava.Broadcast
import SocketIOJava.BufferAccounts
import SocketIOJava.BufferCallers
import SocketIOJava.DataHandlers
import SocketIOJava.Paths
import SocketIOJava.UriDecoding
import SocketIOJava.JsonRoundTrip
import SocketIOJava.JsonSources
import SocketIOJava.Conversation
import SocketIOJava.PollingConversation
import SocketIOJava.StreamDelivery
import SocketIOJava.Reconnecting
import SocketIOJava.Transports
import SocketIOJava.PolledPackets
