import SkupperRouter.Http2.Types
import SkupperRouter.Http2.Message
import SkupperRouter.Http2.Stream
import SkupperRouter.Http2.Ingress
import SkupperRouter.Http2.Ingress.Routing
import SkupperRouter.Http2.Ingress.Body
import SkupperRouter.Http2.Egress
import SkupperRouter.Http2.Egress.PullLoop
import SkupperRouter.Http2.Egress.Headers
import SkupperRouter.Http2.Ingress.HeaderBlock
import SkupperRouter.Http2.Egress.Payload
import SkupperRouter.Http2.Egress.Frames
import SkupperRouter.Http2.Connection
import SkupperRouter.Http2.Connection.Walks
import SkupperRouter.Http2.Connection.Frame
import SkupperRouter.Http2.Connection.Invariant
import SkupperRouter.Http2.Connection.Records
import SkupperRouter.Http2.Connection.Access
import SkupperRouter.Http2.Connection.Send
import SkupperRouter.Http2.Activation
import SkupperRouter.Http2.Q2
import SkupperRouter.AllocPool
import SkupperRouter.RouterCore.AgentLink
