import ChatSocket.Client.Basic
import ChatSocket.Connection.Scenario
import ChatSocket.Transport.WebSocket
import ChatSocket.Proofs.Connection.StaleTicks
import ChatSocket.Proofs.Connection.Reaction
import ChatSocket.Proofs.Connection.Run
import ChatSocket.Proofs.Connection.Coherence
import ChatSocket.Proofs.Connection.Ending
import ChatSocket.Proofs.Connection.Exits
import ChatSocket.Proofs.Connection.Teardown
import ChatSocket.Proofs.Connection.Heartbeat
import ChatSocket.Proofs.Connection.PongDeadline
import ChatSocket.Proofs.Socket.Head
import ChatSocket.Proofs.Socket.RoundTrip
import ChatSocket.Proofs.Connection.Errands
import ChatSocket.Proofs.Connection.Delivery
import ChatSocket.Proofs.Connection.ReadinessPolicy
import ChatSocket.Proofs.Connection.Lifecycle
import ChatSocket.Proofs.Event.RoundTrip
import ChatSocket.Proofs.Connection.Wire
import ChatSocket.Proofs.Connection.Malformed
import ChatSocket.Proofs.Connection.Requests
import ChatSocket.Proofs.Socket.Split
import ChatSocket.Proofs.Socket.Grammar
import ChatSocket.Connection.Queue
import ChatSocket.Proofs.Connection.Handout
import ChatSocket.Proofs.Connection.Rest
import ChatSocket.Proofs.Connection.ConnectDeadline
import ChatSocket.Proofs.Engine.Spans
import ChatSocket.Proofs.Json.Scalar
import ChatSocket.Proofs.Engine.RoundTrip
import ChatSocket.Proofs.Event.Decoding
import ChatSocket.Proofs.Connection.Cadence
import ChatSocket.Proofs.Socket.Cursor
import ChatSocket.Proofs.Socket.Lossless
import ChatSocket.Proofs.Connection.Replay
import ChatSocket.Proofs.Connection.Inert
import ChatSocket.Proofs.Text.Utf8
import ChatSocket.Proofs.Url.Form
import ChatSocket.Proofs.Session.SocketUrl
import ChatSocket.Proofs.Url.Tail
import ChatSocket.Proofs.Url.Web
import ChatSocket.Transport.Exchange
import ChatSocket.Proofs.Transport.Exchange
import ChatSocket.Proofs.Connection.FirstOutput
import ChatSocket.Proofs.Connection.Acknowledgement
import ChatSocket.Proofs.Url.Web
