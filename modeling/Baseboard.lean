import Baseboard.AuthCode
import Baseboard.AuthType
import Baseboard.Bridge
import Baseboard.Bytes
import Baseboard.Capabilities
import Baseboard.Challenge
import Baseboard.Checksum
import Baseboard.Command
import Baseboard.CommandLine.Arguments
import Baseboard.CommandLine.Invocation
import Baseboard.CommandLine.Run
import Baseboard.CommandLine.Transcript
import Baseboard.CompletionCode
import Baseboard.Config
import Baseboard.Digest.Md2
import Baseboard.Digest.Md5
import Baseboard.Error
import Baseboard.Field
import Baseboard.IoFailure
import Baseboard.Link
import Baseboard.Main
import Baseboard.Network
import Baseboard.OneShot
import Baseboard.Packet
import Baseboard.PowerAction
import Baseboard.Presence
import Baseboard.Privilege
import Baseboard.Proofs.Codec.Message
import Baseboard.Proofs.Ending
import Baseboard.Reading
import Baseboard.Request
import Baseboard.Response
import Baseboard.Rmcp
import Baseboard.Session.Basic
import Baseboard.Session.Commands
import Baseboard.Session.Exchange
import Baseboard.Session.Lifecycle
import Baseboard.Session.Management
import Baseboard.Session.Phase
import Baseboard.Session.Reply
import Baseboard.Text.Keyword
import Baseboard.Text.Numeral
import Baseboard.Time
import Baseboard.Proofs.Codec.Envelope
import Baseboard.Proofs.Codec.Packet
import Baseboard.Proofs.Codec.RoundTrip
import Baseboard.Proofs.Link.Record
import Baseboard.Proofs.Session.Exchange
import Baseboard.Proofs.Session.Run
import Baseboard.Proofs.Session.Moves
import Baseboard.Proofs.Session.Frames
import Baseboard.Proofs.Session.Numbering
import Baseboard.Proofs.Session.Answer
import Baseboard.Proofs.Session.LateReply
import Baseboard.Proofs.Session.Lifecycle
import Baseboard.Proofs.OneShot
import Baseboard.Proofs.Session.Opening
import Baseboard.Proofs.Session.Completeness
import Baseboard.Proofs.Session.Reach
import Baseboard.Proofs.Session.Cancellation
import Baseboard.Proofs.Session.Silence
import Baseboard.Proofs.Session.Authenticity
import Baseboard.Proofs.Session.Agreement
import Baseboard.Proofs.Session.Bookkeeping
import Baseboard.Proofs.Pairing
import Baseboard.Proofs.Link.Parallel
import Baseboard.Proofs.Session.Likeness
import Baseboard.Proofs.Session.Retry
import Baseboard.Proofs.Session.Deeds
import Baseboard.Proofs.Codec.Difference
import Baseboard.Proofs.Session.Secrecy
import Baseboard.Proofs.Codec.Canonical
import Baseboard.Proofs.Codec.Layers
import Baseboard.Proofs.Link.Accounting
import Baseboard.Proofs.Codec.Malformed
import Baseboard.Proofs.Session.Stray
import Baseboard.Proofs.Codec.Disclosure
import Baseboard.Proofs.Link.Events
import Baseboard.Proofs.Link.Grain
import Baseboard.Proofs.Link.Waiting
import Baseboard.Proofs.Link.Promptness
import Baseboard.Proofs.Link.Slicing
import Baseboard.Proofs.Link.Noise
import Baseboard.Proofs.Link.InStep
import Baseboard.Proofs.Codec.Grammar
import Baseboard.Proofs.Session.Bounds
import Baseboard.Proofs.Session.Failure
import Baseboard.Proofs.Session.Lengths
import Baseboard.Proofs.Codec.Presence
import Baseboard.Proofs.Link.Outage
import Baseboard.Proofs.Session.Discovery
import Baseboard.Proofs.Session.Granting
import Baseboard.Proofs.Farewell
import Baseboard.Proofs.Link.Polling
import Baseboard.Proofs.Corruption
