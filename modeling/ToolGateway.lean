import ToolGateway.Main
import ToolGateway.Http.Router
import ToolGateway.Session.Floor
import ToolGateway.Session.Remote
import ToolGateway.Shutdown
import ToolGateway.Socket
import ToolGateway.Proofs.Session.Approval
import ToolGateway.Proofs.Floor.Departure
import ToolGateway.Proofs.Session.Interruption
import ToolGateway.Proofs.Floor.Seats
import ToolGateway.Proofs.Floor.Stutter
import ToolGateway.Proofs.Remote.Approval
import ToolGateway.Proofs.Envelope
import ToolGateway.Proofs.Json.Edges
import ToolGateway.Proofs.Planner.Answer
import ToolGateway.Proofs.Planner.Request
import ToolGateway.Proofs.Floor.Audit
import ToolGateway.Proofs.UserMessage
import ToolGateway.Proofs.Socket
import ToolGateway.Proofs.Remote.Failure
import ToolGateway.Proofs.Planner.Extraction
import ToolGateway.Proofs.Config.Variables
import ToolGateway.Proofs.Floor.Sharing
import ToolGateway.Proofs.Planner.Wrapping
import ToolGateway.Proofs.Listing
import ToolGateway.Proofs.Reply
import ToolGateway.Proofs.Planner.ConfirmText
import ToolGateway.Proofs.Tool
import ToolGateway.Proofs.Floor.Echo
import ToolGateway.Proofs.ToolOutput
import ToolGateway.Proofs.Remote.Refusal
import ToolGateway.Proofs.Net.Address
import ToolGateway.Proofs.Text.Fields
import ToolGateway.Proofs.Config.Legacy
import ToolGateway.Chat.Accounts
import ToolGateway.Proofs.Chat.Accounts
import ToolGateway.Proofs.Config.Origins
import ToolGateway.Proofs.Http.Cors
import ToolGateway.Proofs.NullKeys
