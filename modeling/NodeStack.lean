import NodeStack.Launcher.Socket
import NodeStack.Proofs.Engine.Watch
import NodeStack.Proofs.Exchange.Calls
import NodeStack.Scenario.Attached
import NodeStack.Scenario.Conversation
import NodeStack.Scenario.Readership
import NodeStack.Scenario.Script.Happenings
import NodeStack.Scenario.Script.Services
import NodeStack.Scenario.Session
import NodeStack.Scenario.Startup
import NodeStack.Scenario.Waits
import NodeStack.Setup.Log
import NodeStack.Upstream.Http
import NodeStack.Upstream.Target
import NodeStack.Proofs.Exchange.Outbox
import NodeStack.Proofs.Exchange.Effect
import NodeStack.Proofs.Exchange.Matching
import NodeStack.Proofs.Exchange.Slots
import NodeStack.Proofs.Exchange.Closing
import NodeStack.Proofs.Exchange.Reading
import NodeStack.Proofs.Json.Record
import NodeStack.Proofs.Json.Written
import NodeStack.Proofs.Engine.Census
import NodeStack.Proofs.Stack.Duty
import NodeStack.Proofs.Stack.Following
import NodeStack.Proofs.Stack.Round
import NodeStack.Proofs.Stack.Statuses
import NodeStack.Proofs.Link.Interleaving
import NodeStack.Proofs.Setup.Journal
import NodeStack.Proofs.Setup.LightClients
import NodeStack.Proofs.Engine.Waiters
import NodeStack.Proofs.Stack.Agreement
import NodeStack.Proofs.Engine.Multiplex
import NodeStack.Proofs.Text.Utf8
import NodeStack.Proofs.Engine.LogLines
import NodeStack.Proofs.Launcher.Roster
import NodeStack.Proofs.Launcher.Isolation
import NodeStack.Proofs.Exchange.Framing
import NodeStack.Proofs.Plan
import NodeStack.Proofs.Service.Idle
import NodeStack.Proofs.Stack.Assembly
import NodeStack.Proofs.Link.Closing
import NodeStack.Proofs.Link.Schedule
import NodeStack.Proofs.Stack.Spells
import NodeStack.Proofs.Stack.Shutdown
import NodeStack.Proofs.Service.Conf
import NodeStack.Proofs.Engine.Since
import NodeStack.Proofs.Launcher.Clock
import NodeStack.Proofs.Service.Quantity
import NodeStack.Proofs.Service.Rounds
import NodeStack.Proofs.Engine.Segments
import NodeStack.Proofs.Api.Viewer
import NodeStack.Proofs.Launcher.Socket
import NodeStack.Proofs.Launcher.Info
