import CodexAcp.Lib.Run
import CodexAcp.Lib.Dict
import CodexAcp.Lib.Handler
import CodexAcp.Lib.Text
import CodexAcp.Lib.Split
import CodexAcp.Lib.Span
import CodexAcp.Lib.Path
import CodexAcp.Lib.Shell
import CodexAcp.Lib.CommonMark
import CodexAcp.Lib.Utf8
import CodexAcp.Lib.Slice
import CodexAcp.Lib.Transducer
import CodexAcp.Lib.Journal
import CodexAcp.Lib.Table
import CodexAcp.Lib.Sorted
import CodexAcp.Protocol.Types
import CodexAcp.Protocol.Op
import CodexAcp.Protocol.Event
import CodexAcp.Protocol.Codex
import CodexAcp.Protocol.FileSystem
import CodexAcp.Display.Agents
import CodexAcp.Boundary.LiveToolCall
import CodexAcp.Boundary.CollabToolCall
import CodexAcp.Boundary.PatchToolCall
import CodexAcp.Boundary.ExecToolCall
import CodexAcp.Boundary.LiveRoute
import CodexAcp.Boundary.PermissionToolCall
import CodexAcp.Boundary.Approval
import CodexAcp.Boundary.Permission
import CodexAcp.Boundary.SessionUpdate
import CodexAcp.Boundary.ToolCall
import CodexAcp.Boundary.Command
import CodexAcp.Boundary.ShellOperators
import CodexAcp.Boundary.Wrappers
import CodexAcp.Boundary.InPlace
import CodexAcp.Boundary.FileChanges
import CodexAcp.Boundary.OutputContent
import CodexAcp.Boundary.Mapper
import CodexAcp.Boundary.ReplayItem
import CodexAcp.Boundary.ShownToolCall
import CodexAcp.Boundary.ReplayedToolCall
import CodexAcp.Boundary.ReplayLocations
import CodexAcp.Boundary.Guardian
import CodexAcp.Boundary.OptionFidelity
import CodexAcp.SessionMode
import CodexAcp.Display
import CodexAcp.UserInput
import CodexAcp.UserInput.Options
import CodexAcp.UserInput.Attribution
import CodexAcp.UserInput.KeyedReply
import CodexAcp.UserInput.Complete
import CodexAcp.Thread.ActorState
import CodexAcp.Thread.World
import CodexAcp.Thread.Submission
import CodexAcp.Thread.FailClosed
import CodexAcp.Thread.ThreadActor
import CodexAcp.Thread.ActorModels
import CodexAcp.Thread.ActorModes
import CodexAcp.Thread.ActorConfig
import CodexAcp.Thread.SlashCommands
import CodexAcp.Thread.PromptItems
import CodexAcp.Thread.SlashGrammar
import CodexAcp.Thread.ActorPrompt
import CodexAcp.Thread.Actor
import CodexAcp.Thread.SettingsFrame
import CodexAcp.Thread.Desk
import CodexAcp.Thread.Effect
import CodexAcp.Thread.EventEffect
import CodexAcp.Thread.StepEffect
import CodexAcp.Thread.Interactions
import CodexAcp.Thread.ResponseIntegrity
import CodexAcp.Thread.Ledger
import CodexAcp.Thread.Answered
import CodexAcp.Thread.WaitersOnce
import CodexAcp.Thread.Waiters
import CodexAcp.Thread.AutoApproval
import CodexAcp.Thread.Overrides
import CodexAcp.Thread.PromptFrame
import CodexAcp.Thread.StateEffect
import CodexAcp.Thread.SettingsEffect
import CodexAcp.Thread.Mirror
import CodexAcp.Thread.Preset
import CodexAcp.Thread.Reached
import CodexAcp.Thread.ClientView
import CodexAcp.Thread.Replay
import CodexAcp.Thread.GoalView
import CodexAcp.Thread.Reload
import CodexAcp.Thread.KnownAgents
import CodexAcp.Thread.ServiceTier
import CodexAcp.Thread.ModelPicker
import CodexAcp.Thread.ModelVersion
import CodexAcp.Thread.OptionsShown
import CodexAcp.Thread.Streaming
import CodexAcp.Thread.ShownOnce
import CodexAcp.Thread.ReplayedCalls
import CodexAcp.Thread.ActiveTools
import CodexAcp.Thread.LiveTools
import CodexAcp.Thread.LiveFrame
import CodexAcp.Thread.Introductions
import CodexAcp.Thread.ShownCalls
import CodexAcp.Thread.ShownPatches
import CodexAcp.Thread.ShownCommands
import CodexAcp.Thread.CommandOutput
import CodexAcp.Thread.Outcomes
import CodexAcp.Thread.Consent
import CodexAcp.Thread.BackgroundTasks
import CodexAcp.Thread.Transcript
import CodexAcp.Thread.Subagents
import CodexAcp.Thread.OutputPieces
import CodexAcp.Thread.TerminalOutput
import CodexAcp.Thread.Terminals
import CodexAcp.Thread.WebSearch
import CodexAcp.Thread.GuardianAssessments
import CodexAcp.Thread.Answering
import CodexAcp.Agent.Sessions
import CodexAcp.Agent.SessionEffect
import CodexAcp.Agent.Placement
import CodexAcp.Agent.SessionMap
import CodexAcp.Agent.Authentication
import CodexAcp.Agent.SignedIn
import CodexAcp.Agent.SessionOpening
import CodexAcp.Agent.BridgeCleanup
import CodexAcp.Agent.LeftThread
import CodexAcp.Agent.McpServerMap
import CodexAcp.Agent.SessionClosing
import CodexAcp.Agent.Directories
import CodexAcp.Agent.SessionListing
import CodexAcp.Bridge.AcpMcpBridge
import CodexAcp.Bridge.Balance
import CodexAcp.Bridge.ReplaceClient
import CodexAcp.Bridge.Http
import CodexAcp.Bridge.Isolation
import CodexAcp.Bridge.Forwarding
import CodexAcp.Bridge.Payload
