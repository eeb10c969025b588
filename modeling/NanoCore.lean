import NanoCore.Api.Agreement
import NanoCore.Api.Auth
import NanoCore.Api.EventFrames
import NanoCore.Api.Events
import NanoCore.Api.TimerCreation
import NanoCore.Api.TimerPayloads
import NanoCore.Api.Timers
import NanoCore.Assistant.ChatLog
import NanoCore.Assistant.FalsePrompts
import NanoCore.Assistant.InventedDurations
import NanoCore.Assistant.MassDeletion
import NanoCore.Assistant.OfferInterleavings
import NanoCore.Assistant.PlannerSafety
import NanoCore.Assistant.ResponsePolish
import NanoCore.Assistant.Rules.DecisionGrammar
import NanoCore.Assistant.Rules.Messages
import NanoCore.Assistant.SilentCommands
import NanoCore.Assistant.Standby
import NanoCore.Assistant.TimerStarts
import NanoCore.Assistant.ToolFailures
import NanoCore.Assistant.Transcripts
import NanoCore.Assistant.UpdateOffers
import NanoCore.Assistant.UpdatePrompts
import NanoCore.Assistant.WipeCompleteness
import NanoCore.Common.DurationRoundTrip
import NanoCore.Common.NumericLiterals
import NanoCore.Common.TruncatedJson
import NanoCore.Foundation.ExceptionLoops
import NanoCore.Foundation.JsonGrammar
import NanoCore.Foundation.JsonTokens
import NanoCore.Foundation.StableSorts
import NanoCore.Health.Checks
import NanoCore.Integrations.CalendarMerge
import NanoCore.Integrations.DriveDownloads
import NanoCore.Integrations.GoogleCalendar
import NanoCore.Llm.Completions
import NanoCore.MeetingReminders.Interleavings
import NanoCore.MeetingReminders.LateAnnouncements
import NanoCore.MeetingReminders.Offsets
import NanoCore.Memory.Migrations
import NanoCore.Memory.NoteLifecycle
import NanoCore.Memory.NoteOffers
import NanoCore.Runtime.Interleavings
import NanoCore.Runtime.WorkingSource
import NanoCore.Scheduler.Announcements
import NanoCore.Scheduler.Health
import NanoCore.Timers.Interleavings
import NanoCore.Timers.RenameCommands
import NanoCore.Timers.Selection
import NanoCore.Tools.Files
import NanoCore.Voice.Listener
