import BreakageAdvisor.Text.CharacterClass
import BreakageAdvisor.Text.Identifier
import BreakageAdvisor.Text.LetterCase
import BreakageAdvisor.Json.Display
import BreakageAdvisor.Json.Reader
import BreakageAdvisor.Json.Writer
import BreakageAdvisor.Text.Utf8
import BreakageAdvisor.Pattern.Search
import BreakageAdvisor.Web.BaseDomain
import BreakageAdvisor.Rule
import BreakageAdvisor.Condition.Basic
import BreakageAdvisor.Ledger
import BreakageAdvisor.Condition.Evaluation
import BreakageAdvisor.Policy
import BreakageAdvisor.Subscription
import BreakageAdvisor.Attempt
import BreakageAdvisor.RuleBook
import BreakageAdvisor.Handler
import BreakageAdvisor.Advisor
import BreakageAdvisor.Rehearsal
import BreakageAdvisor.Files
import BreakageAdvisor.Database
import BreakageAdvisor.Frame
import BreakageAdvisor.Bridge.Observers
import BreakageAdvisor.Host
import BreakageAdvisor.Settings
import BreakageAdvisor.LogOutput
import BreakageAdvisor.CommandLine.Grammar
import BreakageAdvisor.CommandLine.Workplace
import BreakageAdvisor.Proofs.Attempt.AtMostOnce
import BreakageAdvisor.Proofs.Attempt.LateRelease
import BreakageAdvisor.Proofs.Handler.Recall
import BreakageAdvisor.Proofs.Handler.History
import BreakageAdvisor.Proofs.Condition.Meaning
import BreakageAdvisor.Proofs.Bridge.Calls
import BreakageAdvisor.Proofs.Bridge.Events
import BreakageAdvisor.Proofs.Bridge.Correlation
import BreakageAdvisor.Proofs.Frame
import BreakageAdvisor.Proofs.Host.Standing
import BreakageAdvisor.Proofs.Bridge.Refusal
import BreakageAdvisor.Proofs.Serving
import BreakageAdvisor.Proofs.Attempt.Completion
import BreakageAdvisor.Proofs.Attempt.Mending
import BreakageAdvisor.Proofs.Handler.Judgements
import BreakageAdvisor.Proofs.Handler.Mending
import BreakageAdvisor.Proofs.Bridge.Reached
import BreakageAdvisor.Proofs.Host.Calls
import BreakageAdvisor.Proofs.Handler.ArrivalOrder
import BreakageAdvisor.Proofs.Handler.Sessions
import BreakageAdvisor.Proofs.Bureau.Catalogs
import BreakageAdvisor.Proofs.Bureau.Overlooked
import BreakageAdvisor.Proofs.Bureau.Release
import BreakageAdvisor.Proofs.Bureau.Following
import BreakageAdvisor.Proofs.Frame.Segments
import BreakageAdvisor.Proofs.Json.Numbers
import BreakageAdvisor.Proofs.Text.Utf8
import BreakageAdvisor.Proofs.Json.RoundTrip
import BreakageAdvisor.Proofs.Json.Encodable
import BreakageAdvisor.Proofs.Frame.RoundTrip
import BreakageAdvisor.Proofs.Json.Decoded
import BreakageAdvisor.Proofs.Bureau.Updates
import BreakageAdvisor.Proofs.Attempt.Silence
import BreakageAdvisor.Proofs.Attempt.Reservations
import BreakageAdvisor.Proofs.Bureau.LastCatalog
import BreakageAdvisor.Proofs.CommandLine.Shown
import BreakageAdvisor.Proofs.Condition.Grammar
import BreakageAdvisor.Proofs.Condition.Lookups
import BreakageAdvisor.Proofs.Attempt.ActiveRule
import BreakageAdvisor.Proofs.Attempt.Verdict
import BreakageAdvisor.Proofs.Message.Markup
import BreakageAdvisor.Proofs.Condition.Listing
import BreakageAdvisor.Proofs.Message.Normal
import BreakageAdvisor.Proofs.Host.Closing
import BreakageAdvisor.Proofs.Subscription.Reentry
import BreakageAdvisor.Proofs.Ledger.Knowledge
import BreakageAdvisor.Proofs.Tracker.Holders
import BreakageAdvisor.Proofs.Web.BaseDomain
