import VoiceDebugger.Api.Endpoint
import VoiceDebugger.Main
import VoiceDebugger.Proofs.Json.NumberRoundTrip
import VoiceDebugger.Proofs.Json.TextRoundTrip
import VoiceDebugger.Proofs.Json.Legible
import VoiceDebugger.Proofs.Json.RoundTrip
import VoiceDebugger.Proofs.Index.Consistent
import VoiceDebugger.Proofs.Index.FailedLoad
import VoiceDebugger.Proofs.Index.History
import VoiceDebugger.Proofs.Router.Reroute
import VoiceDebugger.Proofs.Router.Gate
import VoiceDebugger.Proofs.Intent.NormalForm
import VoiceDebugger.Proofs.Number.Digits
import VoiceDebugger.Proofs.Pattern.Kept
import VoiceDebugger.Proofs.Pattern.Surrounded
import VoiceDebugger.Proofs.Intent.Offline
import VoiceDebugger.Proofs.Index.Coverage
import VoiceDebugger.Proofs.Intent.Proper
import VoiceDebugger.Proofs.Intent.Confidence
import VoiceDebugger.Proofs.Pattern.Fold
import VoiceDebugger.Proofs.Intent.Similar
import VoiceDebugger.Proofs.Lint.Runs
import VoiceDebugger.Proofs.Lint.Separate
import VoiceDebugger.Proofs.Pattern.Wordy
import VoiceDebugger.Proofs.Router.Commands
import VoiceDebugger.Proofs.Index.Growth
import VoiceDebugger.Proofs.Index.Rebuild
import VoiceDebugger.Proofs.Recorder.Sound
import VoiceDebugger.Proofs.Recorder.Tidy
import VoiceDebugger.Proofs.Recorder.LeftOver
import VoiceDebugger.Proofs.Source.Levels
import VoiceDebugger.Proofs.Symbol.Exact
import VoiceDebugger.Proofs.Search.Lines
import VoiceDebugger.Proofs.Symbol.Functions
import VoiceDebugger.Proofs.Text.Pieces
import VoiceDebugger.Proofs.Search.LeftOut
import VoiceDebugger.Proofs.Router.Languages
import VoiceDebugger.Proofs.Pattern.Follow
import VoiceDebugger.Proofs.Pattern.Seek
import VoiceDebugger.Proofs.Intent.Prose
import VoiceDebugger.Proofs.Intent.Asked
import VoiceDebugger.Proofs.Intent.FileNames
import VoiceDebugger.Proofs.Intent.Accepted
import VoiceDebugger.Proofs.Pattern.Matches
import VoiceDebugger.Proofs.Trace.Frames
import VoiceDebugger.Proofs.Trace.Quoted
import VoiceDebugger.Proofs.Trace.Bracketed
import VoiceDebugger.Proofs.Text.Trim
import VoiceDebugger.Proofs.Lint.Diagnostics
import VoiceDebugger.Proofs.Fix.Question
import VoiceDebugger.Proofs.Fix.Proposal
import VoiceDebugger.Proofs.Speech.Base64
import VoiceDebugger.Proofs.Speech.Sent
import VoiceDebugger.Proofs.Text.Words
import VoiceDebugger.Proofs.Recorder.Box
