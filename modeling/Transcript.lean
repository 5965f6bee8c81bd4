import Transcript.Main
import Transcript.Text.Utf8.RoundTrip
import Transcript.Proofs.FirstBy
import Transcript.Proofs.Conversation.Reopening
import Transcript.Proofs.Conversation.Correlation
import Transcript.Proofs.Conversation.StreamedText
import Transcript.Proofs.Conversation.SecondDelivery
import Transcript.Proofs.Conversation.Announcement
import Transcript.Proofs.Conversation.Growth
import Transcript.Proofs.Conversation.CallIndex
import Transcript.Proofs.Conversation.TokenSums
import Transcript.Proofs.Conversation.StatusHistory
import Transcript.Proofs.Conversation.InputRequest
import Transcript.Proofs.Conversation.Interleaving
import Transcript.Proofs.Conversation.Unread
import Transcript.Proofs.Conversation.FreshStart
import Transcript.Proofs.Conversation.HiddenSources
import Transcript.Proofs.Conversation.Redelivery
import Transcript.Proofs.Conversation.FinalText
import Transcript.Proofs.Viewer.Path
import Transcript.Proofs.Viewer.Succession
import Transcript.Proofs.Viewer.Reading
import Transcript.Proofs.Viewer.OwnStream
import Transcript.Proofs.Viewer.Running
import Transcript.Proofs.Viewer.Brackets
import Transcript.Proofs.Viewer.Finishing
import Transcript.Proofs.Viewer.Idle
import Transcript.Proofs.Viewer.RecordedText
import Transcript.Proofs.Viewer.RecordedEnvelopes
import Transcript.Proofs.Viewer.Settled
import Transcript.Proofs.Stream.WireForm
import Transcript.Proofs.Stream.FrameText
import Transcript.Proofs.Stream.Source
import Transcript.Proofs.Storage.StoredRun
import Transcript.Proofs.Storage.LogLines
import Transcript.Proofs.Storage.StoredEnvelopes
import Transcript.Proofs.Storage.StoredMessages
import Transcript.Proofs.Conversation.Outcomes
import Transcript.Proofs.Viewer.Failing
import Transcript.Proofs.Viewer.Opening
import Transcript.Proofs.Conversation.GrowingTexts
import Transcript.Proofs.Conversation.Triggers
import Transcript.Proofs.Conversation.NewFields
import Transcript.Proofs.Settings
