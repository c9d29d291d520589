import QueryRecorder.Condition
import QueryRecorder.Floor
import QueryRecorder.Idle
import QueryRecorder.Json.Reader
import QueryRecorder.Report
import QueryRecorder.Proofs.Account
import QueryRecorder.Proofs.Course
import QueryRecorder.Proofs.History
import QueryRecorder.Proofs.Sequence
import QueryRecorder.Proofs.Tickets
import QueryRecorder.Proofs.Delivery
import QueryRecorder.Proofs.Bounds
import QueryRecorder.Proofs.Rounds
import QueryRecorder.Proofs.Watch
import QueryRecorder.Proofs.Deadline
import QueryRecorder.Proofs.Verdicts
import QueryRecorder.Proofs.Growth
import QueryRecorder.Proofs.Surveys
import QueryRecorder.Proofs.Endurance
import QueryRecorder.Proofs.Targets
import QueryRecorder.Proofs.Settlement
import QueryRecorder.Proofs.Numerals
import QueryRecorder.Proofs.Parsing
import QueryRecorder.Proofs.Forms
import QueryRecorder.Proofs.RoundTrip
import QueryRecorder.Proofs.Milliseconds
import QueryRecorder.Proofs.Announcements
import QueryRecorder.Proofs.Decoding
import QueryRecorder.Proofs.Documents
import QueryRecorder.Proofs.Environment
import QueryRecorder.Proofs.Wording
import QueryRecorder.Proofs.Arrival
