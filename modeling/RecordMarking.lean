import RecordMarking.Session
import RecordMarking.Endpoint.Run
import RecordMarking.Distribution.Description
import RecordMarking.Main
import RecordMarking.Proofs.RoundTrip
import RecordMarking.Proofs.Opening
import RecordMarking.Proofs.Skipping
import RecordMarking.Proofs.Assembly
import RecordMarking.Proofs.Residue
import RecordMarking.Proofs.Endpoint.Performed
import RecordMarking.Proofs.Endpoint.Reception
import RecordMarking.Proofs.Endpoint.Rejection
import RecordMarking.Proofs.Endpoint.Agreement
import RecordMarking.Proofs.Endpoint.Transfer
import RecordMarking.Proofs.Endpoint.Delivery
import RecordMarking.Proofs.Endpoint.Reconnection
import RecordMarking.Proofs.Failures
import RecordMarking.Proofs.Output
import RecordMarking.Proofs.Transcript
import RecordMarking.Proofs.Endpoint.Retention
import RecordMarking.Proofs.Partition
import RecordMarking.Proofs.Canonical
import RecordMarking.Proofs.Draining
import RecordMarking.Proofs.Repetition
import RecordMarking.Proofs.Containment
import RecordMarking.Proofs.ReadingBack
import RecordMarking.Proofs.Sharing
import RecordMarking.Proofs.Endpoint.Bounds
import RecordMarking.Proofs.Replies
import RecordMarking.Proofs.Endpoint.Sending
import RecordMarking.Proofs.Interoperation
import RecordMarking.Proofs.Endpoint.Lifecycle
import RecordMarking.Proofs.Endpoint.Departure
import RecordMarking.Proofs.Codec
import RecordMarking.Proofs.Requests
import RecordMarking.Proofs.Endpoint.Addresses
