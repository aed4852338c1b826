import CheckpointRelay.Main
import CheckpointRelay.Proofs.Plan.Refinement
import CheckpointRelay.Proofs.Relay.Commit
import CheckpointRelay.Proofs.Relay.Sent
import CheckpointRelay.Proofs.Abi.Layout
import CheckpointRelay.Proofs.Json.Reading
import CheckpointRelay.Proofs.Transaction.RoundTrip
import CheckpointRelay.Proofs.Relay.Marker
import CheckpointRelay.Proofs.Relay.Success
import CheckpointRelay.Proofs.EventChain
import CheckpointRelay.Proofs.Signer
import CheckpointRelay.Proofs.Address
import CheckpointRelay.Proofs.Plan.Once
import CheckpointRelay.Proofs.Plan.Receivers
import CheckpointRelay.Proofs.Node.Confirm
import CheckpointRelay.Proofs.Abi.Hostile
import CheckpointRelay.Proofs.Transaction.CallData
import CheckpointRelay.Proofs.Plan.Asked
import CheckpointRelay.Proofs.Plan.Rebalancing
import CheckpointRelay.Proofs.Outcome.Transfer
import CheckpointRelay.Proofs.Node.Reply
import CheckpointRelay.Proofs.Relay.Reads
import CheckpointRelay.Proofs.Outcome.Recorded
