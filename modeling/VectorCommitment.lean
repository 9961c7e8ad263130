import VectorCommitment.Codec.Decimal
import VectorCommitment.Codec.Point
import VectorCommitment.Curve.MultiScalar
import VectorCommitment.Curve.Pairing
import VectorCommitment.Json.Encoding
import VectorCommitment.Json.Writer
import VectorCommitment.Scheme.Commitment
import VectorCommitment.Scheme.Setup
import VectorCommitment.Service.Answer
import VectorCommitment.Value.Arithmetic
import VectorCommitment.Value.Mark
import VectorCommitment.Proofs.Field.Inverse
import VectorCommitment.Proofs.Field.Prime
import VectorCommitment.Proofs.Field.Quadratic
import VectorCommitment.Proofs.Field.Target
import VectorCommitment.Proofs.Curve.GroupLaw
import VectorCommitment.Proofs.Curve.Groups
import VectorCommitment.Proofs.Curve.MultiScalar
import VectorCommitment.Proofs.Curve.Pairing
import VectorCommitment.Proofs.Scheme.Setup
import VectorCommitment.Proofs.Scheme.Verification
import VectorCommitment.Proofs.Scheme.Binding
import VectorCommitment.Proofs.Scheme.Units
import VectorCommitment.Proofs.Scheme.Opening
import VectorCommitment.Proofs.Codec.Point
import VectorCommitment.Proofs.Text.Decimal
import VectorCommitment.Proofs.Text.Surrogate
import VectorCommitment.Proofs.Codec.Decimal
import VectorCommitment.Proofs.Service.Records
import VectorCommitment.Proofs.Service.Openings
import VectorCommitment.Proofs.Value.MultiScalar
import VectorCommitment.Proofs.Service.Inventory
import VectorCommitment.Proofs.Service.Ledger
import VectorCommitment.Proofs.Service.Atomicity
import VectorCommitment.Proofs.Service.SetupBody
import VectorCommitment.Proofs.Service.Publication
import VectorCommitment.Proofs.Json.Reader
import VectorCommitment.Proofs.Value.Display
import VectorCommitment.Proofs.Scheme.Faults
import VectorCommitment.Proofs.Service.Faults
import VectorCommitment.Proofs.Codec.Storage
import VectorCommitment.Proofs.Codec.PointDigits
import VectorCommitment.Proofs.Codec.Formats
import VectorCommitment.Proofs.Failure.Ending
import VectorCommitment.Proofs.Scheme.MixedCapacities
import VectorCommitment.Proofs.Scheme.Refusals
import VectorCommitment.Proofs.Scheme.Layout
import VectorCommitment.Proofs.Value.PairingProduct
import VectorCommitment.Proofs.Scheme.Homomorphism
import VectorCommitment.Proofs.Scheme.OpenedValue
import VectorCommitment.Proofs.Service.Lookup
