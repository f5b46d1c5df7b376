import Rollup.Main
import Rollup.Chain.Memory
import Rollup.Json.Rounded
import Rollup.Programs
import Rollup.Proofs.Contract.Sorting
import Rollup.Proofs.Verify.Lookups
import Rollup.Proofs.Contract.Validation
import Rollup.Proofs.Verify.Barrier
import Rollup.Proofs.Verify.Candidates
import Rollup.Proofs.Verify.Course
import Rollup.Proofs.Verify.Moves
import Rollup.Proofs.Verify.Collection
import Rollup.Proofs.Verify.Progress
import Rollup.Proofs.Verify.Timeline
import Rollup.Proofs.Verify.Reports
import Rollup.Proofs.Verify.SlotReads
import Rollup.Proofs.Bytes
import Rollup.Proofs.Rlp
import Rollup.Proofs.Word
import Rollup.Proofs.Transaction
import Rollup.Proofs.Verify.Planning
import Rollup.Proofs.Verify.Precedence
import Rollup.Proofs.Verify.Permits
import Rollup.Proofs.Pauses
import Rollup.Proofs.Chain.Retry
import Rollup.Proofs.Fee.Formula
import Rollup.Proofs.Fee.Overflow
import Rollup.Proofs.Fee.Order
import Rollup.Proofs.Bytes.Hex
import Rollup.Proofs.Text.Blank
import Rollup.Proofs.Transaction.Draft
import Rollup.Proofs.CommandLine.Grammar
import Rollup.Proofs.CommandLine.VerifyFlags
import Rollup.Proofs.CommandLine.Session
import Rollup.Proofs.Forge
import Rollup.Proofs.CommandLine.VerifyRun
import Rollup.Proofs.CommandLine.VerifyStatus
import Rollup.Proofs.Verify.Attempts
import Rollup.Proofs.Decimal.Grammar
import Rollup.Proofs.Fee.Calldata
import Rollup.Proofs.Ether
import Rollup.Proofs.Fee.Estimate
import Rollup.Proofs.Quantity
import Rollup.Proofs.Fee.Parameters
import Rollup.Proofs.CommandLine.EstimateRun
import Rollup.Proofs.Ether.Reading
import Rollup.Proofs.CommandLine.EstimateFlags
import Rollup.Proofs.Contract.Topology
import Rollup.Proofs.Chain.Calculator
import Rollup.Proofs.CommandLine.EstimateRequests
import Rollup.Proofs.Json.Grammar
import Rollup.Proofs.Json.Scalar
import Rollup.Proofs.Json.Sequence
import Rollup.Proofs.Json.Skipping
import Rollup.Proofs.Json.Reading
import Rollup.Proofs.Contract.Documents
import Rollup.Proofs.Contract.Outcomes
import Rollup.Proofs.Bytes.Order
import Rollup.Proofs.Contract.Batches
import Rollup.Proofs.Address
import Rollup.Proofs.Contract.ReportText
import Rollup.Proofs.Verify.ReportLines
import Rollup.Proofs.Text.Parts
import Rollup.Proofs.Text.Utf8
import Rollup.Proofs.Forge.Diagnosis
import Rollup.Proofs.Chain.Causes
import Rollup.Proofs.Doubling
import Rollup.Proofs.Chain.Memory
