import AssetBroker.Json.Basic
import AssetBroker.Json.Parse
import AssetBroker.Decimal.Shortest
import AssetBroker.Decimal.Scaled
import AssetBroker.Json.Print
import AssetBroker.Dict
import AssetBroker.Value
import AssetBroker.Entity
import AssetBroker.Json.Decode
import AssetBroker.Json.Encode
import AssetBroker.Batch
import AssetBroker.Cardinality
import AssetBroker.Context
import AssetBroker.Policy
import AssetBroker.Host
import AssetBroker.Text
import AssetBroker.Request
import AssetBroker.Program
import AssetBroker.Manager
import AssetBroker.Report
import AssetBroker.Scripted
import AssetBroker.Script
import AssetBroker.Inspect
import AssetBroker.Text.Hidden
import AssetBroker.Text.Extending
import AssetBroker.Text.Shown
import AssetBroker.Proofs.Exchanges
import AssetBroker.Proofs.Operation
import AssetBroker.Proofs.Cardinality
import AssetBroker.Proofs.Registration
import AssetBroker.Proofs.Contract
import AssetBroker.Proofs.Rejection
import AssetBroker.Proofs.OneCall
import AssetBroker.Proofs.Pairing
import AssetBroker.Proofs.Broadcasting
import AssetBroker.Proofs.Trace
import AssetBroker.Proofs.Lifecycle
import AssetBroker.Proofs.Dict
import AssetBroker.Proofs.Decoding
import AssetBroker.Proofs.Policy
import AssetBroker.Proofs.Schema
