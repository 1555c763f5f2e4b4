import Promotions.Main
import Promotions.Service.FanOut
import Promotions.Sync
import Promotions.Proofs.Fallible
import Promotions.Proofs.Resolution.Run
import Promotions.Proofs.Resolution.Totals
import Promotions.Proofs.Correspondence
import Promotions.Proofs.Resolution.Stages
import Promotions.Proofs.Resolution.Compatibility
import Promotions.Proofs.Grouping.UnitPrices
import Promotions.Proofs.Grouping.Greedy
import Promotions.Proofs.Grouping.MixMatch
import Promotions.Proofs.Resolution.Order
import Promotions.Proofs.Resolution.Reasons
import Promotions.Proofs.Resolution.Removal
import Promotions.Proofs.Ledger.Interleaving
import Promotions.Proofs.Compile.Documents
import Promotions.Proofs.Compile.Settings
import Promotions.Proofs.Eligibility.Gates
import Promotions.Proofs.Compile.WellFormed
import Promotions.Proofs.Batch.Store
import Promotions.Proofs.Ledger.Alone
import Promotions.Proofs.Service.Settle
import Promotions.Proofs.Service.Cap
import Promotions.Proofs.Compile.Checks
import Promotions.Proofs.Json.Written
import Promotions.Proofs.Text.Calendar
import Promotions.Proofs.Text.Numbers
import Promotions.Proofs.Json.Codec
import Promotions.Proofs.Document.Record
import Promotions.Proofs.Document.Fingerprint
import Promotions.Proofs.Compile.Fingerprints
import Promotions.Proofs.Sync
import Promotions.Proofs.Compile.Edits
import Promotions.Proofs.Compile.Canonical
import Promotions.Proofs.Compile.Equality
import Promotions.Proofs.Eligibility.Alike
import Promotions.Proofs.Grouping.Units
import Promotions.Proofs.Eligibility.Places
import Promotions.Proofs.Eligibility.BrandSpend
import Promotions.Proofs.Eligibility.Voided
import Promotions.Proofs.Amounts
import Promotions.Proofs.Eligibility.Lines
import Promotions.Proofs.Eligibility.Layout
import Promotions.Proofs.Decimal.Percent
import Promotions.Proofs.Grouping.Rows
import Promotions.Proofs.Eligibility.Ordinary
import Promotions.Proofs.Eligibility.Untargeted
import Promotions.Proofs.Resolution.Prior
import Promotions.Proofs.Batch.Company
import Promotions.Proofs.Service.Company
import Promotions.Proofs.Eligibility.GateOrder
import Promotions.Proofs.Eligibility.StoredTwice
import Promotions.Proofs.Loading
import Promotions.Proofs.Eligibility.FixedPrices
import Promotions.Proofs.Decimal.Exact
import Promotions.Proofs.Eligibility.PriorDiscount
import Promotions.Proofs.Eligibility.PackagePrice
import Promotions.Proofs.Grouping.Renamed
import Promotions.Proofs.Eligibility.Renamed
import Promotions.Proofs.Eligibility.Granted
import Promotions.Proofs.Eligibility.CrossBrand
import Promotions.Proofs.Batch.Isolation
import Promotions.Proofs.Calendar.DayNumbers
import Promotions.Proofs.Batch.Window
import Promotions.Proofs.Eligibility.Tiers
import Promotions.Proofs.Grouping.Taking
import Promotions.Proofs.Loading.History
import Promotions.Proofs.Grouping.Rounds
import Promotions.Proofs.Grouping.UnitByUnit
