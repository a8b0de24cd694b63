import Shortlist.Cache.Rounds
import Shortlist.Main
import Shortlist.Proofs.Cache.Atomic
import Shortlist.Proofs.Cache.Decisions
import Shortlist.Proofs.Cache.Noninterference
import Shortlist.Proofs.Cache.Window
import Shortlist.Proofs.Exclusions.Grammar
import Shortlist.Proofs.Exclusions.Regrouping
import Shortlist.Proofs.Pool.Repeated
import Shortlist.Proofs.Pool.Split
import Shortlist.Proofs.Product.Json
import Shortlist.Proofs.Random.Contract
import Shortlist.Proofs.Recommender.Accounts
import Shortlist.Proofs.Recommender.Transparent
import Shortlist.Proofs.Selection.Candidates
import Shortlist.Proofs.Selection.Fair
import Shortlist.Proofs.Service.Exclusion
import Shortlist.Proofs.Service.Flags
import Shortlist.Proofs.Service.Outcome
import Shortlist.Proofs.Settings.Load
import Shortlist.Proofs.Settings.Overrides
import Shortlist.Random.Seeded
import Shortlist.Recommender.Reception
import Shortlist.Telemetry.Metrics
import Shortlist.Telemetry.Trace
