import Failover.Config.Selection
import Failover.Proofs.Effects
import Failover.Proofs.Rehearsals
import Failover.Proofs.Verdicts
import Failover.Proofs.Cancellation
import Failover.Proofs.Groups
import Failover.Proofs.Rotation
import Failover.Proofs.Buckets
import Failover.Proofs.Budgets
import Failover.Proofs.RateChanges
import Failover.Proofs.ClockLimits
import Failover.Proofs.Histories
import Failover.Proofs.Walks
import Failover.Proofs.Construction
import Failover.Proofs.Classification
import Failover.Proofs.RoundTrips
import Failover.Proofs.LetterCase
import Failover.Proofs.Sigmas
import Failover.Proofs.Purges
import Failover.Proofs.Independence
import Failover.Proofs.Targets
import Failover.Proofs.Polls
import Failover.Proofs.Hints
import Failover.Proofs.Masks
import Failover.Proofs.StandingClock
import Failover.Proofs.Retries
