import MercControl.Activation.Admissions
import MercControl.Activation.Rollback
import MercControl.Agent.BatchedDecoding
import MercControl.Agent.TokenCache
import MercControl.Canary.Admission
import MercControl.Card.CashRecorded
import MercControl.Card.FrozenAmounts
import MercControl.Card.SavedCard
import MercControl.Controls.PauseCache
import MercControl.Controls.WorkerLeader
import MercControl.Envelopes.Accounting
import MercControl.Envelopes.ReserveRace
import MercControl.Liveness.Index
import MercControl.Money.PhantomCapacity
import MercControl.Money.RealtimeFunding
import MercControl.Money.RefundBounds
import MercControl.Payout.LiabilityHistory
import MercControl.Payout.SubsidyClaims
import MercControl.Prepaid.BalanceLedger
import MercControl.Pricing.OutputCeiling
import MercControl.Pricing.RemainderCarry
import MercControl.Pricing.TaskFloors
import MercControl.Pricing.UsageSettles
import MercControl.Projects.Assembly
import MercControl.Projects.Orders
import MercControl.Realtime.Clearing
import MercControl.Realtime.IntentSafety
import MercControl.Realtime.Publication
import MercControl.RiskReserve.Conservation
import MercControl.Scheduler.Lanes
import MercControl.Stripe.ChargeBinding
import MercControl.Stripe.EventOrder
import MercControl.Submission.InputsIntact
import MercControl.Verification.Reapers
import MercControl.Verification.SpendCap
import MercControl.Verification.TaskReserve
import MercControl.Webhooks.Delivery
