import Mathlib.Data.List.MinMax
import Mathlib.Data.Prod.Lex

/-!
# Service lanes

What one worker claims.  `ClaimTaskSQL` puts the eligible tasks in an order that
prefers priority tasks until the worker has taken three of them, and then a
batch task; `ClaimTasksTx` keeps the count in the worker's row.
-/

namespace MercControl.Scheduler

inductive Tier
  | batch
  | priority
  | trusted
  deriving DecidableEq

/-- A task that passes the filters of the query for this worker.  The terms of
the order below the lanes are one number. -/
structure Candidate where
  taskId : Nat
  tier : Tier
  pinned : Bool
  locked : Bool
  preference : Nat

def streakLimit : Nat := 3

/-- The lane that the `CASE` of the order puts first. -/
def favouredTier (streak : Nat) : Tier := if streakLimit ≤ streak then .batch else .priority

/-- The `ORDER BY` within one branch of the claim, the first being the least. -/
def Candidate.laneOrder (streak : Nat) (task : Candidate) : Bool ×ₗ Bool ×ₗ Nat :=
  toLex
    (!decide (task.tier = favouredTier streak),
      toLex (!decide (task.tier = .priority), task.preference))

/-- `ClaimTaskSQL`: `SKIP LOCKED` passes over locked rows. -/
def claimTask (streak : Nat) (pinned : Bool) (queue : List Candidate) : Option Candidate :=
  (queue.filter fun task => task.pinned = pinned && !task.locked).argmin
    (Candidate.laneOrder streak)

structure Claim where
  task : Candidate
  queue : List Candidate

/-- The column of the worker's row, and the unpinned claims so far, the last one
first. -/
structure Worker where
  priorityClaimStreak : Nat
  claims : List Claim

def chargedStreak (streak : Nat) : Tier → Nat
  | .priority => min (streak + 1) streakLimit
  | .batch => 0
  | .trusted => streak

/-- One call with the queue at that moment, and which tasks the later checks
refuse: then the transaction is rolled back. -/
structure Call where
  queue : List Candidate
  refused : Candidate → Bool

def claimTasksTx (worker : Worker) (call : Call) : Worker :=
  match claimTask worker.priorityClaimStreak true call.queue with
  | some _ => worker
  | none =>
    match claimTask worker.priorityClaimStreak false call.queue with
    | none => worker
    | some task =>
      if call.refused task then worker
      else
        { priorityClaimStreak := chargedStreak worker.priorityClaimStreak task.tier
          claims := ⟨task, call.queue⟩ :: worker.claims }

def served (calls : List Call) : Worker := calls.foldl claimTasksTx ⟨0, []⟩

def streakOf (claims : List Claim) : Nat :=
  claims.foldr (fun claim streak => chargedStreak streak claim.task.tier) 0

def InOrder : List Claim → Prop
  | [] => True
  | claim :: earlier => claimTask (streakOf earlier) false claim.queue = some claim.task ∧
      InOrder earlier

def Worker.Counted (worker : Worker) : Prop :=
  worker.priorityClaimStreak = streakOf worker.claims ∧ InOrder worker.claims

theorem Worker.Counted.claimTasksTx {worker : Worker} (counted : worker.Counted) (call : Call) :
    (claimTasksTx worker call).Counted := by
  obtain ⟨streak, inOrder⟩ := counted
  unfold Scheduler.claimTasksTx
  split
  · exact ⟨streak, inOrder⟩
  split
  · exact ⟨streak, inOrder⟩
  next task chosen =>
    split_ifs
    · exact ⟨streak, inOrder⟩
    · rw [streak] at chosen ⊢
      exact ⟨rfl, chosen, inOrder⟩

theorem served_counted (calls : List Call) : (served calls).Counted :=
  List.foldlRecOn calls claimTasksTx (⟨rfl, trivial⟩ : Worker.Counted ⟨0, []⟩)
    fun _ counted call _ => counted.claimTasksTx call

theorem InOrder.claimed {later earlier : List Claim} {claim : Claim}
    (inOrder : InOrder (later ++ claim :: earlier)) :
    claimTask (streakOf earlier) false claim.queue = some claim.task := by
  induction later with
  | nil => exact inOrder.1
  | cons _ _ ih => exact ih inOrder.2

def Claim.Offers (claim : Claim) (tier : Tier) : Prop :=
  ∃ task ∈ claim.queue, task.tier = tier ∧ task.pinned = false ∧ task.locked = false

theorem tier_of_offers {claim : Claim} {streak : Nat} {tier : Tier}
    (chosen : claimTask streak false claim.queue = some claim.task)
    (favoured : favouredTier streak = tier) (offers : claim.Offers tier) :
    claim.task.tier = tier := by
  obtain ⟨task, mem, rfl, unpinned, unlocked⟩ := offers
  have available : task ∈ claim.queue.filter fun task => task.pinned = false && !task.locked :=
    List.mem_filter.mpr ⟨mem, by simp [unpinned, unlocked]⟩
  have ahead := Prod.Lex.monotone_fst _ _ (List.le_of_mem_argmin available chosen)
  simpa [Candidate.laneOrder, favoured, Bool.le_iff_imp] using ahead

def chargedTiers (claims : List Claim) : List Tier :=
  (claims.map (·.task.tier)).filter (· ≠ .trusted)

theorem take_chargedTiers (claims : List Claim) :
    (chargedTiers claims).take (streakOf claims) = List.replicate (streakOf claims) .priority := by
  induction claims with
  | nil => rfl
  | cons claim earlier ih =>
    have step : streakOf (claim :: earlier) =
      chargedStreak (streakOf earlier) claim.task.tier := rfl
    rw [step]
    cases tier : claim.task.tier with
    | batch => rfl
    | trusted => simpa [chargedTiers, chargedStreak, tier] using ih
    | priority =>
      have counted : chargedStreak (streakOf earlier) .priority = min 2 (streakOf earlier) + 1 := by
        simp only [chargedStreak, streakLimit]
        omega
      have shorter := congrArg (List.take 2) ih
      rw [List.take_take, List.take_replicate] at shorter
      rw [counted, List.replicate_succ, ← shorter]
      simp [chargedTiers, tier]

/-- What the lanes promise, over the claims of a worker with the last one first. -/
structure LanesFair (claims : List Claim) : Prop where
  batchServed : ∀ later fourth third second first earlier,
    claims = later ++ fourth :: third :: second :: first :: earlier →
    (∀ claim ∈ [fourth, third, second, first], claim.task.tier = .priority) →
      ¬fourth.Offers .batch
  priorityFirst : ∀ later claim earlier, claims = later ++ claim :: earlier →
    claim.task.tier = .batch → claim.Offers .priority →
      (chargedTiers earlier).take streakLimit = List.replicate streakLimit .priority

theorem lanes_fair (calls : List Call) : LanesFair (served calls).claims := by
  have inOrder := (served_counted calls).2
  constructor
  · intro later fourth third second first earlier claims priority offers
    rw [claims] at inOrder
    simp only [List.forall_mem_cons] at priority
    obtain ⟨isFourth, isThird, isSecond, isFirst, -⟩ := priority
    have streak : streakLimit ≤ streakOf (third :: second :: first :: earlier) := by
      simp only [streakOf, List.foldr_cons, isThird, isSecond, isFirst, chargedStreak, streakLimit]
      omega
    have isBatch := tier_of_offers inOrder.claimed (if_pos streak) offers
    cases isFourth.symm.trans isBatch
  · intro later claim earlier claims isBatch offers
    rw [claims] at inOrder
    have streak : streakLimit ≤ streakOf earlier := by
      by_contra below
      have isPriority := tier_of_offers inOrder.claimed (if_neg below) offers
      cases isBatch.symm.trans isPriority
    have counted := congrArg (List.take streakLimit) (take_chargedTiers earlier)
    rwa [List.take_take, List.take_replicate, Nat.min_eq_left streak] at counted

end MercControl.Scheduler
