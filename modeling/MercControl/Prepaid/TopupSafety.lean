import MercControl.Prepaid.TopupCash

/-!
# No top-up backs the same cash twice

The cents of a top-up that are reserved for payouts or held by its refund
slices should stay within the cents received.  The refund plan does not look at
payout reservations, and a payout does not look at slices Stripe has not yet
reported, nor at what other claims reserve after its query has begun.
-/

namespace MercControl.Prepaid

open Library Machine Rows

/-- Reservations and refund slices of each top-up stay within its cash. -/
def Backed (s : State) : Prop :=
  ∀ topup ∈ s.topups,
    reservedCents s topup.paymentIntent + slicedCents s topup.paymentIntent ≤ topup.receivedCents
  deriving Decidable

/-- From the newest top-up on, with `newer` the unrefunded cents of those
already passed: wherever payouts are reserved, the refund and the reservation
fit into the unrefunded cents up to that top-up. -/
def CoversReservations (s : State) (cents : Int) : Int → List Topup → Prop
  | _, [] => True
  | newer, topup :: older =>
    (reservedCents s topup.paymentIntent = 0 ∨
      cents + reservedCents s topup.paymentIntent ≤ newer + refundable s topup) ∧
    CoversReservations s cents (newer + refundable s topup) older

instance decidableCoversReservations (s : State) (cents : Int) :
    ∀ (newer : Int) (topups : List Topup), Decidable (CoversReservations s cents newer topups)
  | _, [] => isTrue trivial
  | newer, topup :: older =>
    @instDecidableAnd _ _ inferInstance
      (decidableCoversReservations s cents (newer + refundable s topup) older)

def unrefundedCents (s : State) (topups : List Topup) : Int :=
  sumWhere (fun _ => true) (refundable s) topups

/-- A new refund that can be traced leaves the reservations covered; a new
payout fits the top-up it lands on, net of its refund slices and of what is
reserved by now. -/
def KeepsCashApart (factor : Nat) (s : State) : Event → Prop
  | .beginRefund key held =>
    (s.slices.any fun slice => decide (slice.refundKey = key)) = false →
      0 < refundCents factor s held →
      refundCents factor s held ≤ unrefundedCents s s.topups.reverse →
        CoversReservations s (refundCents factor s held) 0 s.topups.reverse
  | .reservePayout entry =>
    ∀ claim ∈ s.claims.find? (PayoutClaim.isOf entry),
      ∀ candidate ∈ claim.candidates.find? (Candidate.fits claim.requested),
        claim.requested + reservedCents s candidate.paymentIntent +
          slicedCents s candidate.paymentIntent ≤ candidate.receivedCents
  | _ => True

instance (factor : Nat) (s : State) (event : Event) :
    Decidable (KeepsCashApart factor s event) := by
  cases event <;> unfold KeepsCashApart <;> infer_instance

def Topup.isCandidate (topup : Topup) (candidate : Candidate) : Prop :=
  topup.paymentIntent = candidate.paymentIntent ∧ topup.receivedCents = candidate.receivedCents

/-- Payment intents are distinct, and slices, reservations and claims are
positive amounts against known top-ups. -/
structure WellFormed (s : State) : Prop where
  distinct : (s.topups.map Topup.paymentIntent).Nodup
  slices : ∀ slice ∈ s.slices,
    0 < slice.cents ∧ slice.paymentIntent ∈ s.topups.map Topup.paymentIntent
  funding : ∀ row ∈ s.funding, 0 < row.cents ∧ row.paymentIntent ∈ s.topups.map Topup.paymentIntent
  claims : ∀ claim ∈ s.claims, 0 < claim.requested ∧
    ∀ candidate ∈ claim.candidates, ∃ topup ∈ s.topups, topup.isCandidate candidate

variable {s next : State} {intent : PaymentIntent} {topups : List Topup}
  {cents requested : Int} {factor key held entry refundId : Nat}

theorem WellFormed.empty : WellFormed State.empty where
  distinct := List.nodup_nil
  slices := by simp [State.empty]
  funding := by simp [State.empty]
  claims := by simp [State.empty]

theorem WellFormed.reserved_nonneg (wellFormed : WellFormed s) (intent : PaymentIntent) :
    0 ≤ reservedCents s intent :=
  sumWhere_nonneg fun row mem _ => Int.le_of_lt (wellFormed.funding row mem).1

theorem WellFormed.unknown_intent (wellFormed : WellFormed s)
    (unknown : intent ∉ s.topups.map Topup.paymentIntent) :
    reservedCents s intent = 0 ∧ slicedCents s intent = 0 := by
  constructor
  · apply sumWhere_eq_zero
    intro row mem chosen
    have same : row.paymentIntent = intent := by simpa using chosen
    exact absurd (same ▸ (wellFormed.funding row mem).2) unknown
  apply sumWhere_eq_zero
  intro slice mem chosen
  have same : slice.paymentIntent = intent := by
    simp only [Bool.and_eq_true, decide_eq_true_eq] at chosen
    exact chosen.1
  exact absurd (same ▸ (wellFormed.slices slice mem).2) unknown

variable {remaining : Int} {change : RefundSlice → RefundSlice}

def plannedCents (slices : List RefundSlice) (intent : PaymentIntent) : Int :=
  sumWhere (fun slice => decide (slice.paymentIntent = intent) && slice.holds)
    RefundSlice.cents slices

theorem backed_append_iff {planned : List RefundSlice} {balance : Int} :
    Backed { s with balanceMicros := balance, slices := s.slices ++ planned } ↔
      ∀ topup ∈ s.topups, plannedCents planned topup.paymentIntent +
        reservedCents s topup.paymentIntent ≤ refundable s topup := by
  refine forall₂_congr fun topup _ => ?_
  simp only [plannedCents, refundable, slicedCents, sumWhere_append, reservedCents]
  omega

theorem mem_planPrepaidRefundSlices {slice : RefundSlice}
    (mem : slice ∈ (planPrepaidRefundSlices s key topups remaining).1) :
    0 < slice.cents ∧ slice.paymentIntent ∈ topups.map Topup.paymentIntent := by
  induction topups generalizing remaining with
  | nil => simp [planPrepaidRefundSlices] at mem
  | cons topup older ih =>
    rw [planPrepaidRefundSlices] at mem
    split at mem
    · have tail := ih mem
      exact ⟨tail.1, List.mem_cons_of_mem _ tail.2⟩
    next open_ =>
      rcases List.mem_cons.mp mem with head | later
      · rw [head]
        constructor
        · simp only
          omega
        · simp
      · have tail := ih later
        exact ⟨tail.1, List.mem_cons_of_mem _ tail.2⟩

theorem plannedCents_eq_zero (absent : intent ∉ topups.map Topup.paymentIntent) :
    plannedCents (planPrepaidRefundSlices s key topups remaining).1 intent = 0 := by
  apply sumWhere_eq_zero
  intro slice mem chosen
  have same : slice.paymentIntent = intent := by
    simp only [Bool.and_eq_true, decide_eq_true_eq] at chosen
    exact chosen.1
  exact absurd (same ▸ (mem_planPrepaidRefundSlices mem).2) absent

theorem planPrepaidRefundSlices_untraced {newer : Int}
    (nonneg : ∀ topup ∈ topups, 0 ≤ refundable s topup) :
    (planPrepaidRefundSlices s key topups (max 0 (cents - newer))).2 =
      max 0 (cents - (newer + unrefundedCents s topups)) := by
  induction topups generalizing newer with
  | nil => simp [planPrepaidRefundSlices, unrefundedCents]
  | cons topup older ih =>
    have headNonneg := nonneg topup List.mem_cons_self
    have tail := @ih (newer + refundable s topup) fun other mem =>
      nonneg other (List.mem_cons_of_mem topup mem)
    have total :
        unrefundedCents s (topup :: older) = refundable s topup + unrefundedCents s older := by
      simp [unrefundedCents]
    rw [planPrepaidRefundSlices, total, ← Int.add_assoc, ← tail]
    split
    · congr 2
      omega
    · simp only
      congr 2
      omega

theorem planPrepaidRefundSlices_left (nonneg : ∀ topup ∈ s.topups, 0 ≤ refundable s topup)
    (pos : 0 < cents) :
    (planPrepaidRefundSlices s key s.topups.reverse cents).2 =
      max 0 (cents - unrefundedCents s s.topups.reverse) := by
  have left : (planPrepaidRefundSlices s key s.topups.reverse (max 0 (cents - 0))).2 = _ :=
    planPrepaidRefundSlices_untraced fun topup mem => nonneg topup (List.mem_reverse.mp mem)
  rwa [Int.sub_zero, Int.max_eq_right pos.le, Int.zero_add] at left

/-- The plan keeps every top-up of the walk within its cash exactly when the
reservations stay covered. -/
theorem planPrepaidRefundSlices_keeps_iff {newer : Int}
    (distinct : (topups.map Topup.paymentIntent).Nodup)
    (nonneg : ∀ topup ∈ topups, 0 ≤ reservedCents s topup.paymentIntent)
    (within : ∀ topup ∈ topups, reservedCents s topup.paymentIntent ≤ refundable s topup) :
    (∀ topup ∈ topups, plannedCents (planPrepaidRefundSlices s key topups (max 0 (cents - newer))).1
          topup.paymentIntent +
        reservedCents s topup.paymentIntent ≤ refundable s topup) ↔
      CoversReservations s cents newer topups := by
  induction topups generalizing newer with
  | nil => simp [CoversReservations]
  | cons topup older ih =>
    rw [List.map_cons, List.nodup_cons] at distinct
    obtain ⟨fresh, olderDistinct⟩ := distinct
    have headNonneg := nonneg topup List.mem_cons_self
    have headWithin := within topup List.mem_cons_self
    have tail := @ih (newer + refundable s topup) olderDistinct
      (fun other mem => nonneg other (List.mem_cons_of_mem _ mem))
      (fun other mem => within other (List.mem_cons_of_mem _ mem))
    have olderDifferent : ∀ other ∈ older, topup.paymentIntent ≠ other.paymentIntent := by
      intro other mem same
      exact fresh (same ▸ List.mem_map_of_mem mem)
    rw [planPrepaidRefundSlices, CoversReservations, List.forall_mem_cons, ← tail]
    split
    · next closed =>
        have sameRemaining :
            max 0 (cents - newer) = max 0 (cents - (newer + refundable s topup)) := by
          omega
        rw [sameRemaining, plannedCents_eq_zero fresh]
        apply and_congr_left'
        omega
    · next open_ =>
        have sameRemaining :
            max 0 (cents - newer) - min (refundable s topup) (max 0 (cents - newer)) =
              max 0 (cents - (newer + refundable s topup)) := by
          omega
        simp only [sameRemaining]
        apply and_congr
        · simp only [plannedCents, sumWhere_cons, RefundSlice.holds]
          have tailZero : plannedCents (planPrepaidRefundSlices s key older
                  (max 0 (cents - (newer + refundable s topup)))).1
                topup.paymentIntent = 0 :=
            plannedCents_eq_zero fresh
          simp only [plannedCents, RefundSlice.holds] at tailZero
          simp
          omega
        · apply forall₂_congr
          intro other mem
          have ne := olderDifferent other mem
          simp [plannedCents, ne]

theorem Backed.of_le (backed : Backed s) (sameTopups : next.topups = s.topups)
    (reservedLess : ∀ intent, reservedCents next intent ≤ reservedCents s intent)
    (slicedLess : ∀ intent, slicedCents next intent ≤ slicedCents s intent) : Backed next := by
  intro topup mem
  rw [sameTopups] at mem
  have before := backed topup mem
  have reserved := reservedLess topup.paymentIntent
  have sliced := slicedLess topup.paymentIntent
  omega

/-- What a committed refund does: a replay changes nothing, a new refund adds
its planned slices. -/
theorem beginPrepaidRefund_cases (ran : beginPrepaidRefund factor s key held = .ok next) :
    (s.slices.any fun slice => decide (slice.refundKey = key)) = true ∧ next = s ∨
      (s.slices.any fun slice => decide (slice.refundKey = key)) = false ∧
        0 < refundCents factor s held ∧
        (planPrepaidRefundSlices s key s.topups.reverse (refundCents factor s held)).2 ≤ 0 ∧
        next =
          { s with
            balanceMicros := s.balanceMicros - refundCents factor s held * factor
            slices := s.slices ++ (planPrepaidRefundSlices s key s.topups.reverse
                  (refundCents factor s held)).1 } := by
  rw [beginPrepaidRefund] at ran
  split at ran
  · next replayed => exact .inl ⟨replayed, (Except.ok.inj ran).symm⟩
  · next fresh =>
      simp only [ite_error_eq_ok, Except.ok.injEq, not_le, not_lt] at ran
      obtain ⟨-, pos, traced, same⟩ := ran
      exact .inr ⟨by simpa using fresh, pos, traced, same.symm⟩

/-- A refund that fails is either a replay, has nothing to refund or cannot be
traced to unrefunded top-ups. -/
theorem beginPrepaidRefund_failed {failure : Failure}
    (failed : beginPrepaidRefund factor s key held = .error failure)
    (nonneg : ∀ topup ∈ s.topups, 0 ≤ refundable s topup) (pos : 0 < refundCents factor s held) :
    unrefundedCents s s.topups.reverse < refundCents factor s held := by
  rw [beginPrepaidRefund] at failed
  split at failed
  · cases failed
  split at failed
  · next empty =>
      have nothing : refundCents factor s held ≤ 0 := by
        rcases Nat.eq_zero_or_pos factor with none | some_
        · simp [refundCents, none]
        · exact Int.ediv_nonpos_of_nonpos_of_neg empty (by omega)
      omega
  · split at failed
    · omega
    simp only at failed
    split at failed
    · next untraced =>
        rw [planPrepaidRefundSlices_left nonneg pos] at untraced
        omega
    · cases failed

theorem beginPrepaidRefund_wellFormed (wellFormed : WellFormed s)
    (ran : beginPrepaidRefund factor s key held = .ok next) : WellFormed next := by
  rcases beginPrepaidRefund_cases ran with ⟨-, same⟩ | ⟨-, -, -, same⟩
  · exact same ▸ wellFormed
  · subst same
    refine ⟨wellFormed.distinct, ?_, wellFormed.funding, wellFormed.claims⟩
    intro slice mem
    rcases List.mem_append.mp mem with earlier | planned
    · exact wellFormed.slices slice earlier
    · have facts := mem_planPrepaidRefundSlices planned
      simpa using facts

theorem beginPrepaidRefund_backed_iff (wellFormed : WellFormed s) (backed : Backed s) :
    Backed (apply (step factor) s (.beginRefund key held)) ↔
      KeepsCashApart factor s (.beginRefund key held) := by
  have within : ∀ topup ∈ s.topups.reverse,
      reservedCents s topup.paymentIntent ≤ refundable s topup := by
    intro topup mem
    have bound := backed topup (List.mem_reverse.mp mem)
    simp only [refundable]
    omega
  have nonneg : ∀ topup ∈ s.topups, 0 ≤ refundable s topup := by
    intro topup mem
    have reserved := wellFormed.reserved_nonneg topup.paymentIntent
    have bound := within topup (List.mem_reverse.mpr mem)
    omega
  have distinct : (s.topups.reverse.map Topup.paymentIntent).Nodup := by
    rw [List.map_reverse]
    exact List.nodup_reverse.mpr wellFormed.distinct
  have keeps := @planPrepaidRefundSlices_keeps_iff s _ (refundCents factor s held) key 0 distinct
    (fun topup _ => wellFormed.reserved_nonneg topup.paymentIntent) within
  cases outcome : beginPrepaidRefund factor s key held with
  | error =>
    rw [apply_of_error outcome]
    refine iff_of_true backed ?_
    intro _ pos traced
    have short := beginPrepaidRefund_failed outcome nonneg pos
    omega
  | ok =>
    rw [apply_of_ok outcome]
    rcases beginPrepaidRefund_cases outcome with ⟨replayed, same⟩ | ⟨fresh, pos, traced, same⟩
    · subst same
      refine iff_of_true backed ?_
      intro fresh
      rw [replayed] at fresh
      cases fresh
    · have cents : max 0 (refundCents factor s held - 0) = refundCents factor s held := by omega
      rw [cents] at keeps
      rw [planPrepaidRefundSlices_left nonneg pos] at traced
      have enough : refundCents factor s held ≤ unrefundedCents s s.topups.reverse := by omega
      have condition : KeepsCashApart factor s (.beginRefund key held) ↔
            CoversReservations s (refundCents factor s held) 0 s.topups.reverse :=
        ⟨fun meets => meets fresh pos enough, fun covers _ _ _ => covers⟩
      rw [condition, ← keeps, same, backed_append_iff]
      simp only [List.mem_reverse]

def RefundSlice.operation (slice : RefundSlice) : Nat × PaymentIntent :=
  (slice.refundKey, slice.paymentIntent)

def KeepsSlice (change : RefundSlice → RefundSlice) : Prop :=
  ∀ slice, (change slice).operation = slice.operation ∧ (change slice).cents = slice.cents

theorem KeepsSlice.paymentIntent {slice : RefundSlice} (kept : KeepsSlice change) :
    (change slice).paymentIntent = slice.paymentIntent :=
  congrArg Prod.snd (kept slice).1

/-- At most the pending slice of a refund is written, and it does not fail. -/
def Marks (key : Nat) (intent : PaymentIntent) (s next : State) : Prop :=
  next = s ∨ ∃ change, KeepsSlice change ∧
    (∀ slice, slice.status = .pending → (change slice).status ≠ .failed) ∧
    next = { s with slices := updateWhere (RefundSlice.isPendingOf key intent) change s.slices }

theorem recordPrepaidRefundProviderId_marks
    (ran : recordPrepaidRefundProviderId s key intent refundId = .ok next) :
    Marks key intent s next := by
  rw [recordPrepaidRefundProviderId] at ran
  split at ran
  · cases ran
  split_ifs at ran
  · refine .inr ⟨_, ?_, ?_, (Except.ok.inj ran).symm⟩
    · exact fun _ => ⟨rfl, rfl⟩
    · exact fun slice pending => by simp [pending]
  · exact .inl (Except.ok.inj ran).symm

theorem completePrepaidRefund_marks (ran : completePrepaidRefund s key intent refundId = .ok next) :
    Marks key intent s next := by
  rw [completePrepaidRefund] at ran
  split at ran
  · cases ran
  split_ifs at ran
  · refine .inr ⟨_, ?_, ?_, (Except.ok.inj ran).symm⟩
    · exact fun _ => ⟨rfl, rfl⟩
    · exact fun _ _ => nofun
  · exact .inl (Except.ok.inj ran).symm

section

variable (wellFormed : WellFormed s)

include wellFormed

theorem beginPayoutClaim_safe (ran : beginPayoutClaim s entry requested = .ok next) :
    WellFormed next ∧ (Backed s → Backed next) := by
  rw [beginPayoutClaim, ite_error_eq_ok] at ran
  obtain ⟨-, ran⟩ := ran
  split at ran
  · rw [ite_error_eq_ok, Except.ok.injEq] at ran
    exact ran.2 ▸ ⟨wellFormed, id⟩
  · rw [ite_error_eq_ok, Except.ok.injEq] at ran
    obtain ⟨pos, rfl⟩ := ran
    refine ⟨{ wellFormed with claims := forall_concat wellFormed.claims ⟨not_le.mp pos, ?_⟩ }, id⟩
    intro candidate mem
    obtain ⟨topup, isTopup, rfl⟩ := List.mem_map.mp mem
    exact ⟨topup, isTopup, rfl, rfl⟩

theorem endClaim_safe (entry : Nat) :
    WellFormed (s.endClaim entry) ∧ (Backed s → Backed (s.endClaim entry)) :=
  ⟨{ wellFormed with
      claims := fun claim mem => wellFormed.claims claim (List.mem_of_mem_filter mem) }, id⟩

theorem WellFormed.candidate {claim : PayoutClaim} {candidate : Candidate}
    (isClaim : s.claims.find? (PayoutClaim.isOf entry) = some claim)
    (fitting : claim.candidates.find? (Candidate.fits claim.requested) = some candidate) :
    0 < claim.requested ∧ ∃ topup ∈ s.topups, topup.isCandidate candidate := by
  obtain ⟨pos, known⟩ := wellFormed.claims claim (List.mem_of_find?_eq_some isClaim)
  exact ⟨pos, known candidate (List.mem_of_find?_eq_some fitting)⟩

theorem reserveBuyerTopupPayoutFunding_wellFormed
    (ran : reserveBuyerTopupPayoutFunding s entry = .ok next) : WellFormed next := by
  have ended := (endClaim_safe wellFormed entry).1
  rw [reserveBuyerTopupPayoutFunding] at ran
  split at ran
  · cases ran
  rename_i claim isClaim
  split at ran <;> cases ran
  · exact ended
  · rename_i candidate fitting
    obtain ⟨pos, topup, isTopup, sameIntent, -⟩ := wellFormed.candidate isClaim fitting
    refine { ended with funding := forall_concat ended.funding ⟨pos, ?_⟩ }
    exact sameIntent ▸ List.mem_map_of_mem isTopup

theorem reservePayout_backed_iff (backed : Backed s) :
    Backed (apply (step factor) s (.reservePayout entry)) ↔
      KeepsCashApart factor s (.reservePayout entry) := by
  cases isClaim : s.claims.find? (PayoutClaim.isOf entry) with
  | none => simp [apply, step, reserveBuyerTopupPayoutFunding, KeepsCashApart, isClaim, backed]
  | some claim =>
    cases fitting : claim.candidates.find? (Candidate.fits claim.requested) with
    | none =>
      have ended := (endClaim_safe wellFormed entry).2 backed
      simp [apply, step, reserveBuyerTopupPayoutFunding, KeepsCashApart, isClaim, fitting, ended]
    | some candidate =>
      obtain ⟨-, topup, isTopup, sameIntent, sameCash⟩ := wellFormed.candidate isClaim fitting
      have ran : step factor s (.reservePayout entry) = .ok { s.endClaim entry with
            funding := s.funding ++ [⟨entry, candidate.paymentIntent, claim.requested⟩] } := by
        simp [step, reserveBuyerTopupPayoutFunding, isClaim, fitting]
      have condition : KeepsCashApart factor s (.reservePayout entry) ↔
            claim.requested + reservedCents s topup.paymentIntent +
              slicedCents s topup.paymentIntent ≤ topup.receivedCents := by
        simp [KeepsCashApart, isClaim, fitting, sameIntent, sameCash]
      rw [apply_of_ok ran, condition, ← sameIntent]
      have reserved : ∀ intent, reservedCents { s.endClaim entry with
            funding := s.funding ++ [⟨entry, topup.paymentIntent, claim.requested⟩] } intent =
          reservedCents s intent + if topup.paymentIntent = intent then claim.requested else 0 := by
        simp [reservedCents]
      constructor
      · intro after
        have bound := after topup isTopup
        rw [reserved, if_pos rfl] at bound
        change _ + slicedCents s _ ≤ _ at bound
        omega
      · intro fits other isOther
        have before := backed other isOther
        rw [reserved]
        change _ + slicedCents s _ ≤ _
        split_ifs with same
        · obtain rfl := List.inj_on_of_nodup_map wellFormed.distinct isTopup isOther same
          omega
        · omega

theorem creditPrepaidTopup_safe (ran : creditPrepaidTopup factor s intent cents = .ok next) :
    WellFormed next ∧ (Backed s → Backed next) := by
  rw [creditPrepaidTopup] at ran
  simp only [ite_error_eq_ok, not_le] at ran
  obtain ⟨_, ran⟩ := ran
  cases known : s.topups.find? fun row => decide (row.paymentIntent = intent) with
  | some =>
    simp only [known, ite_error_eq_ok, Except.ok.injEq] at ran
    obtain ⟨-, same⟩ := ran
    exact same ▸ ⟨wellFormed, id⟩
  | none =>
    simp only [known, Except.ok.injEq] at ran
    have fresh : ∀ topup ∈ s.topups, topup.paymentIntent ≠ intent := by
      intro topup mem same
      have absent := List.find?_eq_none.mp known topup mem
      simp [same] at absent
    have unknown : intent ∉ s.topups.map Topup.paymentIntent := by
      intro mem
      obtain ⟨topup, topupMem, same⟩ := List.mem_map.mp mem
      exact fresh topup topupMem same
    obtain ⟨noReserved, noSliced⟩ := wellFormed.unknown_intent unknown
    have grown : ∀ other, other ∈ s.topups.map Topup.paymentIntent →
          other ∈ (s.topups ++ [(⟨intent, cents⟩ : Topup)]).map Topup.paymentIntent := by
      intro other mem
      rw [List.map_append]
      exact List.mem_append_left _ mem
    subst ran
    refine ⟨⟨?_, ?_, ?_, ?_⟩, ?_⟩
    · exact nodup_concat wellFormed.distinct fresh
    · intro slice mem
      have facts := wellFormed.slices slice mem
      exact ⟨facts.1, grown _ facts.2⟩
    · intro row mem
      have facts := wellFormed.funding row mem
      exact ⟨facts.1, grown _ facts.2⟩
    · intro claim mem
      obtain ⟨pos, known⟩ := wellFormed.claims claim mem
      refine ⟨pos, fun candidate isCandidate => ?_⟩
      obtain ⟨topup, isTopup, same⟩ := known candidate isCandidate
      exact ⟨topup, List.mem_append_left _ isTopup, same⟩
    · intro backed
      refine forall_concat backed ?_
      simp only [reservedCents, slicedCents] at noReserved noSliced ⊢
      omega

theorem updateSlices_safe (kept : KeepsSlice change) (balance : Int) :
    let updated :=
      { s with
        balanceMicros := balance
        slices := updateWhere (RefundSlice.isPendingOf key intent) change s.slices }
    WellFormed updated ∧ (Backed s → Backed updated) := by
  refine ⟨{ wellFormed with slices := forall_updateWhere wellFormed.slices ?_ },
    fun backed => backed.of_le rfl (fun _ => le_rfl) fun tested => ?_⟩
  · intro slice mem _
    rw [(kept slice).2, kept.paymentIntent]
    exact wellFormed.slices slice mem
  apply sumWhere_updateWhere_le
  intro slice mem touched
  have pending : slice.status = .pending := by
    simp only [RefundSlice.isPendingOf, Bool.and_eq_true, decide_eq_true_eq] at touched
    exact touched.2
  have pos := (wellFormed.slices slice mem).1
  rw [(kept slice).2, kept.paymentIntent]
  by_cases same : slice.paymentIntent = tested
  · simp only [same, RefundSlice.holds, pending, decide_true, Bool.true_and, Bool.true_or, if_true]
    split <;> omega
  · simp [same]

theorem Marks.safe (marks : Marks key intent s next) :
    WellFormed next ∧ (Backed s → Backed next) := by
  rcases marks with rfl | ⟨change, kept, -, rfl⟩
  · exact ⟨wellFormed, id⟩
  · exact updateSlices_safe wellFormed kept _

theorem failPrepaidRefund_safe (ran : failPrepaidRefund factor s key intent refundId = .ok next) :
    WellFormed next ∧ (Backed s → Backed next) := by
  rw [failPrepaidRefund] at ran
  split at ran
  · cases ran
  simp only [ite_error_eq_ok] at ran
  obtain ⟨-, ran⟩ := ran
  split at ran
  · exact Except.ok.inj ran ▸ ⟨wellFormed, id⟩
  · cases ran
  · exact Except.ok.inj ran ▸ updateSlices_safe wellFormed (by exact fun _ => ⟨rfl, rfl⟩) _

end

theorem step_safe {event : Event} (wellFormed : WellFormed s)
    (noRefund : ∀ key held, event ≠ .beginRefund key held)
    (noPayout : ∀ entry, event ≠ .reservePayout entry)
    (ran : step factor s event = .ok next) : WellFormed next ∧ (Backed s → Backed next) := by
  have same : ∀ balance refunded disputed,
      let updated := { s with
        balanceMicros := balance, refundedCents := refunded, disputedCents := disputed }
      WellFormed updated ∧ (Backed s → Backed updated) :=
    fun _ _ _ => ⟨{ wellFormed with }, id⟩
  cases event with
  | topup => exact creditPrepaidTopup_safe wellFormed ran
  | spend =>
    simp only [step, ite_error_eq_ok, Except.ok.injEq] at ran
    exact ran.2 ▸ same _ _ _
  | giveBack | stripeCash => exact Except.ok.inj ran ▸ same _ _ _
  | beginRefund key held => exact absurd rfl (noRefund key held)
  | recordProviderId => exact (recordPrepaidRefundProviderId_marks ran).safe wellFormed
  | failRefund => exact failPrepaidRefund_safe wellFormed ran
  | completeRefund => exact (completePrepaidRefund_marks ran).safe wellFormed
  | beginPayout => exact beginPayoutClaim_safe wellFormed ran
  | reservePayout entry => exact absurd rfl (noPayout entry)
  | abandonPayout => exact Except.ok.inj ran ▸ endClaim_safe wellFormed _

theorem step_wellFormed (s : State) (event : Event) (next : State)
    (wellFormed : WellFormed s) (ran : step factor s event = .ok next) : WellFormed next := by
  cases event with
  | beginRefund => exact beginPrepaidRefund_wellFormed wellFormed ran
  | reservePayout => exact reserveBuyerTopupPayoutFunding_wellFormed wellFormed ran
  | topup | spend | giveBack | recordProviderId | failRefund | completeRefund | beginPayout
  | abandonPayout | stripeCash =>
    exact (step_safe wellFormed (by simp) (by simp) ran).1

theorem step_backed_iff (s : State) (event : Event) (wellFormed : WellFormed s)
    (backed : Backed s) : Backed (apply (step factor) s event) ↔ KeepsCashApart factor s event := by
  cases event with
  | beginRefund => exact beginPrepaidRefund_backed_iff wellFormed backed
  | reservePayout => exact reservePayout_backed_iff wellFormed backed
  | topup | spend | giveBack | recordProviderId | failRefund | completeRefund | beginPayout
  | abandonPayout | stripeCash =>
    refine iff_of_true (apply_of_committed backed ?_) trivial
    intro next ran
    exact (step_safe wellFormed (by simp) (by simp) ran).2 backed

/-- A run keeps every top-up within its cash in all its states exactly when its
steps keep refunds and reservations apart. -/
theorem topup_cash_backed_iff (factor : Nat) (events : List Event) :
    Always (step factor) Backed State.empty events ↔
      Meets (step factor) (KeepsCashApart factor) State.empty
        events :=
  always_iff_meets step_wellFormed step_backed_iff events
    WellFormed.empty (by simp [Backed, State.empty])

/-- Top-ups of 50 and 100 cents; 90 cents are spent and a payout of 80 lands on
the newer top-up; the refund of the remaining 60 cents is taken from the same
top-up. -/
def fragmentedRun : List Event :=
  [.topup 1 50, .topup 2 100, .spend 900000, .beginPayout 1 80, .reservePayout 1, .beginRefund 1 0]

/-- Two payouts of 80 cents from one top-up of 100: the query of the second
begins before the first has committed. -/
def overlappingRun : List Event :=
  [.topup 1 100, .beginPayout 1 80, .beginPayout 2 80, .reservePayout 1, .reservePayout 2]

theorem topup_cash_used_twice :
    ¬ Always (step 10000) Backed State.empty fragmentedRun ∧
      ¬ Always (step 10000) Backed State.empty overlappingRun := by
  decide

end MercControl.Prepaid
