import MercControl.Library.Machine
import Mathlib.Tactic.SplitIfs

/-!
# The live index of offers

An offer is live for 45 seconds after it was last seen.  The database applies
the rule to the exact time; the index of the process keeps whole seconds, in
the slot of the offer.  Times are in nanoseconds since 1970.
-/

namespace MercControl.Liveness

open Library Machine

abbrev Offer := Nat
abbrev Slot := Nat

def second : Int := 1000000000

def realtimeOfferLivenessWindow : Int := 45 * second

def liveDeviceWindowEpochs : Int := realtimeOfferLivenessWindow / second

def maxUint32 : Int := 4294967295

def unix (time : Int) : Int := time / second

inductive Failure
  | staleHeartbeatObservation
  | invalidDeviceSlot

def resolveHeartbeatObservation (observedAtUnixMs : Option Int) (serverNow : Int) :
    Except Failure Int :=
  let reported := (observedAtUnixMs.map (· * 1000000)).getD serverNow
  let observed := if serverNow < reported then serverNow else reported
  if realtimeOfferLivenessWindow < serverNow - observed then .error .staleHeartbeatObservation
  else .ok observed

/-- The fingerprint in `slotOwner`, with its two reserved values. -/
inductive Owner
  | unclaimed
  | conflict
  | offer (offer : Offer)
  deriving DecidableEq

/-- The index and the owners of its slots.  `seen` has the observation that the
epoch of a slot was taken from, in exact time. -/
structure Index where
  slots : Nat
  epochs : Slot → Int
  slotOwner : Slot → Owner
  seen : Slot → Option (Offer × Int)

def Index.new (slots : Nat) : Index := ⟨slots, fun _ => 0, fun _ => .unclaimed, fun _ => none⟩

/-- The owner of a slot after `claimSlotOwner`: the first claim wins, and a
second offer poisons the slot. -/
def Owner.claim (offer : Offer) : Owner → Owner
  | .unclaimed => .offer offer
  | .conflict => .conflict
  | .offer owner => if owner = offer then .offer owner else .conflict

def Index.claimSlotOwner (index : Index) (slot : Slot) (offer : Offer) : Index :=
  if index.slots ≤ slot then index
  else
    { index with
      slotOwner := Function.update index.slotOwner slot ((index.slotOwner slot).claim offer) }

def Index.heartbeat (index : Index) (slot : Slot) (observedEpoch nowEpoch : Int) :
    Except Failure (Slot → Int) :=
  let observedEpoch := if nowEpoch < observedEpoch then nowEpoch else observedEpoch
  if index.slots ≤ slot then .error .invalidDeviceSlot
  else if liveDeviceWindowEpochs < nowEpoch - observedEpoch then
    .error .staleHeartbeatObservation
  else .ok (Function.update index.epochs slot observedEpoch)

def Index.indexHeartbeatSlot (index : Index) (slot : Slot) (offer : Offer)
    (observedAt serverNow : Int) : Index :=
  if index.slotOwner slot ≠ .offer offer then index
  else if unix observedAt < 0 ∨ unix serverNow < 0 ∨
      maxUint32 < unix serverNow ∨ maxUint32 < unix observedAt then index
  else
    match index.heartbeat slot (unix observedAt) (unix serverNow) with
    | .error _ => index
    | .ok epochs =>
      { index with epochs, seen := Function.update index.seen slot (some (offer, observedAt)) }

def Index.isLive (index : Index) (slot : Slot) (nowEpoch : Int) : Prop :=
  slot < index.slots ∧
    index.epochs slot ≤ nowEpoch ∧ nowEpoch - index.epochs slot < liveDeviceWindowEpochs

def Index.offerIndexLive (index : Index) (offer : Offer) (slot : Slot) (now : Int) : Prop :=
  index.slotOwner slot = .offer offer ∧
    0 ≤ unix now ∧ unix now ≤ maxUint32 ∧ index.isLive slot (unix now)

def seenRecently (lastSeenAt now : Int) : Prop := now - realtimeOfferLivenessWindow < lastSeenAt

/-- A lookup claims the slot of its offer; a heartbeat comes with the slot that
its lookup found. -/
inductive Event
  | lookup (offer : Offer) (slot : Slot)
  | heartbeat (offer : Offer) (slot : Slot) (observedAtUnixMs : Option Int) (serverNow : Int)

def step (index : Index) : Event → Except Failure Index
  | .lookup offer slot => .ok (index.claimSlotOwner slot offer)
  | .heartbeat offer slot observedAtUnixMs serverNow => do
    let observedAt ← resolveHeartbeatObservation observedAtUnixMs serverNow
    return index.indexHeartbeatSlot slot offer observedAt serverNow

/-- The slot's epoch is the second of the observation recorded in it, which came
from the offer that claimed the slot first. -/
def Index.Exact (index : Index) : Prop :=
  ∀ slot, match index.seen slot with
    | none => index.epochs slot = 0
    | some (offer, observedAt) =>
      index.epochs slot = unix observedAt ∧
        (index.slotOwner slot = .offer offer ∨ index.slotOwner slot = .conflict)

variable {index next : Index} {slot : Slot} {offer : Offer}

theorem Index.Exact.claimSlotOwner (sound : index.Exact) :
    (index.claimSlotOwner slot offer).Exact := by
  unfold Index.claimSlotOwner
  split
  · exact sound
  intro tested
  have before := sound tested
  cases isSeen : index.seen tested with
  | none => simpa only [isSeen] using before
  | some =>
    simp only [isSeen] at before ⊢
    refine ⟨before.1, ?_⟩
    by_cases same : tested = slot
    · subst same
      rcases before.2 with owned | poisoned
      · rw [Function.update_self, owned, Owner.claim]
        split_ifs <;> simp
      · rw [Function.update_self, poisoned]
        exact .inr rfl
    · rw [Function.update_of_ne same]
      exact before.2

theorem Index.Exact.indexHeartbeatSlot {observedAt serverNow : Int} (sound : index.Exact)
    (past : observedAt ≤ serverNow) :
    (index.indexHeartbeatSlot slot offer observedAt serverNow).Exact := by
  unfold Index.indexHeartbeatSlot
  split_ifs with foreign
  · exact sound
  · exact sound
  split
  · exact sound
  rename_i epochs ran
  have isPast : unix observedAt ≤ unix serverNow := Int.ediv_le_ediv (by decide) past
  simp only [Index.heartbeat, ite_error_eq_ok, Except.ok.injEq,
    if_neg (Int.not_lt.mpr isPast)] at ran
  rw [← ran.2.2]
  intro tested
  by_cases same : tested = slot
  · subst same
    simp only [Function.update_self]
    exact ⟨trivial, .inl (not_not.mp foreign)⟩
  · simpa only [Function.update_of_ne same] using sound tested

theorem step_exact {event : Event} (sound : index.Exact) (ran : step index event = .ok next) :
    next.Exact := by
  cases event with
  | lookup =>
    cases ran
    exact sound.claimSlotOwner
  | heartbeat =>
    obtain ⟨_, resolved, ran⟩ := bind_eq_ok.mp ran
    cases ran
    apply sound.indexHeartbeatSlot
    simp only [resolveHeartbeatObservation, ite_error_eq_ok, Except.ok.injEq] at resolved
    obtain ⟨-, rfl⟩ := resolved
    split_ifs <;> omega

/-- Whole seconds only shorten the window: both times lose a part of a second,
and the window ends before 45 seconds. -/
theorem Index.isLive.seenRecently {observedAt now : Int} (live : index.isLive slot (unix now))
    (epoch : index.epochs slot = unix observedAt) : seenRecently observedAt now := by
  obtain ⟨-, -, young⟩ := live
  rw [epoch] at young
  simp only [unix, liveDeviceWindowEpochs, realtimeOfferLivenessWindow, second] at young
  simp only [Liveness.seenRecently, realtimeOfferLivenessWindow, second]
  omega

theorem Index.Exact.live (sound : index.Exact) {now : Int}
    (live : index.offerIndexLive offer slot now) :
    (∀ sender lastSeenAt, index.seen slot = some (sender, lastSeenAt) →
        sender = offer ∧ seenRecently lastSeenAt now) ∧
      (realtimeOfferLivenessWindow ≤ now → index.seen slot ≠ none) := by
  obtain ⟨owned, -, -, isLive⟩ := live
  have recorded := sound slot
  constructor
  · intro sender lastSeenAt isSeen
    simp only [isSeen, owned, Owner.offer.injEq, reduceCtorEq, or_false] at recorded
    exact ⟨recorded.2.symm, isLive.seenRecently recorded.1⟩
  · intro late unseen
    simp only [unseen] at recorded
    have young := isLive.2.2
    simp only [recorded, unix, liveDeviceWindowEpochs, realtimeOfferLivenessWindow, second]
      at young late
    omega

/-- Whatever the heartbeats report, an offer that the index calls live was seen
within 45 seconds by the database's rule; after the first 45 seconds of 1970 it
was seen at all. -/
theorem index_live_seen_recently (slots : Nat) (events : List Event) :
    Always step
      (fun index => ∀ offer slot now, index.offerIndexLive offer slot now →
        (∀ sender lastSeenAt, index.seen slot = some (sender, lastSeenAt) →
            sender = offer ∧ seenRecently lastSeenAt now) ∧
          (realtimeOfferLivenessWindow ≤ now → index.seen slot ≠ none))
      (Index.new slots) events :=
  always_of_invariant (fun _ _ _ => step_exact) (fun _ sound _ _ _ => sound.live)
    events fun _ => rfl

/-! ## Claims of a slot

`claimSlotOwner` is a loop over loads and compare-and-swaps of the word of a
slot, and calls take these steps in any order. -/

structure Answer where
  slot : Slot
  offer : Offer
  owns : Bool

structure Claim where
  slot : Slot
  offer : Offer
  loaded : Option Owner

abbrev Caller := Nat

/-- The owners, the calls and the answers given so far, the last one first. -/
structure Owners where
  slotOwner : Slot → Owner
  calls : Caller → Option Claim
  answers : List Answer

def Owners.empty : Owners := ⟨fun _ => .unclaimed, fun _ => none, []⟩

def Owners.setCall (s : Owners) (caller : Caller) (call : Option Claim) : Owners :=
  { s with calls := Function.update s.calls caller call }

def Owners.answer (s : Owners) (owner : Owner) (answer : Answer) : Owners :=
  { s with
    slotOwner := Function.update s.slotOwner answer.slot owner
    answers := answer :: s.answers }

/-- One load of the loop, or one compare-and-swap of what was loaded. -/
def Owners.proceed (s : Owners) (caller : Caller) (claim : Claim) : Owners :=
  let owner := s.slotOwner claim.slot
  let returns (after : Owner) (owns : Bool) :=
    (s.answer after ⟨claim.slot, claim.offer, owns⟩).setCall caller none
  match claim.loaded with
  | none =>
    if owner = .offer claim.offer then returns owner true
    else if owner = .conflict then returns owner false
    else s.setCall caller (some { claim with loaded := some owner })
  | some .unclaimed =>
    if owner = .unclaimed then returns (.offer claim.offer) true
    else s.setCall caller (some { claim with loaded := none })
  | some loaded => returns (if owner = loaded then .conflict else owner) false

inductive ClaimEvent
  | claimSlotOwner (caller : Caller) (slot : Slot) (offer : Offer)
  | proceed (caller : Caller)
  | slotOwnedBy (slot : Slot) (offer : Offer)

/-- Of the answers of `slotOwnedBy` only those that an offer owns the slot are
kept. -/
def claimStep (slots : Nat) (s : Owners) : ClaimEvent → Except Failure Owners
  | .claimSlotOwner caller slot offer =>
    if slots ≤ slot ∨ (s.calls caller).isSome then .error .invalidDeviceSlot
    else .ok (s.setCall caller (some ⟨slot, offer, none⟩))
  | .proceed caller =>
    match s.calls caller with
    | none => .error .invalidDeviceSlot
    | some claim => .ok (s.proceed caller claim)
  | .slotOwnedBy slot offer =>
    if slots ≤ slot ∨ s.slotOwner slot ≠ .offer offer then .error .invalidDeviceSlot
    else .ok (s.answer (.offer offer) ⟨slot, offer, true⟩)

def Owners.Settled (s : Owners) (slot : Slot) (offer : Offer) : Prop :=
  s.slotOwner slot = .offer offer ∨ s.slotOwner slot = .conflict

def Owners.Loaded (s : Owners) (claim : Claim) : Prop :=
  claim.loaded ≠ some .conflict ∧
    ∀ other, claim.loaded = some (.offer other) → s.Settled claim.slot other

structure Owners.Sound (s : Owners) : Prop where
  settled : ∀ answer ∈ s.answers, s.Settled answer.slot answer.offer
  loaded : ∀ caller claim, s.calls caller = some claim → s.Loaded claim
  /-- An offer that is told that it owns a slot was the only one to claim it. -/
  alone : s.answers.Pairwise fun later earlier =>
    later.owns = true → earlier.slot = later.slot → earlier.offer = later.offer

section

variable {s next : Owners} {caller : Caller} {claim : Claim}

theorem Owners.Sound.answer {owner : Owner} {answer : Answer} (sound : s.Sound)
    (once : owner = s.slotOwner answer.slot ∨ s.slotOwner answer.slot = .unclaimed ∨
      owner = .conflict)
    (isOwner : owner = .offer answer.offer ∨ owner = .conflict ∧ answer.owns = false) :
    (s.answer owner answer).Sound := by
  have now : (s.answer owner answer).slotOwner answer.slot = owner := Function.update_self ..
  -- a word goes from unclaimed to an offer to poisoned, and never back
  have settled : ∀ slot offer, s.Settled slot offer →
      (s.answer owner answer).Settled slot offer := by
    intro slot offer before
    by_cases same : slot = answer.slot
    · subst same
      rw [Settled, now]
      rcases once with rfl | unclaimed | poisons
      · exact before
      · simp [Settled, unclaimed] at before
      · exact .inr poisons
    · simpa only [Settled, Owners.answer, Function.update_of_ne same] using before
  refine ⟨?_, ?_, ?_⟩
  · refine List.forall_mem_cons.mpr ⟨?_, fun other told => settled _ _ (sound.settled other told)⟩
    rw [Settled, now]
    exact isOwner.imp_right And.left
  · intro caller claim called
    have before := sound.loaded caller claim called
    exact ⟨before.1, fun other isLoaded => settled _ _ (before.2 other isLoaded)⟩
  · refine List.pairwise_cons.mpr ⟨?_, sound.alone⟩
    intro earlier told owns sameSlot
    have isOffer : owner = .offer answer.offer := by simpa [owns] using isOwner
    have before := settled _ _ (sound.settled earlier told)
    rw [Settled, sameSlot, now] at before
    simpa [isOffer, eq_comm] using before

theorem Owners.Sound.setCall {call : Option Claim} (sound : s.Sound)
    (fits : ∀ claim ∈ call, s.Loaded claim) : (s.setCall caller call).Sound := by
  exact ⟨sound.settled, forall_update sound.loaded fits, sound.alone⟩

theorem Owners.Sound.proceed (sound : s.Sound) (fits : s.Loaded claim) :
    (s.proceed caller claim).Sound := by
  obtain ⟨_, _, loaded⟩ := claim
  rcases loaded with _ | _ | _ | other
  · simp only [Owners.proceed]
    split_ifs with owns poisoned
    · exact (sound.answer (.inl rfl) (.inl owns)).setCall nofun
    · exact (sound.answer (.inl rfl) (.inr ⟨poisoned, rfl⟩)).setCall nofun
    · refine sound.setCall ?_
      rintro _ ⟨⟩
      exact ⟨fun isOwner => poisoned (Option.some.inj isOwner),
        fun other isOwner => .inl (Option.some.inj isOwner)⟩
  · simp only [Owners.proceed]
    split_ifs with unclaimed
    · exact (sound.answer (.inr (.inl unclaimed)) (.inl rfl)).setCall nofun
    · refine sound.setCall ?_
      rintro _ ⟨⟩
      exact ⟨nofun, nofun⟩
  · exact absurd rfl fits.1
  simp only [Owners.proceed]
  split_ifs with same
  · exact (sound.answer (.inr (.inr rfl)) (.inr ⟨rfl, rfl⟩)).setCall nofun
  · have poisoned := (fits.2 other rfl).resolve_left same
    exact (sound.answer (.inl rfl) (.inr ⟨poisoned, rfl⟩)).setCall nofun

theorem claimStep_sound {slots : Nat} {event : ClaimEvent} (sound : s.Sound)
    (ran : claimStep slots s event = .ok next) : next.Sound := by
  cases event with
  | claimSlotOwner =>
    obtain ⟨-, ran⟩ := ite_error_eq_ok.mp ran
    cases ran
    refine sound.setCall ?_
    rintro _ ⟨⟩
    exact ⟨nofun, nofun⟩
  | proceed caller =>
    rw [claimStep] at ran
    rcases called : s.calls caller with _ | claim
    · simp [called] at ran
    simp only [called, Except.ok.injEq] at ran
    rw [← ran]
    exact sound.proceed (sound.loaded caller claim called)
  | slotOwnedBy =>
    obtain ⟨owns, ran⟩ := ite_error_eq_ok.mp ran
    cases ran
    rw [not_or, not_not] at owns
    exact sound.answer (.inl owns.2.symm) (.inl rfl)

end

/-- Whatever the order of loads and swaps, one offer at most is ever told that
it owns a slot, and after two offers have claimed the slot none is. -/
theorem slot_never_stolen (slots : Nat) (events : List ClaimEvent) :
    let answers := (run (claimStep slots) Owners.empty events).answers
    (answers.Pairwise fun one other => one.owns = true → other.owns = true →
      one.slot = other.slot → one.offer = other.offer) ∧
    ∀ later earlier, answers = later ++ earlier → ∀ one ∈ earlier, ∀ other ∈ earlier,
      one.slot = other.slot → one.offer ≠ other.offer →
        ∀ answer ∈ later, answer.slot = one.slot → answer.owns = false := by
  intro answers
  have sound : Owners.Sound (run (claimStep slots) Owners.empty events) :=
    invariant_run_of_preserved (fun _ _ _ => claimStep_sound) events ⟨nofun, nofun, .nil⟩
  have alone : answers.Pairwise _ := sound.alone
  constructor
  · exact alone.imp fun same owns _ sameSlot => (same owns sameSlot.symm).symm
  · intro later earlier split one isOne other isOther sameSlot different answer isLater ofSlot
    rw [split, List.pairwise_append] at alone
    by_contra notFalse
    have owns := (Bool.not_eq_false _).mp notFalse
    have isOffer := alone.2.2 answer isLater one isOne owns ofSlot.symm
    have otherOffer := alone.2.2 answer isLater other isOther owns (sameSlot.symm.trans ofSlot.symm)
    exact different (isOffer.trans otherOffer.symm)

end MercControl.Liveness
