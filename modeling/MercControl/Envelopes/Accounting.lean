import MercControl.Envelopes.Spends

/-!
# What the counters of an envelope say

The counters are the sums over the spends of the envelope in every reachable
state, so the update at the end of a hold always finds its row.
-/

namespace MercControl.Envelopes

open Library Table

inductive Counter
  | reserved
  | spent
  | requests
  | tokens

def Envelope.counter (envelope : Envelope) : Counter → Int
  | .reserved => envelope.reservedNanos
  | .spent => envelope.spentNanos
  | .requests => envelope.requestCount
  | .tokens => envelope.tokenCount

def Spend.counts (spend : Spend) : Counter → Int
  | .reserved => if spend.state = .reserved then spend.reservedNanos else 0
  | .spent => if spend.state = .captured then spend.capturedNanos else 0
  | .requests => 1
  | .tokens =>
    if spend.state = .reserved then spend.reservedTokens
    else if spend.state = .captured then spend.capturedTokens else 0

def Spend.adds (id : EnvelopeId) (counter : Counter) (spend : Spend) : Int :=
  if spend.envelope = id then spend.counts counter else 0

structure Envelope.Accounts (spends : Table Spend.id) (envelope : Envelope) : Prop where
  sums : ∀ counter, envelope.counter counter = spends.total (Spend.adds envelope.id counter)
  cap : envelope.spentNanos + envelope.reservedNanos ≤ envelope.capNanos

structure Spend.Sound (envelopes : Table Envelope.id) (spend : Spend) : Prop where
  positive : 0 < spend.reservedNanos
  reservedTokens : 0 ≤ spend.reservedTokens
  capturedTokens : 0 ≤ spend.capturedTokens
  known : (envelopes.find? spend.envelope).isSome = true

structure Accounts (s : State) : Prop where
  envelopes : ∀ envelope ∈ s.envelopes.rows, envelope.Accounts s.spends
  spends : ∀ spend ∈ s.spends.rows, spend.Sound s.envelopes

attribute [grind] Spend.counts Spend.adds Envelope.counter

variable {s next : State} {spend settled : Spend} {row changed : Envelope}

theorem Spend.Sound.of_known {before after : Table Envelope.id} (sound : spend.Sound before)
    (known : ∀ id, (before.find? id).isSome = true → (after.find? id).isSome = true) :
    spend.Sound after :=
  { sound with known := known _ sound.known }

section

variable (accounts : Accounts s)

include accounts

theorem Accounts.hold_le (mem : spend ∈ s.spends.rows)
    (held : spend.state = .reserved) (found : s.envelopes.find? spend.envelope = some row) :
    spend.reservedNanos ≤ row.reservedNanos ∧ spend.reservedTokens ≤ row.tokenCount := by
  have own : row.id = spend.envelope := key_of_find? found
  have sums := (accounts.envelopes row (mem_of_find? found)).sums
  have part : ∀ counter, counter ≠ .spent → spend.counts counter ≤ row.counter counter := by
    intro counter notSpent
    have adds : Spend.adds row.id counter spend = spend.counts counter := if_pos own.symm
    rw [sums, ← adds]
    refine total_le_of_mem (fun other isOther => ?_) mem
    have sound := accounts.spends other isOther
    cases counter <;> grind [Spend.Sound]
  have nanos := part .reserved (by simp)
  have tokens := part .tokens (by simp)
  simp only [Spend.counts, held, if_true] at nanos tokens
  exact ⟨nanos, tokens⟩

/-- A transaction that writes one envelope and changes every sum over the
spends by a gain, zero for the other envelopes. -/
theorem Accounts.write {spends : Table Spend.id}
    {gain : (Spend → Int) → Int} (found : s.envelopes.find? changed.id = some row)
    (sums : ∀ amount, spends.total amount = s.spends.total amount + gain amount) (own : ∀ counter,
      changed.counter counter = row.counter counter + gain (Spend.adds changed.id counter))
    (cap : changed.spentNanos + changed.reservedNanos ≤ changed.capNanos)
    (others : ∀ id, id ≠ changed.id → ∀ counter, gain (Spend.adds id counter) = 0) :
    ∀ envelope ∈ (s.envelopes.set changed).rows, envelope.Accounts spends := by
  intro envelope mem
  rcases mem_set mem with rfl | ⟨isOther, ne⟩
  · have id : row.id = envelope.id := key_of_find? found
    have before := accounts.envelopes row (mem_of_find? found)
    refine ⟨fun counter => ?_, cap⟩
    rw [own, sums, before.sums, id]
  · have before := accounts.envelopes envelope isOther
    refine ⟨fun counter => ?_, before.cap⟩
    rw [sums, others envelope.id ne, before.sums, Int.add_zero]

theorem Accounts.known (found : s.envelopes.find? changed.id = some row) :
    ∀ spend ∈ s.spends.rows, spend.Sound (s.envelopes.set changed) := by
  intro spend mem
  refine (accounts.spends spend mem).of_known fun id isKnown => ?_
  rw [isSome_find?_set found]
  exact isKnown

/-- A transaction that keeps the accounts, or is refused otherwise than by
capacity accounting. -/
def Keeps : Except Failure State → Prop
  | .ok next => Accounts next
  | .error failure => failure ≠ .capacityAccounting

theorem create_keeps (grant : Envelope) : Keeps (createExecutionEnvelope s grant) := by
  unfold createExecutionEnvelope
  split_ifs
  · simp [Keeps]
  split
  · simp [Keeps]
  rename_i envelopes inserted
  obtain ⟨fresh, rfl⟩ := insertNew_eq_some.mp inserted
  have unused : ∀ other ∈ s.spends.rows, other.envelope ≠ grant.id := by
    intro other mem same
    have known := (accounts.spends other mem).known
    rw [same, fresh] at known
    cases known
  constructor
  · refine forall_insert fresh accounts.envelopes ?_
    refine ⟨fun counter => ?_, by grind⟩
    have none : s.spends.total (Spend.adds grant.id counter) = 0 :=
      total_eq_zero fun other mem => if_neg (unused other mem)
    cases counter <;> exact none.symm
  · intro other mem
    exact (accounts.spends other mem).of_known fun _ known =>
      (isSome_find?_insert fresh).mpr (.inr known)

theorem reserve_keeps (id : SpendId) (call : Call) : Keeps (reserveEnvelopeSpendTx s id call) := by
  unfold reserveEnvelopeSpendTx
  split_ifs
  · simp [Keeps]
  split
  · split_ifs
    · exact accounts
    · simp [Keeps]
  split
  · simp [Keeps]
  rename_i row found
  split_ifs
  · split
    · simp [Keeps]
    rename_i spends inserted
    obtain ⟨fresh, rfl⟩ := insertNew_eq_some.mp inserted
    have own : row.id = call.envelope := key_of_find? found
    have rowFound : s.envelopes.find? (row.charged call).id = some row := own ▸ found
    constructor
    · refine accounts.write rowFound (fun _ => total_insert fresh) ?_ ?_ ?_
      · intro counter
        cases counter <;> grind [Call.spend, Envelope.charged]
      · grind [Envelope.charged, Envelope.admits]
      · grind [Call.spend, Envelope.charged]
    · refine forall_insert fresh (accounts.known rowFound) ?_
      constructor
      case known =>
        rw [isSome_find?_set rowFound]
        simp [Call.spend, found]
      all_goals grind [Call.valid, Call.spend]
  · unfold Envelope.refusal
    split_ifs <;> simp [Keeps]

theorem bind_keeps (id : SpendId) (contract : ContractId) :
    Keeps (bindEnvelopeSpendContractTx s id contract) := by
  unfold bindEnvelopeSpendContractTx
  split
  · simp [Keeps]
  rename_i spend found
  split_ifs
  · simp [Keeps]
  obtain rfl : spend.id = id := key_of_find? found
  have sums : ∀ amount, Table.total amount (s.spends.set { spend with contract := some contract }) =
        s.spends.total amount - amount spend + amount { spend with contract := some contract } :=
    fun _ => total_set found
  have sound := accounts.spends spend (mem_of_find? found)
  constructor
  · intro envelope mem
    have before := accounts.envelopes envelope mem
    refine ⟨fun counter => ?_, before.cap⟩
    rw [sums, before.sums]
    cases counter <;> grind
  · refine forall_set accounts.spends ?_
    exact { sound with }

/-- What the update at the end of a hold does to the envelope. -/
structure Settles (spend settled : Spend) (row changed : Envelope) : Prop where
  id : changed.id = row.id
  cap : changed.capNanos = row.capNanos
  requests : changed.requestCount = row.requestCount
  reserved : changed.reservedNanos = row.reservedNanos - spend.reservedNanos
  spent : changed.spentNanos = row.spentNanos + settled.counts .spent
  tokens : changed.tokenCount = row.tokenCount - spend.reservedTokens + settled.counts .tokens

/-- A hold ends within its own amount, and the update finds its row. -/
theorem settle_accounts {update : Envelope → Option Envelope}
    (found : s.spends.find? settled.id = some spend) (held : spend.state = .reserved)
    (ended : settled.state ≠ .reserved) (same : settled.envelope = spend.envelope)
    (sound : settled.Sound s.envelopes) (within : settled.counts .spent ≤ spend.reservedNanos)
    (updates : ∀ row, spend.reservedNanos ≤ row.reservedNanos →
      spend.reservedTokens ≤ row.tokenCount → row.spentNanos + row.reservedNanos ≤ row.capNanos →
        ∃ changed, update row = some changed ∧ Settles spend settled row changed) :
    ∃ next, s.settle update settled = .ok next ∧ Accounts next ∧
      next.spends = s.spends.set settled := by
  have mem := mem_of_find? found
  obtain ⟨row, isRow⟩ := Option.isSome_iff_exists.mp (accounts.spends spend mem).known
  have own : row.id = spend.envelope := key_of_find? isRow
  obtain ⟨nanos, tokens⟩ := accounts.hold_le mem held isRow
  have before := accounts.envelopes row (mem_of_find? isRow)
  obtain ⟨changed, isChanged, settles⟩ := updates row nanos tokens before.cap
  have rowFound : s.envelopes.find? changed.id = some row := by
    rw [settles.id, own]
    exact isRow
  have ran : s.settle update settled =
      .ok { s with envelopes := s.envelopes.set changed, spends := s.spends.set settled } := by
    simp [State.settle, same, isRow, isChanged]
  have sums amount : Table.total amount (s.spends.set settled) =
      s.spends.total amount + (amount settled - amount spend) := by
    rw [total_set found]
    omega
  refine ⟨_, ran, ⟨?_, ?_⟩, rfl⟩
  · refine accounts.write rowFound sums ?_ ?_ ?_
    · intro counter
      cases counter <;> grind [Settles]
    · grind [Settles, Envelope.Accounts]
    · grind [Settles]
  · refine forall_set (accounts.known rowFound) (sound.of_known fun id isKnown => ?_)
    rw [isSome_find?_set rowFound]
    exact isKnown

theorem void_accounts (found : s.spends.find? spend.id = some spend)
    (held : spend.state = .reserved) :
    ∃ next, s.settle (Envelope.release spend) { spend with state := .voided } = .ok next ∧
      Accounts next ∧ next.spends = s.spends.set { spend with state := .voided } := by
  have sound := accounts.spends spend (mem_of_find? found)
  refine settle_accounts accounts found held nofun rfl ?_ ?_ ?_
  · exact { sound with }
  · grind [Spend.Sound]
  · intro row reserved tokens _
    rw [Envelope.release, if_pos ⟨reserved, tokens⟩]
    refine ⟨_, rfl, ?_⟩
    constructor <;> grind

theorem captured_accounts {capturedNanos capturedTokens : Int}
    (found : s.spends.find? spend.id = some spend) (held : spend.state = .reserved)
    (within : capturedNanos ≤ spend.reservedNanos) (nonneg : 0 ≤ capturedTokens) :
    ∃ next, s.settle (Envelope.capture spend capturedNanos (spend.reservedTokens - capturedTokens))
        { spend with state := .captured, capturedNanos, capturedTokens } = .ok next ∧
      Accounts next ∧
      next.spends =
        s.spends.set { spend with state := .captured, capturedNanos, capturedTokens } := by
  have sound := accounts.spends spend (mem_of_find? found)
  refine settle_accounts accounts found held nofun rfl ?_ within ?_
  · exact { sound with capturedTokens := nonneg }
  · intro row reserved tokens cap
    rw [Envelope.capture, if_pos ⟨reserved, by omega, by omega⟩]
    refine ⟨_, rfl, ?_⟩
    constructor <;> grind

end

theorem find?_of_spendOfContract {contract : ContractId}
    (found : s.spendOfContract contract = some spend) : s.spends.find? spend.id = some spend :=
  find?_eq_some.mpr ⟨List.mem_of_find?_eq_some found, rfl⟩

section

variable (accounts : Accounts s)

include accounts

theorem capture_keeps (contract : ContractId) (capturedNanos capturedTokens : Int) :
    Keeps (captureEnvelopeSpendTx s contract capturedNanos capturedTokens) := by
  unfold captureEnvelopeSpendTx
  split_ifs
  · simp [Keeps]
  split
  · exact accounts
  rename_i spend found
  have isFound := find?_of_spendOfContract found
  have sound := accounts.spends spend (mem_of_find? isFound)
  split
  · split_ifs
    · simp [Keeps]
    · exact accounts
  · simp [Keeps]
  · simp [Keeps]
  rename_i held
  split_ifs with exceeds
  · simp [Keeps]
  have nonneg : 0 ≤ min capturedTokens spend.reservedTokens :=
    le_min (by omega) sound.reservedTokens
  obtain ⟨_, ran, kept, _⟩ := captured_accounts accounts isFound held (not_lt.mp exceeds) nonneg
  rw [ran]
  exact kept

theorem release_keeps (contract : ContractId) :
    Keeps (releaseEnvelopeSpendForContractTx s contract) := by
  unfold releaseEnvelopeSpendForContractTx
  split
  · exact accounts
  rename_i spend found
  split
  · exact accounts
  · exact accounts
  · exact accounts
  rename_i held
  obtain ⟨_, ran, kept, _⟩ := void_accounts accounts (find?_of_spendOfContract found) held
  rw [ran]
  exact kept

theorem expire_accounts (rows : List EnvelopeId) :
    Accounts (releaseExpiredExecutionEnvelopes s rows) := by
  constructor
  · refine forall_update ?_ ?_
    · intro envelope mem _
      obtain ⟨sums, cap⟩ := accounts.envelopes envelope mem
      refine ⟨fun counter => ?_, cap⟩
      refine Eq.trans ?_ (sums counter)
      cases counter <;> rfl
    · exact fun envelope mem _ => accounts.envelopes envelope mem
  · intro spend mem
    refine (accounts.spends spend mem).of_known fun id isKnown => ?_
    simp only [releaseExpiredExecutionEnvelopes, find?_update, Option.isSome_map]
    exact isKnown

/-- The loop ends one hold after the other, each still as the query read it. -/
theorem recoverLoop_keeps {contracts : ContractId → ContractState} {orphans : List Spend}
    (distinct : (orphans.map Spend.id).Nodup)
    (held : ∀ spend ∈ orphans, s.spends.find? spend.id = some spend ∧ spend.state = .reserved) :
    Keeps (orphans.foldlM (recoverOrphan contracts) s) := by
  induction orphans generalizing s with
  | nil => exact accounts
  | cons spend rest restKeeps =>
    rw [List.map_cons, List.nodup_cons] at distinct
    obtain ⟨found, isHeld⟩ := held spend List.mem_cons_self
    have later : ∀ other ∈ rest, s.spends.find? other.id = some other ∧ other.state = .reserved :=
      fun other mem => held other (List.mem_cons_of_mem spend mem)
    rw [List.foldlM_cons]
    unfold recoverOrphan
    split_ifs
    · exact restKeeps accounts distinct.2 later
    obtain ⟨_, ran, kept, spends⟩ := void_accounts accounts found isHeld
    rw [ran]
    refine restKeeps kept distinct.2 fun other mem => ⟨?_, (later other mem).2⟩
    have ne : spend.id ≠ other.id := by
      intro same
      exact distinct.1 (same ▸ List.mem_map_of_mem mem)
    rw [spends, ← (later other mem).1]
    exact find?_set_other ne

theorem recover_keeps (rows : List SpendId) (contracts : ContractId → ContractState) :
    Keeps (recoverOrphanEnvelopeSpends s rows contracts) := by
  refine recoverLoop_keeps accounts ?_ ?_
  · exact s.spends.distinct.sublist (List.filter_sublist.map Spend.id)
  · intro spend mem
    obtain ⟨inSpends, chosen⟩ := List.mem_filter.mp mem
    simp only [Spend.orphaned, Bool.and_eq_true, decide_eq_true_eq] at chosen
    exact ⟨find?_of_mem inSpends, chosen.2.1⟩

theorem step_keeps (event : Event) : Keeps (step s event) := by
  cases event with
  | create grant => exact create_keeps accounts grant
  | reserve id call => exact reserve_keeps accounts id call
  | bind id contract => exact bind_keeps accounts id contract
  | capture contract nanos tokens => exact capture_keeps accounts contract nanos tokens
  | release contract => exact release_keeps accounts contract
  | expire rows => exact expire_accounts accounts rows
  | recover rows contracts => exact recover_keeps accounts rows contracts
  | tick => exact ⟨accounts.envelopes, accounts.spends⟩

end

/-- In every reachable state the counters of each envelope are the sums over
its spends and within the cap, and capacity accounting refuses nothing. -/
theorem envelope_accounts (events : List Event) :
    let s := Machine.run step State.empty events
    (∀ envelope ∈ s.envelopes.rows, envelope.Accounts s.spends ∧
      envelope.requestCount = s.spends.rows.countP fun spend => spend.envelope = envelope.id) ∧
    ∀ event, step s event ≠ .error .capacityAccounting := by
  intro s
  have accounts : Accounts s := by
    refine Machine.invariant_run_of_preserved ?_ events ⟨nofun, nofun⟩
    intro s event next accounts committed
    have keeps := step_keeps accounts event
    rw [committed] at keeps
    exact keeps
  constructor
  · intro envelope member
    have sums := accounts.envelopes envelope member
    refine ⟨sums, ?_⟩
    have count := total_if s.spends (fun spend => spend.envelope = envelope.id) 1
    have requests := sums.sums .requests
    simp only [Int.one_mul, decide_eq_true_eq] at count
    exact requests.trans count
  · intro event refused
    have keeps := step_keeps accounts event
    rw [refused] at keeps
    exact keeps rfl

end MercControl.Envelopes
