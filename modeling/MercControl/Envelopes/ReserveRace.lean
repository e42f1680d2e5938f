import MercControl.Envelopes.Spends

/-!
# Two calls for one spend

A call of `reserveEnvelopeSpendTx` looks its key up, claims capacity with an
update that locks the envelope row, and inserts the spend.  When two calls with
one key overlap, the second runs into the unique index, and the statement that
would give the capacity back fails in its aborted transaction.
-/

namespace MercControl.Envelopes

open Library Machine

/-- Two calls for one spend, each with its request id, its profile, its
`uuid.New` and its `now()`. -/
structure Race where
  db : State
  spend : Call
  request : Bool → Option Nat
  runtimeProfile : Bool → Nat
  id : Bool → SpendId
  now : Bool → Nat

inductive Refusal
  | refused (failure : Failure)
  | transactionAborted

/-- Where a call stands.  What it has written is seen by others when it
commits. -/
inductive Phase
  | start
  | looked
  | charged (envelope : Envelope)
  | inserted (written : State) (spend : Spend)
  | aborted
  | done (result : Except Refusal Spend)

def Phase.holds : Phase → Bool
  | .charged _ | .inserted _ _ | .aborted => true
  | _ => false

def Phase.underWay : Phase → Bool
  | .start | .done _ => false
  | _ => true

namespace Race

def call (race : Race) (who : Bool) : Call :=
  { race.spend with request := race.request who, runtimeProfile := race.runtimeProfile who }

def newSpend (race : Race) (who : Bool) : Spend := (race.call who).spend (race.id who)

def known (race : Race) (db : State) : Option Spend :=
  db.spendOf race.spend.envelope race.spend.idempotencyKey

def lookUp (race : Race) (who : Bool) (db : State) : Phase :=
  if !(race.call who).valid then .done (.error (.refused .invalid))
  else
    match race.known db with
    | none => .looked
    | some existing =>
      if existing.answers (race.call who) then .done (.ok existing)
      else .done (.error (.refused .idempotencyConflict))

def claim (race : Race) (who : Bool) (db : State) : Phase :=
  match db.envelopes.find? race.spend.envelope with
  | none => .done (.error (.refused .notFound))
  | some envelope =>
    if envelope.admits (race.now who) (race.call who) then
      .charged (envelope.charged (race.call who))
    else .done (.error (.refused (envelope.refusal (race.now who) (race.call who))))

/-- The insert, which both unique indexes have to accept. -/
def insert (race : Race) (who : Bool) (db : State) (envelope : Envelope) : Phase :=
  match race.known db, db.spends.insertNew (race.newSpend who) with
  | none, some spends =>
    .inserted { db with envelopes := db.envelopes.set envelope, spends } (race.newSpend who)
  | _, _ => .aborted

/-- The next statement of a call.  After a unique violation that is the
compensating update, which is refused. -/
def advance (race : Race) (who : Bool) : State × Phase → State × Phase
  | (db, .start) => (db, race.lookUp who db)
  | (db, .looked) => (db, race.claim who db)
  | (db, .charged envelope) => (db, race.insert who db envelope)
  | (_, .inserted written spend) => (written, .done (.ok spend))
  | (db, .aborted) => (db, .done (.error .transactionAborted))
  | (db, .done result) => (db, .done result)

structure World where
  db : State
  phases : Bool → Phase

def start (race : Race) : World := ⟨race.db, fun _ => .start⟩

/-- One of the calls goes on; an update whose row is locked has to wait. -/
def step (race : Race) (w : World) (who : Bool) : Except Unit World :=
  let next := race.advance who (w.db, w.phases who)
  if (w.phases who).holds = false ∧ next.2.holds = true ∧ (w.phases !who).holds = true then
    .error ()
  else .ok ⟨next.1, Function.update w.phases who next.2⟩

def written (race : Race) (who : Bool) (db : State) (envelope : Envelope)
    (fresh : db.spends.find? (race.id who) = none) : State :=
  { db with
    envelopes := db.envelopes.set (envelope.charged (race.call who))
    spends := db.spends.insert (race.newSpend who) fresh }

/-- The spend was there and nothing is written, or one call charged the envelope
and inserted it. -/
def ChargedOnce (race : Race) (db : State) (spend : Spend) : Prop :=
  (race.known race.db = some spend ∧ db = race.db) ∨
    ∃ who envelope fresh,
      race.known race.db = none ∧ race.db.envelopes.find? race.spend.envelope = some envelope ∧
        spend = race.newSpend who ∧ db = race.written who race.db envelope fresh

/-- Both calls return the same spend, and the envelope is charged for it once. -/
def Served (race : Race) (w : World) : Prop :=
  ∃ spend, (∀ who, w.phases who = .done (.ok spend)) ∧ race.known w.db = some spend ∧
    race.ChargedOnce w.db spend

/-- A key is looked up while the other call has not looked it up or has ended. -/
def Alone (w : World) (who : Bool) : Prop :=
  w.phases who = .start → (w.phases !who).underWay = false

/-- The spend is there for both calls, or the envelope admits the first of them
and its spend is one for the other. -/
def Grants (race : Race) (first : Bool) : Prop :=
  race.spend.valid = true ∧
    match race.known race.db with
    | some existing => ∀ who, existing.answers (race.call who) = true
    | none =>
      (∃ envelope ∈ race.db.envelopes.find? race.spend.envelope,
        envelope.admits (race.now first) (race.call first) = true) ∧
        race.db.spends.find? (race.id first) = none ∧
        (race.newSpend first).answers (race.call !first) = true

section

variable {race : Race} {w : World} {who first : Bool} {db after : State} {spend : Spend}

theorem known_written (envelope : Envelope) (fresh : db.spends.find? (race.id who) = none)
    (unknown : race.known db = none) :
    race.known (race.written who db envelope fresh) = some (race.newSpend who) := by
  unfold known State.spendOf at unknown ⊢
  change (db.spends.rows ++ [race.newSpend who]).find? _ = _
  rw [List.find?_append, unknown]
  simp [newSpend, Call.spend, call]

def script (race : Race) (who : Bool) (db : State) (turns : Nat) : State × Phase :=
  (race.advance who)^[turns] (db, .start)

/-- By itself the call is under way until it returns the spend and leaves these
rows. -/
def Ends (race : Race) (who : Bool) (db after : State) (spend : Spend) : Prop :=
  ∀ turns, 0 < turns →
    race.script who db turns = (after, .done (.ok spend)) ∨
      (race.script who db turns).2.underWay = true

theorem script_add {turns : Nat} (ended : race.script who db turns = (after, .done (.ok spend)))
    (more : Nat) : race.script who db (more + turns) = (after, .done (.ok spend)) := by
  unfold script at ended ⊢
  rw [Function.iterate_add_apply, ended]
  exact Function.iterate_fixed rfl more

theorem lookUp_known (valid : race.spend.valid = true) (known : race.known db = some spend)
    (answers : spend.answers (race.call who) = true) : race.lookUp who db = .done (.ok spend) := by
  have sameValid : (race.call who).valid = race.spend.valid := rfl
  simp [lookUp, sameValid, valid, known, answers]

theorem ends_of_known (found : race.lookUp who db = .done (.ok spend)) :
    race.Ends who db db spend := by
  have one : race.script who db 1 = (db, .done (.ok spend)) := by simp [script, advance, found]
  intro turns pos
  obtain ⟨more, rfl⟩ := Nat.exists_eq_add_of_lt pos
  rw [Nat.zero_add]
  exact .inl (script_add one more)

theorem ends_of_unknown {envelope : Envelope} (valid : race.spend.valid = true)
    (unknown : race.known db = none)
    (found : db.envelopes.find? race.spend.envelope = some envelope)
    (admits : envelope.admits (race.now who) (race.call who) = true)
    (fresh : db.spends.find? (race.id who) = none) :
    race.Ends who db (race.written who db envelope fresh) (race.newSpend who) := by
  have sameValid : (race.call who).valid = race.spend.valid := rfl
  have one : race.script who db 1 = (db, .looked) := by
    simp [script, advance, lookUp, sameValid, valid, unknown]
  have two : race.script who db 2 = (db, .charged (envelope.charged (race.call who))) := by
    change race.advance who (race.script who db 1) = _
    simp [one, advance, claim, found, admits]
  have isNew : db.spends.insertNew (race.newSpend who) = some (db.spends.insert _ fresh) :=
    Table.insertNew_eq_some.mpr ⟨fresh, rfl⟩
  have three : race.script who db 3 =
      (db, .inserted (race.written who db envelope fresh) (race.newSpend who)) := by
    change race.advance who (race.script who db 2) = _
    simp [two, advance, insert, unknown, isNew, written]
  have four : race.script who db 4 =
      (race.written who db envelope fresh, .done (.ok (race.newSpend who))) := by
    change race.advance who (race.script who db 3) = _
    rw [three]
    rfl
  intro turns pos
  rcases turns with _ | _ | _ | _ | more
  · cases pos
  · exact .inr (by rw [one]; rfl)
  · exact .inr (by rw [two]; rfl)
  · exact .inr (by rw [three]; rfl)
  · exact .inl (script_add four more)

theorem apply_eq (race : Race) (free : (race.advance who (w.db, w.phases who)).2.holds = false ∨
      (w.phases !who).holds = false) :
    apply race.step w who = ⟨(race.advance who (w.db, w.phases who)).1,
        Function.update w.phases who (race.advance who (w.db, w.phases who)).2⟩ := by
  refine apply_of_ok (if_neg ?_)
  rintro ⟨_, locks, held⟩
  rcases free with free | free
  · rw [free] at locks
    cases locks
  · rw [free] at held
    cases held

theorem apply_done {result : Except Refusal Spend} (isDone : w.phases who = .done result) :
    apply race.step w who = w := by
  rw [race.apply_eq (.inl (by rw [isDone]; rfl)), isDone]
  change (⟨w.db, Function.update w.phases who (.done result)⟩ : World) = w
  rw [← isDone, Function.update_eq_self]

theorem second_served {schedule : List Bool} (later : race.lookUp (!first) w.db = .done (.ok spend))
    (isDone : w.phases first = .done (.ok spend))
    (second : w.phases (!first) = .start ∧ (!first) ∈ schedule ∨
      w.phases (!first) = .done (.ok spend)) :
    run race.step w schedule = ⟨w.db, fun _ => .done (.ok spend)⟩ := by
  induction schedule generalizing w with
  | nil =>
    rcases second with ⟨_, scheduled⟩ | alsoDone
    · cases scheduled
    have phases : w.phases = fun _ => .done (.ok spend) := by
      funext who
      by_cases isFirst : who = first
      · rw [isFirst, isDone]
      · rw [Bool.eq_not_of_ne isFirst, alsoDone]
    rw [run_nil, ← phases]
  | cons who rest ih =>
    rw [run_cons]
    by_cases isFirst : who = first
    · rw [isFirst, apply_done isDone]
      refine ih later isDone (second.imp_left ?_)
      rintro ⟨isStart, scheduled⟩
      exact ⟨isStart, by simpa [isFirst] using scheduled⟩
    · obtain rfl := Bool.eq_not_of_ne isFirst
      rcases second with ⟨isStart, _⟩ | alsoDone
      · have answered :
            race.advance (!first) (w.db, w.phases !first) = (w.db, .done (.ok spend)) := by
          rw [isStart]
          exact congrArg _ later
        rw [race.apply_eq (.inl (by rw [answered]; rfl)), answered]
        refine ih later ?_ (.inr ?_)
        · simp [isDone]
        · simp
      · rw [apply_done alsoDone]
        exact ih later isDone (.inr alsoDone)

theorem first_served {schedule : List Bool} {turns : Nat}
    (ends : race.Ends first race.db after spend)
    (later : race.lookUp (!first) after = .done (.ok spend))
    (begun : 0 < turns ∨ schedule.head? = some first)
    (current : (w.db, w.phases first) = race.script first race.db turns)
    (isStart : w.phases (!first) = .start) (alone : Meets race.step Alone w schedule)
    (scheduled : (!first) ∈ schedule) :
    run race.step w schedule = ⟨after, fun _ => .done (.ok spend)⟩ := by
  induction schedule generalizing w turns with
  | nil => cases scheduled
  | cons who rest ih =>
    by_cases isFirst : who = first
    · subst isFirst
      have moves := race.apply_eq (.inr (by rw [isStart]; rfl))
      have goesOn : ((apply race.step w who).db, (apply race.step w who).phases who) =
            race.script who race.db (turns + 1) := by
        rw [moves, current, script, script, Function.iterate_succ_apply']
        simp
      refine ih (.inl (Nat.succ_pos _)) goesOn ?_ alone.2 ?_
      · rw [moves]
        simp [isStart]
      · simpa using scheduled
    · obtain rfl := Bool.eq_not_of_ne isFirst
      have ended : (w.db, w.phases first) = (after, .done (.ok spend)) := by
        have begun : 0 < turns := begun.resolve_right fun head => isFirst (Option.some.inj head)
        rw [current]
        refine (ends turns begun).resolve_right ?_
        have notUnderWay := alone.1 isStart
        rw [Bool.not_not] at notUnderWay
        rw [← current, notUnderWay]
        exact Bool.false_ne_true
      obtain ⟨rfl, isDone⟩ := Prod.mk.inj ended
      exact second_served later isDone (.inl ⟨isStart, scheduled⟩)

end

/-- Two calls for one spend are served, with the same spend and one charge, when
the envelope grants it to the first and neither looks the key up while the other is
under way. -/
theorem race_served (race : Race) (first : Bool) (rest : List Bool) (grants : race.Grants first)
    (alone : Meets race.step Alone race.start (first :: rest))
    (scheduled : (!first) ∈ rest) :
    race.Served (run race.step race.start (first :: rest)) := by
  have current : (race.start.db, race.start.phases first) = race.script first race.db 0 := rfl
  have runs {after : State} {spend : Spend} (ends : race.Ends first race.db after spend)
      (later : race.lookUp (!first) after = .done (.ok spend)) :=
    first_served ends later (.inr rfl) current rfl alone (List.mem_cons_of_mem _ scheduled)
  obtain ⟨valid, grants⟩ := grants
  cases known : race.known race.db with
  | some existing =>
    rw [known] at grants
    have found (who : Bool) := lookUp_known valid known (grants who)
    rw [runs (ends_of_known (found first)) (found !first)]
    exact ⟨existing, fun _ => rfl, known, .inl ⟨known, rfl⟩⟩
  | none =>
    rw [known] at grants
    obtain ⟨⟨envelope, found, admits⟩, fresh, answers⟩ := grants
    have inserted := known_written envelope fresh known
    rw [runs (ends_of_unknown valid known found admits fresh) (lookUp_known valid inserted answers)]
    exact ⟨_, fun _ => rfl, inserted, .inr ⟨first, envelope, fresh, known, found, rfl, rfl⟩⟩

def twoReserves : Race where
  db :=
    { now := 0
      envelopes := Table.empty.insert
        ⟨1, 7, 100, 0, 0, 5, 0, 0, 0, 50, 3, 60, .active⟩ rfl
      spends := Table.empty }
  spend := ⟨1, 7, 10, 4, 9, none, 3⟩
  request := fun _ => none
  runtimeProfile := fun _ => 3
  id := fun who => if who then 11 else 12
  now := fun _ => 0

theorem race_served_one_by_one :
    twoReserves.Served
      (run twoReserves.step twoReserves.start [true, true, true, true, false]) :=
  race_served twoReserves true _ ⟨rfl, ⟨_, rfl, rfl⟩, rfl, rfl⟩
    ⟨fun _ => rfl, fun _ => rfl, fun _ => rfl, fun _ => rfl, fun _ => rfl, trivial⟩ (by decide)

/-- Both calls look the key up before the first one commits.  The second one
fails, and the envelope has room for both. -/
theorem overlapping_reserve_aborted :
    let w := run twoReserves.step twoReserves.start
      [true, false, true, true, true, false, false, false]
    w.phases true = .done (.ok (twoReserves.newSpend true)) ∧
      w.phases false = .done (.error .transactionAborted) :=
  ⟨rfl, rfl⟩

end Race

end MercControl.Envelopes
