import MercControl.Library.Machine

/-!
# Leadership of the background workers

Replicas compete for an advisory lock, which belongs to a database session.
The winner runs the sweeps, stops them when its monitor gives up, and only then
returns the lock.  A session can end before its replica finds out.
-/

namespace MercControl.Controls.Leadership

open Library Machine

structure Session where
  replica : Nat
  connection : Nat
  deriving DecidableEq

structure State where
  /-- The sessions on which replicas lead. -/
  leads : List Session
  /-- Those of them whose workers have not stopped. -/
  running : List Session
  /-- One entry for each grant of the lock: a session may take it again. -/
  held : List Session
  ended : List Session
  /-- Taken out of the pool and closed, or left by a process that died. -/
  discarded : List Session
  /-- Back in the pool after a lock call that was granted and then failed. -/
  unanswered : List Session

def State.started : State := ⟨[], [], [], [], [], []⟩

inductive Event
  /-- Without an answer the call failed after the server had it; a call that
  failed before changes nothing. -/
  | tryAcquireWorkerLeadership (session : Session) (answered : Bool)
  /-- `monitorWorkerLeadership` returned, and the cancelled workers did. -/
  | stop (session : Session)
  /-- The workers do not stop in time, or the process dies. -/
  | exit (session : Session)
  | releaseWorkerLeadership (session : Session) (answered : Bool)
  | endSession (session : Session)

def State.discard (s : State) (session : Session) : State :=
  { s with
    leads := s.leads.filter (· ≠ session)
    running := s.running.filter (· ≠ session)
    discarded := session :: s.discarded }

def step (s : State) : Event → Except Unit State
  | .tryAcquireWorkerLeadership session answered =>
    if (∃ lead ∈ s.leads, lead.replica = session.replica) ∨ session ∈ s.ended ∨
        session ∈ s.discarded then .error ()
    else if ∀ holder ∈ s.held, holder = session then
      if answered then
        .ok { s with
          leads := session :: s.leads
          running := session :: s.running
          held := session :: s.held }
      else .ok { s with held := session :: s.held, unanswered := session :: s.unanswered }
    else .ok s
  | .stop session => .ok { s with running := s.running.filter (· ≠ session) }
  | .exit session => if session ∈ s.leads then .ok (s.discard session) else .error ()
  | .releaseWorkerLeadership session answered =>
    if session ∉ s.leads ∨ session ∈ s.running then .error ()
    else if answered = true ∧ session ∈ s.held then
      .ok { s with leads := s.leads.filter (· ≠ session), held := s.held.erase session }
    else .ok (s.discard session)
  | .endSession session =>
    .ok { s with ended := session :: s.ended, held := s.held.filter (· ≠ session) }

def State.Holds (s : State) (session : Session) : Prop :=
  session ∉ s.ended ∧ (session ∈ s.leads ∨ session ∈ s.discarded ∨ session ∈ s.unanswered)

structure Sound (s : State) : Prop where
  running : ∀ session ∈ s.running, session ∈ s.leads
  leads : ∀ session ∈ s.leads, session ∈ s.held ∨ session ∈ s.ended
  held : ∀ session ∈ s.held, s.Holds session
  one : ∀ first ∈ s.held, ∀ second ∈ s.held, first = second
  again : ∀ session ∈ s.held.erase session, session ∈ s.unanswered

theorem step_sound (s : State) (event : Event) (next : State) (sound : Sound s)
    (ran : step s event = .ok next) : Sound next := by
  obtain ⟨running, leads, held, one, again⟩ := sound
  cases event with
  | tryAcquireWorkerLeadership session answered =>
    simp only [step, ite_error_eq_ok, not_or, not_exists, not_and] at ran
    obtain ⟨⟨isFree, isOpen, isPooled⟩, ran⟩ := ran
    -- only a failed call leaves the lock with a connection of the pool
    have unheld : session ∉ s.unanswered → session ∉ s.held := by
      intro answeredBefore mem
      rcases (held session mem).2 with lead | closed | failed
      · exact isFree session lead rfl
      · exact isPooled closed
      · exact answeredBefore failed
    split at ran
    · split at ran <;> cases ran
      all_goals constructor <;> grind [State.Holds]
    · cases ran
      exact ⟨running, leads, held, one, again⟩
  | stop =>
    cases ran
    exact ⟨by grind, leads, held, one, again⟩
  | endSession =>
    cases ran
    refine ⟨running, by grind, by grind [State.Holds], by grind, fun other mem => again other ?_⟩
    exact (List.filter_sublist.erase other).subset mem
  | exit =>
    simp only [step] at ran
    split at ran <;> cases ran
    constructor <;> grind [State.discard, State.Holds]
  | releaseWorkerLeadership =>
    simp only [step, ite_error_eq_ok] at ran
    obtain ⟨_, ran⟩ := ran
    split at ran <;> cases ran
    · refine ⟨by grind, by grind, ?_, by grind, fun other mem => again other ?_⟩
      · intro other mem
        have before := held other (List.mem_of_mem_erase mem)
        grind [State.Holds]
      · exact (List.erase_sublist.erase other).subset mem
    · constructor <;> grind [State.discard, State.Holds]

/-- Two replicas run the sweeps at once only when the session of one has ended,
and the lock is held by a leader, by a closed session that has yet to end, or
by a connection that went back to the pool after its lock call failed. -/
structure Exclusive (s : State) : Prop where
  one : ∀ first ∈ s.running, ∀ second ∈ s.running,
    first = second ∨ first ∈ s.ended ∨ second ∈ s.ended
  held : ∀ session ∈ s.held, s.Holds session

theorem leadership_exclusive (events : List Event) :
    Always step Exclusive State.started events := by
  refine always_of_invariant step_sound (fun s sound => ⟨?_, sound.held⟩) events ?_
  · constructor <;> simp [State.started]
  · intro first isFirst second isSecond
    have firstHeld := sound.leads first (sound.running first isFirst)
    have secondHeld := sound.leads second (sound.running second isSecond)
    have one := sound.one
    grind

end MercControl.Controls.Leadership
