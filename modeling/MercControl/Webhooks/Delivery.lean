import MercControl.Library.Machine
import Mathlib.Algebra.Group.Nat.Defs
import Mathlib.Tactic.SplitIfs

/-!
# Where webhooks connect to

A delivery looks its host up once for each request, refuses the answer if one of
its addresses is internal, and dials only the addresses of that answer.  The
check undoes the IPv4-mapped form of an address, but neither NAT64 nor 6to4. -/

namespace MercControl.Webhooks

open Library

/-- A `net.IP`; one that is neither 4 nor 16 bytes long is malformed. -/
inductive IP
  | v4 (n : BitVec 32)
  | v6 (n : BitVec 128)
  | malformed
  deriving DecidableEq

/-- A prefix with its length: the bytes of an IPv4 address, or the first three
groups of an IPv6 address. -/
inductive Prefix
  | v4 (a b c d bits : Nat)
  | v6 (a b c bits : Nat)

def Prefix.contains : Prefix → IP → Bool
  | .v4 a b c d bits, .v4 n =>
    n.toNat / 2 ^ (32 - bits) = (((a * 256 + b) * 256 + c) * 256 + d) / 2 ^ (32 - bits)
  | .v6 a b c bits, .v6 n =>
    n.toNat / 2 ^ (128 - bits) = ((a * 65536 + b) * 65536 + c) * 2 ^ 80 / 2 ^ (128 - bits)
  | _, _ => false

def IP.within (ip : IP) (prefixes : List Prefix) : Bool := prefixes.any (·.contains ip)

/-- An address in `::ffff:0:0/96` is an IPv4 address. -/
def IP.unmap : IP → IP
  | .v6 n => if n.toNat / 2 ^ 32 = 0xffff then .v4 (n.setWidth 32) else .v6 n
  | ip => ip

def IP.isLoopback (ip : IP) : Bool := ip.within [.v4 127 0 0 0 8] || ip = .v6 1

def IP.isPrivate (ip : IP) : Bool :=
  ip.within [.v4 10 0 0 0 8, .v4 172 16 0 0 12, .v4 192 168 0 0 16, .v6 0xfc00 0 0 7]

def IP.isLinkLocalUnicast (ip : IP) : Bool := ip.within [.v4 169 254 0 0 16, .v6 0xfe80 0 0 10]

def IP.isMulticast (ip : IP) : Bool := ip.within [.v4 224 0 0 0 4, .v6 0xff00 0 0 8]

def IP.isUnspecified (ip : IP) : Bool := ip = .v4 0 || ip = .v6 0

def IP.isGlobalUnicast (ip : IP) : Bool :=
  ip ≠ .v4 0 && ip ≠ .v4 0xffffffff && ip ≠ .v6 0 && !ip.isLoopback && !ip.isMulticast &&
    !ip.isLinkLocalUnicast

def webhookNonPublicPrefixes : List Prefix :=
  [.v4 0 0 0 0 8, .v4 100 64 0 0 10, .v4 192 0 0 0 24, .v4 192 0 2 0 24, .v4 198 18 0 0 15,
    .v4 198 51 100 0 24, .v4 203 0 113 0 24, .v4 240 0 0 0 4, .v6 0x64 0xff9b 1 48,
    .v6 0x100 0 0 64, .v6 0x2001 2 0 48, .v6 0x2001 0x10 0 28, .v6 0x2001 0x20 0 28,
    .v6 0x2001 0xdb8 0 32]

def isInternalWebhookIP (ip : IP) : Bool :=
  match ip.unmap with
  | .malformed => true
  | addr =>
    !addr.isGlobalUnicast || addr.isLoopback || addr.isPrivate || addr.isLinkLocalUnicast ||
      addr.isMulticast || addr.isUnspecified || addr.within webhookNonPublicPrefixes

/-- What a lookup returns; a candidate may have no address. -/
abbrev Answer := Option (List (Option IP))

inductive Failure
  | invalidUrl
  | unresolved
  | noAddresses
  | nonPublic

/-- `host` is what `validateWebhookURLSyntax` makes of the URL.  An address is
kept once, by its unmapped text. -/
def resolveWebhookTarget (allowPrivate : Bool) (host : Option String) (lookup : String → Answer) :
    Except Failure (List IP) :=
  match host with
  | none => .error .invalidUrl
  | some host =>
    match lookup host with
    | none => .error .unresolved
    | some answer =>
      let ips := answer.filterMap id
      if !allowPrivate && ips.any isInternalWebhookIP then .error .nonPublic
      else if ips = [] then .error .noAddresses
      else .ok (ips.map IP.unmap).eraseDups

def dialPinned (connects : IP → Bool) : List IP → List IP
  | [] => []
  | ip :: rest => if connects ip then [ip] else ip :: dialPinned connects rest

/-- What the network does during one request.  `redirect` is the URL, by its
host, that the response sends the client to. -/
structure Exchange where
  lookup : String → Answer
  connects : IP → Bool
  redirect : Option (Option String)

def webhookMaxRedirects : Nat := 0

/-- The requests of `http.Client` for one delivery, after `via` earlier ones:
each dialled address with the number of its request. -/
def deliver (allowPrivate : Bool) : Nat → Option String → List Exchange → List (Nat × IP)
  | _, _, [] => []
  | via, host, exchange :: rest =>
    match resolveWebhookTarget allowPrivate host exchange.lookup with
    | .error _ => []
    | .ok ips =>
      (dialPinned exchange.connects ips).map (via, ·) ++
        match exchange.redirect with
        | none => []
        | some next =>
          if !ips.any exchange.connects || webhookMaxRedirects < via + 1 then []
          else deliver allowPrivate (via + 1) next rest

/-- The IPv4 addresses that are not public: this network, private, shared,
loopback, link-local, protocol assignments, documentation, benchmarks,
multicast and reserved. -/
def nonPublicIPv4 : List Prefix :=
  [.v4 0 0 0 0 8, .v4 10 0 0 0 8, .v4 100 64 0 0 10, .v4 127 0 0 0 8, .v4 169 254 0 0 16,
    .v4 172 16 0 0 12, .v4 192 0 0 0 24, .v4 192 0 2 0 24, .v4 192 168 0 0 16, .v4 198 18 0 0 15,
    .v4 198 51 100 0 24, .v4 203 0 113 0 24, .v4 224 0 0 0 4, .v4 240 0 0 0 4]

/-- The IPv4 address inside a NAT64 or 6to4 address. -/
def IP.translated : IP → Option IP
  | .v6 n =>
    if Prefix.contains (.v6 0x64 0xff9b 0 96) (.v6 n) then some (.v4 (n.setWidth 32))
    else if Prefix.contains (.v6 0x2002 0 0 16) (.v6 n) then some (.v4 (n.extractLsb' 80 32))
    else none
  | _ => none

def IP.Untranslated (ip : IP) : Prop :=
  ∀ inner ∈ ip.translated, inner.within nonPublicIPv4 = false
  deriving Decidable

/-- The first request dialled an address of its own lookup that was validated,
and the address neither is nor carries a non-public IPv4 address. -/
structure Dialled (host : Option String) (lookup : String → Answer) (dial : Nat × IP) : Prop where
  unredirected : dial.1 = 0
  validated : ∃ name ∈ host, ∃ answer ∈ lookup name, ∃ ip, some ip ∈ answer ∧
    isInternalWebhookIP ip = false ∧ ip.unmap = dial.2
  isPublic : dial.2.within nonPublicIPv4 = false
  untranslated : dial.2.Untranslated

variable {ip : IP} {ips : List IP} {connects : IP → Bool}
  {host : Option String} {lookup : String → Answer}

theorem within_of_isInternal (passes : isInternalWebhookIP ip = false) :
    ip.unmap.within nonPublicIPv4 = false := by
  unfold isInternalWebhookIP at passes
  split at passes
  · cases passes
  · simp only [Bool.or_eq_false_iff, IP.isLoopback, IP.isPrivate, IP.isLinkLocalUnicast,
      IP.isMulticast, IP.within, webhookNonPublicPrefixes, List.any_cons, List.any_nil] at passes
    simp [IP.within, nonPublicIPv4, passes]

theorem resolveWebhookTarget_ok (ran : resolveWebhookTarget false host lookup = .ok ips) :
    ∃ name, host = some name ∧ ∃ answer, lookup name = some answer ∧
      (∀ ip, some ip ∈ answer → isInternalWebhookIP ip = false) ∧
      ∀ addr, addr ∈ ips ↔ ∃ ip, some ip ∈ answer ∧ ip.unmap = addr := by
  unfold resolveWebhookTarget at ran
  split at ran
  · cases ran
  next name =>
    split at ran
    · cases ran
    next answer isAnswer =>
      simp only [Machine.ite_error_eq_ok, Except.ok.injEq] at ran
      obtain ⟨passes, -, rfl⟩ := ran
      refine ⟨name, rfl, answer, isAnswer, fun ip mem => ?_, by simp⟩
      simp only [Bool.not_false, Bool.true_and, Bool.not_eq_true, List.any_eq_false] at passes
      exact passes ip (List.mem_filterMap.mpr ⟨some ip, mem, rfl⟩)

theorem mem_dialPinned (mem : ip ∈ dialPinned connects ips) : ip ∈ ips := by
  induction ips with
  | nil => exact mem
  | cons first rest ih =>
    rw [dialPinned] at mem
    split_ifs at mem
    · exact List.mem_cons.mpr (.inl (List.mem_singleton.mp mem))
    · exact List.mem_cons.mpr ((List.mem_cons.mp mem).imp_right ih)

theorem dialPinned_refused (ips : List IP) : dialPinned (fun _ => false) ips = ips := by
  induction ips with
  | nil => rfl
  | cons first rest ih => simp [dialPinned, ih]

/-- No redirect is followed. -/
theorem deliver_first (exchange : Exchange) (rest : List Exchange) :
    deliver false 0 host (exchange :: rest) =
      match resolveWebhookTarget false host exchange.lookup with
      | .error _ => []
      | .ok ips => (dialPinned exchange.connects ips).map (0, ·) := by
  rw [deliver]
  cases resolveWebhookTarget false host exchange.lookup with
  | error => rfl
  | ok => cases exchange.redirect <;> simp [webhookMaxRedirects]

/-- Every delivery dials public addresses, whatever the network does, exactly
if an accepted answer holds no non-public IPv4 address in NAT64 or 6to4 form. -/
theorem webhooks_public_iff (host : Option String) (lookup : String → Answer) :
    (∀ connects redirect rest,
      ∀ dial ∈ deliver false 0 host (⟨lookup, connects, redirect⟩ :: rest),
        Dialled host lookup dial) ↔
      ((resolveWebhookTarget false host lookup).isOk = true →
        ∀ name ∈ host, ∀ answer ∈ lookup name, ∀ ip, some ip ∈ answer → ip.unmap.Untranslated) := by
  constructor
  · intro safe accepted name isName answer isAnswer ip mem
    have dials := safe (fun _ => false) none []
    rw [deliver_first] at dials
    cases resolved : resolveWebhookTarget false host lookup with
    | error =>
      rw [resolved] at accepted
      cases accepted
    | ok =>
      obtain ⟨_, rfl, _, isLookup, -, kept⟩ := resolveWebhookTarget_ok resolved
      cases isName
      cases isLookup.symm.trans isAnswer
      simp only [resolved, dialPinned_refused] at dials
      exact (dials _ (List.mem_map_of_mem ((kept _).mpr ⟨ip, mem, rfl⟩))).untranslated
  · intro untranslated connects redirect rest dial mem
    rw [deliver_first] at mem
    cases resolved : resolveWebhookTarget false host lookup with
    | error =>
      rw [resolved] at mem
      cases mem
    | ok =>
      rw [resolved] at mem untranslated
      obtain ⟨addr, isDialled, rfl⟩ := List.mem_map.mp mem
      obtain ⟨name, rfl, answer, isAnswer, passes, kept⟩ := resolveWebhookTarget_ok resolved
      obtain ⟨ip, inAnswer, rfl⟩ := (kept addr).mp (mem_dialPinned isDialled)
      exact
        { unredirected := rfl
          validated := ⟨name, rfl, answer, isAnswer, ip, inAnswer, passes ip inAnswer, rfl⟩
          isPublic := within_of_isInternal (passes ip inAnswer)
          untranslated := untranslated rfl name rfl answer isAnswer ip inAnswer }

/-- `64:ff9b::127.0.0.1`. -/
def nat64Loopback : IP := .v6 0x0064ff9b00000000000000007f000001

theorem nat64Loopback_dialled :
    deliver false 0 (some "hook") [⟨fun _ => some [some nat64Loopback], fun _ => true, none⟩] =
        [(0, nat64Loopback)] ∧
      ¬nat64Loopback.Untranslated := by
  decide +kernel

end MercControl.Webhooks
