import Mathlib.Data.Prod.Lex
import Mathlib.Data.String.Basic
import MercControl.Library.Ballots

/-!
# Votes on a chunk

Every result of a chunk is a vote of the supplier that computed it.
`independentSupplierVotes` keeps one vote a supplier, and `majorityVote` looks
for bytes that more than half of the votes agree with.
-/

namespace MercControl.Verification

open Library

abbrev Uuid := Nat

def uuidNil : Uuid := 0

abbrev Bytes := List (Fin 256)

instance byte_ne_zero : NeZero 256 := ⟨Nat.succ_ne_zero 255⟩

inductive JobType
  | embed
  | batchInfer
  | mediaTranscode
  | mediaRendering
  | other
  deriving DecidableEq

def byteExactJobType (jobType : JobType) : Bool := jobType ≠ .embed

def currentEngineBuildIdentityPolicy : String := "merc_agent_running_executable_sha256_v1"

def externalRunnerBuildIdentityPolicy : String := "merc_external_runner_artifact_config_sha256_v1"

def validCurrentEngineBuildIdentityPolicy (policy : String) : Bool :=
  policy = currentEngineBuildIdentityPolicy ∨ policy = externalRunnerBuildIdentityPolicy

/-- An execution without a build, or with a policy that is not current, shares
its class with no execution, itself included. -/
def sameVerificationClass (aEngine aBuild bEngine bBuild : String)
    (aPolicy bPolicy : String) : Bool :=
  if aBuild = "" ∨ bBuild = "" then false
  else if !validCurrentEngineBuildIdentityPolicy aPolicy ||
      !validCurrentEngineBuildIdentityPolicy bPolicy then
    false
  else aEngine = bEngine && aBuild = bBuild && aPolicy = bPolicy

def classKey (engine buildHash policy : String) : String :=
  if buildHash = "" then ""
  else if !validCurrentEngineBuildIdentityPolicy policy then ""
  else engine ++ "|" ++ buildHash ++ "|" ++ policy

def byteHoneypotComparable (jobType : JobType) (answerClass : String)
    (engine buildHash policy : String) : Bool :=
  if !byteExactJobType jobType then true
  else answerClass ≠ "" && answerClass = classKey engine buildHash policy

/-- `a` is the reference and `b` the candidate.  The comparator of embeddings
works on decoded vectors and is left open. -/
def resultsAgree (compareEmbeddings : Bytes → Bytes → Bool) : JobType → Bytes → Bytes → Bool
  | .embed, a, b => compareEmbeddings a b
  | .batchInfer, a, b => a = b
  | .mediaTranscode, a, b => a = b
  | .mediaRendering, a, b => a = b
  | .other, _, _ => false

structure ChunkVote where
  supplierId : Uuid
  taskId : Uuid
  bytes : Bytes
  engine : String
  buildHash : String
  buildIdentityPolicy : String
  deriving DecidableEq

namespace ChunkVote

def sameClass (a b : ChunkVote) : Bool :=
  sameVerificationClass a.engine a.buildHash b.engine b.buildHash
    a.buildIdentityPolicy b.buildIdentityPolicy

end ChunkVote

def chunkVoteLess (a b : ChunkVote) : Bool :=
  if a.taskId ≠ b.taskId then a.taskId < b.taskId
  else if a.supplierId ≠ b.supplierId then a.supplierId < b.supplierId
  else if a.bytes ≠ b.bytes then a.bytes < b.bytes
  else if a.engine ≠ b.engine then a.engine < b.engine
  else if a.buildHash ≠ b.buildHash then a.buildHash < b.buildHash
  else a.buildIdentityPolicy < b.buildIdentityPolicy

/-- One vote a supplier, the least one, in the order of `chunkVoteLess`. -/
def independentSupplierVotes (all : List ChunkVote) : List ChunkVote :=
  if all.length ≤ 1 then all
  else
    (Table.least ChunkVote.supplierId chunkVoteLess all).rows.insertionSort
      fun a b => ¬chunkVoteLess b a

def minIndependentSuppliersForRedundancy : Nat := 2

def independentRedundancyMatch (all : List ChunkVote) : Bool :=
  minIndependentSuppliersForRedundancy ≤ (independentSupplierVotes all).length

def majorityVote (agree : Bytes → Bytes → Bool) (results : List Bytes) : Bytes :=
  match results.find? fun result => results.length < 2 * results.countP (agree result) with
  | some winner => winner
  | none => results.headD []

/-! ### The order of the votes -/

namespace ChunkVote

/-- The fields of a vote in the order in which `chunkVoteLess` compares
them. -/
def fields (vote : ChunkVote) : Uuid ×ₗ Uuid ×ₗ Bytes ×ₗ String ×ₗ String ×ₗ String :=
  toLex (vote.taskId, toLex (vote.supplierId, toLex (vote.bytes,
    toLex (vote.engine, toLex (vote.buildHash, vote.buildIdentityPolicy)))))

theorem fields_injective : Function.Injective fields := by
  intro a b same
  cases a
  cases b
  simpa [fields, and_left_comm] using same

instance : LinearOrder ChunkVote := LinearOrder.lift' fields fields_injective

end ChunkVote

variable {a b vote other : ChunkVote} {all votes : List ChunkVote}

theorem chunkVoteLess_iff (a b : ChunkVote) : chunkVoteLess a b ↔ a < b := by
  change chunkVoteLess a b ↔ a.fields < b.fields
  simp only [ChunkVote.fields, Prod.Lex.toLex_lt_toLex]
  unfold chunkVoteLess
  split_ifs <;> simp_all

abbrev Counts (all : List ChunkVote) (vote : ChunkVote) : Prop :=
  Table.Leads ChunkVote.supplierId all vote

theorem independentSupplierVotes_eq (all : List ChunkVote) : independentSupplierVotes all =
      (Table.least ChunkVote.supplierId chunkVoteLess all).rows.insertionSort (· ≤ ·) := by
  have order : (fun a b : ChunkVote => ¬chunkVoteLess b a) = (· ≤ ·) := by
    funext a b
    rw [chunkVoteLess_iff, not_lt]
  match all with
  | [] => rfl
  | [vote] => rfl
  | first :: second :: rest =>
    rw [independentSupplierVotes, if_neg (by simp)]
    congr

theorem mem_independentSupplierVotes : vote ∈ independentSupplierVotes all ↔ Counts all vote := by
  rw [independentSupplierVotes_eq, List.mem_insertionSort, Table.mem_least chunkVoteLess_iff]

theorem independentSupplierVotes_suppliers_nodup (all : List ChunkVote) :
    ((independentSupplierVotes all).map ChunkVote.supplierId).Nodup := by
  rw [independentSupplierVotes_eq]
  exact ((List.perm_insertionSort _ _).map _).nodup_iff.mpr
    (Table.least ChunkVote.supplierId chunkVoteLess all).distinct

theorem independentSupplierVotes_congr (same : ∀ vote, vote ∈ all ↔ vote ∈ votes) :
    independentSupplierVotes all = independentSupplierVotes votes := by
  rw [independentSupplierVotes_eq, independentSupplierVotes_eq]
  exact insertionSort_eq_of_perm (Table.least_perm chunkVoteLess_iff same)

theorem eq_of_counted (counted : vote ∈ independentSupplierVotes all)
    (also : other ∈ independentSupplierVotes all)
    (same : vote.supplierId = other.supplierId) : vote = other :=
  (mem_independentSupplierVotes.mp counted).unique (mem_independentSupplierVotes.mp also) same

theorem independentSupplierVotes_idem (all : List ChunkVote) :
    independentSupplierVotes (independentSupplierVotes all) = independentSupplierVotes all := by
  have sorted : (independentSupplierVotes all).Pairwise (· ≤ ·) := by
    rw [independentSupplierVotes_eq]
    exact List.pairwise_insertionSort _ _
  rw [independentSupplierVotes_eq (independentSupplierVotes all)]
  refine List.Perm.eq_of_pairwise (fun left right _ _ => le_antisymm)
    (List.pairwise_insertionSort _ _) sorted ((List.perm_insertionSort _ _).trans ?_)
  rw [List.perm_ext_iff_of_nodup]
  · intro vote
    rw [Table.mem_least chunkVoteLess_iff]
    constructor
    · exact fun leads => leads.1
    · intro counted
      exact ⟨counted, fun other also same => (eq_of_counted counted also same.symm).le⟩
  · exact List.Nodup.of_map _ (Table.least _ _ _).distinct
  · exact List.Nodup.of_map _ (independentSupplierVotes_suppliers_nodup all)

end MercControl.Verification
