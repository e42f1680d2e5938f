import MercControl.Pricing.ExactMoney

/-!
# The output ceiling of a generative job

The number of output tokens of a `batch_infer` record is resolved where the job
is priced, planned, bounded and settled, each time from the submitted
`max_tokens`.  The agent gets it through two JSON objects that leave out zero.
-/

namespace MercControl.Pricing

open Library Machine

/-- `validJobTypes`, and any other text. -/
inductive JobKind
  | embed
  | batchInfer
  | mediaTranscode
  | mediaRendering
  | other (name : String)
  deriving DecidableEq

/-- `JobType`, without the fields of media jobs. -/
structure JobType where
  type : JobKind
  batchSize : Int := 0
  embedBinary : Bool := false
  maxTokens : UInt32 := 0
  temperature : ℚ := 0

inductive Tier
  | batch
  | priority
  | trusted
  | other (name : String)
  deriving DecidableEq

/-- A floating-point field is `none` when it is not finite. -/
structure JobSubmit where
  jobType : JobType
  model : String
  objective : String := ""
  params : String := ""
  tier : Tier := .other ""
  maxUSD : Option ℚ := some 0
  minReputation : Option ℚ := some 0
  minMemoryGB : Option ℚ := some 0
  redundancyFrac : Option ℚ := some 0
  honeypotFrac : Option ℚ := some 0

structure HttpError where
  code : Nat
  message : String

def badRequest (message : String) : HttpError := ⟨400, message⟩

/-- What the validation asks of the installed authorities and contracts, with
the texts of their errors.  `delivery` checks hardware classes, residency, the
webhook and the deadline. -/
structure Contracts where
  canonicalWorkloadObjective : String → Except HttpError String
  normalizeAdvertisedRuntimeModelRef : JobKind → String → Except HttpError String
  mediaTranscode : JobSubmit → Except HttpError JobSubmit
  mediaRendering : JobSubmit → Except HttpError JobSubmit
  canonicalizeJobParams : String → Except HttpError String
  delivery : JobSubmit → Except HttpError Unit

def maxEmbedBatchSize : Int := 4096

def validFiniteUnitFloat (value : Option ℚ) : Bool :=
  value.any fun number => 0 ≤ number && number ≤ 1

/-- The numbers of a submission that have to be in a range, with the text of
each refusal, in the order of the checks. -/
def numberChecks (sub : JobSubmit) : List (Bool × String) :=
  [(sub.maxUSD.any (0 ≤ ·), "max_usd must be a finite non-negative number"),
    (validFiniteUnitFloat sub.minReputation, "min_reputation must be a finite number in [0,1]"),
    (sub.minMemoryGB.any (0 ≤ ·), "constraints.min_memory_gb must be a finite non-negative number"),
    (validFiniteUnitFloat sub.redundancyFrac,
      "verification.redundancy_frac must be a finite number in [0,1]"),
    (validFiniteUnitFloat sub.honeypotFrac,
      "verification.honeypot_frac must be a finite number in [0,1]")]

/-- The switch over the job type in `normalizeAndValidateJobSubmit`. -/
def jobTypeCheck (contracts : Contracts) (sub : JobSubmit) : Except HttpError JobSubmit :=
  match sub.jobType.type with
  | .embed =>
    if sub.jobType.maxTokens ≠ 0 ∨ sub.jobType.temperature ≠ 0 then
      .error (badRequest "embed workload cannot carry generation-only max_tokens or temperature fields")
    else if sub.jobType.batchSize < 0 ∨ maxEmbedBatchSize < sub.jobType.batchSize then
      .error (badRequest "embed batch_size must be in [0,4096]")
    else .ok sub
  | .batchInfer =>
    if sub.jobType.batchSize ≠ 0 ∨ sub.jobType.embedBinary = true then
      .error (badRequest "batch_infer workload cannot carry embedding-only batch_size or binary fields")
    else .ok sub
  | .mediaTranscode => contracts.mediaTranscode sub
  | .mediaRendering => contracts.mediaRendering sub
  | .other _ => .ok sub

/-- The checks of `normalizeAndValidateJobSubmit` after the job type's. -/
def executionCheck (contracts : Contracts) (sub : JobSubmit) : Except HttpError JobSubmit :=
  if sub.jobType.temperature ≠ 0 then
    .error (badRequest "temperature must be 0: verified execution decodes deterministically so redundant workers can be compared, and sampling would make honest workers disagree")
  else
    (contracts.canonicalizeJobParams sub.params).bind fun params =>
    (contracts.delivery { sub with params }).bind fun _ => .ok { sub with params }

def normalizeAndValidateJobSubmit (contracts : Contracts) (sub : JobSubmit) :
    Except HttpError JobSubmit :=
  match (numberChecks sub).find? (! ·.1), sub.jobType.type with
  | some failed, _ => .error (badRequest failed.2)
  | none, .other "" => .error (badRequest "job_type.type is required")
  | none, .other name =>
    .error (badRequest ("invalid job_type.type: " ++ name))
  | none, kind =>
    match if sub.tier = .other "" then .batch else sub.tier with
    | .other name => .error (badRequest ("invalid tier: " ++ name))
    | tier =>
      (contracts.canonicalWorkloadObjective sub.objective).bind fun objective =>
      (contracts.normalizeAdvertisedRuntimeModelRef kind sub.model).bind fun model =>
      (jobTypeCheck contracts { sub with tier, objective, model }).bind (executionCheck contracts)

structure JobTypeObject where
  type : JobKind
  batchSize : Option Int
  binary : Option Bool
  maxTokens : Option UInt32
  temperature : Option ℚ

/-- A member with the tag `omitempty`. -/
def omitEmpty {α : Type} [DecidableEq α] (zero value : α) : Option α :=
  if value = zero then none else some value

@[simp]
theorem omitEmpty_getD {α : Type} [DecidableEq α] (zero value : α) :
    (omitEmpty zero value).getD zero = value := by
  by_cases empty : value = zero <;> simp [omitEmpty, empty]

def JobType.marshal (jobType : JobType) : JobTypeObject where
  type := jobType.type
  batchSize := omitEmpty 0 jobType.batchSize
  binary := omitEmpty false jobType.embedBinary
  maxTokens := omitEmpty 0 jobType.maxTokens
  temperature := omitEmpty 0 jobType.temperature

def JobTypeObject.unmarshal (object : JobTypeObject) : JobType where
  type := object.type
  batchSize := object.batchSize.getD 0
  embedBinary := object.binary.getD false
  maxTokens := object.maxTokens.getD 0
  temperature := object.temperature.getD 0

@[simp]
theorem unmarshal_marshal (jobType : JobType) : jobType.marshal.unmarshal = jobType := by
  simp [JobType.marshal, JobTypeObject.unmarshal]

def defaultQuoteMaxTokens : UInt32 := 256

def generativeJobType (kind : JobKind) : Bool := kind = .batchInfer

/-- `outTokensPerRecord` of the price and `perRecord` of the plan. -/
def outTokensPerRecord (jobType : JobType) : UInt32 :=
  if jobType.maxTokens = 0 then defaultQuoteMaxTokens else jobType.maxTokens

def settlementInputUnitsForGeometry (records inputBytes : Int) : ℚ :=
  if records ≤ 0 ∨ inputBytes ≤ 0 then 0 else max records (inputBytes / 4)

def settlementBillableUnitsForJobType (jobType : JobType) (inputBytesLen nLines : Int) : ℚ :=
  let units := settlementInputUnitsForGeometry nLines inputBytesLen
  if generativeJobType jobType.type ∧ 0 < nLines then
    units + nLines * (outTokensPerRecord jobType).toNat
  else units

/-- The job type is the one that the workload decision binds. -/
def estimatedOutputTokensForComputePlan (bound : JobType) (records : Int) : Int :=
  if records ≤ 0 ∨ ¬ generativeJobType bound.type then 0
  else records * (outTokensPerRecord bound).toNat

def verificationMaxGenerationTokens : Int := 8192

def verificationArtifactPolicyFloor : Int := 1048576

def verificationArtifactAbsoluteMaxBytes : Int := 75497472

def defaultSplitSize : Int := 256

def saturatingMul (a b : Int) : Int :=
  if a ≤ 0 ∨ b ≤ 0 then 0 else if maxInt64 / b < a then maxInt64 else a * b

def saturatingAdd (a b : Int) : Int :=
  if 0 < b ∧ maxInt64 - b < a then maxInt64 else a + b

/-- `tokens` of `verificationArtifactMaxBytesForRecords`. -/
def artifactTokens (maxTokens : UInt32) : Int :=
  let tokens : Int := maxTokens.toNat
  let tokens : Int := if tokens ≤ 0 then defaultQuoteMaxTokens.toNat else tokens
  if verificationMaxGenerationTokens < tokens then
    verificationMaxGenerationTokens else tokens

def verificationArtifactMaxBytesForRecords (kind : JobKind)
    (expectedRecords legacySplitSize : Int) (maxTokens : UInt32) : Int :=
  let rows := if expectedRecords ≤ 0 then legacySplitSize else expectedRecords
  let rows := if rows ≤ 0 then defaultSplitSize else rows
  let bounded estimate := min (max (Int.bmod estimate (2 ^ 64)) verificationArtifactPolicyFloor)
    verificationArtifactAbsoluteMaxBytes
  match kind with
  | .embed => bounded (verificationArtifactPolicyFloor + saturatingMul rows 16384)
  | .batchInfer =>
    let perRow := saturatingAdd (saturatingMul (artifactTokens maxTokens) 128) 2048
    bounded (verificationArtifactPolicyFloor + saturatingMul rows perRow)
  | .mediaTranscode => bounded 67108864
  | .mediaRendering => bounded 4194304
  | .other _ => verificationArtifactPolicyFloor

/-- `jobMaxTokens` of a committed task, read from the stored decision. -/
def jobMaxTokens (bound : JobTypeObject) : UInt32 := bound.maxTokens.getD 0

def effectiveObservedOutputMaxTokens (bound : JobType) (estimatedOutputTokens : Int) : UInt32 :=
  if bound.maxTokens = 0 ∧ generativeJobType bound.type ∧
      0 < estimatedOutputTokens then defaultQuoteMaxTokens
  else bound.maxTokens

/-- The job type of the manifest in `handleWorkerPoll`, from the kind of the
claimed task and the stored specification. -/
def manifestJobType (claimed : JobKind) (spec : Option JobTypeObject) : JobType :=
  match spec with
  | none => { type := claimed }
  | some object =>
    if object.unmarshal.type = .other "" then { type := claimed } else object.unmarshal

/-- The agent's `JobType`, without the fields of media jobs. -/
inductive AgentJobType
  | embed (batchSize : Int) (binary : Bool)
  | batchInfer (maxTokens : UInt32) (temperature : ℚ)
  | mediaTranscode
  | mediaRendering

/-- The agent reads a missing member as its default. -/
def JobTypeObject.agentJobType (object : JobTypeObject) : Option AgentJobType :=
  match object.type with
  | .embed => some (.embed (object.batchSize.getD 0) (object.binary.getD false))
  | .batchInfer => some (.batchInfer (object.maxTokens.getD 0) (object.temperature.getD 0))
  | .mediaTranscode => some .mediaTranscode
  | .mediaRendering => some .mediaRendering
  | .other _ => none

/-- The ceiling of `GenerateParams::greedy` in `run_with_checkpoints`; `none`
is a refused run. -/
def decoderMaxTokens (job : AgentJobType) : Option UInt32 :=
  let (maxTokens, temperature) := match job with
    | .batchInfer maxTokens temperature => (maxTokens, temperature)
    | _ => (256, 0)
  if temperature ≠ 0 then none else some maxTokens

def dispatchedMaxTokens (claimed : JobKind) (stored : JobTypeObject) : Option UInt32 :=
  (manifestJobType claimed (some stored)).marshal.agentJobType.bind decoderMaxTokens

/-- Each consumer of an accepted submission uses this ceiling for a record. -/
structure OneCeiling (sub : JobSubmit) (ceiling : UInt32) : Prop where
  priced : ∀ inputBytes records, 0 < records →
    settlementBillableUnitsForJobType sub.jobType inputBytes records =
      settlementInputUnitsForGeometry records inputBytes + records * ceiling.toNat
  planned : ∀ records, 0 < records →
    estimatedOutputTokensForComputePlan sub.jobType.marshal.unmarshal records =
      records * ceiling.toNat
  artifact : artifactTokens (jobMaxTokens sub.jobType.marshal) = ceiling.toNat
  settled : ∀ records, 0 < records →
    effectiveObservedOutputMaxTokens sub.jobType.marshal.unmarshal
      (estimatedOutputTokensForComputePlan sub.jobType.marshal.unmarshal records) = ceiling
  decoded : dispatchedMaxTokens sub.jobType.type sub.jobType.marshal = some ceiling

variable {contracts : Contracts} {sub accepted : JobSubmit}

theorem executionCheck_ok (checked : executionCheck contracts sub = .ok accepted) :
    sub.jobType.temperature = 0 ∧ accepted.jobType = sub.jobType := by
  obtain ⟨greedy, checked⟩ := ite_error_eq_ok.mp checked
  obtain ⟨_, _, checked⟩ := bind_eq_ok.mp checked
  obtain ⟨_, checked⟩ := check_bind_eq_ok.mp checked
  cases checked
  exact ⟨not_not.mp greedy, rfl⟩

/-- The validation leaves the job type of a generative submission as it came and
lets no temperature through. -/
theorem normalizeAndValidateJobSubmit_batchInfer (generative : sub.jobType.type = .batchInfer)
    (valid : normalizeAndValidateJobSubmit contracts sub = .ok accepted) :
    accepted.jobType = sub.jobType ∧ sub.jobType.temperature = 0 := by
  simp only [normalizeAndValidateJobSubmit, generative] at valid
  split at valid
  · cases valid
  · cases valid
  · cases valid
  split at valid
  · cases valid
  obtain ⟨_, _, valid⟩ := bind_eq_ok.mp valid
  obtain ⟨_, _, valid⟩ := bind_eq_ok.mp valid
  obtain ⟨_, checked, valid⟩ := bind_eq_ok.mp valid
  obtain ⟨greedy, kept⟩ := executionCheck_ok valid
  simp only [jobTypeCheck, generative] at checked
  cases (ite_error_eq_ok.mp checked).2
  exact ⟨kept, greedy⟩

theorem dispatchedMaxTokens_batchInfer (generative : sub.jobType.type = .batchInfer)
    (greedy : sub.jobType.temperature = 0) :
    dispatchedMaxTokens sub.jobType.type sub.jobType.marshal = some sub.jobType.maxTokens := by
  have agent : sub.jobType.marshal.agentJobType = some (.batchInfer sub.jobType.maxTokens 0) := by
    simp [JobTypeObject.agentJobType, JobType.marshal, generative, greedy]
  simp [dispatchedMaxTokens, manifestJobType, generative, agent, decoderMaxTokens]

theorem artifactTokens_eq_iff {maxTokens : UInt32} :
    artifactTokens maxTokens = maxTokens.toNat ↔ 1 ≤ maxTokens.toNat ∧ maxTokens.toNat ≤ 8192 := by
  simp only [artifactTokens, verificationMaxGenerationTokens, defaultQuoteMaxTokens]
  split <;> split <;> simp_all <;> omega

/-- The consumers use one ceiling exactly when the submission names one between
a single token and the context of the agent. -/
theorem output_ceiling_agrees (generative : sub.jobType.type = .batchInfer)
    (valid : normalizeAndValidateJobSubmit contracts sub = .ok accepted) :
    (∃ ceiling, OneCeiling accepted ceiling) ↔
      1 ≤ sub.jobType.maxTokens.toNat ∧ sub.jobType.maxTokens.toNat ≤ 8192 := by
  obtain ⟨kept, greedy⟩ := normalizeAndValidateJobSubmit_batchInfer generative valid
  have decoded := dispatchedMaxTokens_batchInfer generative greedy
  have stored : jobMaxTokens sub.jobType.marshal = sub.jobType.maxTokens := omitEmpty_getD 0 _
  constructor
  · rintro ⟨ceiling, one⟩
    have same := one.decoded
    rw [kept, decoded, Option.some.injEq] at same
    have bounded := one.artifact
    rw [kept, stored, ← same] at bounded
    exact artifactTokens_eq_iff.mp bounded
  · intro named
    have given : sub.jobType.maxTokens ≠ 0 := by
      intro omitted
      simp [omitted] at named
    refine ⟨sub.jobType.maxTokens, ?_, ?_, ?_, ?_, ?_⟩ <;> rw [kept]
    · intro inputBytes records positive
      simp [settlementBillableUnitsForJobType, generativeJobType, generative,
        outTokensPerRecord, given, positive]
    · intro records positive
      simp [estimatedOutputTokensForComputePlan, generativeJobType, generative,
        outTokensPerRecord, given, positive]
    · rw [stored, artifactTokens_eq_iff]
      exact named
    · intro records _
      simp [effectiveObservedOutputMaxTokens, given]
    · exact decoded

def submitted (maxTokens : UInt32) : JobSubmit where
  jobType := { type := .batchInfer, maxTokens }
  model := "llama-3.2-1b-instruct-q4"
  tier := .batch

def openContracts : Contracts where
  canonicalWorkloadObjective := .ok
  normalizeAdvertisedRuntimeModelRef _ := .ok
  mediaTranscode := .ok
  mediaRendering := .ok
  canonicalizeJobParams := .ok
  delivery _ := .ok ()

theorem output_ceiling_agrees_given : ∃ ceiling, OneCeiling (submitted 512) ceiling := by
  have valid : normalizeAndValidateJobSubmit openContracts (submitted 512) =
      .ok (submitted 512) := rfl
  exact (output_ceiling_agrees rfl valid).mpr (by decide)

/-- A submission without `max_tokens` is sold with 256 tokens for each record,
and its decoder is told to produce none. -/
theorem omitted_ceiling_differs :
    normalizeAndValidateJobSubmit openContracts (submitted 0) = .ok (submitted 0) ∧
      ¬ ∃ ceiling, OneCeiling (submitted 0) ceiling := by
  refine ⟨rfl, ?_⟩
  rintro ⟨ceiling, one⟩
  have settled : defaultQuoteMaxTokens = ceiling := one.settled 1 (by decide)
  have decoded : some 0 = some ceiling := one.decoded
  rw [← settled] at decoded
  exact absurd decoded (by decide)

end MercControl.Pricing
