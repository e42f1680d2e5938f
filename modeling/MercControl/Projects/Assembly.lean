import MercControl.Pricing.RealtimeDecision
import Mathlib.Data.List.Forall2

/-!
# Assembly of a rendered project

The manifest of an assembly lists every attempt at every unit, in order.
`validateOrdinalAssemblyCoverage` walks it with one cursor, which the loop over
the ordinals and the loop over the attempts of an ordinal share.
-/

namespace MercControl.Projects

open Library Machine

inductive AssemblyStatus
  | failed
  | succeeded
  | other (text : String)
  deriving DecidableEq

structure AssemblyUnit where
  ordinal : Int
  attempt : Int
  status : AssemblyStatus
  outputSHA256 : String
  failureCode : String

structure AssemblySummary where
  unitCount : Int
  succeededUnits : Nat
  failedAttempts : Nat
  replacedOrdinals : Nat

def maxRenderAssemblyAttempts : Nat := 64

def validSHA256 (value : String) : Bool :=
  value.utf8ByteSize == 64 &&
    value.toList.all fun char => char ∈ "0123456789abcdefABCDEF".toList

def AssemblyUnit.validFailure (unit : AssemblyUnit) : Bool :=
  !unit.failureCode.toList.all Pricing.isSpace && decide (unit.failureCode.utf8ByteSize ≤ 128) &&
    unit.outputSHA256 == ""

def AssemblyUnit.validSuccess (unit : AssemblyUnit) : Bool :=
  validSHA256 unit.outputSHA256 && unit.failureCode == ""

/-- The verb `%q`, for text in which what is not ASCII is printable. -/
def quoted (text : String) : String :=
  let escaped : Char → String
    | '\x07' => "\\a"
    | '\x08' => "\\b"
    | '\x0b' => "\\v"
    | '\x0c' => "\\f"
    | '\r' => "\\r"
    | c => c.quoteCore true
  "\"" ++ String.join (text.toList.map escaped) ++ "\""

/-- What the attempts of one ordinal leave: the units from the cursor on, the
two flags and the counts. -/
structure Observed where
  units : List AssemblyUnit
  succeeded : Bool
  failedForOrdinal : Bool
  summary : AssemblySummary

def observeAttempts (ordinal attempt : Nat) (succeeded failedForOrdinal : Bool)
    (summary : AssemblySummary) : List AssemblyUnit → Except String Observed
  | [] => .ok ⟨[], succeeded, failedForOrdinal, summary⟩
  | unit :: rest =>
    if unit.ordinal ≠ ordinal then .ok ⟨unit :: rest, succeeded, failedForOrdinal, summary⟩
    else if unit.attempt ≠ attempt ∨ maxRenderAssemblyAttempts ≤ attempt then
      .error s!"ordinal {ordinal} attempts are not contiguous and bounded"
    else
      match unit.status with
      | .failed =>
        if succeeded || !unit.validFailure then
          .error s!"ordinal {ordinal} has an invalid failed attempt"
        else
          observeAttempts ordinal (attempt + 1) succeeded true
            { summary with failedAttempts := summary.failedAttempts + 1 } rest
      | .succeeded =>
        if succeeded || !unit.validSuccess then
          .error s!"ordinal {ordinal} has an invalid successful attempt"
        else
          observeAttempts ordinal (attempt + 1) true failedForOrdinal
            { summary with succeededUnits := summary.succeededUnits + 1 } rest
      | .other text => .error s!"ordinal {ordinal} has unsupported status {quoted text}"

/-- The loop over the ordinals, of which `left` are still to come. -/
def coverOrdinals : (left ordinal : Nat) → List AssemblyUnit → AssemblySummary →
    Except String (List AssemblyUnit × AssemblySummary)
  | 0, _, units, summary => .ok (units, summary)
  | left + 1, ordinal, units, summary =>
    if units.head?.all fun unit => unit.ordinal ≠ (ordinal : Int) then
      .error s!"assembly is missing ordinal {ordinal}"
    else
      (observeAttempts ordinal 0 false false summary units).bind fun observed =>
      if !observed.succeeded then
        .error s!"ordinal {ordinal} has no successful replacement result"
      else
        coverOrdinals left (ordinal + 1) observed.units { observed.summary with
          replacedOrdinals := observed.summary.replacedOrdinals + observed.failedForOrdinal.toNat }

def validateOrdinalAssemblyCoverage (unitCount : Int) (units : List AssemblyUnit) :
    Except String AssemblySummary :=
  if unitCount ≤ 0 then .error "assembly coverage requires a positive unit count"
  else if units = [] then .error "assembly manifest has no units"
  else
    (coverOrdinals unitCount.toNat 0 units ⟨unitCount, 0, 0, 0⟩).bind fun (rest, summary) =>
    if rest ≠ [] then .error "assembly manifest contains an out-of-range or duplicate ordinal"
    else if summary.succeededUnits ≠ unitCount then
      .error "assembly manifest does not cover every planned unit"
    else .ok summary

/-- Well-formed failed attempts at the ordinal, numbered from `attempt` on, and
one well-formed success after them, all numbered below the limit. -/
def IsGroup (attempt ordinal : Nat) : List AssemblyUnit → Prop
  | [] => False
  | unit :: rest =>
    unit.ordinal = ordinal ∧ unit.attempt = attempt ∧ attempt < maxRenderAssemblyAttempts ∧
      (unit.status = .failed ∧ unit.validFailure ∧ IsGroup (attempt + 1) ordinal rest ∨
        unit.status = .succeeded ∧ unit.validSuccess ∧ rest = [])

def Covers (ordinals : List Nat) (units : List AssemblyUnit) : Prop :=
  ∃ groups, units = groups.flatten ∧ List.Forall₂ (IsGroup 0) ordinals groups

def hasFailure (units : List AssemblyUnit) (ordinal : Nat) : Bool :=
  units.any fun unit => unit.ordinal = ordinal && unit.status = .failed

def AssemblySummary.count (summary : AssemblySummary) (units : List AssemblyUnit) :
    AssemblySummary :=
  { summary with
    succeededUnits := summary.succeededUnits + units.countP (·.status = .succeeded)
    failedAttempts := summary.failedAttempts + units.countP (·.status = .failed) }

variable {ordinal attempt left : Nat} {units group rest : List AssemblyUnit}
  {summary counted : AssemblySummary} {failedForOrdinal replaced : Bool}

theorem observeAttempts_succeeded {observed : Observed} :
    observeAttempts ordinal attempt true failedForOrdinal summary units = .ok observed ↔
      (∀ unit ∈ units.head?, unit.ordinal ≠ ordinal) ∧
        ⟨units, true, failedForOrdinal, summary⟩ = observed := by
  cases units with
  | nil => simp [observeAttempts]
  | cons unit rest =>
    by_cases isOrdinal : unit.ordinal = ordinal
    · cases status : unit.status <;> simp [observeAttempts, isOrdinal, status]
    · simp [observeAttempts, isOrdinal]

/-- The attempts of an ordinal end in a success if the cursor is at a group of it. -/
theorem observeAttempts_eq_ok :
    observeAttempts ordinal attempt false failedForOrdinal summary units =
        .ok ⟨rest, true, replaced, counted⟩ ↔
      ∃ group, units = group ++ rest ∧ IsGroup attempt ordinal group ∧
        (∀ unit ∈ rest.head?, unit.ordinal ≠ ordinal) ∧
        (failedForOrdinal || hasFailure group ordinal) = replaced ∧
        summary.count group = counted := by
  induction units generalizing attempt failedForOrdinal summary with
  | nil => simp [observeAttempts, IsGroup]
  | cons unit tail ih =>
    -- A group is not empty, so that it takes the unit at the cursor.
    simp only [observeAttempts, List.cons_eq_append_iff, or_and_right, exists_or]
    by_cases isOrdinal : unit.ordinal = ordinal
    · cases status : unit.status with
      | failed =>
        simp [isOrdinal, status, ih, IsGroup, hasFailure, AssemblySummary.count, Nat.add_assoc,
          Nat.add_comm 1]
        grind
      | succeeded =>
        simp [isOrdinal, status, observeAttempts_succeeded, IsGroup, hasFailure,
          AssemblySummary.count]
        grind
      | other text => simp [isOrdinal, status, IsGroup]
    · simp [isOrdinal, IsGroup]

theorem IsGroup.ordinal_eq (isGroup : IsGroup attempt ordinal group) :
    ∀ unit ∈ group, unit.ordinal = ordinal := by
  induction group generalizing attempt with
  | nil => simp
  | cons unit rest ih =>
    obtain ⟨isOrdinal, -, -, ⟨-, -, later⟩ | ⟨-, -, rfl⟩⟩ := isGroup
    · simpa using ⟨isOrdinal, ih later⟩
    · simpa using isOrdinal

theorem IsGroup.countP_succeeded (isGroup : IsGroup attempt ordinal group) :
    group.countP (·.status = .succeeded) = 1 := by
  induction group generalizing attempt with
  | nil => exact isGroup.elim
  | cons unit rest ih =>
    obtain ⟨-, -, -, ⟨failed, -, later⟩ | ⟨succeeded, -, rfl⟩⟩ := isGroup
    · simp [failed, ih later]
    · simp [succeeded]

theorem covers_nil : Covers [] units ↔ units = [] := by
  simp [Covers]

theorem covers_cons {ordinals : List Nat} :
    Covers (ordinal :: ordinals) units ↔
      ∃ group rest, units = group ++ rest ∧ IsGroup 0 ordinal group ∧ Covers ordinals rest := by
  simp only [Covers, List.forall₂_cons_left_iff]
  grind

theorem covers_range' (covers : Covers (List.range' ordinal left) units) :
    (∀ unit ∈ units, (ordinal : Int) ≤ unit.ordinal) ∧
      units.countP (·.status = .succeeded) = left := by
  induction left generalizing ordinal units with
  | zero => simp [covers_nil.mp covers]
  | succ left ih =>
    obtain ⟨group, rest, rfl, isGroup, later⟩ := covers_cons.mp covers
    obtain ⟨above, succeeded⟩ := ih later
    constructor
    · grind [IsGroup.ordinal_eq]
    · rw [List.countP_append, isGroup.countP_succeeded, succeeded, Nat.add_comm]

theorem countP_hasFailure (isGroup : IsGroup 0 ordinal group)
    (covers : Covers (List.range' (ordinal + 1) left) rest) :
    (List.range' ordinal (left + 1)).countP (hasFailure (group ++ rest)) =
      (hasFailure group ordinal).toNat +
        (List.range' (ordinal + 1) left).countP (hasFailure rest) := by
  have later := (covers_range' covers).1
  have isOrdinal := isGroup.ordinal_eq
  have first : hasFailure (group ++ rest) ordinal = hasFailure group ordinal := by
    simp only [hasFailure, List.any_append]
    grind
  have others : ∀ other ∈ List.range' (ordinal + 1) left,
      hasFailure (group ++ rest) other = true ↔ hasFailure rest other = true := by
    simp only [hasFailure, List.any_append, List.mem_range'_1]
    grind
  rw [List.range'_succ, List.countP_cons, first, List.countP_congr others, Nat.add_comm]
  cases hasFailure group ordinal <;> rfl

theorem coverOrdinals_eq_ok :
    coverOrdinals left ordinal units summary = .ok ([], counted) ↔
      Covers (List.range' ordinal left) units ∧
        { summary.count units with
          replacedOrdinals := summary.replacedOrdinals +
            (List.range' ordinal left).countP (hasFailure units) } = counted := by
  induction left generalizing ordinal units summary with
  | zero => cases units <;> simp [coverOrdinals, covers_nil, AssemblySummary.count]
  | succ left ih =>
    simp only [coverOrdinals, ite_error_eq_ok, bind_eq_ok, ih, List.range'_succ, covers_cons]
    constructor
    · rintro ⟨-, ⟨rest, _ | _, replaced, middle⟩, observed, ended, covers, rfl⟩
      · simp at ended
      · obtain ⟨group, rfl, isGroup, -, rfl, rfl⟩ := observeAttempts_eq_ok.mp observed
        refine ⟨⟨group, rest, rfl, isGroup, covers⟩, ?_⟩
        rw [← List.range'_succ, countP_hasFailure isGroup covers]
        simp [AssemblySummary.count, Nat.add_assoc]
    · rintro ⟨⟨group, rest, rfl, isGroup, covers⟩, rfl⟩
      refine ⟨?_, ⟨rest, true, _, _⟩, observeAttempts_eq_ok.mpr ⟨group, rfl, isGroup, ?_, rfl, rfl⟩,
        by simp, covers, ?_⟩
      · cases group with
        | nil => exact isGroup.elim
        | cons unit group => simpa using isGroup.ordinal_eq unit List.mem_cons_self
      · intro unit isHead
        have := (covers_range' covers).1 unit (List.mem_of_head? isHead)
        omega
      · rw [← List.range'_succ, countP_hasFailure isGroup covers]
        simp [AssemblySummary.count, Nat.add_assoc]

/-- A manifest is accepted exactly if it covers a positive number of units, and
the summary is what it counts. -/
theorem assembly_accepted_iff_covered (unitCount : Int) (units : List AssemblyUnit)
    (summary : AssemblySummary) :
    validateOrdinalAssemblyCoverage unitCount units = .ok summary ↔
      0 < unitCount ∧ Covers (List.range unitCount.toNat) units ∧
        summary =
          { unitCount
            succeededUnits := units.countP (·.status = .succeeded)
            failedAttempts := units.countP (·.status = .failed)
            replacedOrdinals := (List.range unitCount.toNat).countP (hasFailure units) } := by
  simp only [validateOrdinalAssemblyCoverage, ite_error_eq_ok, bind_eq_ok, Prod.exists,
    List.range_eq_range']
  constructor
  · rintro ⟨positive, -, rest, counted, covered, complete, -, same⟩
    obtain rfl : rest = [] := not_not.mp complete
    obtain ⟨covers, rfl⟩ := coverOrdinals_eq_ok.mp covered
    refine ⟨not_le.mp positive, covers, ?_⟩
    simpa [AssemblySummary.count] using same.symm
  · rintro ⟨positive, covers, rfl⟩
    have succeeded := (covers_range' covers).2
    refine ⟨positive.not_ge, ?_, [], _, coverOrdinals_eq_ok.mpr ⟨covers, rfl⟩, ?_⟩
    · rintro rfl
      simp at succeeded
      omega
    · simp [AssemblySummary.count, succeeded, positive.le]

theorem no_units_covered_but_refused :
    Covers (List.range (0 : Int).toNat) [] ∧ validateOrdinalAssemblyCoverage 0 [] =
      .error "assembly coverage requires a positive unit count" :=
  ⟨covers_nil.mpr rfl, rfl⟩

end MercControl.Projects
