import DaonUser.Readiness.Model
import Mathlib.Data.Int.ConditionallyCompleteOrder
import Mathlib.Order.ConditionallyCompleteLattice.Basic
import Mathlib.Order.Interval.Set.OrdConnected

/-!
# Document readiness: the times at which a run is created

For evidence that meets the conditions without a time (`Considered`) the times at which a run is created
are a closed interval, from `opens` to `closes`; without them there is none. What is decided in the
interval no longer depends on the time (`clearanceCode`).
-/

namespace DaonUser.Readiness

variable {wait : RoleWaitEvidence} {observation : ValidatedReadinessObservation}
  {current : CurrentReprocessEligibility} {dbNow : Int}

/-- The conditions without a time that come before the policy, the cost and the egress are looked at. -/
structure Considered (wait : RoleWaitEvidence) (observation : ValidatedReadinessObservation)
    (current : CurrentReprocessEligibility) : Prop where
  scope : current.scopeEnabled = true
  access : current.authorized = true
  source : current.sourceCurrent = true
  mode : wait.mode.mode = .auto ∨ wait.mode.mode = .localOnly
  roles : wait.capability ≠ none ∧ current.capability ≠ none
  failure : wait.failureKind = .connectionAvailability ∨ wait.failureKind = .roleRuntime
  dependency : dependencyChanged wait observation current = false
  connection : observation.capability = none →
    wait.dependencyConnectionId ≠ none ∧
      wait.dependencyConnectionId = current.dependencyConnectionId ∧
      wait.failureKind = .connectionAvailability
  healthy : observation.status = .healthy
  later : wait.failedAt < observation.observedAt
  skew : observation.observedAt - observation.receivedAt ≤ seconds 5
  undecided : current.contextAlreadyDecided = false ∧ current.costBlockedContextExists = false
  inactive : current.activeRun = false

/-- The policy, the cost and the egress allow the run, and there is a model for it. -/
structure Cleared (wait : RoleWaitEvidence) (current : CurrentReprocessEligibility) : Prop where
  policy : current.policyAllowed = true
  localOnly : wait.mode.mode = .localOnly → current.localOnlyAllowed = true
  cost : current.costState = .allowed
  egress : current.egressState = .allowed
  candidate : current.candidateAvailable = true

def opens (wait : RoleWaitEvidence) (observation : ValidatedReadinessObservation) : Int :=
  max wait.notBefore
    (max (observation.observedAt + seconds 60) (observation.receivedAt - seconds 5))

def closes (observation : ValidatedReadinessObservation) : Int :=
  observation.observedAt + seconds 300

def clearanceCode (wait : RoleWaitEvidence) (current : CurrentReprocessEligibility) : SafeCode :=
  if ¬current.policyAllowed ∨ (wait.mode.mode = .localOnly ∧ ¬current.localOnlyAllowed) then
    .policyBlocked
  else if current.costState = .blocked then .costLimitExceeded
  else if current.costState = .unknown then .costUnconfirmed
  else if current.egressState = .blocked then .policyBlocked
  else if current.egressState = .approvalMissing then .approvalMissing
  else if ¬current.candidateAvailable then .notReady
  else .readyReprocessAllowed

theorem clearanceCode_eq_ready :
    clearanceCode wait current = .readyReprocessAllowed ↔ Cleared wait current := by
  unfold clearanceCode
  constructor
  · intro h
    split_ifs at h with hpolicy hblocked hunknown hegress happroval hcandidate
    rw [not_or, not_and, not_not] at hpolicy
    refine ⟨hpolicy.1, fun hmode => not_not.1 (hpolicy.2 hmode), ?_, ?_, hcandidate⟩
    · cases hcost : current.costState with
      | allowed => rfl
      | blocked => exact absurd hcost hblocked
      | unknown => exact absurd hcost hunknown
    · cases hstate : current.egressState with
      | allowed => rfl
      | blocked => exact absurd hstate hegress
      | approvalMissing => exact absurd hstate happroval
  · intro h
    have hpolicy : ¬(¬current.policyAllowed = true ∨
        (wait.mode.mode = .localOnly ∧ ¬current.localOnlyAllowed = true)) := by
      rintro (hpolicy | ⟨hmode, hlocal⟩)
      · exact hpolicy h.policy
      · exact hlocal (h.localOnly hmode)
    rw [if_neg hpolicy, h.cost, h.egress, h.candidate]
    rfl

theorem createRun_iff {code : SafeCode} : (decisions code).2 = true ↔
    code = .readyReprocessAllowed ∨ code = .policyBlocked ∨ code = .costLimitExceeded := by
  cases code <;> decide

theorem mem_window : dbNow ∈ Set.Icc (opens wait observation) (closes observation) ↔
    wait.notBefore ≤ dbNow ∧ seconds 60 ≤ dbNow - observation.observedAt ∧
      observation.receivedAt - dbNow ≤ seconds 5 ∧ dbNow - observation.observedAt ≤ seconds 300 := by
  rw [Set.mem_Icc, opens, closes, max_le_iff, max_le_iff]
  omega

theorem reprocessCode_of_considered (h : Considered wait observation current)
    (hnow : dbNow ∈ Set.Icc (opens wait observation) (closes observation)) :
    reprocessCode wait (some observation) current dbNow = clearanceCode wait current := by
  obtain ⟨hbefore, hsettled, hreceived, hfresh⟩ := mem_window.1 hnow
  have hmode : wait.mode.mode ≠ .legacyUnknown ∧ wait.mode.mode ≠ .pinned := by
    rcases h.mode with hmode | hmode <;> rw [hmode] <;> decide
  have hfailure : ¬(wait.failureKind = .unknown ∨ wait.failureKind = .nonAvailability) := by
    rcases h.failure with hfailure | hfailure <;> rw [hfailure] <;> decide
  have hconnection : ¬(observation.capability = none ∧ (wait.dependencyConnectionId = none ∨
      wait.dependencyConnectionId ≠ current.dependencyConnectionId)) := by
    rintro ⟨hnone, habsent | hother⟩
    · exact (h.connection hnone).1 habsent
    · exact hother (h.connection hnone).2.1
  have hkind : ¬(observation.capability = none ∧ wait.failureKind ≠ .connectionAvailability) :=
    fun hnone => hnone.2 (h.connection hnone.1).2.2
  have hready : ¬(observation.status ≠ .healthy ∨ observation.observedAt ≤ wait.failedAt ∨
      observation.observedAt - dbNow > seconds 5 ∨ observation.receivedAt - dbNow > seconds 5 ∨
      observation.observedAt - observation.receivedAt > seconds 5) := by
    have hlater := h.later
    have hskew := h.skew
    simp only [h.healthy, seconds, ne_eq, not_true, false_or] at hsettled hreceived hskew ⊢
    omega
  have hwaited : ¬(dbNow < wait.notBefore ∨ dbNow - observation.observedAt < seconds 60) := by
    omega
  rw [reprocessCode, if_neg (not_not.2 h.scope), if_neg (not_not.2 h.access),
    if_neg (not_not.2 h.source), if_neg hmode.1, if_neg hmode.2, if_neg (not_or.2 h.roles),
    if_neg hfailure]
  change observedCode wait observation current dbNow = _
  rw [observedCode, h.dependency, if_neg Bool.false_ne_true, if_neg hconnection, if_neg hkind,
    if_neg hready, if_neg (not_lt.2 hfresh), h.undecided.1, h.undecided.2,
    if_neg (by decide), h.inactive, if_neg Bool.false_ne_true, if_neg hwaited]
  rfl

theorem createRun_ite {c : Prop} [Decidable c] {a b : SafeCode} (ha : (decisions a).2 = false)
    (h : (decisions (if c then a else b)).2 = true) : ¬c ∧ (decisions b).2 = true := by
  split at h
  · rw [ha] at h
    cases h
  · next hc => exact ⟨hc, h⟩

theorem considered_of_createRun {observed : Option ValidatedReadinessObservation}
    (h : (decisions (reprocessCode wait observed current dbNow)).2 = true) :
    ∃ observation, observed = some observation ∧ Considered wait observation current ∧
      dbNow ∈ Set.Icc (opens wait observation) (closes observation) := by
  unfold reprocessCode at h
  obtain ⟨hscope, h⟩ := createRun_ite rfl h
  obtain ⟨haccess, h⟩ := createRun_ite rfl h
  obtain ⟨hsource, h⟩ := createRun_ite rfl h
  obtain ⟨hlegacy, h⟩ := createRun_ite rfl h
  obtain ⟨hpinned, h⟩ := createRun_ite rfl h
  obtain ⟨hroles, h⟩ := createRun_ite rfl h
  obtain ⟨hfailure, h⟩ := createRun_ite rfl h
  cases observed with
  | none => cases h
  | some observation =>
    change (decisions (observedCode wait observation current dbNow)).2 = true at h
    unfold observedCode at h
    obtain ⟨hdependency, h⟩ := createRun_ite rfl h
    obtain ⟨hother, h⟩ := createRun_ite rfl h
    obtain ⟨hkind, h⟩ := createRun_ite rfl h
    obtain ⟨hready, h⟩ := createRun_ite rfl h
    obtain ⟨hfresh, h⟩ := createRun_ite rfl h
    obtain ⟨hdecided, h⟩ := createRun_ite rfl h
    obtain ⟨hactive, h⟩ := createRun_ite rfl h
    obtain ⟨hwaited, -⟩ := createRun_ite rfl h
    rw [not_not] at hscope haccess hsource
    rw [not_or] at hroles hfailure
    simp only [not_or, ne_eq, not_not, not_le, not_lt, gt_iff_lt, not_and] at hother hkind hready
    rw [gt_iff_lt, not_lt] at hfresh
    rw [not_or, not_lt, not_lt] at hwaited
    refine ⟨observation, rfl, ?_, mem_window.2 ⟨hwaited.1, hwaited.2, hready.2.2.2.1, hfresh⟩⟩
    exact
      { scope := hscope
        access := haccess
        source := hsource
        mode := by
          cases hmode : wait.mode.mode with
          | auto => exact Or.inl rfl
          | localOnly => exact Or.inr rfl
          | pinned => exact absurd hmode hpinned
          | legacyUnknown => exact absurd hmode hlegacy
        roles := hroles
        failure := by
          cases hfailed : wait.failureKind with
          | connectionAvailability => exact Or.inl rfl
          | roleRuntime => exact Or.inr rfl
          | nonAvailability => exact absurd hfailed hfailure.2
          | unknown => exact absurd hfailed hfailure.1
        dependency := Bool.eq_false_of_not_eq_true hdependency
        connection := fun hnone => ⟨(hother hnone).1, (hother hnone).2, hkind hnone⟩
        healthy := hready.1
        later := hready.2.1
        skew := hready.2.2.2.2
        undecided := ⟨Bool.eq_false_of_not_eq_true fun h => hdecided (Or.inl h),
          Bool.eq_false_of_not_eq_true fun h => hdecided (Or.inr h)⟩
        inactive := Bool.eq_false_of_not_eq_true hactive }

variable (wait current dbNow) in
theorem reprocessCode_eq_iff (observed : Option ValidatedReadinessObservation) {code : SafeCode}
    (hcode : (decisions code).2 = true) :
    reprocessCode wait observed current dbNow = code ↔
      ∃ observation, observed = some observation ∧ Considered wait observation current ∧
        clearanceCode wait current = code ∧
        dbNow ∈ Set.Icc (opens wait observation) (closes observation) := by
  constructor
  · rintro rfl
    obtain ⟨observation, hobserved, hconsidered, hnow⟩ := considered_of_createRun hcode
    subst hobserved
    exact ⟨observation, rfl, hconsidered, (reprocessCode_of_considered hconsidered hnow).symm, hnow⟩
  · rintro ⟨observation, rfl, hconsidered, hclearance, hnow⟩
    rw [reprocessCode_of_considered hconsidered hnow, hclearance]

end DaonUser.Readiness
