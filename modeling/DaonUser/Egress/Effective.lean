import DaonUser.Egress.Model
import Mathlib.Data.Finset.Dedup
import Mathlib.Data.Finset.Lattice.Basic
import Mathlib.Data.Fintype.Order
import Mathlib.Data.List.Sort
import Mathlib.Order.Lattice.Nat
import Mathlib.Order.WithBot

/-!
# The effective egress policy

`resolve_effective_payload` combines the policies of an organization and of a workspace. What a policy
allows is an element of a lattice (`grants`), and the resolver is its meet (`grants_resolve`), so that the
laws of a meet hold for payloads too, up to the order of their lists.
-/

namespace DaonUser.Egress

/-! ## The resolver -/

/-- `_CLASSIFICATION_RANK`. -/
def Classification.rank : Classification → Nat
  | public_ => 0
  | internal => 1
  | confidential => 2
  | restricted => 3

/-- `_APPROVER_RANK`. -/
def Approver.rank : Approver → Nat
  | workspaceManager => 0
  | organizationAdmin => 1

instance : LinearOrder Classification :=
  LinearOrder.lift' Classification.rank fun a b h => by cases a <;> cases b <;> first | rfl | cases h

instance : LinearOrder Approver :=
  LinearOrder.lift' Approver.rank fun a b h => by cases a <;> cases b <;> first | rfl | cases h

section Common

variable {α : Type} [DecidableEq α] (text : α → String)

/-- `tuple(sorted(set(xs) & set(ys)))`, where `xs` has no element twice. -/
def common (xs ys : List α) : List α :=
  (xs.filter (· ∈ ys)).insertionSort fun a b => text a ≤ text b

theorem mem_common {xs ys : List α} {x : α} : x ∈ common text xs ys ↔ x ∈ xs ∧ x ∈ ys := by
  simp [common]

theorem nodup_common {xs : List α} (h : xs.Nodup) (ys : List α) : (common text xs ys).Nodup :=
  (List.perm_insertionSort _ _).nodup_iff.mpr (h.filter _)

theorem length_common_le (xs ys : List α) : (common text xs ys).length ≤ xs.length := by
  rw [common, List.length_insertionSort]
  exact List.length_filter_le _ _

end Common

def resolveFields (organization workspace : PayloadFields) : PayloadFields where
  mode := .allowApprovedExternal
  allowedProviderKinds :=
    common ProviderKind.text organization.allowedProviderKinds workspace.allowedProviderKinds
  allowedDestinations := common id organization.allowedDestinations workspace.allowedDestinations
  classification := max organization.classification workspace.classification
  maxBytes := min organization.maxBytes workspace.maxBytes
  maskingRequired := organization.maskingRequired || workspace.maskingRequired
  redactionRequired := organization.redactionRequired || workspace.redactionRequired
  requiredApprover := max organization.requiredApprover workspace.requiredApprover
  questionStepUpRequired := organization.questionStepUpRequired || workspace.questionStepUpRequired

theorem resolveFields_valid {o : PayloadFields} (ho : o.Valid) (w : PayloadFields) :
    (resolveFields o w).Valid where
  bytes := (min_le_left _ _).trans ho.bytes
  sizes := ⟨(length_common_le _ _ _).trans ho.sizes.1, (length_common_le _ _ _).trans ho.sizes.2⟩
  distinct := ⟨nodup_common _ ho.distinct.1 _, nodup_common _ ho.distinct.2 _⟩
  destinations destination h := ho.destinations destination ((mem_common _).mp h).1
  denied h := by cases h

/-- `resolve_effective_payload`. -/
def resolveEffectivePayload (organization workspace : EgressPolicyPayload) : EgressPolicyPayload × Bool :=
  let parentLocked := decide (organization.fields.mode = .denyExternal)
  if parentLocked ∨ workspace.fields.mode = .denyExternal then (.denyExternal, parentLocked)
  else (⟨resolveFields organization.fields workspace.fields, resolveFields_valid organization.valid _⟩, false)

theorem resolve_cases (o w : EgressPolicyPayload) :
    ((o.fields.mode = .denyExternal ∨ w.fields.mode = .denyExternal) ∧
        (resolveEffectivePayload o w).1 = .denyExternal) ∨
      (o.fields.mode ≠ .denyExternal ∧ w.fields.mode ≠ .denyExternal ∧
        (resolveEffectivePayload o w).1.fields = resolveFields o.fields w.fields) := by
  unfold resolveEffectivePayload
  by_cases h : o.fields.mode = .denyExternal ∨ w.fields.mode = .denyExternal
  · exact .inl ⟨h, congrArg Prod.fst (if_pos (h.imp_left decide_eq_true))⟩
  · refine .inr ⟨fun ho => h (.inl ho), fun hw => h (.inr hw), ?_⟩
    rw [if_neg (by simpa using h)]

/-! ## What a policy allows -/

/-- The provider kinds, the destinations, the bytes, and what is asked for in return: the classification,
masking, redaction, the approver, and whether a question is stepped up. Less is allowed if more is asked. -/
abbrev Allowance : Type :=
  Finset ProviderKind × Finset String × ℕ × (Classification × Bool × Bool × Approver × Bool)ᵒᵈ

def PayloadFields.grants (p : PayloadFields) : WithBot Allowance :=
  match p.mode with
  | .denyExternal => ⊥
  | .allowApprovedExternal =>
    ↑(p.allowedProviderKinds.toFinset, p.allowedDestinations.toFinset, p.maxBytes,
      OrderDual.toDual (p.classification, p.maskingRequired, p.redactionRequired, p.requiredApprover,
        p.questionStepUpRequired))

theorem mode_of_ne_deny {m : Mode} (h : m ≠ .denyExternal) : m = .allowApprovedExternal := by
  cases m with
  | denyExternal => exact absurd rfl h
  | allowApprovedExternal => rfl

theorem toFinset_common {α : Type} [DecidableEq α] (text : α → String) (xs ys : List α) :
    (common text xs ys).toFinset = xs.toFinset ⊓ ys.toFinset := by
  ext x
  simp [mem_common]

theorem grants_of_deny {p : PayloadFields} (h : p.mode = .denyExternal) : p.grants = ⊥ := by
  simp [PayloadFields.grants, h]

theorem grants_resolveFields {o w : PayloadFields} (ho : o.mode ≠ .denyExternal)
    (hw : w.mode ≠ .denyExternal) : (resolveFields o w).grants = o.grants ⊓ w.grants := by
  simp only [PayloadFields.grants, mode_of_ne_deny ho, mode_of_ne_deny hw]
  rw [← WithBot.coe_inf]
  simp only [resolveFields, toFinset_common]
  rfl

theorem grants_resolve (o w : EgressPolicyPayload) :
    (resolveEffectivePayload o w).1.fields.grants = o.fields.grants ⊓ w.fields.grants := by
  rcases resolve_cases o w with ⟨ho | hw, h⟩ | ⟨ho, hw, h⟩
  · rw [h, grants_of_deny rfl, grants_of_deny ho, bot_inf_eq]
  · rw [h, grants_of_deny rfl, grants_of_deny hw, inf_bot_eq]
  · rw [h]
    exact grants_resolveFields ho hw

/-- The same payload up to the order of its lists. -/
def PayloadFields.Same (p q : PayloadFields) : Prop :=
  p.allowedProviderKinds.Perm q.allowedProviderKinds ∧
    p.allowedDestinations.Perm q.allowedDestinations ∧
    { p with allowedProviderKinds := [], allowedDestinations := [] } =
      { q with allowedProviderKinds := [], allowedDestinations := [] }

/-- A payload that denies is the one of `deny_external`. -/
def EgressPolicyPayload.Canonical (p : EgressPolicyPayload) : Prop :=
  p.fields.mode = .denyExternal → p.fields = EgressPolicyPayload.denyExternal.fields

theorem resolve_canonical (o w : EgressPolicyPayload) : (resolveEffectivePayload o w).1.Canonical := by
  rcases resolve_cases o w with ⟨-, h⟩ | ⟨-, -, h⟩
  · exact fun _ => congrArg EgressPolicyPayload.fields h
  · intro hdeny
    rw [h] at hdeny
    cases hdeny

theorem same_of_grants {p q : EgressPolicyPayload} (hp : p.Canonical) (hq : q.Canonical)
    (h : p.fields.grants = q.fields.grants) : p.fields.Same q.fields := by
  cases hpm : p.fields.mode with
  | denyExternal =>
    cases hqm : q.fields.mode with
    | denyExternal =>
      rw [hp hpm, hq hqm]
      exact ⟨.refl _, .refl _, rfl⟩
    | allowApprovedExternal => simp [PayloadFields.grants, hpm, hqm] at h
  | allowApprovedExternal =>
    cases hqm : q.fields.mode with
    | denyExternal => simp [PayloadFields.grants, hpm, hqm] at h
    | allowApprovedExternal =>
      simp only [PayloadFields.grants, hpm, hqm, WithBot.coe_inj, Prod.mk.injEq,
        OrderDual.toDual_inj] at h
      obtain ⟨hkinds, hdestinations, hbytes, hclass, hmask, hredact, happrover, hstep⟩ := h
      refine ⟨?_, ?_, ?_⟩
      · exact List.perm_of_nodup_nodup_toFinset_eq p.valid.distinct.1 q.valid.distinct.1 hkinds
      · exact List.perm_of_nodup_nodup_toFinset_eq p.valid.distinct.2 q.valid.distinct.2 hdestinations
      · rw [PayloadFields.mk.injEq]
        exact ⟨hpm.trans hqm.symm, rfl, rfl, hclass, hbytes, hmask, hredact, happrover, hstep⟩

/-! ## What matches a policy -/

/-- The keyword arguments of `external_question_policy_matches`. -/
structure Selection where
  providerKind : String
  destination : String
  payloadBytes : Int
  classification : String
  maskingRequired : Bool
  redactionRequired : Bool

def Selection.under (s : Selection) (p : PayloadFields) : Selection :=
  { s with
    classification := p.classification.text
    maskingRequired := p.maskingRequired
    redactionRequired := p.redactionRequired }

section

variable (casefold : String → String)

/-- `external_question_policy_matches`. -/
def externalQuestionPolicyMatches (effective : PayloadFields) (s : Selection) : Bool :=
  effective.mode = .allowApprovedExternal &&
    s.providerKind ∈ effective.allowedProviderKinds.map ProviderKind.text &&
    casefold s.destination ∈ effective.allowedDestinations.map casefold &&
    (0 ≤ s.payloadBytes && s.payloadBytes ≤ effective.maxBytes) &&
    effective.classification.text = s.classification &&
    effective.maskingRequired = s.maskingRequired &&
    effective.redactionRequired = s.redactionRequired

/-- The selection is one that the policy allows, whatever it is asked for in return. -/
structure Allows (p : PayloadFields) (s : Selection) : Prop where
  mode : p.mode = .allowApprovedExternal
  kind : ∃ kind ∈ p.allowedProviderKinds, kind.text = s.providerKind
  destination : ∃ x ∈ p.allowedDestinations, casefold x = casefold s.destination
  bytes : 0 ≤ s.payloadBytes ∧ s.payloadBytes ≤ p.maxBytes

theorem matches_iff (p : PayloadFields) (s : Selection) :
    externalQuestionPolicyMatches casefold p s = true ↔ Allows casefold p s ∧ s = s.under p := by
  have hunder : s = s.under p ↔ (p.classification.text = s.classification ∧
      p.maskingRequired = s.maskingRequired) ∧ p.redactionRequired = s.redactionRequired := by
    cases s
    simp [Selection.under, eq_comm, and_assoc]
  unfold externalQuestionPolicyMatches
  rw [hunder]
  simp only [Bool.and_eq_true, decide_eq_true_eq, List.mem_map]
  constructor
  · rintro ⟨⟨⟨⟨⟨⟨hmode, hkind⟩, hdest⟩, hbytes⟩, hclass⟩, hmask⟩, hredact⟩
    exact ⟨⟨hmode, hkind, hdest, hbytes⟩, ⟨hclass, hmask⟩, hredact⟩
  · rintro ⟨h, ⟨hclass, hmask⟩, hredact⟩
    exact ⟨⟨⟨⟨⟨⟨h.mode, h.kind⟩, h.destination⟩, h.bytes⟩, hclass⟩, hmask⟩, hredact⟩

theorem allows_under {p q : PayloadFields} {s : Selection} (h : Allows casefold p s) :
    Allows casefold p (s.under q) := ⟨h.mode, h.kind, h.destination, h.bytes⟩

theorem matches_under {p : PayloadFields} {s : Selection} :
    externalQuestionPolicyMatches casefold p (s.under p) = true ↔ Allows casefold p s := by
  rw [matches_iff]
  exact ⟨fun h => ⟨h.1.mode, h.1.kind, h.1.destination, h.1.bytes⟩,
    fun h => ⟨allows_under casefold h, rfl⟩⟩

/-- The two lists do not spell the destination in two ways. -/
def SpellAlike (p q : PayloadFields) (destination : String) : Prop :=
  ∀ x ∈ p.allowedDestinations, ∀ y ∈ q.allowedDestinations,
    casefold x = casefold destination → casefold y = casefold destination → x = y

theorem ProviderKind.text_injective {a b : ProviderKind} (h : a.text = b.text) : a = b := by
  cases a <;> cases b <;> first | rfl | exact absurd h (by decide)

theorem allows_of_resolveFields {o w : PayloadFields} (ho : o.mode ≠ .denyExternal)
    (hw : w.mode ≠ .denyExternal) {s : Selection} (h : Allows casefold (resolveFields o w) s) :
    Allows casefold o s ∧ Allows casefold w s := by
  obtain ⟨kind, hkind, htext⟩ := h.kind
  obtain ⟨x, hx, hfold⟩ := h.destination
  rw [resolveFields, mem_common] at hkind hx
  have hbytes := h.bytes.2
  have hmin : (resolveFields o w).maxBytes = min o.maxBytes w.maxBytes := rfl
  rw [hmin] at hbytes
  constructor
  · exact ⟨mode_of_ne_deny ho, ⟨kind, hkind.1, htext⟩, ⟨x, hx.1, hfold⟩, h.bytes.1, by omega⟩
  · exact ⟨mode_of_ne_deny hw, ⟨kind, hkind.2, htext⟩, ⟨x, hx.2, hfold⟩, h.bytes.1, by omega⟩

theorem allows_resolveFields {o w : PayloadFields} {s : Selection}
    (halike : SpellAlike casefold o w s.destination) (ho : Allows casefold o s)
    (hw : Allows casefold w s) : Allows casefold (resolveFields o w) s := by
  obtain ⟨kind, hkind, htext⟩ := ho.kind
  obtain ⟨kind', hkind', htext'⟩ := hw.kind
  obtain ⟨x, hx, hfold⟩ := ho.destination
  obtain ⟨y, hy, hfold'⟩ := hw.destination
  obtain rfl := ProviderKind.text_injective (htext.trans htext'.symm)
  obtain rfl := halike x hx y hy hfold hfold'
  refine ⟨rfl, ⟨kind, (mem_common _).mpr ⟨hkind, hkind'⟩, htext⟩, ⟨x, (mem_common _).mpr ⟨hx, hy⟩, hfold⟩,
    ho.bytes.1, ?_⟩
  have ho' := ho.bytes.2
  have hw' := hw.bytes.2
  have hmin : (resolveFields o w).maxBytes = min o.maxBytes w.maxBytes := rfl
  rw [hmin]
  omega

end

/-- The resolver is a meet on valid payloads, where a payload that denies is the one of `deny_external`. What
matches the effective policy comes with its classification and flags, and matches each of the two under its
own; what matches the two so is also matched by the effective policy if they spell the destination alike. -/
theorem resolve_effective_payload_spec (casefold : String → String) (a b c : EgressPolicyPayload)
    (s : Selection) :
    (resolveEffectivePayload a b).1.fields.Valid ∧
    (resolveEffectivePayload a b).1.fields.Same (resolveEffectivePayload b a).1.fields ∧
    (resolveEffectivePayload (resolveEffectivePayload a b).1 c).1.fields.Same
      (resolveEffectivePayload a (resolveEffectivePayload b c).1).1.fields ∧
    (a.Canonical → (resolveEffectivePayload a a).1.fields.Same a.fields) ∧
    (externalQuestionPolicyMatches casefold (resolveEffectivePayload a b).1.fields s = true →
      s = s.under (resolveEffectivePayload a b).1.fields ∧
      externalQuestionPolicyMatches casefold a.fields (s.under a.fields) = true ∧
      externalQuestionPolicyMatches casefold b.fields (s.under b.fields) = true) ∧
    (SpellAlike casefold a.fields b.fields s.destination →
      s = s.under (resolveEffectivePayload a b).1.fields →
      externalQuestionPolicyMatches casefold a.fields (s.under a.fields) = true →
      externalQuestionPolicyMatches casefold b.fields (s.under b.fields) = true →
      externalQuestionPolicyMatches casefold (resolveEffectivePayload a b).1.fields s = true) := by
  refine ⟨(resolveEffectivePayload a b).1.valid, ?_, ?_, fun ha => ?_, fun h => ?_, ?_⟩
  · apply same_of_grants (resolve_canonical _ _) (resolve_canonical _ _)
    rw [grants_resolve, grants_resolve, inf_comm]
  · apply same_of_grants (resolve_canonical _ _) (resolve_canonical _ _)
    simp only [grants_resolve, inf_assoc]
  · apply same_of_grants (resolve_canonical _ _) ha
    rw [grants_resolve, inf_idem]
  · obtain ⟨hallows, hunder⟩ := (matches_iff casefold _ s).mp h
    rw [matches_under, matches_under]
    rcases resolve_cases a b with ⟨-, hres⟩ | ⟨ha, hb, hres⟩
    · have hmode := hallows.mode
      rw [hres] at hmode
      cases hmode
    · rw [hres] at hallows
      exact ⟨hunder, allows_of_resolveFields casefold ha hb hallows⟩
  · intro halike hunder ha hb
    rw [matches_under] at ha hb
    refine (matches_iff casefold _ s).mpr ⟨?_, hunder⟩
    rcases resolve_cases a b with ⟨hdeny | hdeny, -⟩ | ⟨-, -, hres⟩
    · exact absurd (ha.mode.symm.trans hdeny) nofun
    · exact absurd (hb.mode.symm.trans hdeny) nofun
    · rw [hres]
      exact allows_resolveFields casefold halike ha hb

def samplePolicy (classification : Classification) : EgressPolicyPayload where
  fields := ⟨.allowApprovedExternal, [.externalApi], ["api.example"], classification, 10, false, false,
    .workspaceManager, true⟩
  valid := ⟨by simp, by simp, by simp, by simp; decide, nofun⟩

def sampleSelection (classification : String) : Selection :=
  ⟨"external_api", "api.example", 5, classification, false, false⟩

theorem resolve_effective_payload_spec_sample :
    externalQuestionPolicyMatches id
      (resolveEffectivePayload (samplePolicy .public_) (samplePolicy .internal)).1.fields
      (sampleSelection "internal") = true := by
  have h := resolve_effective_payload_spec id (samplePolicy .public_) (samplePolicy .internal)
    (samplePolicy .public_) (sampleSelection "internal")
  exact h.2.2.2.2.2 (by simp [SpellAlike, samplePolicy]) (by rfl) (by decide) (by decide)

/-- What matches the effective policy need not match each policy as it comes: the higher classification is
asked for. -/
theorem effective_policy_matches_alone :
    ¬ ∀ (casefold : String → String) (a b : EgressPolicyPayload) (s : Selection),
      externalQuestionPolicyMatches casefold (resolveEffectivePayload a b).1.fields s =
        (externalQuestionPolicyMatches casefold a.fields s &&
          externalQuestionPolicyMatches casefold b.fields s) := by
  intro h
  have hmatch := h id (samplePolicy .public_) (samplePolicy .internal) (sampleSelection "internal")
  exact absurd hmatch (by decide)

end DaonUser.Egress
