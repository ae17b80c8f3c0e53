import DaonUser.License.Model

/-!
# Licenses: what the view says about creation

`creation_allowed` of the view and `require_creation` evaluate a license apart from each other: the view looks
at every limit and at no feature, `require_creation` at the feature and the limit of what is created.
`creationAllowed_iff` says where they agree.
-/

namespace DaonUser.License

open Lib Call

variable {s : State} {stored : VerifiedLicense}

def usedOf (usage : Dict String Amount) (resource : String) : Int :=
  match (usage.get? resource).getD (.int 0) with
  | .int n => n
  | _ => 0

/-- The license has a limit on the resource, which is used up. -/
def Reached (s : State) (stored : VerifiedLicense) (resource : String) : Prop :=
  ∃ limit, (resource, limit) ∈ stored.resourceLimits ∧ limit ≤ usedOf s.usage resource

/-- `{"notebooks": 1}`. -/
def oneNotebook : Dict String Amount := Dict.empty.set "notebooks" (.int 1)

/-! ## The usage -/

theorem used_eq_ok {usage : Dict String Amount} {resource : String} {n : Int}
    (h : used usage resource = .ok n) : n = usedOf usage resource := by
  unfold used at h
  unfold usedOf
  generalize (usage.get? resource).getD (.int 0) = amount at h ⊢
  cases amount with
  | int m =>
    dsimp only at h ⊢
    split at h
    · cases h
    · exact (Except.ok.inj h).symm
  | bool b => cases h
  | other => cases h

theorem resourceViews_eq_ok {usage : Dict String Amount} {limits : List (String × Int)}
    {resources : List ResourceView} (h : resourceViews usage limits = .ok resources) :
    (∀ limit ∈ limits, used usage limit.1 = .ok (usedOf usage limit.1)) ∧
      (resources.any fun item => item.limit ≤ item.used) =
        limits.any fun limit => limit.2 ≤ usedOf usage limit.1 := by
  induction limits generalizing resources with
  | nil =>
    obtain rfl : [] = resources := Except.ok.inj h
    simp
  | cons limit limits ih =>
    rw [resourceViews, List.mapM_cons] at h
    obtain ⟨first, hfirst, h⟩ := bind_eq_ok.1 h
    obtain ⟨n, hn, hfirst⟩ := bind_eq_ok.1 hfirst
    obtain ⟨rest, hrest, h⟩ := bind_eq_ok.1 h
    obtain rfl := Except.ok.inj hfirst
    obtain rfl := Except.ok.inj h
    obtain rfl := used_eq_ok hn
    obtain ⟨hall, hany⟩ := ih hrest
    refine ⟨List.forall_mem_cons.2 ⟨hn, hall⟩, ?_⟩
    rw [List.any_cons, List.any_cons, hany]

theorem view_eq_ok {v : LicenseView} (h : view s stored = .ok v) :
    (∀ limit ∈ stored.resourceLimits, used s.usage limit.1 = .ok (usedOf s.usage limit.1)) ∧
      (v.creationAllowed = true ↔ ¬stored.expiresAt ≤ s.now ∧
        ∀ limit ∈ stored.resourceLimits, ¬limit.2 ≤ usedOf s.usage limit.1) := by
  obtain ⟨resources, hresources, h⟩ := bind_eq_ok.1 h
  obtain ⟨hall, hany⟩ := resourceViews_eq_ok hresources
  obtain rfl := Except.ok.inj h
  refine ⟨hall, ?_⟩
  simp [hany]

theorem unreached_iff : (∀ limit ∈ stored.resourceLimits, ¬limit.2 ≤ usedOf s.usage limit.1) ↔
    ¬Reached s stored "users" ∧ ¬Reached s stored "notebooks" := by
  constructor
  · intro h
    constructor
    · rintro ⟨limit, hmem, hreached⟩
      exact h _ hmem hreached
    · rintro ⟨limit, hmem, hreached⟩
      exact h _ hmem hreached
  · rintro ⟨husers, hnotebooks⟩ ⟨resource, limit⟩ hmem hreached
    have hcode : resource ∈ resourceCodes := (stored.limited _ hmem).1
    rcases List.mem_cons.1 hcode with rfl | hcode
    · exact husers ⟨limit, hmem, hreached⟩
    · obtain rfl := List.mem_singleton.1 hcode
      exact hnotebooks ⟨limit, hmem, hreached⟩

/-! ## One more notebook -/

theorem get?_resourceLimits {resource : String} {limit : Int} :
    (Dict.ofList stored.resourceLimits).get? resource = some limit ↔
      (resource, limit) ∈ stored.resourceLimits := by
  have hnodup : (stored.resourceLimits.map (·.1)).Nodup := stored.sortedLimits.imp fun h => h.ne
  have hdict := Dict.ofList_entries ⟨stored.resourceLimits, hnodup⟩
  rw [show Dict.ofList stored.resourceLimits = ⟨stored.resourceLimits, hnodup⟩ from hdict]
  exact Dict.mem_entries_iff.symm

theorem requireLimit_iff {limit used : Int} : requireLimit limit used = .ok () ↔ used ≤ limit := by
  unfold requireLimit
  split
  · next h => exact iff_of_false (by rintro ⟨⟩) (by omega)
  · next h => exact iff_of_true rfl (by omega)

theorem requireCreation_notebook (s : State) : requireCreation s "notebook.create" oneNotebook =
    match s.stored with
    | none => requireDefault s ("notebooks", .int 1)
    | some stored =>
      if stored.expiresAt ≤ s.now then fail "LICENSE_EXPIRED" 409
      else if "notebook_management" ∉ stored.features then fail "LICENSE_FEATURE_NOT_ALLOWED" 409
      else requireIncrement s stored ("notebooks", .int 1) := by
  have hone : ∀ f : String × Amount → Except Exn Unit,
      oneNotebook.entries.forM f = f ("notebooks", .int 1) := by
    intro f
    change (f ("notebooks", .int 1) >>= fun _ => .ok ()) = _
    cases f ("notebooks", .int 1) <;> rfl
  unfold requireCreation
  rw [if_neg (by decide), if_neg (by decide)]
  change (if _ then _ else _) = _
  rw [if_neg (by decide)]
  cases s.stored with
  | none => exact hone _
  | some stored =>
    dsimp only
    rw [hone]

theorem requireCreation_stored (hstored : s.stored = some stored)
    (hused : ∀ limit ∈ stored.resourceLimits, used s.usage limit.1 = .ok (usedOf s.usage limit.1)) :
    requireCreation s "notebook.create" oneNotebook = .ok () ↔
      ¬stored.expiresAt ≤ s.now ∧ "notebook_management" ∈ stored.features ∧
        ¬Reached s stored "notebooks" := by
  rw [requireCreation_notebook, hstored]
  dsimp only
  by_cases hexpired : stored.expiresAt ≤ s.now
  · rw [if_pos hexpired]
    exact iff_of_false (by rintro ⟨⟩) fun h => h.1 hexpired
  rw [if_neg hexpired]
  by_cases hfeature : "notebook_management" ∈ stored.features
  · rw [if_neg (not_not.2 hfeature), requireIncrement]
    cases hlimit : (Dict.ofList stored.resourceLimits).get? "notebooks" with
    | none =>
      refine iff_of_true rfl ⟨hexpired, hfeature, ?_⟩
      rintro ⟨limit, hmem, -⟩
      rw [get?_resourceLimits.2 hmem] at hlimit
      cases hlimit
    | some limit =>
      have hmem := get?_resourceLimits.1 hlimit
      dsimp only
      rw [hused _ hmem]
      change requireLimit limit (usedOf s.usage "notebooks" + 1) = .ok () ↔ _
      rw [requireLimit_iff]
      constructor
      · intro h
        refine ⟨hexpired, hfeature, ?_⟩
        rintro ⟨limit', hmem', hreached⟩
        obtain rfl : limit' = limit :=
          Option.some.inj ((get?_resourceLimits.2 hmem').symm.trans hlimit)
        omega
      · rintro ⟨-, -, hreached⟩
        by_contra hmore
        exact hreached ⟨limit, hmem, by omega⟩
  · rw [if_pos hfeature]
    exact iff_of_false (by rintro ⟨⟩) fun h => hfeature h.2.1

theorem requireCreation_default {n : Int} (hstored : s.stored = none)
    (hused : used s.usage "notebooks" = .ok n) :
    requireCreation s "notebook.create" oneNotebook = .ok () ↔ n < 1 := by
  have hvalue : ((s.usage.get? "notebooks").getD (.int 0)).value = .ok n := by
    unfold used at hused
    generalize (s.usage.get? "notebooks").getD (.int 0) = amount at hused ⊢
    cases amount with
    | int m =>
      dsimp only at hused
      split at hused
      · cases hused
      · exact hused
    | bool b => cases hused
    | other => cases hused
  rw [requireCreation_notebook, hstored]
  dsimp only
  rw [requireDefault, hvalue]
  change requireLimit 1 (n + 1) = .ok () ↔ _
  rw [requireLimit_iff]
  omega

/-! ## The flag -/

/-- What the view says about creation agrees with `require_creation`, for a notebook, where no license is
stored, where it is expired or its notebooks are used up, and where it has the feature exactly if its users are
not used up. -/
def Agrees (s : State) : Prop :=
  ∀ stored, s.stored = some stored → stored.expiresAt ≤ s.now ∨ Reached s stored "notebooks" ∨
    ("notebook_management" ∈ stored.features ↔ ¬Reached s stored "users")

/-- The flag that is shown is true exactly where a notebook may be created, in these states and no others. -/
theorem creationAllowed_iff (prim : Primitives) (s : State) (v : LicenseView) (h : get prim s = .ok v) :
    (v.creationAllowed = true ↔ requireCreation s "notebook.create" oneNotebook = .ok ()) ↔
      Agrees s := by
  unfold get at h
  cases hstored : s.stored with
  | none =>
    rw [hstored] at h
    obtain ⟨resources, -, h⟩ := bind_eq_ok.1 h
    obtain ⟨n, hn, h⟩ := bind_eq_ok.1 h
    obtain rfl := Except.ok.inj h
    refine iff_of_true ?_ fun stored hsome => ?_
    · rw [requireCreation_default hstored hn, decide_eq_true_eq]
    · rw [hstored] at hsome
      cases hsome
  | some stored =>
    rw [hstored] at h
    obtain ⟨hused, hflag⟩ := view_eq_ok h
    rw [hflag, unreached_iff, requireCreation_stored hstored hused]
    have hagrees : Agrees s ↔ stored.expiresAt ≤ s.now ∨ Reached s stored "notebooks" ∨
        ("notebook_management" ∈ stored.features ↔ ¬Reached s stored "users") := by
      constructor
      · intro h
        exact h stored hstored
      · intro h stored' hsome
        obtain rfl := Option.some.inj (hstored.symm.trans hsome)
        exact h
    rw [hagrees]
    by_cases hexpired : stored.expiresAt ≤ s.now
    · simp [hexpired]
    · by_cases hnotebooks : Reached s stored "notebooks"
      · simp [hnotebooks]
      · simp only [hexpired, hnotebooks, not_false_eq_true, true_and, and_true, false_or]
        exact Iff.comm

namespace Sample

def claims : List (String × Claim) :=
  [("schema_version", .int 1), ("license_id", .str "license-1"), ("product", .str "daon-user"),
    ("edition", .str "enterprise"), ("organization_id", .str "tenant-1"),
    ("issued_at", .str "2026-08-14T08:00:00Z"), ("expires_at", .str "2027-08-14T08:00:00Z"),
    ("features", .list [.str "llm_access"]), ("resource_limits", .mapping [("notebooks", .int 5)])]

def primitives : Primitives where
  verify _ := .ok (claims, "digest-1", "key-1")
  fromisoformat text :=
    if text = "2026-08-14T08:00:00+00:00" then some (1786694400000000, 0) else some (1818230400000000, 0)
  productCode := "daon-user"

def context : LicenseContext := ⟨"tenant-1", "workspace-1", by decide⟩

def license : VerifiedLicense where
  licenseId := "license-1"
  product := "daon-user"
  edition := "enterprise"
  organizationId := "tenant-1"
  issuedAt := 1786694400000000
  expiresAt := 1818230400000000
  features := ["llm_access"]
  resourceLimits := [("notebooks", 5)]
  claimsDigest := "digest-1"
  keyId := "key-1"
  lasting := by decide
  sortedFeatures := List.pairwise_singleton _ _
  limited := by decide
  sortedLimits := List.pairwise_singleton _ _

def state : State := ⟨some license, 1786780800000000, Dict.empty⟩

theorem verifyDocument_claims :
    verifyDocument primitives context 1786780800000000 .null = .ok license := rfl

def shown : LicenseView where
  product := "daon-user"
  edition := some "enterprise"
  licenseIdHint := some "…nse-1"
  issuedAt := some 1786694400000000
  expiresAt := some 1818230400000000
  status := "active"
  features := ["llm_access"]
  resources := [⟨"notebooks", 5, 0, 5, "available"⟩]
  warning := none
  creationAllowed := true
  existingReadAllowed := true
  existingExportAllowed := true

theorem get_state : get primitives state = .ok shown := ok_of_toOption (by decide)

end Sample

/-- A license without the feature. -/
theorem creationAllowed_unmanaged :
    (Sample.shown.creationAllowed = true ↔
      requireCreation Sample.state "notebook.create" oneNotebook = .ok ()) ↔ Agrees Sample.state :=
  creationAllowed_iff Sample.primitives Sample.state Sample.shown Sample.get_state

/-- The view of an accepted document allows creation, and `require_creation` refuses it. -/
theorem creationAllowed_refused :
    ¬∀ (prim : Primitives) (context : LicenseContext) (now later : Int) (document : Claim)
      (license : VerifiedLicense) (usage : Dict String Amount) (v : LicenseView),
      verifyDocument prim context now document = .ok license →
        get prim ⟨some license, later, usage⟩ = .ok v →
          (v.creationAllowed = true ↔
            requireCreation ⟨some license, later, usage⟩ "notebook.create" oneNotebook = .ok ()) := by
  intro h
  have hallowed := (h Sample.primitives Sample.context _ _ .null Sample.license _ Sample.shown
    Sample.verifyDocument_claims Sample.get_state).1 rfl
  have hfeature := ((requireCreation_stored (s := Sample.state) rfl (by decide)).1 hallowed).2.1
  exact absurd hfeature (by decide)

end DaonUser.License
