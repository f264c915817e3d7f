import SsnConsole.BackendValidation

/-!
# Stored records

The record types of the backend's stable stores.
-/

namespace SsnConsole.Backend

/-- A stored organization. -/
structure Organization where
  name : String
  deriving DecidableEq

/-- A stored team. -/
structure Team where
  orgId : OrgId
  name : String
  deriving DecidableEq

/-- A stored project. -/
structure Project where
  orgId : OrgId
  name : String
  deriving DecidableEq

inductive UserStatus
  | active
  | inactive
  deriving DecidableEq

/-- A stored account. -/
structure UserProfile where
  email : Option String
  emailVerified : Bool
  status : UserStatus
  staffPermissions : Option StaffPermissions
  deriving DecidableEq

/-- `UserProfile::default`. -/
def UserProfile.default : UserProfile where
  email := none
  emailVerified := false
  status := .inactive
  staffPermissions := none

/-- `UserStatsData`. -/
structure UserStatsData where
  total : UInt64
  active : UInt64
  inactive : UInt64
  deriving DecidableEq

/-- `UserStatsData::default`. -/
def UserStatsData.default : UserStatsData :=
  ⟨0, 0, 0⟩

/-- A stored canister record. -/
structure Canister where
  principal : Principal
  name : Option String
  deletedAt : Option Nat
  deriving DecidableEq

inductive Vote
  | approve
  | reject
  deriving DecidableEq

inductive ProposalStatus
  | open
  | pendingApproval
      (threshold : Nat)
      (approvers : List UserId)
      (votes : List (UserId × Vote))
  | rejected
  | cancelled
  | executing
  | executed
  | failed (message : String)
  deriving DecidableEq

inductive ProposalOperation
  | createCanister
  | addCanisterController (canisterId controllerId : Principal)
  deriving DecidableEq

/-- A stored proposal. -/
structure Proposal where
  projectId : ProjectId
  proposerId : UserId
  status : ProposalStatus
  operation : ProposalOperation
  createdAtNanos : Option Nat
  updatedAtNanos : Option Nat
  deriving DecidableEq

inductive PolicyType
  | autoApprove
  | fixedQuorum (threshold : Nat)
  deriving DecidableEq

/-- A stored approval policy. -/
structure ApprovalPolicy where
  policyType : PolicyType
  deriving DecidableEq

/-- `ApprovalPolicy::default`. -/
def ApprovalPolicy.default : ApprovalPolicy :=
  ⟨.autoApprove⟩

/-- `OperationType`, ordered by its discriminant. -/
inductive OperationType
  | createCanister
  | noop
  | addCanisterController
  deriving DecidableEq

namespace OperationType

/-- The `repr(u8)` discriminant. -/
def discriminant : OperationType → Nat
  | createCanister => 0
  | noop => 254
  | addCanisterController => 255

instance : Ord OperationType :=
  ⟨fun first second => compare first.discriminant second.discriminant⟩

instance : Std.TransOrd OperationType :=
  inferInstanceAs (Std.TransCmp (compareOn OperationType.discriminant))

instance : Std.LawfulEqOrd OperationType where
  eq_of_compare := by
    intro first second equal
    have sameDiscriminant : compare first.discriminant second.discriminant = Ordering.eq :=
      equal
    have same := Std.LawfulEqOrd.eq_of_compare sameDiscriminant
    cases first <;> cases second <;> first | rfl | exact absurd same (by decide)

end OperationType

inductive PlanTier
  | free
  | pro
  | enterprise
  deriving DecidableEq

structure PlanLimits where
  maxCanisters : Nat
  maxStorageBytes : Option Nat
  deriving DecidableEq

/-- A stored billing plan. -/
structure OrganizationBillingPlan where
  tier : PlanTier
  limits : PlanLimits
  externalRef : Option String
  updatedAt : Nat
  deriving DecidableEq

def MAX_FREE_CANISTERS : Nat := 3
def MAX_PRO_CANISTERS : Nat := 50

namespace OrganizationBillingPlan

/-- `OrganizationBillingPlan::default`, the implicit Free plan. -/
def default (now : Nat) : OrganizationBillingPlan where
  tier := .free
  limits := ⟨MAX_FREE_CANISTERS, none⟩
  externalRef := none
  updatedAt := now

/-- `free_snapshot`. -/
def freeSnapshot (now : Nat) : OrganizationBillingPlan :=
  default now

/-- `pro_snapshot`. -/
def proSnapshot (now : Nat) : OrganizationBillingPlan where
  tier := .pro
  limits := ⟨MAX_PRO_CANISTERS, none⟩
  externalRef := none
  updatedAt := now

end OrganizationBillingPlan

inductive InviteTarget
  | email (address : String)
  | userId (userId : UserId)
  | principal (principal : Principal)
  deriving DecidableEq

inductive InviteStatus
  | pending
  | accepted
  | declined
  | revoked
  deriving DecidableEq

/-- `InviteStatus::as_u8`. -/
def InviteStatus.asU8 : InviteStatus → Nat
  | pending => 0
  | accepted => 1
  | declined => 2
  | revoked => 3

/-- A stored organization invite. -/
structure OrgInvite where
  orgId : OrgId
  createdBy : UserId
  createdAtNs : Nat
  expiresAtNs : Nat
  target : InviteTarget
  status : InviteStatus
  deriving DecidableEq

/-- A stored version of the terms and conditions. -/
structure TermsAndConditions where
  content : String
  comment : String
  createdAt : Nat
  createdBy : UserId
  deriving DecidableEq

inductive TermsAndConditionsDecisionType
  | accept
  | reject
  deriving DecidableEq

/-- A user's stored decision on one version of the terms. -/
structure TermsAndConditionsDecision where
  termsAndConditionsId : TermsAndConditionsId
  userId : UserId
  createdAt : Nat
  decisionType : TermsAndConditionsDecisionType
  deriving DecidableEq

/-- A pending link code, kept on the heap. -/
structure PendingLinkCode where
  code : String
  targetPrincipal : Principal
  expiresAtNanos : Nat
  deriving DecidableEq

end SsnConsole.Backend
