import SsnConsole.StableIndex

/-!
# Identifiers, principals, errors and permission sets of the backend

The values that the backend's stores and services share.  What the canister
takes from outside its own source (random identifiers, the textual forms of
identifiers and principals, Unicode lowercasing, token primitives) is the
`Host` parameter.
-/

namespace SsnConsole.Backend

open Std

/-- The record type that a typed identifier belongs to. -/
inductive Marker
  | userProfile
  | organization
  | team
  | project
  | canister
  | proposal
  | approvalPolicy
  | orgInvite
  | termsAndConditions
  | termsAndConditionsDecision
  deriving DecidableEq

/-- `Id<T>`: a UUID tagged with the record type that it names. -/
structure Id (marker : Marker) where
  uuid : Nat
  deriving DecidableEq

abbrev UserId := Id .userProfile
abbrev OrgId := Id .organization
abbrev TeamId := Id .team
abbrev ProjectId := Id .project
abbrev CanisterId := Id .canister
abbrev ProposalId := Id .proposal
abbrev ApprovalPolicyId := Id .approvalPolicy
abbrev InviteId := Id .orgInvite
abbrev TermsAndConditionsId := Id .termsAndConditions
abbrev TermsAndConditionsDecisionId := Id .termsAndConditionsDecision

namespace Id

variable {marker : Marker}

instance : Ord (Id marker) :=
  ⟨fun first second => compare first.uuid second.uuid⟩

instance : TransOrd (Id marker) :=
  inferInstanceAs (TransCmp (compareOn Id.uuid))

instance : LawfulEqOrd (Id marker) where
  eq_of_compare := by
    rintro ⟨first⟩ ⟨second⟩ equal
    have sameUuid : compare first second = Ordering.eq := equal
    rw [LawfulEqOrd.eq_of_compare sameUuid]

/-- `Id::default()`: the nil UUID. -/
def nil : Id marker :=
  ⟨0⟩

open StableIndex in
/-- The keys of the two-column indexes. -/
instance {first second : Marker} : TransOrd (Id first × Id second) :=
  Std.instTransOrdProd

end Id

/-- An Internet Computer principal: at most 29 bytes. -/
structure Principal where
  bytes : List UInt8
  short : bytes.length ≤ 29
  deriving DecidableEq

namespace Principal

instance : Ord Principal :=
  ⟨fun first second => compare first.bytes second.bytes⟩

instance : TransOrd Principal :=
  inferInstanceAs (TransCmp (compareOn Principal.bytes))

instance : LawfulEqOrd Principal where
  eq_of_compare := by
    rintro ⟨first, firstShort⟩ ⟨second, secondShort⟩ equal
    have sameBytes : compare first second = Ordering.eq := equal
    obtain rfl := LawfulEqOrd.eq_of_compare sameBytes
    rfl

/-- `Principal::anonymous()`: the single byte 4. -/
def anonymous : Principal :=
  ⟨[4], by decide⟩

end Principal

/-- `ApiErrorCode`. -/
inductive ApiErrorCode
  | unauthenticated
  | unauthorized
  | dependencyError
  | internalError
  | clientError
  | quotaExceeded
  deriving DecidableEq

/-- `ApiError`: a machine-readable code and a message. -/
structure ApiError where
  code : Option ApiErrorCode
  message : String
  deriving DecidableEq

namespace ApiError

def unauthenticated (message : String) : ApiError :=
  ⟨some .unauthenticated, message⟩

def unauthorized (message : String) : ApiError :=
  ⟨some .unauthorized, message⟩

def internalError (message : String) : ApiError :=
  ⟨some .internalError, message⟩

def clientError (message : String) : ApiError :=
  ⟨some .clientError, message⟩

def quotaExceeded (message : String) : ApiError :=
  ⟨some .quotaExceeded, message⟩

end ApiError

/-- `ApiResult`. -/
abbrev ApiResult (α : Type) := Except ApiError α

/-- `RejectionReason`: why a token endpoint refused. -/
inductive RejectionReason
  | expired
  | invalid
  | wrongPurpose
  | emailMismatch
  | profileNotFound
  | noVerifiedAccount
  deriving DecidableEq

/-- `RejectionError`: the error of the token endpoints. -/
structure RejectionError where
  message : String
  reason : Option RejectionReason
  deriving DecidableEq

namespace RejectionError

/-- `RejectionError::new`. -/
def new (message : String) (reason : RejectionReason) : RejectionError :=
  ⟨message, some reason⟩

/-- `From<ApiError>`: the message survives, without a reason. -/
def fromApiError (error : ApiError) : RejectionError :=
  ⟨error.message, none⟩

end RejectionError

/-- The claims that the auth service puts into a token and the backend reads. -/
structure Claims where
  email : String
  purpose : Option String
  deriving DecidableEq

/-- What the canister obtains from outside its own source. -/
class Host where
  /-- The UUIDs that successive calls of `Uuid::new` return. -/
  draw : Nat → Nat
  /-- Random UUIDs do not repeat. -/
  draw_injective : Function.Injective draw
  /-- The textual form of a UUID. -/
  uuidText : Nat → String
  /-- `uuid::Uuid::parse_str`. -/
  parseUuid : String → Option Nat
  /-- `Principal::to_text`. -/
  principalText : Principal → String
  /-- `str::to_lowercase`. -/
  toLowercase : String → String
  /-- The environment's `PUBLIC_KEY`. -/
  publicKeyPem : String
  /-- The environment's `CANISTER_HISTORY_ID`. -/
  canisterHistoryId : Principal
  /-- Standard base64 decoding; the error is its message. -/
  base64Decode : String → Except String (List UInt8)
  /-- URL-safe base64 decoding without padding. -/
  base64UrlDecode : String → Option (List UInt8)
  /-- Whether bytes form an Ed25519 signature. -/
  isSignature : List UInt8 → Bool
  /-- Whether bytes form an Ed25519 verifying key. -/
  isVerifyingKey : List UInt8 → Bool
  /-- Ed25519 verification of a signature on a message under a key. -/
  verifySignature : List UInt8 → String → List UInt8 → Bool
  /-- The expiry in seconds of a JSON claims object. -/
  parseBaseClaims : List UInt8 → Option Nat
  /-- The claims of a JSON claims object. -/
  parseClaims : List UInt8 → Option Claims

/-- `Display` of a typed identifier. -/
def Id.text [Host] {marker : Marker} (id : Id marker) : String :=
  Host.uuidText id.uuid

/-- `Display` of a principal. -/
def Principal.text [Host] (principal : Principal) : String :=
  Host.principalText principal

/-- `Id::try_from(&str)`. -/
def Id.tryFrom [Host] {marker : Marker} (text : String) : ApiResult (Id marker) :=
  match Host.parseUuid text with
  | some uuid => .ok ⟨uuid⟩
  | none => .error (.clientError s!"Failed to parse UUID from string: {text}")

/-- What a message carries besides its arguments: caller, clock, controllers. -/
structure Call where
  caller : Principal
  now : Nat
  isController : Principal → Bool

/-- The three families of permission flags. -/
inductive PermissionScope
  | org
  | project
  | staff
  deriving DecidableEq

/-- A permission set of one family: a 64-bit mask. -/
structure Permissions (scope : PermissionScope) where
  bits : BitVec 64
  deriving DecidableEq

abbrev OrgPermissions := Permissions .org
abbrev ProjectPermissions := Permissions .project
abbrev StaffPermissions := Permissions .staff

namespace Permissions

variable {scope : PermissionScope}

/-- The empty set of flags. -/
def EMPTY : Permissions scope :=
  ⟨0⟩

/-- `contains`: every bit of `other` is set. -/
def contains (permissions other : Permissions scope) : Bool :=
  permissions.bits &&& other.bits == other.bits

/-- `union`: the bits of both sets. -/
def union (permissions other : Permissions scope) : Permissions scope :=
  ⟨permissions.bits ||| other.bits⟩

/-- The union of a list of sets, read from its head. -/
def unionAll (sets : List (Permissions scope)) : Permissions scope :=
  sets.foldl union EMPTY

/-- `Display`: the names of the contained flags, or `EMPTY`. -/
def text (flags : List (Permissions scope × String)) (permissions : Permissions scope) :
    String :=
  match (flags.filter fun flag => permissions.contains flag.1).map Prod.snd with
  | [] => "EMPTY"
  | names => " | ".intercalate names

end Permissions

namespace OrgPermissions

def ORG_ADMIN : OrgPermissions := ⟨1 <<< 0⟩
def MEMBER_MANAGE : OrgPermissions := ⟨1 <<< 1⟩
def TEAM_MANAGE : OrgPermissions := ⟨1 <<< 2⟩
def PROJECT_CREATE : OrgPermissions := ⟨1 <<< 3⟩
def BILLING_MANAGE : OrgPermissions := ⟨1 <<< 4⟩

/-- Every organization flag. -/
def ALL : OrgPermissions :=
  ⟨ORG_ADMIN.bits ||| MEMBER_MANAGE.bits ||| TEAM_MANAGE.bits |||
    PROJECT_CREATE.bits ||| BILLING_MANAGE.bits⟩

/-- `Display`. -/
def text (permissions : OrgPermissions) : String :=
  Permissions.text
    [(ORG_ADMIN, "ORG_ADMIN"), (MEMBER_MANAGE, "MEMBER_MANAGE"),
      (TEAM_MANAGE, "TEAM_MANAGE"), (PROJECT_CREATE, "PROJECT_CREATE"),
      (BILLING_MANAGE, "BILLING_MANAGE")]
    permissions

end OrgPermissions

namespace ProjectPermissions

def PROJECT_ADMIN : ProjectPermissions := ⟨1 <<< 0⟩
def CANISTER_MANAGE : ProjectPermissions := ⟨1 <<< 1⟩
def PROPOSAL_CREATE : ProjectPermissions := ⟨1 <<< 2⟩
def PROPOSAL_APPROVE : ProjectPermissions := ⟨1 <<< 3⟩
def CANISTER_OPERATE : ProjectPermissions := ⟨1 <<< 4⟩
def CANISTER_READ : ProjectPermissions := ⟨1 <<< 5⟩
def APPROVAL_POLICY_MANAGE : ProjectPermissions := ⟨1 <<< 6⟩
def PROJECT_SETTINGS : ProjectPermissions := ⟨1 <<< 7⟩

/-- Every project flag. -/
def ALL : ProjectPermissions :=
  ⟨PROJECT_ADMIN.bits ||| CANISTER_MANAGE.bits ||| PROPOSAL_CREATE.bits |||
    PROPOSAL_APPROVE.bits ||| CANISTER_OPERATE.bits ||| CANISTER_READ.bits |||
    APPROVAL_POLICY_MANAGE.bits ||| PROJECT_SETTINGS.bits⟩

/-- `Display`. -/
def text (permissions : ProjectPermissions) : String :=
  Permissions.text
    [(PROJECT_ADMIN, "PROJECT_ADMIN"), (CANISTER_MANAGE, "CANISTER_MANAGE"),
      (PROPOSAL_CREATE, "PROPOSAL_CREATE"), (PROPOSAL_APPROVE, "PROPOSAL_APPROVE"),
      (CANISTER_OPERATE, "CANISTER_OPERATE"), (CANISTER_READ, "CANISTER_READ"),
      (APPROVAL_POLICY_MANAGE, "APPROVAL_POLICY_MANAGE"),
      (PROJECT_SETTINGS, "PROJECT_SETTINGS")]
    permissions

end ProjectPermissions

namespace StaffPermissions

def READ_ALL_ORGS : StaffPermissions := ⟨1 <<< 0⟩
def WRITE_BILLING : StaffPermissions := ⟨1 <<< 1⟩
def MANAGE_USERS : StaffPermissions := ⟨1 <<< 2⟩
def READ_METRICS : StaffPermissions := ⟨1 <<< 3⟩

/-- Every staff flag. -/
def ALL : StaffPermissions :=
  ⟨READ_ALL_ORGS.bits ||| WRITE_BILLING.bits ||| MANAGE_USERS.bits |||
    READ_METRICS.bits⟩

/-- `Display`. -/
def text (permissions : StaffPermissions) : String :=
  Permissions.text
    [(READ_ALL_ORGS, "READ_ALL_ORGS"), (WRITE_BILLING, "WRITE_BILLING"),
      (MANAGE_USERS, "MANAGE_USERS"), (READ_METRICS, "READ_METRICS")]
    permissions

end StaffPermissions

example :
    Permissions.text [] (Permissions.EMPTY : OrgPermissions) = "EMPTY" ∧
      OrgPermissions.text (OrgPermissions.MEMBER_MANAGE.union OrgPermissions.TEAM_MANAGE) =
        "MEMBER_MANAGE | TEAM_MANAGE" := by
  decide

end SsnConsole.Backend
