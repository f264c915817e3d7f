import SsnConsole.BackendTypes

/-!
# Validated names and email addresses

A validated value carries the check that it passed, so that a stored name is
never blank or too long and an email address always has its shape.
-/

namespace SsnConsole.Backend

/-- Code points with the Unicode `White_Space` property (`char::is_whitespace`). -/
def isWhitespace (char : Char) : Bool :=
  let code := char.toNat
  (0x09 ≤ code && code ≤ 0x0D) || code == 0x20 || code == 0x85 || code == 0xA0 ||
    code == 0x1680 || (0x2000 ≤ code && code ≤ 0x200A) || code == 0x2028 ||
    code == 0x2029 || code == 0x202F || code == 0x205F || code == 0x3000

/-- `str::trim`. -/
def trim (text : String) : String :=
  String.ofList
    (((text.toList.dropWhile isWhitespace).reverse.dropWhile isWhitespace).reverse)

/-- A name of at most `max` bytes that is not empty. -/
structure BoundedName (max : Nat) where
  text : String
  nonempty : text ≠ ""
  bounded : text.utf8ByteSize ≤ max
  deriving DecidableEq

/-- `validate_bounded_name`. -/
def validateBoundedName (subject : String) (value : String) (max : Nat) :
    ApiResult (BoundedName max) :=
  let trimmed := trim value
  if empty : trimmed = "" then
    .error (.clientError s!"{subject} cannot be empty.")
  else if bounded : trimmed.utf8ByteSize ≤ max then
    .ok ⟨trimmed, empty, bounded⟩
  else
    .error (.clientError s!"{subject} cannot exceed {max} characters.")

def MAX_ORG_NAME_LENGTH : Nat := 100
def MAX_TEAM_NAME_LENGTH : Nat := 100
def MAX_PROJECT_NAME_LENGTH : Nat := 100
def MAX_CANISTER_NAME_LENGTH : Nat := 100
def MAX_PRINCIPAL_NAME_LENGTH : Nat := 64

abbrev OrgName := BoundedName MAX_ORG_NAME_LENGTH
abbrev TeamName := BoundedName MAX_TEAM_NAME_LENGTH
abbrev ProjectName := BoundedName MAX_PROJECT_NAME_LENGTH
abbrev CanisterName := BoundedName MAX_CANISTER_NAME_LENGTH

/-- `OrgName::try_from`. -/
def OrgName.tryFrom (value : String) : ApiResult OrgName :=
  validateBoundedName "Organization name" value MAX_ORG_NAME_LENGTH

/-- `TeamName::try_from`. -/
def TeamName.tryFrom (value : String) : ApiResult TeamName :=
  validateBoundedName "Team name" value MAX_TEAM_NAME_LENGTH

/-- `ProjectName::try_from`. -/
def ProjectName.tryFrom (value : String) : ApiResult ProjectName :=
  validateBoundedName "Project name" value MAX_PROJECT_NAME_LENGTH

/-- `CanisterName::try_from`. -/
def CanisterName.tryFrom (value : String) : ApiResult CanisterName :=
  validateBoundedName "Canister name" value MAX_CANISTER_NAME_LENGTH

/-- `validate_optional_principal_name`: blank input clears the name. -/
def validateOptionalPrincipalName : Option String → ApiResult (Option String)
  | none => .ok none
  | some raw =>
      let trimmed := trim raw
      if trimmed = "" then
        .ok none
      else if trimmed.toList.length > MAX_PRINCIPAL_NAME_LENGTH then
        .error (.clientError
          s!"Principal name cannot exceed {MAX_PRINCIPAL_NAME_LENGTH} characters.")
      else
        .ok (some trimmed)

def MAX_EMAIL_LENGTH : Nat := 254

/-- `str::split_once`: the text before and after the first `separator`. -/
def splitOnce (text : List Char) (separator : Char) : Option (List Char × List Char) :=
  match text.dropWhile (· ≠ separator) with
  | [] => none
  | _ :: after => some (text.takeWhile (· ≠ separator), after)

/-- `validate_email_shape`. -/
def validateEmailShape (value : String) : ApiResult Unit :=
  if value = "" then
    .error (.clientError "Email cannot be empty.")
  else if value.utf8ByteSize > MAX_EMAIL_LENGTH then
    .error (.clientError s!"Email cannot exceed {MAX_EMAIL_LENGTH} characters.")
  else if value.toList.any isWhitespace then
    .error (.clientError "Email cannot contain whitespace.")
  else
    match splitOnce value.toList '@' with
    | none => .error (.clientError "Email must contain an '@' symbol.")
    | some (localPart, domain) =>
        if localPart.isEmpty || domain.isEmpty then
          .error (.clientError "Email must have a local and a domain part.")
        else if !domain.contains '.' then
          .error (.clientError "Email domain must contain a '.'.")
        else if (domain.splitOn '.').any List.isEmpty then
          .error (.clientError "Email domain labels must not be empty.")
        else
          .ok ()

/-- An address that passed the shape check. -/
structure Email where
  text : String
  shape : validateEmailShape text = .ok ()

/-- `raw.trim().to_lowercase()`. -/
def normalizeEmail [Host] (raw : String) : String :=
  Host.toLowercase (trim raw)

/-- `Email::try_from`. -/
def Email.tryFrom [Host] (value : String) : ApiResult Email :=
  match shape : validateEmailShape (normalizeEmail value) with
  | .ok () => .ok ⟨normalizeEmail value, shape⟩
  | .error error => .error error

/-- An accepted address is the normal form of what was given. -/
theorem Email.text_of_tryFrom
    [Host]
    {value : String}
    {email : Email}
    (accepted : Email.tryFrom value = .ok email) :
    email.text = normalizeEmail value := by
  unfold Email.tryFrom at accepted
  split at accepted
  · cases accepted
    rfl
  · cases accepted

/-- An address is never empty. -/
theorem Email.text_ne_empty
    (email : Email) :
    email.text ≠ "" := by
  intro empty
  have shape := email.shape
  rw [empty] at shape
  exact absurd shape (by decide)

/-- `VerifiedEmailKey`: the normal form of a verified address. -/
abbrev VerifiedEmailKey := String

/-- `VerifiedEmailKey::from_legacy_storage_unchecked`. -/
def VerifiedEmailKey.fromLegacyStorageUnchecked [Host] (raw : String) :
    Option VerifiedEmailKey :=
  let normalized := normalizeEmail raw
  if normalized = "" then none else some normalized

/-- `str::eq_ignore_ascii_case`. -/
def eqIgnoreAsciiCase (first second : String) : Bool :=
  first.toList.map Char.toLower == second.toList.map Char.toLower

example :
    (TeamName.tryFrom "  Platform ").toOption.map (·.text) = some "Platform" ∧
      (TeamName.tryFrom "   ").toOption.isNone := by
  decide

end SsnConsole.Backend
