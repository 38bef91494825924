import DualPhy.Block.Descriptor
import DualPhy.Block.Role

/-!
# Which block plays which role

Matchers say how the block of a role is recognised. They are tried in order:
the first matcher of a role that accepts any block gives it the first block it
accepts, and later matchers of that role are not tried.
-/

namespace DualPhy

/-- How the block of a role is recognised. -/
structure Matcher where
  /-- The role. -/
  role : Role
  /-- Wording of the condition. -/
  description : String
  /-- Whether a block meets the condition. -/
  accepts : Block → Bool

namespace Matcher

/-- Recognise a block by its exact instance name. -/
def instanceName (role : Role) (name : String) : Matcher where
  role := role
  description := "instance_name == " ++ Text.quoted name
  accepts block := block.instanceName == name

/-- Text of a matcher. -/
def text (matcher : Matcher) : String :=
  "RoleMatcher \x7b role: " ++ matcher.role.identifier ++ ", predicate: " ++
    Text.quoted matcher.description ++ " \x7d"

/-- One matcher for every role, by the instance names of a record. -/
def ofNames (names : PerRole String) : List Matcher :=
  Role.all.map fun role => instanceName role (names.get role)

/-- Matchers for the stock flowgraph. -/
def stock : List Matcher :=
  Role.all.map fun role => instanceName role role.stockInstance

end Matcher

/-- Go through the matchers and list the roles that get a block, with the
blocks they get. The roles in `taken` have theirs already. -/
def assignments (blocks : List Block) : (taken : List Role) → List Matcher →
    List (Role × Block)
  | _, [] => []
  | taken, matcher :: matchers =>
      if taken.contains matcher.role then assignments blocks taken matchers
      else
        match blocks.find? matcher.accepts with
        | none => assignments blocks taken matchers
        | some block =>
            (matcher.role, block) ::
              assignments blocks (matcher.role :: taken) matchers

/-- Which block plays which role. -/
structure Resolution where
  /-- Identifiers of the blocks that play a role. -/
  blockIds : PerRole (Option String)
  deriving DecidableEq

namespace Resolution

/-- The resolution that a list of assignments describes. -/
def ofAssignments (assigned : List (Role × Block)) : Resolution where
  blockIds := .ofFn fun role => (assigned.lookup role).map Block.id

/-- Find the block of every role. -/
def resolve (blocks : List Block) (matchers : List Matcher) : Resolution :=
  ofAssignments (assignments blocks [] matchers)

/-- Identifier of the block that plays a role. -/
def blockId? (resolution : Resolution) (role : Role) : Option String :=
  resolution.blockIds.get role

/-- The roles without a block. -/
def missing (resolution : Resolution) : List Role :=
  Role.all.filter fun role => (resolution.blockId? role).isNone

/-- Whether every role has a block. -/
def isComplete (resolution : Resolution) : Bool := resolution.missing.isEmpty

end Resolution
end DualPhy
