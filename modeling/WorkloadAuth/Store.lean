import WorkloadAuth.Configuration.File
import WorkloadAuth.Dictionary
import WorkloadAuth.Log

/-!
# The store

The configuration and the roles that logins and renewals read, and the operations that manage them.

* `Store`: what is stored.
* `Change`: the result of an operation, what is stored after it, and the log records it writes. An
  operation that fails changes nothing.
* `Store.setConfiguration`, `Store.loadConfiguration`, `Store.clearConfiguration`, `Store.putRole`,
  `Store.deleteRole`: the operations.
-/

namespace WorkloadAuth

/-- What is stored. -/
structure Store where
  configuration : Option Configuration := none
  /-- The roles by their names. -/
  roles : Dictionary Role := Dictionary.empty
  deriving DecidableEq, Repr

/-- What an operation leads to. -/
structure Change (α : Type) where
  result : Except Failure α
  /-- What is stored after it. -/
  store : Store
  /-- The log records that it writes, in order. -/
  records : List Log.Record

namespace Store

open Log

/-- The store in which nothing is stored. -/
def empty : Store := {}

/-- The role with a name. -/
def role? (s : Store) (name : String) : Option Role := s.roles.get? name

/-- The names of all roles, in ascending order (`MemoryStore::list_roles`). -/
def roleNames (s : Store) : List String := s.roles.keys

/-- An operation that fails. -/
def refuse {α : Type} (s : Store) (failure : Failure) : Change α := ⟨.error failure, s, []⟩

/-- Stores a configuration instead of an earlier one (`MemoryStore::set_config`). Its certificates
have to be readable. -/
def setConfiguration (context : Context) (c : Configuration) (s : Store) : Change Unit :=
  match c.trustSettings with
  | .error fault => s.refuse (.of fault.cause)
  | .ok _ =>
    ⟨.ok (), { s with configuration := some c },
      [context.record .info "Configuration updated" []]⟩

/-- Stores the configuration in the file at a path (`MemoryStore::load_config`). -/
def loadConfiguration (context : Context) (yaml : String → String) (path : String)
    (file : StoredFile) (s : Store) : Change Unit :=
  match Configuration.load yaml path file with
  | .error failure => s.refuse failure
  | .ok c =>
    let change := s.setConfiguration context c
    { change with
      records := context.record .debug "Configuration loaded from file" [[("path", path)]] ::
        change.records }

/-- Removes the configuration (`MemoryStore::clear_config`). -/
def clearConfiguration (context : Context) (s : Store) : Change Unit :=
  ⟨.ok (), { s with configuration := none }, [context.record .info "Configuration cleared" []]⟩

/-- Stores a role instead of an earlier one of its name (`MemoryStore::put_role`). -/
def putRole (context : Context) (role : Role) (s : Store) : Change Unit :=
  match role.validate with
  | .error defect => s.refuse (.of (.invalidRole role.name defect))
  | .ok () =>
    ⟨.ok (), { s with roles := s.roles.insert role.name role },
      [context.record .info "Role stored" [[("role", role.name)]]]⟩

/-- Removes the role with a name, and gives it back if there is one (`MemoryStore::delete_role`). -/
def deleteRole (context : Context) (name : String) (s : Store) : Change (Option Role) :=
  match s.role? name with
  | none => ⟨.ok none, s, []⟩
  | some role =>
    ⟨.ok (some role), { s with roles := s.roles.erase name },
      [context.record .info "Role deleted" [[("role", name)]]]⟩

end Store

end WorkloadAuth
