/-!
# Records of the directory

The Cloud Controller keeps records of apps, organizations, service instances and spaces.

* `App`, `Org`, `ServiceInstance`, `Space`: the records.
* `RecordKind`, `RecordKind.Record`: their kinds, and the type of the records of a kind.
-/

namespace WorkloadAuth

/-- An app. -/
structure App where
  guid : String
  /-- How many instances of it run. -/
  instances : UInt64
  spaceGuid : String
  deriving DecidableEq, Repr

/-- An organization. -/
structure Org where
  guid : String
  deriving DecidableEq, Repr

/-- A service instance. -/
structure ServiceInstance where
  guid : String
  spaceGuid : String
  deriving DecidableEq, Repr

/-- A space. -/
structure Space where
  guid : String
  orgGuid : String
  deriving DecidableEq, Repr

/-- The kinds of records. -/
inductive RecordKind where
  | serviceInstance
  | app
  | org
  | space
  deriving DecidableEq, Repr

namespace RecordKind

/-- The type of the records of a kind. -/
@[reducible] def Record : RecordKind → Type
  | serviceInstance => ServiceInstance
  | app => App
  | org => Org
  | space => Space

/-- The name of a kind in messages. -/
def label : RecordKind → String
  | serviceInstance => "service instance"
  | app => "app"
  | org => "org"
  | space => "space"

end RecordKind

end WorkloadAuth
