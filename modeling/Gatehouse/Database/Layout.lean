import Gatehouse.Database.Migration

/-! The migrations that lay out the directory: the table of users, the tables of roles and
permissions, and the indexes by which access is looked up. -/
namespace Gatehouse.Database.Layout

def steps (changes : List (Change Fault Unit)) : Change MigrationError Unit :=
  changes.forM (Change.mapError .database)

def users : Migration where
  version := 1
  name := "CreateUsersTable"
  up := steps [ensureTable "users"]
  down := steps [dropTableIfAny "users"]

def access : Migration where
  version := 2
  name := "CreateAccessTables"
  up := steps (["roles", "permissions", "user_roles", "role_permissions"].map ensureTable)
  down := steps (["role_permissions", "user_roles", "permissions", "roles"].map dropTableIfAny)

def indexes : Migration where
  version := 3
  name := "CreateAccessIndexes"
  up := steps [ensureIndex "idx_user_roles_role_id" "user_roles" "role_id",
    ensureIndex "idx_role_permissions_permission_id" "role_permissions" "permission_id"]
  down := steps [dropIndex "idx_user_roles_role_id",
    dropIndex "idx_role_permissions_permission_id"]

/-- The layout of the directory, oldest first. -/
def all : List Migration := [users, access, indexes]

def migrate (second : Int) (db : Database) : Except Error Unit × Database :=
  match Migration.prepare.run db with
  | (.error e, db) => (.error e.toError, db)
  | (.ok (), db) =>
    let (outcome, db) := Migration.upAll second all db
    (outcome.mapError MigrationError.toError, db)

end Gatehouse.Database.Layout
