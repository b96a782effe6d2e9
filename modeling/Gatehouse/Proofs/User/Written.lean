import Gatehouse.Proofs.Json.Record
import Gatehouse.Proofs.Time.Timestamp
import Gatehouse.Proofs.Token.Length
import Gatehouse.User.Access

/-! What the written forms of users, roles and permissions are read as. The password hash alone is
not written, and permissions are read the same in whatever order their roles are written. -/
namespace Gatehouse

namespace Json

/-- The text of a value is read as `result`. -/
def ReadsAs {α : Type} (j : Json) (read? : Json → Option α) (result : α) : Prop :=
  (parse? j.compact).bind read? = some result

theorem ReadsAs.iff_eq {α : Type} {j : Json} {read? : Json → Option α} {result other : α}
    (h : j.ReadsAs read? result) : j.ReadsAs read? other ↔ result = other := by
  rw [ReadsAs, h, Option.some.injEq]

theorem readsAs_of_reread {α : Type} {j : Json} {read? : Json → Option α} {result : α}
    (hj : j.IsIntegral) (h : read? j.reread = some result) : j.ReadsAs read? result := by
  rw [ReadsAs, parse?_compact j hj, Option.bind_some, h]

/-! ## Single values -/

@[simp] theorem string?_reread_str (s : String) : (str s).reread.string? = some s :=
  text?_written s

@[simp] theorem bool?_reread_bool (b : Bool) : (Json.bool b).reread.bool? = some b := rfl

@[simp] theorem uint64?_reread_uint64 (n : UInt64) : (uint64 n).reread.uint64? = some n := by
  have hlimit : n.toNat < UInt64.size := n.toNat_lt
  have hrange : (0 : Int) ≤ n.toNat ∧ (n.toNat : Int) < (UInt64.size : Nat) := by omega
  have hint : (uint64 n).reread.int? = some (n.toNat : Int) := int?_ofInt n.toNat
  rw [uint64?, hint, Option.bind_eq_bind, Option.bind_some, guard, if_pos hrange, Int.toNat_natCast,
    UInt64.ofNat_toNat]
  rfl

theorem timestamp?_reread_timestamp {t : Timestamp} (h : t.IsSupported) :
    (timestamp t).reread.timestamp? = some t.settled := by
  rw [timestamp?, timestamp, string?_reread_str, Option.bind_eq_bind, Option.bind_some,
    Timestamp.text, String.toList_ofList, Timestamp.parse?_render_settled h]

theorem isIntegral_uint64 (n : UInt64) : (uint64 n).IsIntegral := ⟨_, rfl⟩

end Json

/-! ## Users -/

structure User.HasSupportedTimes (u : User) : Prop where
  createdAt : u.createdAt.IsSupported
  updatedAt : u.updatedAt.IsSupported

/-- The times of a user have texts of their own. -/
structure User.HasValidTimes (u : User) : Prop where
  createdAt : u.createdAt.IsValid
  updatedAt : u.updatedAt.IsValid

/-- The user with the times that their texts name. -/
def User.settled (u : User) : User :=
  { u with createdAt := u.createdAt.settled, updatedAt := u.updatedAt.settled }

namespace LoginRequest

theorem isIntegral_toJson (r : LoginRequest) : r.toJson.IsIntegral := ⟨trivial, trivial, trivial⟩

theorem allFields?_reread (r : LoginRequest) :
    r.toJson.reread.allFields? ["username", "password"] =
      some [(Json.str r.username).reread, (Json.str r.password).reread] :=
  Json.allFields?_reread_record _ (by simp)

theorem ofJson?_reread (r : LoginRequest) : ofJson? r.toJson.reread = some r := by
  unfold ofJson?
  rw [r.allFields?_reread]
  simp

end LoginRequest

namespace User

theorem isIntegral_toJson (u : User) : u.toJson.IsIntegral :=
  ⟨Json.isIntegral_uint64 _, trivial, trivial, trivial, trivial, trivial, trivial⟩

theorem fields?_reread (u : User) :
    u.toJson.reread.fields?
        ["id", "username", "fullname", "email", "password_hash", "created_at", "updated_at"] =
      some [some (Json.uint64 u.id.value).reread, some (Json.str u.username).reread,
        some (Json.str u.fullname).reread, some (Json.str u.email).reread, none,
        some (Json.timestamp u.createdAt).reread, some (Json.timestamp u.updatedAt).reread] :=
  Json.fields?_reread_record _ (by simp) _

/-- A record without a hash whose other fields are read as those of a user. -/
theorem ofJson?_of_fields {j id username fullname email createdAt updatedAt : Json} (u : User)
    (h : j.fields?
        ["id", "username", "fullname", "email", "password_hash", "created_at", "updated_at"] =
      some [some id, some username, some fullname, some email, none, some createdAt,
        some updatedAt])
    (hid : id.uint64? = some u.id.value) (husername : username.string? = some u.username)
    (hfullname : fullname.string? = some u.fullname) (hemail : email.string? = some u.email)
    (hcreatedAt : createdAt.timestamp? = some u.createdAt)
    (hupdatedAt : updatedAt.timestamp? = some u.updatedAt) :
    ofJson? j = some { u with passwordHash := "" } := by
  unfold ofJson?
  rw [h]
  dsimp only [Option.bind_eq_bind, Option.bind_some]
  rw [hid, Option.bind_some, husername, Option.bind_some, hfullname, Option.bind_some, hemail,
    Option.bind_some, hcreatedAt, Option.bind_some, hupdatedAt]
  rfl

/-- A user comes back but for the hash, with the times that are named. -/
theorem ofJson?_reread {u : User} (h : u.HasSupportedTimes) :
    ofJson? u.toJson.reread = some { u.settled with passwordHash := "" } := by
  apply ofJson?_of_fields u.settled u.fields?_reread
  · exact Json.uint64?_reread_uint64 _
  · exact Json.string?_reread_str _
  · exact Json.string?_reread_str _
  · exact Json.string?_reread_str _
  · exact Json.timestamp?_reread_timestamp h.createdAt
  · exact Json.timestamp?_reread_timestamp h.updatedAt

end User

namespace Role

theorem isIntegral_toJson (r : Role) : r.toJson.IsIntegral :=
  ⟨Json.isIntegral_uint64 _, trivial, trivial, trivial⟩

theorem allFields?_reread (r : Role) :
    r.toJson.reread.allFields? ["id", "code", "full_access"] =
      some [(Json.uint64 r.id.value).reread, (Json.str r.code).reread,
        (Json.bool r.fullAccess).reread] :=
  Json.allFields?_reread_record _ (by simp)

/-- A record whose fields are read as those of a role. -/
theorem ofJson?_of_fields {j id code fullAccess : Json} (r : Role)
    (h : j.allFields? ["id", "code", "full_access"] = some [id, code, fullAccess])
    (hid : id.uint64? = some r.id.value) (hcode : code.string? = some r.code)
    (hfullAccess : fullAccess.bool? = some r.fullAccess) : ofJson? j = some r := by
  unfold ofJson?
  rw [h]
  simp [hid, hcode, hfullAccess]

theorem ofJson?_reread (r : Role) : ofJson? r.toJson.reread = some r := by
  apply ofJson?_of_fields r r.allFields?_reread
  · exact Json.uint64?_reread_uint64 _
  · exact Json.string?_reread_str _
  · exact Json.bool?_reread_bool _

end Role

/-! ## Permissions by role -/

/-- A role id is a key without escapes. -/
theorem RoleId.ofKey?_written_text (id : RoleId) : ofKey? (Json.written id.text) = some id := by
  have hlist : id.text.toList = Nat.toDigits 10 id.value.toNat := Nat.toList_repr
  have hplain : Json.written id.text = .plain id.text := by
    unfold Json.written
    rw [hlist, if_pos]
    rw [List.all_eq_true]
    intro c hc
    have hbare := Json.isBare_of_isDigit (Json.isDigit_toDigits hc)
    exact (Bool.and_eq_true_iff.mp hbare).1
  have hkey : id.value.toNat < UInt64.size ∧ id.text = toString id.value.toNat :=
    ⟨id.value.toNat_lt, rfl⟩
  rw [hplain, ofKey?, hlist, Text.digits?_toDigits, Option.bind_eq_bind, Option.bind_some, guard,
    if_pos hkey, UInt64.ofNat_toNat]
  rfl

namespace UserAccess

/-- The permissions of one role as a field. -/
def field (entry : RoleId × PermissionSet) : String × Json :=
  (entry.1.text, .array (entry.2.toList.map .str))

/-- The written form with the roles of the permissions in some order. -/
def toJsonListing (a : UserAccess) (entries : List (RoleId × PermissionSet)) : Json :=
  .record [("user_id", .uint64 a.userId.value), ("roles", .array (a.roles.map Role.toJson)),
    ("permissions", .record (entries.map field))]

theorem toJson_eq_toJsonListing (a : UserAccess) :
    a.toJson = a.toJsonListing a.permissions.toList := rfl

theorem codes?_reread (codes : PermissionSet) :
    codes? (Json.array (codes.toList.map .str)).reread = some codes := by
  have hitems : (Json.array (codes.toList.map .str)).reread.items? =
      some (codes.toList.map fun code => (Json.str code).reread) := by
    rw [Json.reread, Json.rereadItems_eq_map, List.map_map]
    rfl
  have hlist : (codes.toList.map fun code => (Json.str code).reread).mapM Json.string? =
      some (codes.toList.map id) :=
    Json.mapM_map_eq_some fun code _ => Json.string?_reread_str code
  have hset : Std.ExtTreeSet.ofList codes.toList compare = codes := by
    apply Std.ExtTreeSet.ext_mem
    intro code
    simp [Std.ExtTreeSet.mem_ofList]
  rw [codes?, hitems, Option.bind_eq_bind, Option.bind_some, hlist, List.map_id,
    Option.bind_eq_bind, Option.bind_some, hset]
  rfl

/-- Entries with the keys of a map make up the map in any order. -/
theorem ofList_of_perm {entries : List (RoleId × PermissionSet)}
    {permissions : Std.ExtTreeMap RoleId PermissionSet} (h : entries.Perm permissions.toList) :
    Std.ExtTreeMap.ofList entries compare = permissions := by
  have hdistinct : entries.Pairwise fun a b => ¬ compare a.1 b.1 = .eq :=
    (h.pairwise_iff fun hne heq => hne (Std.OrientedCmp.eq_symm heq)).mpr
      Std.ExtTreeMap.distinct_keys_toList
  apply Std.ExtTreeMap.ext_getElem?
  intro role
  cases hcodes : permissions[role]? with
  | some codes =>
    have hentry : (role, codes) ∈ entries :=
      h.mem_iff.mpr (Std.ExtTreeMap.mem_toList_iff_getElem?_eq_some.mpr hcodes)
    exact Std.ExtTreeMap.getElem?_ofList_of_mem Std.ReflCmp.compare_self hdistinct hentry
  | none =>
    apply Std.ExtTreeMap.getElem?_ofList_of_contains_eq_false
    rw [List.contains_eq_mem, decide_eq_false_iff_not, List.mem_map]
    rintro ⟨⟨role, codes⟩, hentry, rfl⟩
    have hcodes' := Std.ExtTreeMap.mem_toList_iff_getElem?_eq_some.mp (h.mem_iff.mp hentry)
    simp [hcodes] at hcodes'

theorem permissions?_object (members : List (Spelling × Json)) :
    permissions? (.object members) =
      (members.mapM fun member => do return (← RoleId.ofKey? member.1, ← codes? member.2)) >>=
        fun entries => some (Std.ExtTreeMap.ofList entries compare) := rfl

theorem permissions?_reread {entries : List (RoleId × PermissionSet)}
    {permissions : Std.ExtTreeMap RoleId PermissionSet} (h : entries.Perm permissions.toList) :
    permissions? (Json.record (entries.map field)).reread = some permissions := by
  have hentries : (entries.map fun entry =>
        (Json.written (field entry).1, (field entry).2.reread)).mapM
      (fun member => do return (← RoleId.ofKey? member.1, ← codes? member.2)) =
      some (entries.map id) := by
    apply Json.mapM_map_eq_some
    intro entry _
    simp [field, RoleId.ofKey?_written_text, codes?_reread]
  have hmembers : (Json.record (entries.map field)).reread =
      .object (entries.map fun entry => (Json.written (field entry).1, (field entry).2.reread)) := by
    rw [Json.reread_record, List.map_map]
    rfl
  rw [hmembers, permissions?_object, hentries, List.map_id, Option.bind_eq_bind, Option.bind_some,
    ofList_of_perm h]

theorem isIntegral_toJsonListing (a : UserAccess) (entries : List (RoleId × PermissionSet)) :
    (a.toJsonListing entries).IsIntegral := by
  have hroles : (Json.array (a.roles.map Role.toJson)).IsIntegral := by
    change Json.AreIntegral _
    rw [Json.areIntegral_iff, List.forall_mem_map]
    exact fun role _ => role.isIntegral_toJson
  have hpermissions : (Json.record (entries.map field)).IsIntegral := by
    rw [Json.isIntegral_record, List.forall_mem_map]
    intro entry _
    change Json.AreIntegral _
    rw [Json.areIntegral_iff, List.forall_mem_map]
    exact fun _ _ => trivial
  exact ⟨Json.isIntegral_uint64 _, hroles, hpermissions, trivial⟩

theorem allFields?_reread (a : UserAccess) (entries : List (RoleId × PermissionSet)) :
    (a.toJsonListing entries).reread.allFields? ["user_id", "roles", "permissions"] =
      some [(Json.uint64 a.userId.value).reread, (Json.array (a.roles.map Role.toJson)).reread,
        (Json.record (entries.map field)).reread] :=
  Json.allFields?_reread_record _ (by simp)

/-- A record whose fields are read as those of an access. -/
theorem ofJson?_of_fields {j userId roles permissions : Json} {items : List Json} (a : UserAccess)
    (h : j.allFields? ["user_id", "roles", "permissions"] = some [userId, roles, permissions])
    (huserId : userId.uint64? = some a.userId.value) (hitems : roles.items? = some items)
    (hroles : items.mapM Role.ofJson? = some a.roles)
    (hpermissions : permissions? permissions = some a.permissions) : ofJson? j = some a := by
  unfold ofJson?
  rw [h]
  simp [huserId, hitems, hroles, hpermissions]

theorem ofJson?_reread_toJsonListing {a : UserAccess} {entries : List (RoleId × PermissionSet)}
    (h : entries.Perm a.permissions.toList) :
    ofJson? (a.toJsonListing entries).reread = some a := by
  have hroles : (a.roles.map fun role => role.toJson.reread).mapM Role.ofJson? =
      some (a.roles.map id) :=
    Json.mapM_map_eq_some fun role _ => role.ofJson?_reread
  rw [List.map_id] at hroles
  apply ofJson?_of_fields a (a.allFields?_reread entries) _ _ hroles
  · exact permissions?_reread h
  · exact Json.uint64?_reread_uint64 _
  · rw [Json.reread, Json.rereadItems_eq_map, List.map_map]
    rfl

end UserAccess

end Gatehouse
