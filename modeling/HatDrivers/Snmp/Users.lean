import HatDrivers.Snmp.Encoder

namespace HatDrivers.Snmp

open HatDrivers.Lib

/-!
# SNMP driver — configured users

The dictionaries of users and of their keys that agents and trap listeners fill from a collection
of users, one after the other: of users with the same name the last one counts.
-/

/-- The user of a name, in a dictionary that was filled from a collection. -/
def findUser (users : List User) (name : String) : Option User :=
  users.reverse.find? fun user => user.name = name

theorem findUser_concat (users : List User) (user : User) (name : String) :
    findUser (users ++ [user]) name =
      if user.name = name then some user else findUser users name := by
  rw [findUser, List.reverse_append, List.reverse_singleton, List.singleton_append,
    List.find?_cons]
  by_cases h : user.name = name <;> simp [h, findUser]

theorem name_of_findUser {users : List User} {name : String} {user : User}
    (h : findUser users name = some user) : user.name = name := by
  simpa using List.find?_some h

theorem mem_of_findUser {users : List User} {name : String} {user : User}
    (h : findUser users name = some user) : user ∈ users :=
  List.mem_reverse.mp (List.mem_of_find?_eq_some h)

variable (crypto : Crypto)

/-- The key of a user, if there is one of the type; `bytes(None)` raises. -/
def userKey (keyType : Option KeyType) (password : Option String) (engineId : Option EngineId) :
    Except Failure (Option Key) :=
  match keyType with
  | none => .ok none
  | some keyType =>
    match engineId with
    | none => .error .typeError
    | some engineId => (createKey crypto keyType password engineId).map some

variable {crypto}

theorem userKey_eq_ok_none {keyType : Option KeyType} {password : Option String}
    {engineId : Option EngineId} (h : userKey crypto keyType password engineId = .ok none) :
    keyType = none := by
  cases keyType with
  | none => rfl
  | some keyType =>
    cases engineId with
    | none => cases h
    | some engineId =>
      cases hkey : createKey crypto keyType password engineId <;>
        simp [userKey, hkey, Except.map] at h

theorem userKey_eq_ok_some {keyType : Option KeyType} {password : Option String}
    {engineId : EngineId} {key : Key}
    (h : userKey crypto keyType password (some engineId) = .ok (some key)) :
    ∃ t, keyType = some t ∧ createKey crypto t password engineId = .ok key := by
  cases keyType with
  | none => cases h
  | some keyType =>
    cases hkey : createKey crypto keyType password engineId with
    | error e => simp [userKey, hkey, Except.map] at h
    | ok key' =>
      simp only [userKey, hkey, Except.map, Except.ok.injEq, Option.some.injEq] at h
      exact ⟨keyType, rfl, h ▸ hkey⟩

theorem exists_userKey {keyType : Option KeyType} {password : Option String}
    (h : keyType.isSome → noPassword password = false) (engineId : EngineId) :
    ∃ key, userKey crypto keyType password (some engineId) = .ok key := by
  cases keyType with
  | none => exact ⟨none, rfl⟩
  | some keyType =>
    obtain ⟨key, hkey⟩ := createKey_isOk (h rfl) keyType engineId
    exact ⟨some key, by rw [userKey, hkey]; rfl⟩

/-! ### The keys of a user -/

namespace V3

/-- The keys of a user for an engine. -/
structure UserKeys (crypto : Crypto) (engineId : EngineId) (user : User)
    (authKey privKey : Option Key) : Prop where
  userAuth : userKey crypto (user.authType.map authTypeToKeyType) user.authPassword
    (some engineId) = .ok authKey
  userPriv : userKey crypto (user.privType.map privTypeToKeyType) user.privPassword
    (some engineId) = .ok privKey
  auth : ∀ key, authKey = some key → key.type ≠ .DES ∧ key.Valid
  priv : ∀ key, privKey = some key → authKey.isSome ∧ key.type = .DES ∧ key.Valid

theorem userKeys_of_valid (hcrypto : crypto.Lawful) {engineId : EngineId} {user : User}
    (hvalid : validateUser user = .ok ()) {authKey privKey : Option Key}
    (hauth : userKey crypto (user.authType.map authTypeToKeyType) user.authPassword
      (some engineId) = .ok authKey)
    (hpriv : userKey crypto (user.privType.map privTypeToKeyType) user.privPassword
      (some engineId) = .ok privKey) :
    UserKeys crypto engineId user authKey privKey := by
  obtain ⟨-, hpair⟩ := validateUser_eq_ok.mp hvalid
  refine ⟨hauth, hpriv, ?_, ?_⟩
  · rintro key rfl
    obtain ⟨_, htype, hkey⟩ := userKey_eq_ok_some hauth
    obtain ⟨t, -, rfl⟩ := Option.map_eq_some_iff.mp htype
    obtain ⟨hkeyType, hvalid⟩ := createKey_spec hcrypto hkey
    refine ⟨?_, hvalid⟩
    rw [hkeyType]
    cases t <;> exact nofun
  · rintro key rfl
    obtain ⟨_, htype, hkey⟩ := userKey_eq_ok_some hpriv
    obtain ⟨t, ht, rfl⟩ := Option.map_eq_some_iff.mp htype
    obtain ⟨hkeyType, hvalid⟩ := createKey_spec hcrypto hkey
    refine ⟨?_, hkeyType, hvalid⟩
    have hsome := (hpair (by rw [ht]; rfl)).2
    cases authKey with
    | some key => rfl
    | none =>
      rw [Option.map_eq_none_iff.mp (userKey_eq_ok_none hauth)] at hsome
      cases hsome

/-- The keys are those of the flags of a message that has both. -/
theorem UserKeys.keyed {engineId : EngineId} {user : User} {authKey privKey : Option Key}
    (h : UserKeys crypto engineId user authKey privKey) {msg : Msg}
    (hauth : msg.auth = authKey.isSome) (hpriv : msg.priv = privKey.isSome) :
    Keyed msg authKey privKey where
  auth hflag := by
    rw [hauth] at hflag
    obtain ⟨key, rfl⟩ := Option.isSome_iff_exists.mp hflag
    exact ⟨key, rfl, h.auth key rfl⟩
  priv hflag := by
    rw [hpriv] at hflag
    obtain ⟨key, rfl⟩ := Option.isSome_iff_exists.mp hflag
    obtain ⟨hsome, htype, hvalid⟩ := h.priv key rfl
    exact ⟨hauth.trans hsome, key, rfl, htype, hvalid⟩

end V3

end HatDrivers.Snmp
