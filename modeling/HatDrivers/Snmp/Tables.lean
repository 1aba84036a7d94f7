import HatDrivers.Snmp.Asn1

namespace HatDrivers.Snmp.Asn1

open HatDrivers.Lib

/-!
# SNMP driver — an encoder of some messages

An encoder that knows finitely many messages with their entities, and raises for others.  It is
lawful if no entity starts the bytes of another (`Ber.lawful_ofTables`).
-/


/-- The first byte of an entity. -/
def identifier (classType : ClassType) (isConstructed : Bool) (tagNumber : ℕ) : UInt8 :=
  let classBits :=
    match classType with
    | .UNIVERSAL => 0
    | .APPLICATION => 0x40
    | .CONTEXT_SPECIFIC => 0x80
    | .PRIVATE => 0xc0
  UInt8.ofNat (classBits + (if isConstructed then 0x20 else 0) + tagNumber)

mutual

/-- The bytes of an entity, for small tags and lengths. -/
def Entity.bytes : Entity → Bytes
  | primitive classType tagNumber value =>
    identifier classType false tagNumber :: UInt8.ofNat value.length :: value
  | constructed classType tagNumber elements =>
    let content := Entity.bytesOfAll elements
    identifier classType true tagNumber :: UInt8.ofNat content.length :: content

def Entity.bytesOfAll : List Entity → Bytes
  | [] => []
  | entity :: entities => entity.bytes ++ Entity.bytesOfAll entities

end

/-- Values with their entities. -/
abbrev Table (M : Type) := List (M × Entity)

namespace Table

variable {M : Type} [DecidableEq M]

def encode (table : Table M) (msg : M) : Option Bytes :=
  (table.find? fun entry => entry.1 = msg).map fun entry => entry.2.bytes

def decode (table : Table M) (entity : Entity) : Option M :=
  (table.find? fun entry => entry.2.bytes = entity.bytes).map Prod.fst

end Table

/-- The entity at the front of some bytes. -/
def frontEntity (entities : List Entity) (bs : Bytes) : Option (Entity × Bytes) :=
  (entities.find? fun entity => entity.bytes <+: bs).map fun entity =>
    (entity, bs.drop entity.bytes.length)

/-- An integer of one byte. -/
def smallInteger : Entity → Option ℤ
  | .primitive .UNIVERSAL 2 [b] => some b.toNat
  | _ => none

/-- The entity is that of a message of a version. -/
def IsMessage (version : ℤ) : Entity → Prop
  | .constructed classType tagNumber (first :: _) =>
    classType = .UNIVERSAL ∧ tagNumber = 16 ∧ first.classType = .UNIVERSAL ∧
      first.tagNumber = 2 ∧ smallInteger first = some version
  | _ => False

instance (version : ℤ) : DecidablePred (IsMessage version)
  | .constructed _ _ (_ :: _) => inferInstanceAs (Decidable (_ ∧ _))
  | .constructed _ _ [] => .isFalse id
  | .primitive .. => .isFalse id

/-- An encoder of messages of versions 2c and 3 and of security parameters. -/
def Ber.ofTables (v2c : Table V2c.Message) (v3 : Table V3.SNMPv3Message)
    (security : Table V3.UsmSecurityParameters) : Ber where
  decodeEntity := frontEntity (v2c.map Prod.snd ++ v3.map Prod.snd)
  decodeVersion := smallInteger
  encodeV1 _ := none
  decodeV1 _ := none
  encodeV2c := v2c.encode
  decodeV2c := v2c.decode
  encodeV3 := v3.encode
  decodeV3 := v3.decode
  encodeScopedPDU _ := none
  decodeScopedPDU _ := none
  encodeSecurity := security.encode
  decodeSecurity bs := do
    let (entity, rest) ← frontEntity (security.map Prod.snd) bs
    return (← security.decode entity, rest)

/-- No entity starts the bytes of another. -/
def PrefixFree (entities : List Entity) : Prop :=
  entities.Pairwise fun a b => ¬ a.bytes <+: b.bytes ∧ ¬ b.bytes <+: a.bytes

instance (entities : List Entity) : Decidable (PrefixFree entities) := by
  unfold PrefixFree; infer_instance

theorem frontEntity_append {entities : List Entity} (h : PrefixFree entities) {entity : Entity}
    (hmem : entity ∈ entities) (rest : Bytes) :
    frontEntity entities (entity.bytes ++ rest) = some (entity, rest) := by
  have hfind : (entities.find? fun e => e.bytes <+: entity.bytes ++ rest) = some entity := by
    induction entities with
    | nil => cases hmem
    | cons e es ih =>
      obtain ⟨hhead, htail⟩ := List.pairwise_cons.mp h
      rw [List.find?_cons]
      rcases List.mem_cons.mp hmem with rfl | hmem
      · simp
      · obtain ⟨hlt, hgt⟩ := hhead entity hmem
        have hnot : ¬ e.bytes <+: entity.bytes ++ rest := fun hprefix =>
          (List.prefix_or_prefix_of_prefix hprefix (List.prefix_append _ rest)).elim hlt hgt
        simp only [hnot, decide_false]
        exact ih htail hmem
  rw [frontEntity, hfind, Option.map_some, List.drop_left]

theorem Table.decode_encode {M : Type} [DecidableEq M] {table : Table M}
    (h : PrefixFree (table.map Prod.snd)) {msg : M} {bs : Bytes}
    (hbs : table.encode msg = some bs) :
    ∃ entity, (msg, entity) ∈ table ∧ entity.bytes = bs ∧ table.decode entity = some msg := by
  obtain ⟨⟨msg', entity⟩, hfind, rfl⟩ := Option.map_eq_some_iff.mp hbs
  have hmem := List.mem_of_find?_eq_some hfind
  have hmsg : msg' = msg := by simpa using List.find?_some hfind
  subst hmsg
  refine ⟨entity, hmem, rfl, Option.map_eq_some_iff.mpr ⟨(msg', entity), ?_, rfl⟩⟩
  clear hfind hbs
  induction table with
  | nil => cases hmem
  | cons entry table ih =>
    obtain ⟨hhead, htail⟩ := List.pairwise_cons.mp h
    rw [List.find?_cons]
    rcases List.mem_cons.mp hmem with rfl | hmem
    · simp
    · have hne : entry.2.bytes ≠ entity.bytes := fun heq =>
        (hhead entity (List.mem_map_of_mem hmem)).1 (heq ▸ List.prefix_rfl)
      simp only [hne, decide_false]
      exact ih htail hmem

/-- What a table encodes is read as a message. -/
theorem reads_ofTable {M : Type} [DecidableEq M] {ber : Ber} {entities : List Entity}
    (hentity : ber.decodeEntity = frontEntity entities)
    (hversion : ber.decodeVersion = smallInteger)
    (hfree : PrefixFree entities) {table : Table M}
    (hsub : List.Sublist (table.map Prod.snd) entities)
    {version : M → ℤ} (hmessage : ∀ entry ∈ table, IsMessage (version entry.1) entry.2)
    {msg : M} {bs : Bytes} (hbs : table.encode msg = some bs) :
    ber.Reads table.decode (version msg) msg bs := by
  obtain ⟨entity, hmem, rfl, hdecode⟩ := Table.decode_encode (hfree.sublist hsub) hbs
  intro rest
  have hfront := frontEntity_append hfree (hsub.subset (List.mem_map_of_mem hmem)) rest
  have hmsg := hmessage _ hmem
  cases entity with
  | primitive => exact hmsg.elim
  | constructed classType tagNumber elements =>
    cases elements with
    | nil => exact hmsg.elim
    | cons first elements =>
      obtain ⟨rfl, rfl, hclass, htag, hfirst⟩ := hmsg
      exact ⟨first, elements, hclass, htag, hversion ▸ hfirst, hentity ▸ hfront, hdecode⟩

theorem Ber.lawful_ofTables {v2c : Table V2c.Message} {v3 : Table V3.SNMPv3Message}
    {security : Table V3.UsmSecurityParameters}
    (hmessages : PrefixFree (v2c.map Prod.snd ++ v3.map Prod.snd))
    (hsecurity : PrefixFree (security.map Prod.snd))
    (hv2c : ∀ entry ∈ v2c, IsMessage entry.1.version entry.2)
    (hv3 : ∀ entry ∈ v3, IsMessage entry.1.msgVersion entry.2) :
    (Ber.ofTables v2c v3 security).Lawful where
  v1 := nofun
  v2c msg bs h := reads_ofTable rfl rfl hmessages (List.sublist_append_left _ _) hv2c h
  v3 msg bs h := reads_ofTable rfl rfl hmessages (List.sublist_append_right _ _) hv3 h
  scopedPDU := nofun
  security params bs h rest := by
    obtain ⟨entity, hmem, rfl, hdecode⟩ := Table.decode_encode hsecurity h
    have hfront := frontEntity_append hsecurity (List.mem_map_of_mem hmem) rest
    simp only [Ber.ofTables, hfront, Option.bind_eq_bind, Option.bind_some, hdecode]
    rfl

end HatDrivers.Snmp.Asn1
