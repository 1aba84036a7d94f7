import HatDrivers.Snmp.Common

namespace HatDrivers.Snmp.Asn1

open HatDrivers.Lib

/-!
# SNMP driver — ASN.1 values

The values of the types of `schemas_asn1/snmp`, and the encoder of them as a parameter: its code
is that of a library.  An alternative of `PDUs` is named by the message type whose value it is.
Bounds of integers and sizes of strings are the encoder's.
-/

/-! ### Entities -/

inductive ClassType
  | UNIVERSAL | APPLICATION | CONTEXT_SPECIFIC | PRIVATE
  deriving DecidableEq

/-- `ber.Entity`, by its content. -/
inductive Entity
  | primitive (classType : ClassType) (tagNumber : ℕ) (value : Bytes)
  | constructed (classType : ClassType) (tagNumber : ℕ) (elements : List Entity)

def Entity.classType : Entity → ClassType
  | primitive classType _ _ | constructed classType _ _ => classType

def Entity.tagNumber : Entity → ℕ
  | primitive _ tagNumber _ | constructed _ tagNumber _ => tagNumber

/-! ### `RFC1155-SMI` and `RFC1157-SNMP` -/

namespace V1

inductive MsgType
  | GET_REQUEST | GET_NEXT_REQUEST | GET_RESPONSE | SET_REQUEST | TRAP
  deriving DecidableEq

inductive SimpleSyntax
  | number (value : ℤ)
  | string (value : Bytes)
  | object (value : ObjectIdentifier)
  | empty
  deriving DecidableEq

inductive NetworkAddress
  | internet (value : Bytes)
  deriving DecidableEq

inductive ApplicationSyntax
  | address (value : NetworkAddress)
  | counter (value : ℤ)
  | gauge (value : ℤ)
  | ticks (value : ℤ)
  | arbitrary (value : Bytes)
  deriving DecidableEq

inductive ObjectSyntax
  | simple (value : SimpleSyntax)
  | applicationWide (value : ApplicationSyntax)
  deriving DecidableEq

structure VarBind where
  name : ObjectIdentifier
  value : ObjectSyntax
  deriving DecidableEq

inductive PDU
  | pdu (requestId errorStatus errorIndex : ℤ) (variableBindings : List VarBind)
  /-- `Trap-PDU` -/
  | trap (enterprise : ObjectIdentifier) (agentAddr : NetworkAddress)
    (genericTrap specificTrap timeStamp : ℤ) (variableBindings : List VarBind)
  deriving DecidableEq

structure Message where
  version : ℤ
  community : Bytes
  data : MsgType × PDU
  deriving DecidableEq

end V1

/-! ### `SNMPv2-SMI`, `SNMPv2-PDU` and `COMMUNITY-BASED-SNMPv2` -/

namespace V2c

inductive MsgType
  | GET_REQUEST | GET_NEXT_REQUEST | GET_BULK_REQUEST | RESPONSE | SET_REQUEST | INFORM_REQUEST
  | SNMPV2_TRAP | REPORT
  deriving DecidableEq

inductive SimpleSyntax
  | integerValue (value : ℤ)
  | stringValue (value : Bytes)
  | objectIDValue (value : ObjectIdentifier)
  deriving DecidableEq

inductive ApplicationSyntax
  | ipAddressValue (value : Bytes)
  | counterValue (value : ℤ)
  | timeticksValue (value : ℤ)
  | arbitraryValue (value : Bytes)
  | bigCounterValue (value : ℤ)
  | unsignedIntegerValue (value : ℤ)
  deriving DecidableEq

inductive ObjectSyntax
  | simple (value : SimpleSyntax)
  | applicationWide (value : ApplicationSyntax)
  deriving DecidableEq

inductive BindingData
  | value (value : ObjectSyntax)
  | unSpecified
  | noSuchObject
  | noSuchInstance
  | endOfMibView
  deriving DecidableEq

structure VarBind where
  name : ObjectIdentifier
  data : BindingData
  deriving DecidableEq

inductive PDU
  | pdu (requestId errorStatus errorIndex : ℤ) (variableBindings : List VarBind)
  /-- `BulkPDU` -/
  | bulk (requestId nonRepeaters maxRepetitions : ℤ) (variableBindings : List VarBind)
  deriving DecidableEq

structure Message where
  version : ℤ
  community : Bytes
  data : MsgType × PDU
  deriving DecidableEq

end V2c

/-! ### `SNMPv3MessageSyntax` and `USMSecurityParametersSyntax` -/

namespace V3

structure ScopedPDU where
  contextEngineID : Bytes
  contextName : Bytes
  data : V2c.MsgType × V2c.PDU
  deriving DecidableEq

inductive ScopedPduData
  | plaintext (pdu : ScopedPDU)
  | encryptedPDU (value : Bytes)
  deriving DecidableEq

structure HeaderData where
  msgID : ℤ
  msgMaxSize : ℤ
  msgFlags : Bytes
  msgSecurityModel : ℤ
  deriving DecidableEq

structure SNMPv3Message where
  msgVersion : ℤ
  msgGlobalData : HeaderData
  msgSecurityParameters : Bytes
  msgData : ScopedPduData
  deriving DecidableEq

structure UsmSecurityParameters where
  msgAuthoritativeEngineID : Bytes
  msgAuthoritativeEngineBoots : ℤ
  msgAuthoritativeEngineTime : ℤ
  msgUserName : Bytes
  msgAuthenticationParameters : Bytes
  msgPrivacyParameters : Bytes
  deriving DecidableEq

end V3

/-! ### The encoder -/

/-- `asn1.ber.BerEncoder`, at the types of the driver; `none` where it raises. -/
structure Ber where
  decodeEntity : Bytes → Option (Entity × Bytes)
  decodeVersion : Entity → Option ℤ
  encodeV1 : V1.Message → Option Bytes
  decodeV1 : Entity → Option V1.Message
  encodeV2c : V2c.Message → Option Bytes
  decodeV2c : Entity → Option V2c.Message
  encodeV3 : V3.SNMPv3Message → Option Bytes
  decodeV3 : Entity → Option V3.SNMPv3Message
  encodeScopedPDU : V3.ScopedPDU → Option Bytes
  decodeScopedPDU : Bytes → Option (V3.ScopedPDU × Bytes)
  encodeSecurity : V3.UsmSecurityParameters → Option Bytes
  decodeSecurity : Bytes → Option (V3.UsmSecurityParameters × Bytes)

/-- The value of a call of the encoder. -/
def raises {α : Type} : Option α → Except Failure α
  | some a => .ok a
  | none => .error .asn1

@[simp] theorem raises_eq_ok {α : Type} {x : Option α} {a : α} :
    raises x = .ok a ↔ x = some a := by
  cases x <;> simp [raises]

theorem raises_error {α : Type} {x : Option α} {e : Failure} (h : raises x = .error e) :
    e = .asn1 := by
  cases x <;> simp_all [raises]

namespace Ber

/-- The bytes are those of a message: a sequence that starts with the version, whatever follows. -/
def Reads {M : Type} (ber : Ber) (decode : Entity → Option M) (version : ℤ) (msg : M)
    (bs : Bytes) : Prop :=
  ∀ rest, ∃ first elements, first.classType = .UNIVERSAL ∧ first.tagNumber = 2 ∧
    ber.decodeVersion first = some version ∧
    ber.decodeEntity (bs ++ rest) = some (.constructed .UNIVERSAL 16 (first :: elements), rest) ∧
    decode (.constructed .UNIVERSAL 16 (first :: elements)) = some msg

/-- The encoder is its own inverse, whatever follows the encoded value. -/
structure Lawful (ber : Ber) : Prop where
  v1 : ∀ msg bs, ber.encodeV1 msg = some bs → ber.Reads ber.decodeV1 msg.version msg bs
  v2c : ∀ msg bs, ber.encodeV2c msg = some bs → ber.Reads ber.decodeV2c msg.version msg bs
  v3 : ∀ msg bs, ber.encodeV3 msg = some bs → ber.Reads ber.decodeV3 msg.msgVersion msg bs
  scopedPDU : ∀ pdu bs, ber.encodeScopedPDU pdu = some bs →
    ∀ rest, ber.decodeScopedPDU (bs ++ rest) = some (pdu, rest)
  security : ∀ params bs, ber.encodeSecurity params = some bs →
    ∀ rest, ber.decodeSecurity (bs ++ rest) = some (params, rest)

end Ber

end HatDrivers.Snmp.Asn1
