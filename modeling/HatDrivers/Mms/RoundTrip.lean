import HatDrivers.Mms.Times

namespace HatDrivers.Mms

open HatDrivers.Lib

/-!
# MMS — round trip

Every request, response, error and unconfirmed message is decoded to what was encoded
(`messages_roundTrip`), where its times are whole seconds that their octets can hold.
-/

/-! ### Times and floats -/

/-- Whole seconds that 32 bits can count from the start of 1970. -/
def UtcTimeInRange (value : DateTime) : Prop :=
  ∃ seconds : ℤ, 0 ≤ seconds ∧ seconds < 2 ^ 32 ∧ value = seconds * microseconds

theorem decodeFloatingPoint_encodeFloatingPoint (value : BitVec 32) :
    decodeFloatingPoint (encodeFloatingPoint value) = .ok value := by
  have hdrop : (encodeFloatingPoint value).drop 1 = bytesOf (beDigits 4 value.toNat) := rfl
  rw [decodeFloatingPoint, hdrop, if_pos (by simp),
    ofBE_beDigits_of_lt (Nat.lt_of_lt_of_eq value.isLt (by decide)), BitVec.ofNat_toNat,
    BitVec.setWidth_eq]

/-! ### Data -/

mutual

/-- The times are whole seconds that their octets can hold, and accuracies are in range. -/
def Data.InRange : Data → Prop
  | .ArrayData elements => Data.AllInRange elements
  | .StructureData elements => Data.AllInRange elements
  | .BinaryTimeData value => BinaryTimeInRange value
  | .UtcTimeData value _ _ _ accuracy => UtcTimeInRange value ∧ AccuracyInRange accuracy
  | _ => True

def Data.AllInRange : List Data → Prop
  | [] => True
  | data :: elements => data.InRange ∧ Data.AllInRange elements

end

theorem Recovers.bind_eq {α β : Type} {encode : α → Except Exn β} {decode : β → Except Exn α}
    {a : α} (h : Recovers encode decode a) : (encode a >>= decode) = .ok a := by
  obtain ⟨b, hencode, hdecode⟩ := h
  rw [hencode, ok_bind, hdecode]

theorem Recovers.mapM {α β : Type} {encode : α → Except Exn β} {decode : β → Except Exn α}
    {as : List α} (h : ∀ a ∈ as, Recovers encode decode a) :
    ∃ bs, as.mapM encode = .ok bs ∧ bs.mapM decode = .ok as := by
  induction as with
  | nil => exact ⟨[], rfl, rfl⟩
  | cons a as ih =>
    obtain ⟨b, hencode, hdecode⟩ := h a (by simp)
    obtain ⟨bs, hencodes, hdecodes⟩ := ih fun a' ha' => h a' (List.mem_cons_of_mem _ ha')
    refine ⟨b :: bs, ?_, ?_⟩
    · rw [List.mapM_cons, hencode, ok_bind, hencodes, ok_bind, pure_eq_ok]
    · rw [List.mapM_cons, hdecode, ok_bind, hdecodes, ok_bind, pure_eq_ok]

mutual

theorem data_recovers : (data : Data) → data.InRange → Recovers encodeData decodeData data
  | .ArrayData elements, h => by
    obtain ⟨encoded, hencode, hdecode⟩ := dataList_recovers elements h
    refine ⟨.array encoded, ?_, ?_⟩
    · rw [encodeData, hencode, ok_bind, pure_eq_ok]
    · rw [decodeData, hdecode, ok_bind, pure_eq_ok]
  | .StructureData elements, h => by
    obtain ⟨encoded, hencode, hdecode⟩ := dataList_recovers elements h
    refine ⟨.structure encoded, ?_, ?_⟩
    · rw [encodeData, hencode, ok_bind, pure_eq_ok]
    · rw [decodeData, hdecode, ok_bind, pure_eq_ok]
  | .BinaryTimeData value, h => by
    refine ⟨.binaryTime (encodeBinaryTime value), by rw [encodeData]; rfl, ?_⟩
    rw [decodeData, decodeBinaryTime_encodeBinaryTime h, ok_bind, pure_eq_ok]
  | .UtcTimeData _ _ _ _ _, ⟨hvalue, haccuracy⟩ => by
    obtain ⟨seconds, hlo, hhi, rfl⟩ := hvalue
    have hlo' : 0 ≤ seconds * 1000000 := by omega
    have hhi' : seconds * 1000000 < 2 ^ 32 * 1000000 := by omega
    exact utcTime_recovers hlo' hhi' haccuracy
  | .FloatingPointData value, _ => by
    refine ⟨.floatingPoint (encodeFloatingPoint value), by rw [encodeData]; rfl, ?_⟩
    rw [decodeData, decodeFloatingPoint_encodeFloatingPoint, ok_bind, pure_eq_ok]
  | .BcdData value, _ => ⟨.bcd value, rfl, rfl⟩
  | .BitStringData value, _ => ⟨.bitString value, rfl, rfl⟩
  | .BooleanData value, _ => ⟨.boolean value, rfl, rfl⟩
  | .BooleanArrayData value, _ => ⟨.booleanArray value, rfl, rfl⟩
  | .GeneralizedTimeData value, _ => ⟨.generalizedTime value, rfl, rfl⟩
  | .IntegerData value, _ => ⟨.integer value, rfl, rfl⟩
  | .MmsStringData value, _ => ⟨.mMSString value, rfl, rfl⟩
  | .ObjIdData value, _ => ⟨.objId value, rfl, rfl⟩
  | .OctetStringData value, _ => ⟨.octetString value, rfl, rfl⟩
  | .UnsignedData value, _ => ⟨.unsigned value, rfl, rfl⟩
  | .VisibleStringData value, _ => ⟨.visibleString value, rfl, rfl⟩

theorem dataList_recovers : (elements : List Data) → Data.AllInRange elements →
    Recovers encodeDataList decodeDataList elements
  | [], _ => ⟨[], rfl, rfl⟩
  | data :: elements, h => by
    obtain ⟨b, hencode, hdecode⟩ := data_recovers data h.1
    obtain ⟨bs, hencodes, hdecodes⟩ := dataList_recovers elements h.2
    refine ⟨b :: bs, ?_, ?_⟩
    · rw [encodeDataList, hencode, ok_bind, hencodes, ok_bind, pure_eq_ok]
    · rw [decodeDataList, hdecode, ok_bind, hdecodes, ok_bind, pure_eq_ok]

end

/-! ### Names, types and variables -/

@[simp] theorem decodeObjectName_encodeObjectName (objectName : ObjectName) :
    decodeObjectName (encodeObjectName objectName) = objectName := by
  cases objectName <;> rfl

@[simp] theorem decodeObjectScope_encodeObjectScope (objectScope : ObjectScope) :
    decodeObjectScope (encodeObjectScope objectScope) = objectScope := by
  cases objectScope <;> rfl

@[simp] theorem decodeAddress_encodeAddress (address : Address) :
    decodeAddress (encodeAddress address) = address := by
  cases address <;> rfl

@[simp] theorem decodeNameOrAddress_encodeNameOrAddress (value : NameOrAddress) :
    decodeNameOrAddress (encodeNameOrAddress value) = value := by
  cases value <;> simp [encodeNameOrAddress, decodeNameOrAddress]

mutual

theorem decodeTypeDescription_encodeTypeDescription : (type : TypeDescription) →
    decodeTypeDescription (encodeTypeDescription type) = type
  | .ArrayTypeDescription numberOfElements elementType => by
    rw [encodeTypeDescription, decodeTypeDescription, decodeTypeSpecification_encodeTypeOrName]
  | .StructureTypeDescription components => by
    rw [encodeTypeDescription, decodeTypeDescription, decodeComponents_encodeComponents]
  | .BcdTypeDescription _ => rfl
  | .BinaryTimeTypeDescription _ => rfl
  | .BitStringTypeDescription _ => rfl
  | .BooleanTypeDescription => rfl
  | .FloatingPointTypeDescription _ _ => rfl
  | .GeneralizedTimeTypeDescription => rfl
  | .IntegerTypeDescription _ => rfl
  | .MmsStringTypeDescription _ => rfl
  | .ObjIdTypeDescription => rfl
  | .OctetStringTypeDescription _ => rfl
  | .UnsignedTypeDescription _ => rfl
  | .UtcTimeTypeDescription => rfl
  | .VisibleStringTypeDescription _ => rfl

theorem decodeTypeSpecification_encodeTypeOrName : (type : TypeOrName) →
    decodeTypeSpecification (encodeTypeOrName type) = type
  | .type typeDescription => by
    rw [encodeTypeOrName, decodeTypeSpecification, decodeTypeDescription_encodeTypeDescription]
  | .name objectName => by
    rw [encodeTypeOrName, decodeTypeSpecification, decodeObjectName_encodeObjectName]

theorem decodeComponents_encodeComponents : (components : List (Option String × TypeOrName)) →
    decodeComponents (encodeComponents components) = components
  | [] => rfl
  | (name, type) :: components => by
    rw [encodeComponents, decodeComponents, decodeTypeSpecification_encodeTypeOrName,
      decodeComponents_encodeComponents]

end

mutual

theorem decodeVariableSpecification_encodeVariableSpecification :
    (specification : VariableSpecification) →
      decodeVariableSpecification (encodeVariableSpecification specification) = specification
  | .AddressVariableSpecification address => by
    rw [encodeVariableSpecification, decodeVariableSpecification, decodeAddress_encodeAddress]
  | .InvalidatedVariableSpecification => rfl
  | .NameVariableSpecification name => by
    rw [encodeVariableSpecification, decodeVariableSpecification,
      decodeObjectName_encodeObjectName]
  | .ScatteredAccessDescriptionVariableSpecification specifications => by
    rw [encodeVariableSpecification, decodeVariableSpecification,
      decodeVariableSpecifications_encodeVariableSpecifications]
  | .VariableDescriptionVariableSpecification address typeSpecification => by
    rw [encodeVariableSpecification, decodeVariableSpecification, decodeAddress_encodeAddress,
      decodeTypeSpecification_encodeTypeOrName]

theorem decodeVariableSpecifications_encodeVariableSpecifications :
    (specifications : List VariableSpecification) →
      decodeVariableSpecifications (encodeVariableSpecifications specifications) = specifications
  | [] => rfl
  | specification :: specifications => by
    rw [encodeVariableSpecifications, decodeVariableSpecifications,
      decodeVariableSpecification_encodeVariableSpecification,
      decodeVariableSpecifications_encodeVariableSpecifications]

end

@[simp] theorem decodeVariableAccess_encodeVariableAccess (access : VariableAccess) :
    decodeVariableAccess (encodeVariableAccess access) = access := by
  cases access with
  | list specifications =>
    rw [encodeVariableAccess, decodeVariableAccess,
      decodeVariableSpecifications_encodeVariableSpecifications]
  | name objectName =>
    rw [encodeVariableAccess, decodeVariableAccess, decodeObjectName_encodeObjectName]

/-! ### Messages -/

def AccessResult.InRange : AccessResult → Prop
  | .error _ => True
  | .data value => value.InRange

theorem accessResult_recovers {result : AccessResult} (h : result.InRange) :
    Recovers encodeAccessResult decodeAccessResult result := by
  cases result with
  | error error =>
    refine ⟨.failure error.value, rfl, ?_⟩
    have henum : enumOf (error.value : ℤ) = .ok error := enumOf_value error
    rw [decodeAccessResult, henum, ok_bind, pure_eq_ok]
  | data data =>
    obtain ⟨encoded, hencode, hdecode⟩ := data_recovers data h
    refine ⟨.success encoded, ?_, ?_⟩
    · rw [encodeAccessResult, hencode, ok_bind, pure_eq_ok]
    · rw [decodeAccessResult, hdecode, ok_bind, pure_eq_ok]

theorem writeResult_recovers (result : Option DataAccessError) :
    decodeWriteResult (encodeWriteResult result) = .ok result := by
  cases result with
  | none => rfl
  | some error =>
    have henum : enumOf (error.value : ℤ) = .ok error := enumOf_value error
    rw [encodeWriteResult, decodeWriteResult, henum, ok_bind, pure_eq_ok]

theorem writeResults_recover (results : List (Option DataAccessError)) :
    (results.map encodeWriteResult).mapM decodeWriteResult = .ok results := by
  induction results with
  | nil => rfl
  | cons result results ih =>
    rw [List.map_cons, List.mapM_cons, writeResult_recovers, ok_bind, ih, ok_bind, pure_eq_ok]

def Request.InRange : Request → Prop
  | .WriteRequest _ data => Data.AllInRange data
  | _ => True

theorem request_recovers {req : Request} (h : req.InRange) :
    Recovers encodeRequest decodeRequest req := by
  cases req with
  | WriteRequest specification data =>
    obtain ⟨encoded, hencode, hdecode⟩ := dataList_recovers data h
    refine ⟨.write (encodeVariableAccess specification) encoded, ?_, ?_⟩
    · rw [encodeRequest, hencode, ok_bind, pure_eq_ok]
    · rw [decodeRequest, hdecode, ok_bind, decodeVariableAccess_encodeVariableAccess, pure_eq_ok]
  | GetNameListRequest objectClass objectScope continueAfter =>
    refine ⟨_, rfl, ?_⟩
    have henum : decodeObjectClass (.basicObjectClass objectClass.value) = .ok objectClass :=
      enumOf_value objectClass
    rw [decodeRequest, henum, ok_bind, decodeObjectScope_encodeObjectScope, pure_eq_ok]
  | GetVariableAccessAttributesRequest value =>
    refine ⟨_, rfl, ?_⟩
    rw [decodeRequest, decodeNameOrAddress_encodeNameOrAddress, pure_eq_ok]
  | GetNamedVariableListAttributesRequest value =>
    refine ⟨_, rfl, ?_⟩
    rw [decodeRequest, decodeObjectName_encodeObjectName, pure_eq_ok]
  | ReadRequest value =>
    refine ⟨_, rfl, ?_⟩
    rw [decodeRequest, decodeVariableAccess_encodeVariableAccess, pure_eq_ok]
  | DefineNamedVariableListRequest name specification =>
    refine ⟨_, rfl, ?_⟩
    rw [decodeRequest, decodeObjectName_encodeObjectName,
      decodeVariableSpecifications_encodeVariableSpecifications, pure_eq_ok]
  | DeleteNamedVariableListRequest names =>
    refine ⟨_, rfl, ?_⟩
    have hnames : (names.map encodeObjectName).map decodeObjectName = names := by
      rw [List.map_map]
      exact List.map_id'' decodeObjectName_encodeObjectName names
    rw [decodeRequest, Option.getD_some, hnames, pure_eq_ok]
  | StatusRequest => exact ⟨_, rfl, rfl⟩
  | IdentifyRequest => exact ⟨_, rfl, rfl⟩

def Response.InRange : Response → Prop
  | .ReadResponse results => ∀ result ∈ results, result.InRange
  | _ => True

theorem response_recovers {res : Response} (h : res.InRange) :
    Recovers encodeResponse decodeResponse res := by
  cases res with
  | ReadResponse results =>
    obtain ⟨encoded, hencode, hdecode⟩ := Recovers.mapM fun result hresult =>
      accessResult_recovers (h result hresult)
    refine ⟨.read encoded, ?_, ?_⟩
    · rw [encodeResponse, hencode, ok_bind, pure_eq_ok]
    · rw [decodeResponse, hdecode, ok_bind, pure_eq_ok]
  | WriteResponse results =>
    refine ⟨_, rfl, ?_⟩
    rw [decodeResponse, writeResults_recover, ok_bind, pure_eq_ok]
  | GetVariableAccessAttributesResponse mmsDeletable typeDescription =>
    refine ⟨_, rfl, ?_⟩
    rw [decodeResponse, decodeTypeDescription_encodeTypeDescription, pure_eq_ok]
  | GetNamedVariableListAttributesResponse mmsDeletable specification =>
    refine ⟨_, rfl, ?_⟩
    rw [decodeResponse, decodeVariableSpecifications_encodeVariableSpecifications, pure_eq_ok]
  | StatusResponse logical physical => exact ⟨_, rfl, rfl⟩
  | GetNameListResponse identifiers moreFollows => exact ⟨_, rfl, rfl⟩
  | IdentifyResponse vendor model revision syntaxes => exact ⟨_, rfl, rfl⟩
  | DefineNamedVariableListResponse => exact ⟨_, rfl, rfl⟩
  | DeleteNamedVariableListResponse matched deleted => exact ⟨_, rfl, rfl⟩

theorem error_recovers (error : Error) : decodeError (encodeError error) = .ok error := by
  cases error with
  | OtherError value => rfl
  | VmdStateError error => cases error <;> rfl
  | ApplicationReferenceError error => cases error <;> rfl
  | DefinitionError error => cases error <;> rfl
  | ResourceError error => cases error <;> rfl
  | ServiceError error => cases error <;> rfl
  | ServicePreemptError error => cases error <;> rfl
  | TimeResolutionError error => cases error <;> rfl
  | AccessError error => cases error <;> rfl
  | InitiateError error => cases error <;> rfl
  | ConcludeError error => cases error <;> rfl
  | CancelError error => cases error <;> rfl
  | FileError error => cases error <;> rfl

def Unconfirmed.InRange : Unconfirmed → Prop
  | .InformationReportUnconfirmed _ data => ∀ result ∈ data, result.InRange
  | _ => True

theorem unconfirmed_recovers {unconfirmed : Unconfirmed} (h : unconfirmed.InRange) :
    Recovers encodeUnconfirmed decodeUnconfirmed unconfirmed := by
  cases unconfirmed with
  | EventNotificationUnconfirmed enrollment condition severity time =>
    refine ⟨_, rfl, ?_⟩
    have htime : decodeEventTime (encodeEventTime time) = time := by cases time <;> rfl
    rw [decodeUnconfirmed, decodeObjectName_encodeObjectName, decodeObjectName_encodeObjectName,
      htime, pure_eq_ok]
  | InformationReportUnconfirmed specification data =>
    obtain ⟨encoded, hencode, hdecode⟩ := Recovers.mapM fun result hresult =>
      accessResult_recovers (h result hresult)
    refine ⟨.informationReport (encodeVariableAccess specification) encoded, ?_, ?_⟩
    · rw [encodeUnconfirmed, hencode, ok_bind, pure_eq_ok]
    · rw [decodeUnconfirmed, hdecode, ok_bind, decodeVariableAccess_encodeVariableAccess,
        pure_eq_ok]
  | UnsolicitedStatusUnconfirmed logical physical => exact ⟨_, rfl, rfl⟩

/-- **Round trip.**  Every request, response, error and unconfirmed message whose times are whole
seconds that their octets can hold is encoded, and decoded to itself. -/
theorem messages_roundTrip :
    (∀ req : Request, req.InRange → (encodeRequest req >>= decodeRequest) = .ok req) ∧
      (∀ res : Response, res.InRange → (encodeResponse res >>= decodeResponse) = .ok res) ∧
      (∀ error : Error, decodeError (encodeError error) = .ok error) ∧
      ∀ unconfirmed : Unconfirmed, unconfirmed.InRange →
        (encodeUnconfirmed unconfirmed >>= decodeUnconfirmed) = .ok unconfirmed :=
  ⟨fun _ h => (request_recovers h).bind_eq, fun _ h => (response_recovers h).bind_eq,
    error_recovers, fun _ h => (unconfirmed_recovers h).bind_eq⟩

/-- An array of times and structures is written and read back. -/
theorem messages_roundTrip_nested :
    ∀ req, req = Request.WriteRequest
        (.list [.NameVariableSpecification (.DomainSpecificObjectName "a" "b")])
        [.ArrayData [.StructureData [.UtcTimeData (1700000000 * microseconds) false true false
          (some 10)], .BinaryTimeData (binaryTimeEpoch + 86400 * microseconds)]] →
      (encodeRequest req >>= decodeRequest) = .ok req := by
  rintro _ rfl
  apply messages_roundTrip.1
  refine ⟨⟨⟨⟨⟨1700000000, by decide, by decide, rfl⟩, ?_⟩, trivial⟩, ⟨86400, by decide, by decide,
    rfl⟩, trivial⟩, trivial⟩
  intro a ha
  obtain rfl := Option.some.inj ha
  decide

end HatDrivers.Mms
