import HatDrivers.Mqtt.Transport.Properties

namespace HatDrivers.Mqtt.Transport

open HatDrivers.Lib
open PropertyType

/-!
# MQTT — properties are read back

A dictionary with one valid value for every key is written in `propsSize` bytes and
read back from them (`encodeProps_codes`).  The property of a key is one chunk of the
reader's loop, that of a repeated property one chunk for every entry.
-/

variable {t : PropertyType} {props : Props} {validPropTypes : List PropertyType}

/-! ### Sizes -/

def pairSize (p : String × String) : ℕ := stringSize p.1 + stringSize p.2

/-- The number of bytes of a value; of a repeated property with the types before its
entries. -/
def valueSize : (t : PropertyType) → t.Value → ℕ
  | PAYLOAD_FORMAT_INDICATOR, _ => 1
  | MESSAGE_EXPIRY_INTERVAL, _ => 4
  | CONTENT_TYPE, prop => stringSize prop
  | RESPONSE_TOPIC, prop => stringSize prop
  | CORRELATION_DATA, prop => binarySize prop
  | SUBSCRIPTION_IDENTIFIER, prop => (List.map (fun i => 1 + uintvarSize i) prop).sum
  | SESSION_EXPIRY_INTERVAL, _ => 4
  | ASSIGNED_CLIENT_IDENTIFIER, prop => stringSize prop
  | SERVER_KEEP_ALIVE, _ => 2
  | AUTHENTICATION_METHOD, prop => stringSize prop
  | AUTHENTICATION_DATA, prop => binarySize prop
  | REQUEST_PROBLEM_INFORMATION, _ => 1
  | WILL_DELAY_INTERVAL, _ => 4
  | REQUEST_RESPONSE_INFORMATION, _ => 1
  | RESPONSE_INFORMATION, prop => stringSize prop
  | SERVER_REFERENCE, prop => stringSize prop
  | REASON_STRING, prop => stringSize prop
  | RECEIVE_MAXIMUM, _ => 2
  | TOPIC_ALIAS_MAXIMUM, _ => 2
  | TOPIC_ALIAS, _ => 2
  | MAXIMUM_QOS, _ => 1
  | RETAIN_AVAILABLE, _ => 1
  | USER_PROPERTY, prop => (List.map (fun p => 1 + pairSize p) prop).sum
  | MAXIMUM_PACKET_SIZE, _ => 4
  | WILDCARD_SUBSCRIPTION_AVAILABLE, _ => 1
  | SUBSCRIPTION_IDENTIFIER_AVAILABLE, _ => 1
  | SHARED_SUBSCRIPTION_AVAILABLE, _ => 1

def propSize (p : Σ t : PropertyType, t.Value) : ℕ :=
  (if p.1.Repeated then 0 else 1) + valueSize p.1 p.2

/-- The number of bytes of the properties, without the number before them. -/
def propsLength (props : Props) : ℕ := (props.map propSize).sum

def propsSize (props : Props) : ℕ := uintvarSize (propsLength props) + propsLength props

/-! ### Single values -/

theorem encodeFlag_codes {prop : ℕ} (h : ValidUint 1 prop) :
    CodesIn 1 (encodeFlag t prop) (decodeFlag t) prop := by
  have h : prop ≤ 1 := h
  obtain ⟨ns, hw, hb, hl, hr⟩ := encodeUint8_codes (show prop ≤ 0xff by omega)
  have hflag : ¬ (prop ≠ 0 ∧ prop ≠ 1) := by omega
  refine ⟨ns, by rw [encodeFlag, if_neg hflag, hw], hb, hl, fun rest => ?_⟩
  simp only [decodeFlag, hr rest, ok_bind, if_neg hflag]
  rfl

theorem decodeNonzero_reads {prop : ℕ} {r : ByteReader Error ℕ} {bs : Bytes} (h : prop ≠ 0)
    (hr : Reads r bs prop) : Reads (decodeNonzero t r) bs prop := by
  intro rest
  simp only [decodeNonzero, hr rest, ok_bind, if_neg h]
  rfl

theorem encodeNonzero_codes {n prop : ℕ} {w : ByteWriter Error ℕ} {r : ByteReader Error ℕ}
    (h : prop ≠ 0) (hw : CodesIn n (w prop) r prop) :
    CodesIn n (encodeNonzero t w prop) (decodeNonzero t r) prop := by
  obtain ⟨ns, hw, hb, hl, hr⟩ := hw
  exact ⟨ns, by rw [encodeNonzero, if_neg h, hw], hb, hl, decodeNonzero_reads h hr⟩

theorem encodeMaximumQos_codes {prop : QoS} (h : prop ≠ .EXACLTY_ONCE) :
    CodesIn 1 (encodeMaximumQos t prop) (decodeMaximumQos t) prop := by
  have hlt := prop.value_lt
  obtain ⟨ns, hw, hb, hl, hr⟩ := encodeUint8_codes (show prop.value ≤ 0xff by omega)
  have hvalid : ¬ (prop ≠ .AT_MOST_ONCE ∧ prop ≠ .AT_LEAST_ONCE) := by
    cases prop <;> simp at h ⊢
  refine ⟨ns, by rw [encodeMaximumQos, if_neg hvalid, hw], hb, hl, fun rest => ?_⟩
  simp only [decodeMaximumQos, hr rest, ok_bind, ← QoS.enumeration_value, enumOf_value, if_neg h]
  rfl

theorem encodePair_codes {p : String × String} (h : ValidPair p) :
    CodesIn (pairSize p) (encodePair p) decodePair p := by
  exact (encodeString_codes h.1).pair (encodeString_codes h.2)

/-- A valid value that is not a list is read back. -/
theorem encodePropValue_codes (hsingle : ¬ t.Repeated) {prop : t.Value} (h : t.Valid prop) :
    CodesIn (valueSize t prop) (encodePropValue t prop) (decodePropValue t) prop := by
  cases t with
  | SUBSCRIPTION_IDENTIFIER | USER_PROPERTY => exact absurd (by decide) hsingle
  | CONTENT_TYPE | RESPONSE_TOPIC | ASSIGNED_CLIENT_IDENTIFIER | AUTHENTICATION_METHOD
  | RESPONSE_INFORMATION | SERVER_REFERENCE | REASON_STRING => exact encodeString_codes h
  | CORRELATION_DATA | AUTHENTICATION_DATA => exact encodeBinary_codes h
  | MESSAGE_EXPIRY_INTERVAL | SESSION_EXPIRY_INTERVAL | WILL_DELAY_INTERVAL =>
    exact encodeUint32_codes h
  | SERVER_KEEP_ALIVE | TOPIC_ALIAS_MAXIMUM | TOPIC_ALIAS => exact encodeUint16_codes h
  | RECEIVE_MAXIMUM => exact encodeNonzero_codes h.1 (encodeUint16_codes h.2)
  | MAXIMUM_PACKET_SIZE => exact encodeNonzero_codes h.1 (encodeUint32_codes h.2)
  | MAXIMUM_QOS => exact encodeMaximumQos_codes h
  | PAYLOAD_FORMAT_INDICATOR | REQUEST_PROBLEM_INFORMATION | REQUEST_RESPONSE_INFORMATION
  | RETAIN_AVAILABLE | WILDCARD_SUBSCRIPTION_AVAILABLE | SUBSCRIPTION_IDENTIFIER_AVAILABLE
  | SHARED_SUBSCRIPTION_AVAILABLE => exact encodeFlag_codes h

/-! ### Setting keys -/

theorem Props.add_of_notMem (h : t ∉ props.keys) (prop : t.Value) :
    props.add t prop = props ++ [⟨t, prop⟩] := by
  induction props with
  | nil => rfl
  | cons p props ih =>
    obtain ⟨u, old⟩ := p
    have hne : u ≠ t := fun heq => h (by simp [heq])
    rw [Props.add, dif_neg hne, ih fun hmem => h (by simp [hmem])]
    rfl

theorem Props.add_last (h : t ∉ props.keys) (old prop : t.Value) :
    Props.add (props ++ [⟨t, old⟩]) t prop = props ++ [⟨t, joinValue t old prop⟩] := by
  induction props with
  | nil => simp [Props.add]
  | cons p props ih =>
    obtain ⟨u, other⟩ := p
    have hne : u ≠ t := fun heq => h (by simp [heq])
    rw [List.cons_append, Props.add, dif_neg hne, ih fun hmem => h (by simp [hmem])]
    rfl

/-! ### Entries of the loop -/

/-- The type and the value of an entry, read into the dictionary. -/
theorem decodeProp_entry {ns ms : List ℕ} {prop : t.Value} (hvalid : t ∈ validPropTypes)
    (hnew : t ∈ props.keys → t.Repeated) (htype : encodeUintvar t.value = .ok ns)
    (hr : Reads (decodePropValue t) (bytesOf ms) prop) :
    Reads (decodeProp validPropTypes props) (bytesOf (ns ++ ms)) (props.add t prop) := by
  have hlt := t.value_lt
  obtain ⟨ns', hw, _, _, hread⟩ := encodeUintvar_codes (show t.value ≤ 0x0fff_ffff by omega)
  obtain rfl : ns' = ns := by rw [htype] at hw; exact (Except.ok.inj hw).symm
  have hmember : enumOf .MALFORMED_PACKET t.value = .ok t := enumOf_value _ t
  have hfresh : ¬ (t ∈ props.keys ∧ ¬ t.Repeated) := fun h => h.2 (hnew h.1)
  intro rest
  rw [bytesOf_append, List.append_assoc, decodeProp]
  simp only [hread (bytesOf ms ++ rest), ok_bind, hmember, hr rest, hfresh, if_false,
    not_true_eq_false, hvalid]
  rfl

theorem encodeUintvar_type (t : PropertyType) :
    ∃ ns, encodeUintvar t.value = .ok ns ∧ AllBytes ns ∧ ns.length = 1 := by
  have hlt := t.value_lt
  obtain ⟨ns, hw, hb, hl, _⟩ := encodeUintvar_codes (show t.value ≤ 0x0fff_ffff by omega)
  exact ⟨ns, hw, hb, by rw [hl, uintvarSize_of_lt hlt]⟩

/-- `ms` is written, `size` bytes that are the chunks of a loop from one dictionary to another. -/
def WritesChunks (validPropTypes : List PropertyType) (size : ℕ) (w : Except Error (List ℕ))
    (before after : Props) : Prop :=
  ∃ ms, w = .ok ms ∧ AllBytes ms ∧ ms.length = size ∧
    Chunks (decodeProp validPropTypes) before (bytesOf ms) after

theorem WritesChunks.append {before after final : Props} {m n : ℕ} {w₁ w₂ : Except Error (List ℕ)}
    (h₁ : WritesChunks validPropTypes m w₁ before after)
    (h₂ : WritesChunks validPropTypes n w₂ after final) :
    WritesChunks validPropTypes (m + n) (do return (← w₁) ++ (← w₂)) before final := by
  obtain ⟨ns, hw₁, hb₁, hl₁, hc₁⟩ := h₁
  obtain ⟨ms, hw₂, hb₂, hl₂, hc₂⟩ := h₂
  refine ⟨ns ++ ms, by simp [hw₁, hw₂], allBytes_append.mpr ⟨hb₁, hb₂⟩, by simp [hl₁, hl₂], ?_⟩
  rw [bytesOf_append]
  exact hc₁.append hc₂

theorem writeAll_writesChunks {α : Type} {w : ByteWriter Error α} {size : α → ℕ} {as : List α}
    (state : List α → Props) (before : List α)
    (h : ∀ done, ∀ a ∈ as, WritesChunks validPropTypes (size a) (w a) (state done)
      (state (done ++ [a]))) :
    WritesChunks validPropTypes (as.map size).sum (writeAll w as) (state before)
      (state (before ++ as)) := by
  induction as generalizing before with
  | nil =>
    rw [List.append_nil]
    exact ⟨[], rfl, allBytes_nil, rfl, .nil _⟩
  | cons a as ih =>
    have htail := ih (before ++ [a]) fun done a' ha' => h done a' (by simp [ha'])
    rw [List.append_assoc, List.singleton_append] at htail
    exact (h before a (by simp)).append htail

/-- An entry is one chunk. -/
theorem encodeEntry_writesChunks {α : Type} {w : ByteWriter Error α} {n : ℕ} {a : α}
    {r : ByteReader Error α} {prop : t.Value} (hvalid : t ∈ validPropTypes)
    (hnew : t ∈ props.keys → t.Repeated) (hw : CodesIn n (w a) r a)
    (hr : ∀ ms, Reads r (bytesOf ms) a → Reads (decodePropValue t) (bytesOf ms) prop) :
    WritesChunks validPropTypes (1 + n) (encodeEntry t w a) props (props.add t prop) := by
  obtain ⟨ns, htype, hb, hl⟩ := encodeUintvar_type t
  obtain ⟨ms, hms, hb', hl', hread⟩ := hw
  have hne : ns ++ ms ≠ [] := by
    intro hnil
    have := congrArg List.length hnil
    simp [hl] at this
  have hentry := decodeProp_entry hvalid hnew htype (hr ms hread)
  exact ⟨ns ++ ms, by simp [encodeEntry, htype, hms], allBytes_append.mpr ⟨hb, hb'⟩,
    by simp [hl, hl'], .single (by simpa [bytesOf] using hne) hentry⟩

/-- The entries of a repeated property are collected under its key. -/
theorem writesChunks_repeated {α : Type} {w : ByteWriter Error α} {as : List α} (size : α → ℕ)
    (f : List α → t.Value) (hjoin : ∀ xs x, joinValue t (f xs) (f [x]) = f (xs ++ [x]))
    (hnew : t ∉ props.keys) (hne : as ≠ [])
    (h : ∀ a ∈ as, ∀ before,
      WritesChunks validPropTypes (size a) (w a) before (before.add t (f [a]))) :
    WritesChunks validPropTypes (as.map size).sum (writeAll w as) props
      (props ++ [⟨t, f as⟩]) := by
  -- the dictionary has no key before the first entry
  let state : List α → Props := fun done => if done = [] then props else props ++ [⟨t, f done⟩]
  have hstep : ∀ done, ∀ a ∈ as, WritesChunks validPropTypes (size a) (w a) (state done)
      (state (done ++ [a])) := by
    intro done a ha
    have hadd : Props.add (state done) t (f [a]) = state (done ++ [a]) := by
      by_cases hdone : done = []
      · simp only [state, hdone, if_true, List.nil_append, List.cons_ne_nil, if_false]
        exact Props.add_of_notMem hnew _
      · simp only [state, hdone, if_false, List.append_eq_nil_iff, List.cons_ne_nil, and_false]
        rw [Props.add_last hnew, hjoin]
    have hentry := h a ha (state done)
    rwa [hadd] at hentry
  have hall := writeAll_writesChunks state [] hstep
  simpa only [state, List.nil_append, if_true, if_neg hne] using hall

/-! ### Dictionaries -/

theorem encodeProp_writesChunks {prop : t.Value} (hvalid : t ∈ validPropTypes)
    (hnew : t ∉ props.keys) (h : t.Valid prop) :
    WritesChunks validPropTypes (propSize ⟨t, prop⟩) (encodeProp ⟨t, prop⟩) props
      (props ++ [⟨t, prop⟩]) := by
  have hbind : ∀ w : Except Error (List ℕ), (do return [] ++ (← w)) = w := by
    intro w
    cases w <;> rfl
  by_cases hrep : t.Repeated
  · have hprop : encodeProp ⟨t, prop⟩ = encodePropValue t prop := by
      rw [encodeProp, if_neg (by simpa using hrep)]
      exact hbind _
    rw [hprop, propSize, if_pos hrep, Nat.zero_add]
    rcases hrep with rfl | rfl
    · refine writesChunks_repeated (t := USER_PROPERTY) (w := encodeEntry USER_PROPERTY encodePair)
        (fun p => 1 + pairSize p) (fun ps => ps) (fun _ _ => rfl) hnew h.1
        fun p hp before => ?_
      exact encodeEntry_writesChunks hvalid (fun _ => .inl rfl) (encodePair_codes (h.2 p hp))
        fun ms hr => hr.map fun p => [p]
    · refine writesChunks_repeated (t := SUBSCRIPTION_IDENTIFIER)
        (fun i => 1 + uintvarSize i) (fun is => is) (fun _ _ => rfl) hnew h.1
        fun i hi before => ?_
      obtain ⟨hi0, hi⟩ := h.2 i hi
      rw [encodeNonzero, if_neg hi0]
      exact encodeEntry_writesChunks hvalid (fun _ => .inr rfl) (encodeUintvar_codes hi)
        fun ms hr => (decodeNonzero_reads hi0 hr).map fun i => [i]
  · have hprop : encodeProp ⟨t, prop⟩ = encodeEntry t (encodePropValue t) prop := by
      rw [encodeProp, if_pos hrep]
      rfl
    rw [hprop, propSize, if_neg hrep, ← Props.add_of_notMem hnew]
    exact encodeEntry_writesChunks hvalid (fun hmem => absurd hmem hnew)
      (encodePropValue_codes hrep h) fun ms hr => hr

theorem encodeAllProps_writesChunks (before : Props) (hsub : ∀ t ∈ props.keys, t ∈ validPropTypes)
    (hnodup : (before ++ props).NodupKeys) (h : ∀ p ∈ props, p.1.Valid p.2) :
    WritesChunks validPropTypes (propsLength props) (writeAll encodeProp props) before
      (before ++ props) := by
  induction props generalizing before with
  | nil =>
    rw [List.append_nil]
    exact ⟨[], rfl, allBytes_nil, rfl, .nil _⟩
  | cons p props ih =>
    obtain ⟨t, prop⟩ := p
    have hnew : t ∉ before.keys := by
      rw [List.NodupKeys, List.keys, List.map_append, List.nodup_append] at hnodup
      intro hmem
      exact hnodup.2.2 t hmem t (by simp) rfl
    have htail := ih (before ++ [⟨t, prop⟩])
      (fun u hu => hsub u (by simp only [List.keys_cons, List.mem_cons, hu, or_true]))
      (by simpa using hnodup) fun q hq => h q (by simp [hq])
    rw [List.append_assoc, List.singleton_append] at htail
    have hhead := encodeProp_writesChunks (hsub t (by simp)) hnew (h ⟨t, prop⟩ (by simp))
    exact hhead.append htail

/-- **Properties are read back** if every key is allowed and set once, to a valid value. -/
theorem encodeProps_codes (hsub : ∀ t ∈ props.keys, t ∈ validPropTypes)
    (hnodup : props.NodupKeys) (h : ∀ p ∈ props, p.1.Valid p.2)
    (hsize : propsLength props ≤ 0x0fff_ffff) :
    CodesIn (propsSize props) (encodeProps props) (decodeProps validPropTypes) props := by
  obtain ⟨ms, hms, hb, hl, hchunks⟩ :=
    encodeAllProps_writesChunks [] hsub (by simpa using hnodup) h
  obtain ⟨ns, hns, hb', hl', hr⟩ := encodeUintvar_codes hsize
  refine ⟨ns ++ ms, by simp [encodeProps, hms, hl, hns], allBytes_append.mpr ⟨hb', hb⟩,
    by simp [propsSize, hl, hl'], fun rest => ?_⟩
  have hshort : ¬ (bytesOf ms ++ rest).length < propsLength props := by simp [hl]
  rw [bytesOf_append, List.append_assoc, decodeProps]
  simp only [hr (bytesOf ms ++ rest), ok_bind, if_neg hshort, take_bytesOf_append hl,
    drop_bytesOf_append hl, hchunks.readWhile, List.nil_append]
  rfl

end HatDrivers.Mqtt.Transport
