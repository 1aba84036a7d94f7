import HatDrivers.Chatter.Connection
import HatDrivers.Lib.Transition
import Mathlib.Data.List.Perm.Basic
import Mathlib.Data.List.Nodup

namespace HatDrivers.Chatter

open HatDrivers.Lib

/-!
# Chatter — agreement on conversations

An end names a conversation by the number of the call that opened it and by whether it was its
own (`Opening.seenBy`), so the two ends have mirrored names of it, and no name stands for two.
That all conversations of calls and messages are named so is kept by every step, whatever the
order in which the two ends go on (`agreement`).
-/

variable {sbs : Sbs} {s s' : Link} {side : Side}

theorem Side.eq_or_eq_peer (side other : Side) : other = side ∨ other = side.peer := by
  cases side <;> cases other <;> decide

/-! ### Names of conversations -/

/-- The name of a conversation at `side`. -/
def Opening.seenBy (opening : Opening) (side : Side) : Conversation :=
  { owner := opening.side = side, firstId := opening.id }

theorem Opening.seenBy_peer (opening : Opening) (side : Side) :
    opening.seenBy side.peer = (opening.seenBy side).mirror := by
  obtain ⟨opener, id⟩ := opening
  cases opener <;> cases side <;> rfl

theorem Opening.seenBy_inj {opening opening' : Opening} :
    opening.seenBy side = opening'.seenBy side ↔ opening = opening' := by
  constructor
  · intro h
    obtain ⟨opener, id⟩ := opening
    obtain ⟨opener', id'⟩ := opening'
    have hid : id = id' := congrArg Conversation.firstId h
    have howner : decide (opener = side) = decide (opener' = side) :=
      congrArg Conversation.owner h
    subst hid
    cases opener <;> cases opener' <;> cases side <;> first | rfl | cases howner
  · intro h
    rw [h]

/-- A call says which conversation its message is of, and whether it opens it. -/
structure Call.Faithful (call : Call) (side : Side) : Prop where
  conv : call.conv = call.opening.seenBy side
  first : call.msg.first = call.conv.firstId
  owner : call.msg.owner = call.conv.owner
  new : call.new = true ↔ call.opening = { side := side, id := call.msg.id }

/-- A message as received is the mirror of the message as sent. -/
structure Mirrors (msg : Msg) (call : Call) : Prop where
  data : msg.data = call.msg.data
  conv : msg.conv = call.conv.mirror
  first : msg.first = true ↔ call.new = true
  last : msg.last = call.msg.last
  token : msg.token = call.msg.token

theorem Call.Faithful.mirrors {call : Call} (h : call.Faithful side) :
    Mirrors call.msg.toMsg call where
  data := rfl
  conv := by
    rw [Conversation.mirror, ← h.owner, ← h.first]
    rfl
  first := by
    have howner : call.msg.owner = decide (call.opening.side = side) := by
      rw [h.owner, h.conv, Opening.seenBy]
    have hfirst : call.msg.first = call.opening.id := by
      rw [h.first, h.conv, Opening.seenBy]
    rw [h.new, Record.toMsg, howner, hfirst, Bool.and_eq_true, decide_eq_true_eq, beq_iff_eq]
    constructor
    · rintro ⟨hside, hid⟩
      rw [← hside, ← hid]
    · intro hopening
      rw [hopening]
      exact ⟨rfl, rfl⟩
  last := rfl
  token := rfl

/-! ### Agreement -/

/-- The ends agree on what was sent and in which conversation. -/
structure Agreement (s : Link) : Prop where
  /-- a received message is the mirror of one that the other end sent -/
  mirrored : ∀ side, ∀ receipt ∈ (s.connection side).received,
    ∃ call, s.source side receipt = some call ∧ Mirrors receipt.msg call
  /-- messages are received in the order in which they were sent, and none twice -/
  ordered : ∀ side, ((s.connection side).received.map Receipt.source).Pairwise (· < ·)
  /-- a message of the conversation that a message was sent in comes back in that conversation -/
  reply : ∀ side : Side, ∀ receipt ∈ (s.connection side.peer).received, ∀ call reply,
    call ∈ (s.connection side.peer).sent → s.source side.peer receipt = some reply →
      reply.opening = call.opening → receipt.msg.conv = call.conv
  /-- what an end knows as one conversation is one conversation -/
  identity : ∀ side handle handle' known known', s.known side handle = some (some known) →
    s.known side handle' = some (some known') →
      (known.conv = known'.conv ↔ known.opening = known'.opening)
  /-- the ends have mirrored names of a conversation, and of different ones they have not -/
  mirror : ∀ side handle handle' known known', s.known side handle = some (some known) →
    s.known side.peer handle' = some (some known') →
      (known'.conv = known.conv.mirror ↔ known.opening = known'.opening)
  /-- two calls do not open the same conversation -/
  opened : ∀ side side', ∀ call ∈ (s.connection side).sent, ∀ call' ∈ (s.connection side').sent,
    call.new = true → call'.new = true → call.opening = call'.opening → side = side' ∧ call = call'

namespace Connection

/-- All calls of `send` that got a number and were not given up. -/
def calls (c : Connection) : List Call := c.sent ++ c.puts

end Connection

/-- What was sent and not yet read is in the stream or in the send queue. -/
def InStream (sbs : Sbs) (sender : Connection) (reads : ℕ) (stream : Bytes) : Prop :=
  reads ≤ sender.sent.length ∧ ∃ inFlight frames queued,
    (sender.sent.map Call.msg).drop reads = inFlight ++ queued ∧
      List.Forall₂ (fun msg bs => frame sbs msg = .ok bs) inFlight frames ∧
        stream = frames.flatten ∧ (sender.writing = true → queued = sender.sendQueue)

structure Inv (sbs : Sbs) (s : Link) : Prop where
  nodup : ∀ side, ((s.connection side).calls.map fun call => call.msg.id).Nodup
  lt : ∀ side, ∀ call ∈ (s.connection side).calls, call.msg.id < (s.connection side).nextMsgId
  faithful : ∀ side, ∀ call ∈ (s.connection side).calls, call.Faithful side
  bounded : ∀ side, ∀ call ∈ (s.connection side).calls,
    call.opening.id < (s.connection call.opening.side).nextMsgId
  receipts : ∀ side, ∀ receipt ∈ (s.connection side).receipts,
    ∃ call, s.source side receipt = some call ∧ receipt.msg = call.msg.toMsg
  ordered : ∀ side, ((s.connection side).receipts.map Receipt.source).Pairwise (· < ·)
  lt_reads : ∀ side, ∀ receipt ∈ (s.connection side).receipts,
    receipt.source < (s.connection side).reads
  stream : ∀ side,
    InStream sbs (s.connection side) (s.connection side.peer).reads (s.stream side)

/-- An end may use the name. -/
def Known.Good (known : Known) (s : Link) (side : Side) : Prop :=
  known.conv = known.opening.seenBy side ∧
    known.opening.id < (s.connection known.opening.side).nextMsgId

theorem mem_calls_of_source {receipt : Receipt} {call : Call}
    (h : s.source side receipt = some call) : call ∈ (s.connection side.peer).calls :=
  List.mem_append_left _ (List.mem_of_getElem? h)

theorem Inv.knownOf (h : Inv sbs s) {receipt : Receipt} {call : Call}
    (hsource : s.source side receipt = some call) (hmsg : receipt.msg = call.msg.toMsg)
    {known : Known} (hknown : s.knownOf side receipt = some known) : known.Good s side := by
  rw [Link.knownOf, hsource] at hknown
  obtain rfl := Option.some.inj hknown
  have hcall := mem_calls_of_source hsource
  have hfaithful := h.faithful side.peer call hcall
  refine ⟨?_, h.bounded side.peer call hcall⟩
  show receipt.msg.conv = call.opening.seenBy side
  rw [hmsg, hfaithful.mirrors.conv, hfaithful.conv, Opening.seenBy_peer,
    Conversation.mirror_mirror]

theorem Inv.known (h : Inv sbs s) {handle : Handle} {known : Known}
    (hknown : s.known side handle = some (some known)) : known.Good s side := by
  cases handle with
  | new => cases hknown
  | sent n =>
    obtain ⟨call, hget, hcall⟩ := Option.map_eq_some_iff.mp hknown
    obtain rfl := Option.some.inj hcall
    have hmem : call ∈ (s.connection side).calls :=
      List.mem_append_left _ (List.mem_of_getElem? hget)
    exact ⟨(h.faithful side call hmem).conv, h.bounded side call hmem⟩
  | received n =>
    obtain ⟨receipt, hget, hreceipt⟩ := Option.bind_eq_some_iff.mp hknown
    obtain ⟨known', hknown', heq⟩ := Option.map_eq_some_iff.mp hreceipt
    obtain rfl := Option.some.inj heq
    have hmem : receipt ∈ (s.connection side).receipts :=
      List.mem_append_left _ (List.mem_append_left _ (List.mem_of_getElem? hget))
    obtain ⟨call, hsource, hmsg⟩ := h.receipts side receipt hmem
    exact h.knownOf hsource hmsg hknown'

theorem Inv.agrees (h : Inv sbs s) : Agreement s where
  mirrored := by
    intro side receipt hreceipt
    obtain ⟨call, hsource, hmsg⟩ := h.receipts side receipt
      (List.mem_append_left _ (List.mem_append_left _ hreceipt))
    refine ⟨call, hsource, ?_⟩
    rw [hmsg]
    exact (h.faithful side.peer call (mem_calls_of_source hsource)).mirrors
  ordered := by
    intro side
    have hall := h.ordered side
    rw [Connection.receipts, List.map_append, List.map_append] at hall
    exact (List.pairwise_append.mp (List.pairwise_append.mp hall).1).1
  reply := by
    intro side receipt hreceipt call reply hcall hreply hopening
    obtain ⟨reply', hsource, hmsg⟩ := h.receipts side.peer receipt
      (List.mem_append_left _ (List.mem_append_left _ hreceipt))
    obtain rfl := Option.some.inj (hsource.symm.trans hreply)
    have hfaithful := h.faithful _ reply' (mem_calls_of_source hsource)
    rw [hmsg, hfaithful.mirrors.conv, hfaithful.conv, hopening, Side.peer_peer,
      (h.faithful side.peer call (List.mem_append_left _ hcall)).conv, Opening.seenBy_peer]
  identity := by
    intro side handle handle' known known' hknown hknown'
    rw [(h.known hknown).1, (h.known hknown').1]
    exact Opening.seenBy_inj
  mirror := by
    intro side handle handle' known known' hknown hknown'
    rw [(h.known hknown).1, (h.known hknown').1, ← Opening.seenBy_peer, eq_comm]
    exact Opening.seenBy_inj
  opened := by
    intro side side' call hcall call' hcall' hnew hnew' hopening
    have hmem := List.mem_append_left (s.connection side).puts hcall
    have hmem' := List.mem_append_left (s.connection side').puts hcall'
    have hown := (h.faithful side call hmem).new.mp hnew
    have hown' := (h.faithful side' call' hmem').new.mp hnew'
    obtain ⟨rfl, hid⟩ := Opening.mk.inj (hown.symm.trans (hopening.trans hown'))
    exact ⟨rfl, List.inj_on_of_nodup_map (h.nodup side) hmem hmem' hid⟩

/-! ### Steps -/

/-- What holds of the connection that a step made, and of every one it left, holds of both. -/
theorem Link.forall_set {p : Side → Connection → Prop} {c : Connection} {stream : Side → Bytes}
    (hside : p side c) (hpeer : p side.peer (s.connection side.peer)) (other : Side) :
    p other ((Link.mk (Function.update s.connection side c) stream).connection other) := by
  rcases side.eq_or_eq_peer other with rfl | rfl
  · show p other (Function.update s.connection other c other)
    rw [Function.update_self]
    exact hside
  · show p side.peer (Function.update s.connection side c side.peer)
    rw [Function.update_of_ne (Side.peer_ne side)]
    exact hpeer

/-- What a step of one end has to keep. -/
theorem Inv.set (h : Inv sbs s) (c : Connection) (stream : Side → Bytes)
    (hnodup : (c.calls.map fun call => call.msg.id).Nodup)
    (hnext : (s.connection side).nextMsgId ≤ c.nextMsgId)
    (hcalls : ∀ call ∈ c.calls, call ∈ (s.connection side).calls ∨
      call.msg.id < c.nextMsgId ∧ call.Faithful side ∧
        (call.opening.side = side ∧ call.opening.id < c.nextMsgId ∨
          call.opening.id < (s.connection call.opening.side).nextMsgId))
    (hsent : (s.connection side).sent <+: c.sent)
    (hreceipts : ∀ receipt ∈ c.receipts,
      ∃ call, s.source side receipt = some call ∧ receipt.msg = call.msg.toMsg)
    (hordered : (c.receipts.map Receipt.source).Pairwise (· < ·))
    (hreads : ∀ receipt ∈ c.receipts, receipt.source < c.reads)
    (hout : InStream sbs c (s.connection side.peer).reads (stream side))
    (hin : InStream sbs (s.connection side.peer) c.reads (stream side.peer)) :
    Inv sbs { connection := Function.update s.connection side c, stream := stream } := by
  have hnexts : ∀ other, (s.connection other).nextMsgId ≤
      ((Link.mk (Function.update s.connection side c) stream).connection other).nextMsgId :=
    Link.forall_set (p := fun other c' => (s.connection other).nextMsgId ≤ c'.nextMsgId) hnext
      (Int.le_refl _)
  have hself : (Link.mk (Function.update s.connection side c) stream).connection side = c :=
    Function.update_self ..
  have hpeer : (Link.mk (Function.update s.connection side c) stream).connection side.peer =
      s.connection side.peer := Function.update_of_ne (Side.peer_ne side) ..
  constructor
  · exact Link.forall_set (p := fun _ c' => (c'.calls.map fun call => call.msg.id).Nodup) hnodup
      (h.nodup _)
  · apply Link.forall_set (p := fun _ c' => ∀ call ∈ c'.calls, call.msg.id < c'.nextMsgId)
    · intro call hcall
      rcases hcalls call hcall with hold | ⟨hlt, _⟩
      · exact Int.lt_of_lt_of_le (h.lt side call hold) hnext
      · exact hlt
    · exact h.lt _
  · apply Link.forall_set (p := fun other c' => ∀ call ∈ c'.calls, call.Faithful other)
    · intro call hcall
      rcases hcalls call hcall with hold | ⟨_, hfaithful, _⟩
      · exact h.faithful side call hold
      · exact hfaithful
    · exact h.faithful _
  · have hold : ∀ call : Call, call.opening.id < (s.connection call.opening.side).nextMsgId →
        call.opening.id < ((Link.mk (Function.update s.connection side c) stream).connection
          call.opening.side).nextMsgId :=
      fun call hlt => Int.lt_of_lt_of_le hlt (hnexts _)
    apply Link.forall_set (p := fun _ c' => ∀ call ∈ c'.calls, call.opening.id <
      ((Link.mk (Function.update s.connection side c) stream).connection
        call.opening.side).nextMsgId)
    · intro call hcall
      rcases hcalls call hcall with hmem | ⟨_, _, ⟨hside, hlt⟩ | hlt⟩
      · exact hold call (h.bounded side call hmem)
      · rw [hside, hself]
        exact hlt
      · exact hold call hlt
    · exact fun call hcall => hold call (h.bounded _ call hcall)
  · intro other receipt hreceipt
    rcases side.eq_or_eq_peer other with rfl | rfl
    · rw [hself] at hreceipt
      rw [Link.source, hpeer]
      exact hreceipts receipt hreceipt
    · -- the messages that the other end received are still those that were sent
      rw [hpeer] at hreceipt
      obtain ⟨call, hsource, hmsg⟩ := h.receipts _ receipt hreceipt
      rw [Link.source, Side.peer_peer] at hsource
      refine ⟨call, ?_, hmsg⟩
      obtain ⟨calls, hcalls⟩ := hsent
      rw [Link.source, Side.peer_peer, hself, ← hcalls, List.getElem?_append_left]
      · exact hsource
      · exact (List.getElem?_eq_some_iff.mp hsource).1
  · exact Link.forall_set (p := fun _ c' => (c'.receipts.map Receipt.source).Pairwise (· < ·))
      hordered (h.ordered _)
  · exact Link.forall_set (p := fun _ c' => ∀ receipt ∈ c'.receipts, receipt.source < c'.reads)
      hreads (h.lt_reads _)
  · intro other
    rcases side.eq_or_eq_peer other with rfl | rfl
    · rw [hself, hpeer]
      exact hout
    · rw [Side.peer_peer, hself, hpeer]
      exact hin

/-- Steps of one end that send nothing and lose nothing that the other end needs. -/
theorem Inv.quiet (h : Inv sbs s) {c : Connection} (hsent : c.sent = (s.connection side).sent)
    (hputs : c.puts.Sublist (s.connection side).puts)
    (hnext : c.nextMsgId = (s.connection side).nextMsgId)
    (hreceipts : c.receipts.Sublist (s.connection side).receipts)
    (hreads : c.reads = (s.connection side).reads)
    (hwriting : c.writing = true →
      (s.connection side).writing = true ∧ c.sendQueue = (s.connection side).sendQueue) :
    Inv sbs (s.set side c) := by
  have hcalls : c.calls.Sublist (s.connection side).calls := by
    rw [Connection.calls, Connection.calls, hsent]
    exact (List.Sublist.refl _).append hputs
  apply h.set c s.stream
  · exact (h.nodup side).sublist (hcalls.map _)
  · exact Int.le_of_eq hnext.symm
  · exact fun call hcall => Or.inl (hcalls.subset hcall)
  · exact ⟨[], by rw [List.append_nil, hsent]⟩
  · exact fun receipt hreceipt => h.receipts side receipt (hreceipts.subset hreceipt)
  · exact (h.ordered side).sublist (hreceipts.map _)
  · intro receipt hreceipt
    rw [hreads]
    exact h.lt_reads side receipt (hreceipts.subset hreceipt)
  · obtain ⟨hle, inFlight, frames, queued, hdrop, hframes, hstream, hqueued⟩ := h.stream side
    rw [InStream, hsent]
    refine ⟨hle, inFlight, frames, queued, hdrop, hframes, hstream, ?_⟩
    intro hwriting'
    obtain ⟨hold, hqueue⟩ := hwriting hwriting'
    rw [hqueue]
    exact hqueued hold
  · have hin := h.stream side.peer
    rw [Side.peer_peer] at hin
    rw [hreads]
    exact hin

/-- A call takes the next number, and is faithful if the conversation it was given is known. -/
theorem Connection.call_eq_ok {c c' : Connection} {data : Data} {known : Option Known}
    {last token response : Bool} (h : c.call side data known last token response = .ok c')
    (hknown : ∀ k, known = some k → k.conv = k.opening.seenBy side ∧
      (k.opening.side = side → k.opening.id < c.nextMsgId)) :
    ∃ call : Call, c' = { c with nextMsgId := c.nextMsgId + 1, puts := c.puts ++ [call] } ∧
      call.msg.id = c.nextMsgId ∧ call.Faithful side ∧
        (call.opening = { side := side, id := c.nextMsgId } ∨
          ∃ k, known = some k ∧ call.opening = k.opening) := by
  by_cases hopen : ¬ c.isOpen
  · rw [Connection.call, Connection.send, if_pos hopen] at h
    cases h
  · rw [Connection.call, Connection.send, if_neg hopen] at h
    obtain rfl := Except.ok.inj h
    refine ⟨_, rfl, rfl, ?_, ?_⟩
    · cases known with
      | none =>
        refine ⟨?_, rfl, rfl, iff_of_true rfl rfl⟩
        show Conversation.mk true c.nextMsgId = ⟨decide (side = side), c.nextMsgId⟩
        rw [decide_eq_true rfl]
      | some k =>
        obtain ⟨hconv, hbounded⟩ := hknown k rfl
        refine ⟨hconv, rfl, rfl, iff_of_false Bool.false_ne_true ?_⟩
        -- an older conversation has a smaller number
        intro hopening
        have hside : k.opening.side = side := congrArg Opening.side hopening
        have hid : k.opening.id = c.nextMsgId := congrArg Opening.id hopening
        have hlt := hbounded hside
        omega
    · cases known with
      | none => exact Or.inl rfl
      | some k => exact Or.inr ⟨k, rfl, rfl⟩

/-- A call of `send` in a new conversation, or in one that is known. -/
theorem Inv.call (h : Inv sbs s) {c : Connection} {data : Data} {known : Option Known}
    {last token response : Bool}
    (hcall : (s.connection side).call side data known last token response = .ok c)
    (hknown : ∀ k, known = some k → k.Good s side) : Inv sbs (s.set side c) := by
  have hgood : ∀ k, known = some k → k.conv = k.opening.seenBy side ∧
      (k.opening.side = side → k.opening.id < (s.connection side).nextMsgId) := by
    intro k hk
    obtain ⟨hconv, hbounded⟩ := hknown k hk
    refine ⟨hconv, fun hside => ?_⟩
    rw [hside] at hbounded
    exact hbounded
  obtain ⟨call, rfl, hid, hfaithful, hopening⟩ := Connection.call_eq_ok hcall hgood
  apply h.set _ s.stream
  · show (((s.connection side).sent ++ ((s.connection side).puts ++ [call])).map _).Nodup
    rw [← List.append_assoc, List.map_append, List.map_singleton]
    refine (h.nodup side).append (List.nodup_singleton _) ?_
    intro id hold hnew
    obtain ⟨call', hcall', rfl⟩ := List.mem_map.mp hold
    have hlt := h.lt side call' hcall'
    rw [List.mem_singleton.mp hnew, hid] at hlt
    exact Int.lt_irrefl _ hlt
  · exact Int.le_of_lt (Int.lt_succ _)
  · intro call' hcall'
    change call' ∈ (s.connection side).sent ++ ((s.connection side).puts ++ [call]) at hcall'
    rw [← List.append_assoc] at hcall'
    rcases List.mem_append.mp hcall' with hold | hnew
    · exact Or.inl hold
    · obtain rfl := List.mem_singleton.mp hnew
      refine Or.inr ⟨?_, hfaithful, ?_⟩
      · rw [hid]
        exact Int.lt_succ _
      · rcases hopening with hown | ⟨k, hk, hk'⟩
        · rw [hown]
          exact Or.inl ⟨rfl, Int.lt_succ _⟩
        · rw [hk']
          exact Or.inr (hknown k hk).2
  · exact List.prefix_refl _
  · exact h.receipts side
  · exact h.ordered side
  · exact h.lt_reads side
  · exact h.stream side
  · have hin := h.stream side.peer
    rw [Side.peer_peer] at hin
    exact hin

theorem Inv.put (h : Inv sbs s) {n : ℕ} {call : Call}
    (hget : (s.connection side).puts[n]? = some call)
    (hwriting : (s.connection side).writing = true) : Inv sbs (s.put side n call) := by
  obtain ⟨hn, rfl⟩ := List.getElem?_eq_some_iff.mp hget
  have hperm : ((s.connection side).sent ++ [(s.connection side).puts[n]] ++
      (s.connection side).puts.eraseIdx n).Perm (s.connection side).calls := by
    rw [List.append_assoc]
    exact (List.getElem_cons_eraseIdx_perm hn).append_left _
  have hreceipts : Connection.receipts { s.connection side with
      readLoop := if (s.connection side).puts[n].response then .reading
        else (s.connection side).readLoop } |>.Sublist (s.connection side).receipts := by
    cases (s.connection side).puts[n].response
    · exact List.Sublist.refl _
    · exact (List.Sublist.refl _).append (List.nil_sublist _)
  apply h.set _ s.stream
  · exact (hperm.map _).nodup_iff.mpr (h.nodup side)
  · exact Int.le_refl _
  · exact fun call hcall => Or.inl (hperm.subset hcall)
  · exact List.prefix_append _ _
  · exact fun receipt hreceipt => h.receipts side receipt (hreceipts.subset hreceipt)
  · exact (h.ordered side).sublist (hreceipts.map _)
  · exact fun receipt hreceipt => h.lt_reads side receipt (hreceipts.subset hreceipt)
  · obtain ⟨hle, inFlight, frames, queued, hdrop, hframes, hstream, hqueued⟩ := h.stream side
    refine ⟨?_, inFlight, frames, queued ++ [(s.connection side).puts[n].msg], ?_, hframes, hstream,
      ?_⟩
    · rw [List.length_append]
      exact Nat.le_add_right_of_le hle
    · have hle' : (s.connection side.peer).reads ≤
          ((s.connection side).sent.map Call.msg).length := by
        rw [List.length_map]
        exact hle
      rw [List.map_append, List.drop_append_of_le_length hle', hdrop, List.append_assoc]
      rfl
    · exact fun _ => by rw [hqueued hwriting]
  · have hin := h.stream side.peer
    rw [Side.peer_peer] at hin
    exact hin

theorem Inv.write (h : Inv sbs s) (hwriting : (s.connection side).writing = true)
    (hstep : s.write sbs side = some s') : Inv sbs s' := by
  unfold Link.write at hstep
  cases hqueue : (s.connection side).sendQueue with
  | nil =>
    simp only [hqueue] at hstep
    cases hstep
  | cons msg sendQueue =>
    simp only [hqueue] at hstep
    cases hframe : frame sbs msg with
    | error e =>
      simp only [hframe] at hstep
      obtain rfl := Option.some.inj hstep
      exact h.quiet rfl (List.Sublist.refl _) rfl (List.Sublist.refl _) rfl
        fun hended => (by cases hended)
    | ok bs =>
      simp only [hframe] at hstep
      obtain rfl := Option.some.inj hstep
      apply h.set { s.connection side with sendQueue := sendQueue }
        (Function.update s.stream side (s.stream side ++ bs))
      · exact h.nodup side
      · exact Int.le_refl _
      · exact fun call hcall => Or.inl hcall
      · exact List.prefix_refl _
      · exact h.receipts side
      · exact h.ordered side
      · exact h.lt_reads side
      · obtain ⟨hle, inFlight, frames, queued, hdrop, hframes, hstream, hqueued⟩ := h.stream side
        rw [Function.update_self, hstream]
        refine ⟨hle, inFlight ++ [msg], frames ++ [bs], sendQueue, ?_, ?_, ?_, fun _ => rfl⟩
        · rw [List.append_assoc]
          exact hdrop.trans (by rw [hqueued hwriting, hqueue]; rfl)
        · exact List.rel_append hframes (List.Forall₂.cons hframe List.Forall₂.nil)
        · rw [List.flatten_append, List.flatten_singleton]
      · have hin := h.stream side.peer
        rw [Side.peer_peer] at hin
        rw [Function.update_of_ne (Side.peer_ne side)]
        exact hin

/-- What the read loop does with a message. -/
theorem Inv.receiveMsg (h : Inv sbs s) {receipt : Receipt} {call : Call}
    (hsource : s.source side receipt = some call) (hmsg : receipt.msg = call.msg.toMsg)
    (hloop : (s.connection side).readLoop = .reading)
    (hlt : receipt.source < (s.connection side).reads)
    (hlast : ∀ earlier ∈ (s.connection side).receipts, earlier.source < receipt.source) :
    Inv sbs (s.receiveMsg side receipt) := by
  have hreceipts : (s.connection side).receipts =
      (s.connection side).received ++ (s.connection side).receiveQueue := by
    rw [Connection.receipts, hloop, List.append_nil]
  unfold Link.receiveMsg
  simp only
  split
  · cases hcall : (s.connection side).call side { type := "HatChatter.Pong", data := [] }
      (s.knownOf side receipt) true true true with
    | error e =>
      refine h.quiet rfl (List.Sublist.refl _) rfl ?_ rfl fun hwriting => ⟨hwriting, rfl⟩
      exact (List.Sublist.refl _).append (List.nil_sublist _)
    | ok c =>
      have hcalled : Inv sbs (s.set side c) :=
        h.call hcall fun k hk => h.knownOf hsource hmsg hk
      have hresponding : Inv sbs ((s.set side c).set side { c with readLoop := .responding }) := by
        apply hcalled.quiet
        · rw [Link.set_connection_same]
        · rw [Link.set_connection_same]
        · rw [Link.set_connection_same]
        · rw [Link.set_connection_same]
          exact (List.Sublist.refl _).append (List.nil_sublist _)
        · rw [Link.set_connection_same]
        · rw [Link.set_connection_same]
          exact fun hwriting => ⟨hwriting, rfl⟩
      rw [Link.set_set] at hresponding
      exact hresponding
  · split
    · exact h
    · apply h.set _ s.stream
      · exact h.nodup side
      · exact Int.le_refl _
      · exact fun call hcall => Or.inl hcall
      · exact List.prefix_refl _
      · intro other hother
        rcases List.mem_append.mp hother with hold | hnew
        · exact h.receipts side other (hreceipts ▸ hold)
        · obtain rfl := List.mem_singleton.mp hnew
          exact ⟨call, hsource, hmsg⟩
      · show (((s.connection side).received ++ (s.connection side).receiveQueue ++
          [receipt]).map Receipt.source).Pairwise (· < ·)
        rw [← hreceipts, List.map_append, List.map_singleton]
        refine List.pairwise_append.mpr ⟨h.ordered side, List.pairwise_singleton _ _, ?_⟩
        intro source hold source' hnew
        obtain ⟨earlier, hearlier, rfl⟩ := List.mem_map.mp hold
        rw [List.mem_singleton.mp hnew]
        exact hlast earlier hearlier
      · intro other hother
        rcases List.mem_append.mp hother with hold | hnew
        · exact h.lt_reads side other (hreceipts ▸ hold)
        · obtain rfl := List.mem_singleton.mp hnew
          exact hlt
      · exact h.stream side
      · have hin := h.stream side.peer
        rw [Side.peer_peer] at hin
        exact hin

theorem Inv.read (h : Inv sbs s) (hloop : (s.connection side).readLoop = .reading)
    (hstep : s.read sbs side = some s') : Inv sbs s' := by
  have hin := h.stream side.peer
  rw [Side.peer_peer] at hin
  obtain ⟨hle, inFlight, frames, queued, hdrop, hframes, hstream, hqueued⟩ := hin
  unfold Link.read at hstep
  rw [hstream] at hstep
  cases hframes with
  | nil =>
    -- nothing has come
    cases hstep
  | @cons msg bs inFlight frames hframe hframes =>
    have hread : Chatter.read sbs (bs :: frames).flatten = some (.ok msg, frames.flatten) :=
      read_frame hframe _
    simp only [hread] at hstep
    obtain rfl := Option.some.inj hstep
    -- the message is the next of those sent
    have hget : ((s.connection side.peer).sent.map Call.msg)[(s.connection side).reads]? =
        some msg := by
      rw [← List.head?_drop, hdrop]
      rfl
    rw [List.getElem?_map] at hget
    obtain ⟨call, hcall, rfl⟩ := Option.map_eq_some_iff.mp hget
    have hadvanced : Inv sbs ((s.set side { s.connection side with
        reads := (s.connection side).reads + 1 }).setStream side.peer frames.flatten) := by
      apply h.set { s.connection side with reads := (s.connection side).reads + 1 }
        (Function.update s.stream side.peer frames.flatten)
      · exact h.nodup side
      · exact Int.le_refl _
      · exact fun call hcall => Or.inl hcall
      · exact List.prefix_refl _
      · exact h.receipts side
      · exact h.ordered side
      · exact fun receipt hreceipt => Nat.lt_succ_of_lt (h.lt_reads side receipt hreceipt)
      · rw [Function.update_of_ne (Side.ne_peer side)]
        exact h.stream side
      · rw [Function.update_self]
        refine ⟨(List.getElem?_eq_some_iff.mp hcall).1, inFlight, frames, queued, ?_, hframes, rfl,
          hqueued⟩
        rw [← List.tail_drop, hdrop]
        rfl
    refine hadvanced.receiveMsg (?_ : _ = some call) rfl ?_ ?_ ?_
    · show ((s.set side _).connection side.peer).sent[_]? = _
      rw [Link.set_connection_peer]
      exact hcall
    · rw [Link.setStream_connection, Link.set_connection_same]
      exact hloop
    · rw [Link.setStream_connection, Link.set_connection_same]
      exact Nat.lt_succ_self _
    · rw [Link.setStream_connection, Link.set_connection_same]
      exact h.lt_reads side

theorem Inv.step (h : Inv sbs s) {e : Side × Action} (hstep : Link.step sbs s e = some s') :
    Inv sbs s' := by
  obtain ⟨side, action⟩ := e
  cases action with
  | send data handle last token =>
    obtain ⟨known, hknown, hstep⟩ := Option.map_eq_some_iff.mp hstep
    cases hcall : (s.connection side).call side data known last token false with
    | error e =>
      simp only [hcall] at hstep
      obtain rfl := hstep
      exact h
    | ok c =>
      simp only [hcall] at hstep
      obtain rfl := hstep
      apply h.call hcall
      intro k hk
      rw [hk] at hknown
      exact h.known hknown
  | ping =>
    simp only [Link.step, Link.act] at hstep
    cases hcall : (s.connection side).call side { type := "HatChatter.Ping", data := [] } none
      false true false with
    | error e =>
      simp only [hcall] at hstep
      obtain rfl := Option.some.inj hstep
      exact h.quiet rfl (List.Sublist.refl _) rfl (List.Sublist.refl _) rfl
        fun hwriting => ⟨hwriting, rfl⟩
    | ok c =>
      simp only [hcall] at hstep
      obtain rfl := Option.some.inj hstep
      exact h.call hcall fun k hk => (by cases hk)
  | put n =>
    obtain ⟨call, hget, hstep⟩ := Option.bind_eq_some_iff.mp hstep
    obtain ⟨⟨hwriting, _⟩, heq⟩ := Option.ite_none_right_eq_some.mp hstep
    obtain rfl := Option.some.inj heq
    exact h.put hget hwriting
  | abandon n =>
    obtain ⟨call, hget, rfl⟩ := Option.map_eq_some_iff.mp hstep
    unfold Link.abandon
    simp only
    split
    · refine h.quiet rfl (List.eraseIdx_sublist _ _) rfl ?_ rfl fun hwriting => ⟨hwriting, rfl⟩
      exact (List.Sublist.refl _).append (List.nil_sublist _)
    · exact h.quiet rfl (List.eraseIdx_sublist _ _) rfl (List.Sublist.refl _) rfl
        fun hwriting => ⟨hwriting, rfl⟩
  | write =>
    obtain ⟨hwriting, hstep⟩ := Option.ite_none_right_eq_some.mp hstep
    exact h.write hwriting hstep
  | endWriteLoop =>
    obtain rfl := Option.some.inj hstep
    exact h.quiet rfl (List.Sublist.refl _) rfl (List.Sublist.refl _) rfl
      fun hended => (by cases hended)
  | read =>
    obtain ⟨hloop, hstep⟩ := Option.ite_none_right_eq_some.mp hstep
    exact h.read hloop hstep
  | endReadLoop =>
    obtain ⟨_, heq⟩ := Option.ite_none_left_eq_some.mp hstep
    obtain rfl := Option.some.inj heq
    refine h.quiet rfl (List.Sublist.refl _) rfl ?_ rfl fun hwriting => ⟨hwriting, rfl⟩
    exact (List.Sublist.refl _).append (List.nil_sublist _)
  | deliver =>
    cases hloop : (s.connection side).readLoop with
    | delivering receipt =>
      simp only [Link.step, Link.act, hloop, Option.ite_none_right_eq_some] at hstep
      obtain rfl := Option.some.inj hstep.2
      refine h.quiet rfl (List.Sublist.refl _) rfl ?_ rfl fun hwriting => ⟨hwriting, rfl⟩
      simp only [Connection.receipts, hloop, List.append_nil, List.append_assoc]
      exact List.Sublist.refl _
    | _ =>
      simp only [Link.step, Link.act, hloop] at hstep
      cases hstep
  | receive =>
    cases hqueue : (s.connection side).receiveQueue with
    | nil =>
      simp only [Link.step, Link.act, hqueue] at hstep
      cases hstep
    | cons receipt receiveQueue =>
      simp only [Link.step, Link.act, hqueue] at hstep
      obtain rfl := Option.some.inj hstep
      refine h.quiet rfl (List.Sublist.refl _) rfl ?_ rfl fun hwriting => ⟨hwriting, rfl⟩
      simp only [Connection.receipts, hqueue, List.append_assoc, List.cons_append]
      exact List.Sublist.refl _
  | close =>
    obtain rfl := Option.some.inj hstep
    exact h.quiet rfl (List.Sublist.refl _) rfl (List.Sublist.refl _) rfl
      fun hwriting => ⟨hwriting, rfl⟩

/-! ### Runs -/

theorem inv_init (receiveQueueSize : Side → ℕ) : Inv sbs (Link.init receiveQueueSize) where
  nodup := fun _ => List.nodup_nil
  lt := fun _ _ hcall => (by cases hcall)
  faithful := fun _ _ hcall => (by cases hcall)
  bounded := fun _ _ hcall => (by cases hcall)
  receipts := fun _ _ hreceipt => (by cases hreceipt)
  ordered := fun _ => List.Pairwise.nil
  lt_reads := fun _ _ hreceipt => (by cases hreceipt)
  stream := fun _ => ⟨Nat.le_refl _, [], [], [], rfl, List.Forall₂.nil, rfl, fun _ => rfl⟩

/-- **Agreement on conversations.**  Whatever is sent at the two ends, in new conversations and
in known ones, and in whatever order their tasks go on: messages are received as they were sent,
in the conversations that they were sent in, and conversations are not confused. -/
theorem agreement (sbs : Sbs) (receiveQueueSize : Side → ℕ) (es : List (Side × Action)) (s : Link)
    (hrun : run (Link.step sbs) (Link.init receiveQueueSize) es = some s) : Agreement s := by
  have hstep : ∀ s e s', Inv sbs s → Link.step sbs s e = some s' → Inv sbs s' :=
    fun _ _ _ hinv hs' => hinv.step hs'
  exact (run_invariant_of_step hstep (inv_init receiveQueueSize) hrun).agrees

/-- SBS, for a message of the client and the reply of the server. -/
def replySbs : Sbs where
  encode record :=
    if record = ⟨1, 1, true, true, false, ⟨"a", []⟩⟩ then .ok [1, 1, 1, 1, 0, 1, 0x61, 0]
    else if record = ⟨1, 1, false, true, true, ⟨"b", []⟩⟩ then .ok [1, 1, 0, 1, 1, 1, 0x62, 0]
    else .error (.exception "not encoded")
  decode bs :=
    if bs = [1, 1, 1, 1, 0, 1, 0x61, 0] then .ok ⟨1, 1, true, true, false, ⟨"a", []⟩⟩
    else if bs = [1, 1, 0, 1, 1, 1, 0x62, 0] then .ok ⟨1, 1, false, true, true, ⟨"b", []⟩⟩
    else .error (.exception "not decoded")
  decode_encode record bs h := by
    split at h
    · obtain rfl := Except.ok.inj h
      subst record
      rfl
    · split at h
      · obtain rfl := Except.ok.inj h
        subst record
        rfl
      · cases h

/-- The client sends a message and the server replies to it. -/
def replyEvents : List (Side × Action) :=
  [(.client, .send ⟨"a", []⟩ .new false true), (.client, .put 0), (.client, .write),
    (.server, .read), (.server, .deliver), (.server, .receive),
    (.server, .send ⟨"b", []⟩ (.received 0) true true), (.server, .put 0), (.server, .write),
    (.client, .read), (.client, .deliver), (.client, .receive)]

/-- The reply comes back in the conversation of the message. -/
theorem agreement_reply :
    ∃ s, run (Link.step replySbs) (Link.init fun _ => 1024) replyEvents = some s ∧
      ((s.connection .server).received.map Receipt.msg,
        (s.connection .client).received.map Receipt.msg) =
          ([⟨⟨"a", []⟩, ⟨false, 1⟩, true, false, true⟩],
            [⟨⟨"b", []⟩, ⟨true, 1⟩, false, true, true⟩]) ∧
      Agreement s := by
  have hrun : (run (Link.step replySbs) (Link.init fun _ => 1024) replyEvents).map (fun s =>
      ((s.connection .server).received.map Receipt.msg,
        (s.connection .client).received.map Receipt.msg)) =
      some ([⟨⟨"a", []⟩, ⟨false, 1⟩, true, false, true⟩],
        [⟨⟨"b", []⟩, ⟨true, 1⟩, false, true, true⟩]) := by
    decide
  obtain ⟨s, hs, hreceived⟩ := Option.map_eq_some_iff.mp hrun
  exact ⟨s, hs, hreceived, agreement replySbs (fun _ => 1024) replyEvents s hs⟩

end HatDrivers.Chatter
