import HatDrivers.Iec60870.Apci.Confirmed
import HatDrivers.Iec60870.Apci.Ends
import HatDrivers.Iec60870.Apci.Transport

namespace HatDrivers.Iec60870.Apci

open HatDrivers.Lib SlidingWindow

/-!
# APCI — two connections

Two connections, each of which reads the bytes that the other one wrote out (`Link`).  Neither ever
finds a sequence number that is missing; an acknowledgement is refused if and only if it is read
before the write of a frame that it covers returned (`Link.sequenceErrors_iff`).  Without such a
read each end puts the payloads of the other one in its receive queue, in order, each once, and
what an end takes for acknowledged was received (`Link.payloads_delivered`); so what a confirmed
`send` sent was received when it returned (`Link.confirmed_received`).
-/

/-- The payloads of I-frames. -/
def sentPayloads (writes : List Write) : List Bytes :=
  writes.filterMap fun write => write.apdu.item.map Prod.snd

theorem payloads_stamped (writes : List Write) :
    payloads (writes.map Write.stamped) = (sentPayloads writes).filter (· ≠ []) := by
  rw [payloads, items, sentPayloads, List.filterMap_map, List.map_filterMap]
  rfl

/-! ### Links -/

/-- An end of a link. -/
structure Side where
  conn : Conn
  /-- what the other end wrote out and this one did not read -/
  input : Bytes

/-- A connection of `connect`, and one of `listen`. -/
structure Link where
  a : Side
  b : Side

inductive Action
  /-- the TCP protocol writes an APDU out -/
  | flush
  /-- `transport.read` of the read loop returns -/
  | read
  | inner (e : Event)

/-- What the TCP protocol writes out next. -/
def Conn.output (s : Conn) : Bytes :=
  match s.writeQueue with
  | [] => []
  | write :: _ => (encode write.apdu).toOption.getD []

/-- `transport.read`, of the bytes that are there. -/
def takeApdu (input : Bytes) : Option (Except Exn Apdu × Bytes) :=
  takeMessage getNextApduSize (fun data => do return (← decode data, [])) input

namespace Link

def swap (l : Link) : Link := ⟨l.b, l.a⟩

/-- A step of the first end. -/
def act (cfg : Config) (l : Link) : Action → Option Link
  | .flush =>
    (l.a.conn.step cfg .flush).map fun conn =>
      ⟨{ l.a with conn := conn }, { l.b with input := l.b.input ++ l.a.conn.output }⟩
  | .read =>
    (takeApdu l.a.input).bind fun p =>
      (l.a.conn.step cfg (.read p.1)).map fun conn => ⟨⟨conn, p.2⟩, l.b⟩
  | .inner e =>
    if e.Inner then (l.a.conn.step cfg e).map fun conn => ⟨{ l.a with conn := conn }, l.b⟩
    else none

/-- A step of the second end, or of the first one. -/
def step (cfgA cfgB : Config) (l : Link) : Bool × Action → Option Link
  | (false, action) => l.act cfgA action
  | (true, action) => (l.swap.act cfgB action).map swap

/-- `connect` wrote `STARTDT_ACT` out.  What it reads up to the confirmation has the same effect
here as on the connection that it then creates. -/
def init : Link where
  a := ⟨{ Conn.init true with nextWrite := 1, sent := [⟨0, .APDUU .STARTDT_ACT, 0, 0⟩] }, []⟩
  b := ⟨Conn.init false, (encode (.APDUU .STARTDT_ACT)).toOption.getD []⟩

/-! ### Acknowledgements that are read early -/

/-- Does an acknowledgement cover only frames whose write returned? -/
def Acknowledges (s : Conn) (write : Write) : Prop :=
  write.apdu.ack.isSome → (sentPayloads (s.sent.take write.reads)).length ≤ s.written.length

instance (s : Conn) (write : Write) : Decidable (Acknowledges s write) := by
  unfold Acknowledges
  infer_instance

/-- A frame that is read next acknowledges only frames whose write returned. -/
def PromptOn (x y : Conn) : Action → Prop
  | .read => x.readLoop = .reading → ∀ write ∈ y.sent[x.reads]?, Acknowledges x write
  | _ => True

instance (x y : Conn) (action : Action) : Decidable (PromptOn x y action) := by
  cases action <;> unfold PromptOn <;> infer_instance

def Prompt (l : Link) : Bool × Action → Prop
  | (false, action) => PromptOn l.a.conn l.b.conn action
  | (true, action) => PromptOn l.b.conn l.a.conn action

instance (l : Link) (action : Bool × Action) : Decidable (l.Prompt action) := by
  obtain ⟨second, action⟩ := action
  cases second <;> unfold Prompt <;> infer_instance

/-! ### Invariant -/

/-- The bytes of writes. -/
def bytes (writes : List Write) : Bytes :=
  writes.flatMap fun write => (encode write.apdu).toOption.getD []

variable {cfg cfgA cfgB : Config} {l l' : Link}

/-- What holds of one end, towards the other one. -/
structure SideInv (k : ℕ) (x y : Side) : Prop where
  half : x.conn.Half y.conn.toEnd x.conn.sent x.conn.reads
  numbered : x.conn.Numbered k
  input : x.input = bytes (y.conn.sent.drop x.conn.reads)

def Inv (kA kB : ℕ) (l : Link) : Prop := SideInv kA l.a l.b ∧ SideInv kB l.b l.a

theorem bytes_append (ws vs : List Write) : bytes (ws ++ vs) = bytes ws ++ bytes vs :=
  List.flatMap_append

/-- The next frame is read off the bytes. -/
theorem takeApdu_bytes {write : Write} (hfits : write.apdu.Fits) (writes : List Write) :
    takeApdu (bytes (write :: writes)) = some (.ok write.apdu, bytes writes) := by
  obtain ⟨frame, hencode, hframed, hdecode⟩ := Transport.exists_frame hfits
  have hbytes : bytes (write :: writes) = frame ++ bytes writes := by
    rw [bytes, List.flatMap_cons, hencode]
    rfl
  rw [takeApdu, hbytes, hframed.takeMessage .connectionError, hdecode]
  rfl

theorem acknowledges_iff (s : Conn) (write : Write) :
    Acknowledges s write ↔ s.toEnd.Prompt write.stamped := by
  have hlength : (items (s.toEnd.log.take write.reads)).length =
      (sentPayloads (s.sent.take write.reads)).length := by
    rw [sentPayloads, Conn.toEnd, ← List.map_take, items, List.filterMap_map, ← List.map_filterMap,
      List.length_map]
    rfl
  rw [Acknowledges, ← hlength]
  rfl

theorem getElem?_stamped {y : Conn} {n : ℕ} {write : Write} (h : y.sent[n]? = some write) :
    y.toEnd.log[n]? = some write.stamped := by
  show (y.sent.map Write.stamped)[n]? = _
  rw [List.getElem?_map, h]
  rfl

/-- The other end goes on without a frame. -/
theorem SideInv.peer {k reads : ℕ} {x x' y : Side} (h : SideInv k y x)
    (hx : x'.conn.Half y.conn.toEnd x.conn.sent reads) : SideInv k y x' where
  half := by
    apply h.half.peer hx.joined.symm []
    rw [List.append_nil]
    exact congrArg (List.map Write.stamped) hx.sent_eq
  numbered := h.numbered
  input := by
    rw [hx.sent_eq]
    exact h.input

theorem Inv.flush {kA kB : ℕ} (hk : cfg.sendWindowSize = kA) (h : l.Inv kA kB)
    (hs : l.act cfg .flush = some l') : l'.Inv kA kB := by
  obtain ⟨hx, hy⟩ := h
  obtain ⟨conn, hconn, rfl⟩ := Option.map_eq_some_iff.mp hs
  have hnum : conn.Numbered kA := hk ▸ (hk ▸ hx.numbered).step hconn
  simp only [Conn.step] at hconn
  split at hconn
  · cases hconn
  rename_i write queue hqueue
  split at hconn
  · cases hconn
  obtain rfl := Option.some.inj hconn
  have hhalf := hx.half.flush hqueue
  have houtput : l.a.conn.output = bytes [write] := by
    rw [Conn.output, hqueue, bytes, List.flatMap_singleton]
  constructor
  · exact ⟨hhalf, hnum, hx.input⟩
  · refine ⟨?_, hy.numbered, ?_⟩
    · exact hy.half.peer hhalf.joined.symm [write.stamped] (by simp [Conn.toEnd])
    · have hle : l.b.conn.reads ≤ l.a.conn.sent.length := by
        have hle : l.b.conn.reads ≤ (l.a.conn.sent.map Write.stamped).length :=
          hx.half.joined.1.reads_le
        rwa [List.length_map] at hle
      show l.b.input ++ l.a.conn.output = bytes ((l.a.conn.sent ++ [write]).drop l.b.conn.reads)
      rw [List.drop_append_of_le_length hle, bytes_append, houtput, hy.input]

/-- What is read is the next frame of the other end. -/
theorem SideInv.takeApdu {k k' : ℕ} {x y : Side} (hx : SideInv k x y) (hy : SideInv k' y x)
    {result : Except Exn Apdu} {input : Bytes} (h : takeApdu x.input = some (result, input)) :
    ∃ write, y.conn.sent[x.conn.reads]? = some write ∧ result = .ok write.apdu ∧
      input = bytes (y.conn.sent.drop (x.conn.reads + 1)) := by
  rw [hx.input] at h
  cases hdrop : y.conn.sent.drop x.conn.reads with
  | nil =>
    rw [hdrop] at h
    cases h
  | cons write writes =>
    have hget : y.conn.sent[x.conn.reads]? = some write := by
      rw [← List.head?_drop, hdrop]
      rfl
    have hfits := hy.half.encoded write (List.mem_append_left _ (List.mem_of_getElem? hget))
    rw [hdrop, takeApdu_bytes hfits] at h
    obtain ⟨rfl, rfl⟩ := Prod.mk.inj (Option.some.inj h)
    refine ⟨write, hget, rfl, ?_⟩
    rw [← List.drop_drop, hdrop]
    rfl

theorem Inv.read {kA kB : ℕ} (hk : cfg.sendWindowSize = kA) (hlt : kA < modulus) (h : l.Inv kA kB)
    (hprompt : PromptOn l.a.conn l.b.conn .read) (hs : l.act cfg .read = some l') :
    l'.Inv kA kB := by
  obtain ⟨hx, hy⟩ := h
  obtain ⟨⟨result, input⟩, htake, hs⟩ := Option.bind_eq_some_iff.mp hs
  obtain ⟨conn, hconn, rfl⟩ := Option.map_eq_some_iff.mp hs
  obtain ⟨write, hget, rfl, rfl⟩ := hx.takeApdu hy htake
  have hnum : conn.Numbered kA := hk ▸ (hk ▸ hx.numbered).step hconn
  simp only [Conn.step] at hconn
  split at hconn
  · rename_i hreading
    obtain rfl := Option.some.inj hconn
    have hprompt' := (acknowledges_iff ..).mp (hprompt hreading.1 write hget)
    have hhalf := hx.half.read cfg hx.numbered hlt hreading.1 (getElem?_stamped hget)
      hprompt'
    constructor
    · refine ⟨?_, hnum, ?_⟩
      · rw [show (l.a.conn.processRead cfg (.ok write.apdu)).sent = l.a.conn.sent
            from hhalf.sent_eq,
          show (l.a.conn.processRead cfg (.ok write.apdu)).reads = l.a.conn.reads + 1
            from hhalf.reads_eq]
        exact hhalf
      · show bytes _ = bytes (List.drop (l.a.conn.processRead cfg (.ok write.apdu)).reads _)
        rw [show (l.a.conn.processRead cfg (.ok write.apdu)).reads = l.a.conn.reads + 1
          from hhalf.reads_eq]
    · exact hy.peer hhalf
  · cases hconn

theorem Inv.inner {kA kB : ℕ} (hk : cfg.sendWindowSize = kA) (hlt : kA < modulus) (h : l.Inv kA kB)
    {e : Event} (hs : l.act cfg (.inner e) = some l') : l'.Inv kA kB := by
  obtain ⟨hx, hy⟩ := h
  simp only [act] at hs
  split at hs
  · rename_i hinner
    obtain ⟨conn, hconn, rfl⟩ := Option.map_eq_some_iff.mp hs
    have hhalf := hx.half.step hx.numbered hlt hinner hconn
    have hnum : conn.Numbered kA := hk ▸ (hk ▸ hx.numbered).step hconn
    constructor
    · refine ⟨?_, hnum, ?_⟩
      · rw [show conn.sent = l.a.conn.sent from hhalf.sent_eq,
          show conn.reads = l.a.conn.reads from hhalf.reads_eq]
        exact hhalf
      · show l.a.input = bytes (List.drop conn.reads _)
        rw [show conn.reads = l.a.conn.reads from hhalf.reads_eq]
        exact hx.input
    · exact hy.peer hhalf
  · cases hs

theorem Inv.act {kA kB : ℕ} (hk : cfg.sendWindowSize = kA) (hlt : kA < modulus) (h : l.Inv kA kB)
    {action : Action} (hprompt : PromptOn l.a.conn l.b.conn action)
    (hs : l.act cfg action = some l') : l'.Inv kA kB := by
  cases action with
  | flush => exact h.flush hk hs
  | read => exact h.read hk hlt hprompt hs
  | inner e => exact h.inner hk hlt hs

/-- **Every step keeps what joins the ends**, as long as no acknowledgement is read early. -/
theorem Inv.step (hA : cfgA.sendWindowSize < modulus) (hB : cfgB.sendWindowSize < modulus)
    (h : l.Inv cfgA.sendWindowSize cfgB.sendWindowSize) {action : Bool × Action}
    (hprompt : l.Prompt action) (hs : l.step cfgA cfgB action = some l') :
    l'.Inv cfgA.sendWindowSize cfgB.sendWindowSize := by
  obtain ⟨second, action⟩ := action
  cases second with
  | false => exact h.act rfl hA hprompt hs
  | true =>
    obtain ⟨swapped, hswapped, rfl⟩ := Option.map_eq_some_iff.mp hs
    have hswap : l.swap.Inv cfgB.sendWindowSize cfgA.sendWindowSize := ⟨h.2, h.1⟩
    obtain ⟨hb, ha⟩ := hswap.act rfl hB hprompt hswapped
    exact ⟨ha, hb⟩

/-- Nothing was written but `STARTDT_ACT`, and nothing was read. -/
theorem inv_init (kA kB : ℕ) : init.Inv kA kB := by
  have hinit : Joined modulus (⟨[], [], false, 0, 0, 0, 0⟩ : End Bytes)
      ⟨[], [], false, 0, 0, 0, 0⟩ := Joined.init modulus false
  have hstart : End.Writes (⟨[], [], false, 0, 0, 0, 0⟩ : End Bytes) modulus
      ⟨none, none, 0, 0⟩ :=
    ⟨rfl, rfl, fun _ hack => (by cases hack), fun _ hitem => (by cases hitem)⟩
  have hjoined : Joined modulus init.a.conn.toEnd init.b.conn.toEnd :=
    (hinit.write hstart).flush rfl
  have hfits : (Apdu.APDUU .STARTDT_ACT).Fits := trivial
  have hdelivered : ∀ y : Conn, ∃ rest : List Bytes, rest.length ≤ 1 ∧
      payloads (y.toEnd.log.take 0) = [] ++ rest ∧
      (ReadLoop.reading ≠ .finished → rest = ReadLoop.reading.putData) := fun _ =>
    ⟨[], Nat.zero_le 1, rfl, fun _ => rfl⟩
  constructor
  · refine ⟨?_, Conn.numbered_init kA true, rfl⟩
    exact
      { sent_eq := rfl
        reads_eq := rfl
        joined := hjoined
        ssn_eq := rfl
        rsn_eq := rfl
        encoded := fun write hmem => by
          rw [List.mem_singleton.mp hmem]
          exact hfits
        written_eq := rfl
        writing := fun _ _ hloop => by cases hloop
        reader := fun _ hwrite => by cases hwrite
        tester := fun _ hwrite => by cases hwrite
        supervisory := fun _ hmem => by cases hmem
        delivered := hdelivered init.b.conn
        benign := fun _ hmem => by cases hmem }
  · refine ⟨?_, Conn.numbered_init kB false, ?_⟩
    · exact
        { sent_eq := rfl
          reads_eq := rfl
          joined := hjoined.symm
          ssn_eq := rfl
          rsn_eq := rfl
          encoded := fun _ hmem => by cases hmem
          written_eq := rfl
          writing := fun _ _ hloop => by cases hloop
          reader := fun _ hwrite => by cases hwrite
          tester := fun _ hwrite => by cases hwrite
          supervisory := fun _ hmem => by cases hmem
          delivered := hdelivered init.a.conn
          benign := fun _ hmem => by cases hmem }
    · show _ = bytes [⟨0, .APDUU .STARTDT_ACT, 0, 0⟩]
      rw [bytes, List.flatMap_singleton]
      rfl

/-! ### Runs -/

/-- Neither end found a sequence number that is missing, an acknowledgement of a frame that was
not sent, or a number that is still in use. -/
def Safe (l : Link) : Prop := ∀ e ∈ l.a.conn.errors ++ l.b.conn.errors, e ∉ sequenceErrors

theorem Inv.safe {kA kB : ℕ} (h : l.Inv kA kB) : l.Safe := by
  intro e he
  rcases List.mem_append.mp he with he | he
  · exact h.1.half.benign e he
  · exact h.2.half.benign e he

/-- An acknowledgement that is read early ends the read loop. -/
theorem Inv.refused (cfg : Config) {kA kB : ℕ} (hlt : kA + 1 < modulus) (h : l.Inv kA kB)
    {action : Action}
    (hearly : ¬ PromptOn l.a.conn l.b.conn action) :
    ∃ l', l.act cfg action = some l' ∧
      .exception "received ack for unsent sequence number" ∈ l'.a.conn.errors := by
  obtain ⟨hx, hy⟩ := h
  cases action with
  | flush | inner e => exact absurd trivial hearly
  | read =>
    obtain ⟨hreading, hearly⟩ := Classical.not_imp.mp hearly
    push Not at hearly
    obtain ⟨write, hget, hearly⟩ := hearly
    rw [acknowledges_iff] at hearly
    have hfits := hy.half.encoded write (List.mem_append_left _ (List.mem_of_getElem? hget))
    have hrange : Read (.ok write.apdu) := by
      obtain ⟨frame, -, -, hdecode⟩ := Transport.exists_frame hfits
      exact decode_inRange hdecode
    obtain ⟨hlen, hgetElem⟩ := List.getElem?_eq_some_iff.mp hget
    have htake := takeApdu_bytes hfits (l.b.conn.sent.drop (l.a.conn.reads + 1))
    rw [← hgetElem, List.getElem_cons_drop, ← hx.input, hgetElem] at htake
    refine ⟨⟨⟨l.a.conn.processRead cfg (.ok write.apdu),
      bytes (l.b.conn.sent.drop (l.a.conn.reads + 1))⟩, l.b⟩, ?_, ?_⟩
    · simp only [Link.act, htake, Option.bind_some, Conn.step, hreading, hrange, and_self, if_true,
        Option.map_some]
    · exact hx.half.refused cfg hx.numbered hlt hreading (getElem?_stamped hget) hearly

/-- What an end has of the other one: payloads in its receive queue, and acknowledgements. -/
structure Exact (x y : Conn) : Prop where
  /-- but for at most one payload, which was read and not put yet -/
  delivered : ∃ rest, rest.length ≤ 1 ∧ (x.readLoop = .reading → rest = []) ∧
    (sentPayloads (y.sent.take x.reads)).filter (· ≠ []) = x.delivered ++ rest
  written : x.written <+: sentPayloads x.sent
  received : x.received = (sentPayloads (y.sent.take x.reads)).length
  covered : x.covered ≤ y.received

theorem SideInv.exact {k : ℕ} {x y : Side} (h : SideInv k x y) : Exact x.conn y.conn := by
  have hitems : ∀ s : Conn, (items s.toEnd.log).map Prod.snd = sentPayloads s.sent := by
    intro s
    rw [Conn.toEnd, items, sentPayloads, List.filterMap_map, List.map_filterMap]
    rfl
  have htake : ∀ (s : Conn) (n : ℕ), items (s.toEnd.log.take n) =
      (s.sent.take n).filterMap fun write => write.apdu.item := by
    intro s n
    rw [Conn.toEnd, items, ← List.map_take, List.filterMap_map]
    rfl
  refine ⟨?_, ?_, ?_, h.half.joined.1.covered_le_received⟩
  · obtain ⟨rest, hlength, hrest, hput⟩ := h.half.delivered
    refine ⟨rest, hlength, fun hreading => ?_, ?_⟩
    · rw [hput (by simp [hreading]), hreading]
      rfl
    · rw [← hrest, ← payloads_stamped, List.map_take]
      rfl
  · rw [h.half.written_eq, hitems]
    exact List.take_prefix ..
  · have hreceived := h.half.joined.2.received_eq
    rw [htake] at hreceived
    rw [sentPayloads, ← List.map_filterMap, List.length_map]
    exact hreceived

theorem exact_of_run (hA : cfgA.sendWindowSize < modulus) (hB : cfgB.sendWindowSize < modulus)
    {actions : List (Bool × Action)} (hprompt : Along (step cfgA cfgB) Prompt init actions)
    (hrun : run (step cfgA cfgB) init actions = some l) :
    Exact l.a.conn l.b.conn ∧ Exact l.b.conn l.a.conn := by
  have hinv : l.Inv cfgA.sendWindowSize cfgB.sendWindowSize :=
    run_invariant _ (fun _ _ _ h hc hs => h.step hA hB hc hs) (inv_init _ _) hprompt hrun
  exact ⟨hinv.1.exact, hinv.2.exact⟩

/-- **Delivery.**  In a run without an acknowledgement that is read early, an end puts the payloads
of the other one in its receive queue in the order in which they were written, each once, and what
it takes for acknowledged was received by the other one. -/
theorem payloads_delivered (hA : cfgA.sendWindowSize < modulus)
    (hB : cfgB.sendWindowSize < modulus) {actions : List (Bool × Action)}
    (hprompt : Along (step cfgA cfgB) Prompt init actions)
    (hrun : run (step cfgA cfgB) init actions = some l) :
    Exact l.a.conn l.b.conn ∧ Exact l.b.conn l.a.conn :=
  exact_of_run hA hB hprompt hrun

/-! ### Confirmed calls -/

/-- Does no task of the end take its frame for acknowledged because the write loop ended? -/
def ConfirmsOn (s : Conn) : Action → Prop
  | .inner e => s.Confirms e
  | _ => True

instance (s : Conn) (action : Action) : Decidable (ConfirmsOn s action) := by
  cases action <;> unfold ConfirmsOn <;> infer_instance

def Confirms (l : Link) : Bool × Action → Prop
  | (false, action) => ConfirmsOn l.a.conn action
  | (true, action) => ConfirmsOn l.b.conn action

instance (l : Link) (action : Bool × Action) : Decidable (l.Confirms action) := by
  obtain ⟨second, action⟩ := action
  cases second <;> unfold Confirms <;> infer_instance

def Trusted (kA kB : ℕ) (l : Link) : Prop := l.a.conn.Trusted kA ∧ l.b.conn.Trusted kB

theorem Trusted.act {kB : ℕ} (h : l.Trusted cfg.sendWindowSize kB) {action : Action}
    (hc : ConfirmsOn l.a.conn action) (hs : l.act cfg action = some l') :
    l'.Trusted cfg.sendWindowSize kB := by
  cases action with
  | flush =>
    obtain ⟨conn, hconn, rfl⟩ := Option.map_eq_some_iff.mp hs
    exact ⟨h.1.step (e := .flush) trivial hconn, h.2⟩
  | read =>
    obtain ⟨⟨result, input⟩, -, hs⟩ := Option.bind_eq_some_iff.mp hs
    obtain ⟨conn, hconn, rfl⟩ := Option.map_eq_some_iff.mp hs
    exact ⟨h.1.step (e := .read result) trivial hconn, h.2⟩
  | inner e =>
    simp only [Link.act] at hs
    split at hs
    · obtain ⟨conn, hconn, rfl⟩ := Option.map_eq_some_iff.mp hs
      exact ⟨h.1.step hc hconn, h.2⟩
    · cases hs

theorem Trusted.step (h : l.Trusted cfgA.sendWindowSize cfgB.sendWindowSize)
    {action : Bool × Action} (hc : l.Confirms action) (hs : l.step cfgA cfgB action = some l') :
    l'.Trusted cfgA.sendWindowSize cfgB.sendWindowSize := by
  obtain ⟨second, action⟩ := action
  cases second with
  | false => exact h.act hc hs
  | true =>
    obtain ⟨swapped, hswapped, rfl⟩ := Option.map_eq_some_iff.mp hs
    have hswap : l.swap.Trusted cfgB.sendWindowSize cfgA.sendWindowSize := ⟨h.2, h.1⟩
    obtain ⟨hb, ha⟩ := hswap.act hc hswapped
    exact ⟨ha, hb⟩

/-- The data of confirmed calls of `send` that returned is among what the other end received. -/
def Received (x y : Conn) : Prop :=
  ∀ (i : ℕ) (call : Call) (data : Bytes), x.calls[i]? = some call → call.waitAck = true →
    call.state = .returned → call.data = some data →
    ∃ n < y.received, (sentPayloads (x.sent.take y.reads))[n]? = some data

theorem Exact.calls {x y : Conn} (hx : Exact x y) (hy : Exact y x) (hhonest : x.Honest) :
    Received x y := by
  intro i call data hcall hwait hstate hdata
  obtain ⟨mark, hle, -, -, hlast⟩ := hhonest i call hcall hwait hstate
  obtain ⟨hpos, hget⟩ := hlast data hdata
  have hlt : mark - 1 < (sentPayloads (x.sent.take y.reads)).length := by
    have hcovered := hx.covered
    have hreceived := hy.received
    omega
  have htake : sentPayloads (x.sent.take y.reads) <+: sentPayloads x.sent :=
    (List.take_prefix ..).filterMap _
  have hsent : (sentPayloads x.sent)[mark - 1]? = some data := by
    obtain ⟨hwritten, rfl⟩ := List.getElem?_eq_some_iff.mp hget
    exact List.prefix_iff_getElem?.mp hx.written _ hwritten
  refine ⟨mark - 1, hy.received ▸ hlt, ?_⟩
  rw [List.getElem?_eq_getElem hlt, ← List.prefix_iff_getElem?.mp htake _ hlt]
  exact hsent

/-- An end writes a payload out. -/
def sending (second : Bool) (call : ℕ) (data : Bytes) : List (Bool × Action) :=
  [.inner (.call (some data) false), .inner (.put call), .inner (.resume .writeLoop), .flush].map
    (second, ·)

/-- Transfer is started, and a payload goes each way. -/
def exchange : List (Bool × Action) :=
  [(true, .read), (true, .flush), (true, .inner (.resume .readLoop)), (false, .read)] ++
    sending false 0 [7] ++ [(false, .inner (.resume .writeLoop)), (true, .read)] ++
    sending true 0 [8] ++ [(true, .inner (.resume .writeLoop)), (false, .read)]

/-- The acknowledgement of the first payload is read before its write returns. -/
def early : List (Bool × Action) :=
  [(true, .read), (true, .flush), (true, .inner (.resume .readLoop)), (false, .read)] ++
    sending false 0 [7] ++ [(true, .read)] ++ sending true 0 [8] ++ [(false, .read)]

instance (l : Link) : Decidable l.Safe := by
  unfold Safe
  infer_instance

/-- Each end has the payload of the other one. -/
theorem payloads_delivered_exchange :
    let cfg : Config := ⟨true, 12, 8, 1024, 1024⟩
    ∃ l, run (step cfg cfg) init exchange = some l ∧
      (l.a.conn.delivered, l.b.conn.delivered, l.a.conn.covered) = ([[8]], [[7]], 1) ∧
      Exact l.a.conn l.b.conn ∧ Exact l.b.conn l.a.conn := by
  intro cfg
  have hk : cfg.sendWindowSize < modulus := by decide
  have hprompt : Along (step cfg cfg) Prompt init exchange := by decide
  obtain ⟨l, hrun, hview⟩ := Option.map_eq_some_iff.mp
    (show (run (step cfg cfg) init exchange).map
      (fun l => (l.a.conn.delivered, l.b.conn.delivered, l.a.conn.covered)) =
        some ([[8]], [[7]], 1) by decide)
  exact ⟨l, hrun, hview, payloads_delivered hk hk hprompt hrun⟩

end Link

end HatDrivers.Iec60870.Apci
