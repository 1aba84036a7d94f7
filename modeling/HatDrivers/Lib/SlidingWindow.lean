import Mathlib.Data.List.Range
import Mathlib.Data.List.TakeDrop
import Mathlib.Tactic.Common

namespace HatDrivers.Lib.SlidingWindow

/-!
# Stamped items between two ends

Each of two ends writes frames to a lossless stream, in order.  A frame may carry an item, under
its number modulo `m`, and may acknowledge the items that its end received so far, by their
number modulo `m`.  An end has at most one item on its way whose write did not return
(`End.pending`).

`OneWay m x y` is what holds of the items that go from `x` to `y` and of the acknowledgements that
come back, whatever steps the ends take in whatever order: the next item that is read is the next
one that was written (`OneWay.next_item`), and an acknowledgement covers what an earlier one
covered and nothing that was not written (`OneWay.next_ack`).  The one assumption is that an end
does not read the acknowledgement of an item before its own write of it returned.
-/

variable {α : Type}

/-- A frame, with the number of frames its end had read, and of items it had received. -/
structure Stamped (α : Type) where
  item : Option (ℕ × α)
  ack : Option ℕ
  reads : ℕ
  received : ℕ

structure End (α : Type) where
  /-- on the stream -/
  log : List (Stamped α)
  /-- on the way to the stream -/
  queue : List (Stamped α)
  /-- may an item be written whose write did not return? -/
  pending : Bool
  /-- items whose write returned -/
  completed : ℕ
  /-- items that are acknowledged -/
  covered : ℕ
  reads : ℕ
  received : ℕ

/-- The items of frames, with their numbers. -/
def items (frames : List (Stamped α)) : List (ℕ × α) := frames.filterMap Stamped.item

@[simp] theorem items_nil : items ([] : List (Stamped α)) = [] := rfl

theorem items_append (fs gs : List (Stamped α)) : items (fs ++ gs) = items fs ++ items gs :=
  List.filterMap_append

theorem items_singleton (f : Stamped α) : items [f] = f.item.toList := by
  cases h : f.item <;> simp [items, h]

theorem length_items_take_le (fs : List (Stamped α)) {i j : ℕ} (h : i ≤ j) :
    (items (fs.take i)).length ≤ (items (fs.take j)).length :=
  (((List.take_sublist_take_left h).filterMap _).length_le)

namespace End

variable (x : End α)

/-- All its frames. -/
def frames : List (Stamped α) := x.log ++ x.queue

/-! ### Steps -/

/-- May a frame be written now? -/
structure Writes (m : ℕ) (f : Stamped α) : Prop where
  reads : f.reads = x.reads
  received : f.received = x.received
  ack : ∀ n, f.ack = some n → n = x.received % m
  item : ∀ p, f.item = some p → x.pending = false ∧ p.1 = x.completed % m

def write (f : Stamped α) : End α :=
  { x with queue := x.queue ++ [f], pending := x.pending || f.item.isSome }

/-- The first frame of the queue goes to the stream. -/
def flush (f : Stamped α) (queue : List (Stamped α)) : End α :=
  { x with log := x.log ++ [f], queue := queue }

/-- The write of an item returns. -/
def complete : End α := { x with pending := false, completed := x.completed + 1 }

/-- Frames that are not on the stream are dropped. -/
def drop (queue : List (Stamped α)) : End α := { x with queue := queue }

/-- A frame of the other end is read. -/
def read (f : Stamped α) : End α :=
  { x with
    reads := x.reads + 1
    received := x.received + f.item.toList.length
    covered := if f.ack.isSome then f.received else x.covered }

/-- Does a frame of the other end acknowledge no item that is pending? -/
def Prompt (f : Stamped α) : Prop :=
  f.ack.isSome → (items (x.log.take f.reads)).length ≤ x.completed

end End

/-! ### One way -/

/-- The items of `x`, what `y` received of them, and what `x` knows of that. -/
structure OneWay (m : ℕ) (x y : End α) : Prop where
  numbers : (items x.frames).map Prod.fst = (List.range (items x.frames).length).map (· % m)
  completed_le : x.completed ≤ (items x.log).length
  le_completed : (items x.frames).length ≤ x.completed + 1
  eq_completed : x.pending = false → (items x.frames).length = x.completed
  reads_le : y.reads ≤ x.log.length
  received_eq : y.received = (items (x.log.take y.reads)).length
  acks : ∀ f ∈ y.frames, f.reads ≤ y.reads ∧ f.received = (items (x.log.take f.reads)).length ∧
    ∀ n, f.ack = some n → n = f.received % m
  sorted : y.frames.Pairwise fun f g => f.reads ≤ g.reads
  covered_le : x.covered ≤ x.completed
  covered_le_received : x.covered ≤ y.received
  covered_le_acks : ∀ f ∈ y.log.drop x.reads ++ y.queue, x.covered ≤ f.received

/-- Both ways. -/
def Joined (m : ℕ) (x y : End α) : Prop := OneWay m x y ∧ OneWay m y x

variable {m : ℕ} {x y : End α} {f : Stamped α} {queue : List (Stamped α)}

theorem Joined.symm (h : Joined m x y) : Joined m y x := ⟨h.2, h.1⟩

namespace OneWay

theorem frames_eq_append (x : End α) : items x.frames = items x.log ++ items x.queue :=
  items_append ..

/-- At most one item is not on the stream. -/
theorem length_items_queue_le (h : OneWay m x y) : (items x.queue).length ≤ 1 := by
  have hle := h.le_completed
  have hge := h.completed_le
  rw [frames_eq_append, List.length_append] at hle
  omega

/-- **The next item**: its number is the number of items that were received, modulo `m`. -/
theorem next_item (h : OneWay m x y) (hf : x.log[y.reads]? = some f) {p : ℕ × α}
    (hp : f.item = some p) : p.1 = y.received % m := by
  obtain ⟨hlt, hget⟩ := List.getElem?_eq_some_iff.mp hf
  have hsplit : x.log = x.log.take y.reads ++ f :: x.log.drop (y.reads + 1) := by
    rw [← hget, List.getElem_cons_drop, List.take_append_drop]
  have hitems : items x.frames = items (x.log.take y.reads) ++
      p :: (items (x.log.drop (y.reads + 1)) ++ items x.queue) := by
    rw [frames_eq_append]
    conv_lhs => rw [hsplit]
    rw [items_append, items, items, items, List.filterMap_cons, hp, List.append_assoc]
    rfl
  have hnumber := congrArg (·[y.received]?) h.numbers
  simp only [hitems, List.getElem?_map, h.received_eq, List.getElem?_append_right (Nat.le_refl _),
    Nat.sub_self, List.getElem?_cons_zero, Option.map_some] at hnumber
  rw [List.getElem?_range (by simp)] at hnumber
  rw [h.received_eq]
  exact Option.some.inj hnumber

/-- **The next acknowledgement** covers what was covered, and only what was completed. -/
theorem next_ack (h : OneWay m x y) (hf : y.log[x.reads]? = some f) (hprompt : x.Prompt f) :
    x.covered ≤ f.received ∧ ∀ n, f.ack = some n → n = f.received % m ∧
      f.received ≤ x.completed := by
  have hmem : f ∈ y.log := List.mem_of_getElem? hf
  obtain ⟨-, hreceived, hack⟩ := h.acks f (List.mem_append_left _ hmem)
  refine ⟨?_, fun n hn => ⟨hack n hn, hreceived ▸ hprompt (by rw [hn]; rfl)⟩⟩
  apply h.covered_le_acks f (List.mem_append_left _ _)
  obtain ⟨hlt, hget⟩ := List.getElem?_eq_some_iff.mp hf
  rw [← hget, ← List.getElem_cons_drop hlt]
  exact List.mem_cons_self

end OneWay

/-! ### Steps of the end that the items come from -/

namespace OneWay

theorem write_left (h : OneWay m x y) (hw : x.Writes m f) : OneWay m (x.write f) y := by
  have hframes : items (x.write f).frames = items x.frames ++ f.item.toList := by
    rw [← items_singleton, ← items_append, End.frames, End.frames, List.append_assoc]
    rfl
  cases hitem : f.item with
  | none =>
    have heq : items (x.write f).frames = items x.frames := by
      rw [hframes, hitem]
      exact List.append_nil _
    exact { h with
      numbers := heq ▸ h.numbers
      le_completed := heq ▸ h.le_completed
      eq_completed := by
        intro hpending
        rw [heq]
        apply h.eq_completed
        simpa [End.write, hitem] using hpending }
  | some p =>
    obtain ⟨hpending, hnumber⟩ := hw.item p hitem
    have hlength := h.eq_completed hpending
    have heq : items (x.write f).frames = items x.frames ++ [p] := by rw [hframes, hitem]; rfl
    exact { h with
      numbers := by
        rw [heq, List.map_append, h.numbers, List.length_append, List.length_singleton,
          List.range_succ, List.map_append, hlength]
        simp [hnumber]
      le_completed := by
        rw [heq, List.length_append, hlength]
        exact Nat.le_refl _
      eq_completed := by
        intro hfalse
        simp [End.write, hitem] at hfalse }

theorem flush_left (h : OneWay m x y) (hq : x.queue = f :: queue) :
    OneWay m (x.flush f queue) y := by
  have hframes : (x.flush f queue).frames = x.frames := by
    simp [End.flush, End.frames, hq]
  have htake : ∀ {n : ℕ}, n ≤ y.reads → (x.log ++ [f]).take n = x.log.take n := fun hn =>
    List.take_append_of_le_length (hn.trans h.reads_le)
  exact { h with
    numbers := hframes ▸ h.numbers
    completed_le := by
      show x.completed ≤ (items (x.log ++ [f])).length
      rw [items_append, List.length_append]
      exact Nat.le_add_right_of_le h.completed_le
    le_completed := hframes ▸ h.le_completed
    eq_completed := hframes ▸ h.eq_completed
    reads_le := by
      show y.reads ≤ (x.log ++ [f]).length
      rw [List.length_append]
      exact Nat.le_add_right_of_le h.reads_le
    received_eq := by
      show y.received = (items ((x.log ++ [f]).take y.reads)).length
      rw [htake (Nat.le_refl _)]
      exact h.received_eq
    acks := by
      intro g hg
      obtain ⟨hle, hreceived, hack⟩ := h.acks g hg
      refine ⟨hle, ?_, hack⟩
      show g.received = (items ((x.log ++ [f]).take g.reads)).length
      rw [htake hle]
      exact hreceived }

theorem complete_left (h : OneWay m x y) (hlog : (items x.log).length = x.completed + 1) :
    OneWay m x.complete y := by
  have hlength : (items x.frames).length = x.completed + 1 := by
    have hle := h.le_completed
    have heq := congrArg List.length (frames_eq_append x)
    rw [List.length_append] at heq
    omega
  exact { h with
    completed_le := Nat.le_of_eq hlog.symm
    le_completed := by
      show (items x.frames).length ≤ x.completed + 1 + 1
      omega
    eq_completed := fun _ => hlength
    covered_le := Nat.le_succ_of_le h.covered_le }

theorem drop_left (h : OneWay m x y) (hq : queue.Sublist x.queue)
    (hpending : items queue = items x.queue ∨ x.pending = true) : OneWay m (x.drop queue) y := by
  have hframes : items (x.drop queue).frames = items x.log ++ items queue := frames_eq_append _
  have hqueue : items queue = items x.queue ∨ items queue = [] := by
    have hsub : (items queue).Sublist (items x.queue) := hq.filterMap _
    have hle := h.length_items_queue_le
    rcases Nat.lt_or_ge (items queue).length (items x.queue).length with hlt | hge
    · right
      apply List.eq_nil_of_length_eq_zero
      omega
    · exact .inl (hsub.eq_of_length_le hge)
  have hle := h.le_completed
  have heq := frames_eq_append x
  rcases hqueue with hitems | hitems
  · have hsame : items (x.drop queue).frames = items x.frames := by rw [hframes, hitems, heq]
    exact { h with
      numbers := hsame ▸ h.numbers
      le_completed := hsame ▸ h.le_completed
      eq_completed := hsame ▸ h.eq_completed }
  · have hlog : items (x.drop queue).frames = items x.log := by
      rw [hframes, hitems, List.append_nil]
    have hnumbers : (items x.log).map Prod.fst =
        (List.range (items x.log).length).map (· % m) := by
      have hall := congrArg (List.take (items x.log).length) h.numbers
      rw [heq, List.map_append, List.take_left' (List.length_map _), ← List.map_take,
        List.take_range, List.length_append, Nat.min_eq_left (Nat.le_add_right _ _)] at hall
      exact hall
    exact { h with
      numbers := hlog ▸ hnumbers
      le_completed := by
        show (items (x.drop queue).frames).length ≤ x.completed + 1
        rw [hlog]
        rw [heq, List.length_append] at hle
        omega
      eq_completed := by
        intro hfalse
        show (items (x.drop queue).frames).length = x.completed
        rcases hpending with hsame | htrue
        · rw [hlog, ← h.eq_completed hfalse, heq, ← hsame, hitems, List.append_nil]
        · exact absurd (htrue.symm.trans hfalse) (by simp) }

/-- An item may always be taken for pending. -/
theorem pending_left (h : OneWay m x y) : OneWay m { x with pending := true } y :=
  { h with eq_completed := by simp }

/-- An acknowledgement is read. -/
theorem read_left (h : OneWay m x y) (hf : y.log[x.reads]? = some f) (hprompt : x.Prompt f) :
    OneWay m (x.read f) y := by
  obtain ⟨hle, hack⟩ := h.next_ack hf hprompt
  obtain ⟨hlt, hget⟩ := List.getElem?_eq_some_iff.mp hf
  have hdrop : y.log.drop x.reads = f :: y.log.drop (x.reads + 1) := by
    rw [← hget, List.getElem_cons_drop]
  obtain ⟨hreads, hreceived, -⟩ := h.acks f (List.mem_append_left _ (List.mem_of_getElem? hf))
  have hlater : ∀ g ∈ y.log.drop (x.reads + 1) ++ y.queue, f.received ≤ g.received := by
    intro g hg
    have hframes : y.frames = y.log.take x.reads ++
        (f :: (y.log.drop (x.reads + 1) ++ y.queue)) := by
      rw [End.frames, ← List.cons_append, ← hdrop, ← List.append_assoc, List.take_append_drop]
    have hsorted := h.sorted
    rw [hframes, List.pairwise_append] at hsorted
    have hle' : f.reads ≤ g.reads := (List.pairwise_cons.mp hsorted.2.1).1 g hg
    have hmem : g ∈ y.frames := by
      rw [hframes]
      exact List.mem_append_right _ (List.mem_cons_of_mem _ hg)
    obtain ⟨-, hg', -⟩ := h.acks g hmem
    rw [hreceived, hg']
    exact length_items_take_le _ hle'
  have hof : ∀ g ∈ y.log.drop (x.reads + 1) ++ y.queue, x.covered ≤ g.received := by
    intro g hg
    apply h.covered_le_acks
    rw [hdrop]
    exact List.mem_cons_of_mem _ hg
  have hreceived' : f.received ≤ y.received := by
    rw [hreceived, h.received_eq]
    exact length_items_take_le _ hreads
  refine { h with covered_le := ?_, covered_le_received := ?_, covered_le_acks := ?_ }
  · show (if f.ack.isSome then f.received else x.covered) ≤ x.completed
    split
    · rename_i hsome
      obtain ⟨n, hn⟩ := Option.isSome_iff_exists.mp hsome
      exact (hack n hn).2
    · exact h.covered_le
  · show (if f.ack.isSome then f.received else x.covered) ≤ y.received
    split
    · exact hreceived'
    · exact h.covered_le_received
  · intro g hg
    show (if f.ack.isSome then f.received else x.covered) ≤ g.received
    split
    · exact hlater g hg
    · exact hof g hg

/-! ### Steps of the end that the items go to -/

theorem write_right (h : OneWay m x y) (hw : y.Writes m f) : OneWay m x (y.write f) := by
  have hframes : (y.write f).frames = y.frames ++ [f] := by
    simp [End.write, End.frames]
  have hreceived : f.received = y.received := hw.received
  exact { h with
    acks := by
      intro g hg
      rw [hframes] at hg
      rcases List.mem_append.mp hg with hg | hg
      · exact h.acks g hg
      · obtain rfl := List.mem_singleton.mp hg
        refine ⟨Nat.le_of_eq hw.reads, ?_, fun n hn => ?_⟩
        · rw [hreceived, hw.reads]
          exact h.received_eq
        · rw [hreceived]
          exact hw.ack n hn
    sorted := by
      rw [hframes, List.pairwise_append]
      refine ⟨h.sorted, List.pairwise_singleton _ _, fun g hg g' hg' => ?_⟩
      obtain rfl := List.mem_singleton.mp hg'
      rw [hw.reads]
      exact (h.acks g hg).1
    covered_le_acks := by
      intro g hg
      have hg' : g ∈ (y.log.drop x.reads ++ y.queue) ++ [f] := by
        rw [List.append_assoc]
        exact hg
      rcases List.mem_append.mp hg' with hg' | hg'
      · exact h.covered_le_acks g hg'
      · obtain rfl := List.mem_singleton.mp hg'
        rw [hreceived]
        exact h.covered_le_received }

theorem flush_right (h : OneWay m x y) (hreads : x.reads ≤ y.log.length)
    (hq : y.queue = f :: queue) : OneWay m x (y.flush f queue) := by
  have hframes : (y.flush f queue).frames = y.frames := by
    simp [End.flush, End.frames, hq]
  exact { h with
    acks := hframes ▸ h.acks
    sorted := hframes ▸ h.sorted
    covered_le_acks := by
      intro g hg
      apply h.covered_le_acks
      have hdrop : (y.log ++ [f]).drop x.reads ++ queue = y.log.drop x.reads ++ y.queue := by
        rw [List.drop_append_of_le_length hreads, List.append_assoc, hq]
        rfl
      rw [← hdrop]
      exact hg }

theorem drop_right (h : OneWay m x y) (hq : queue.Sublist y.queue) : OneWay m x (y.drop queue) := by
  have hframes : (y.drop queue).frames.Sublist y.frames := (List.Sublist.refl _).append hq
  exact { h with
    acks := fun g hg => h.acks g (hframes.subset hg)
    sorted := h.sorted.sublist hframes
    covered_le_acks := fun g hg =>
      h.covered_le_acks g (((List.Sublist.refl _).append hq).subset hg) }

/-- An item is read. -/
theorem read_right (h : OneWay m x y) (hf : x.log[y.reads]? = some f) :
    OneWay m x (y.read f) := by
  obtain ⟨hlt, hget⟩ := List.getElem?_eq_some_iff.mp hf
  exact { h with
    reads_le := hlt
    received_eq := by
      show y.received + f.item.toList.length = (items (x.log.take (y.reads + 1))).length
      rw [List.take_succ_eq_append_getElem hlt, items_append, hget, items_singleton,
        List.length_append, ← h.received_eq]
    acks := fun g hg => ⟨Nat.le_succ_of_le (h.acks g hg).1, (h.acks g hg).2⟩
    covered_le_received := Nat.le_add_right_of_le h.covered_le_received }

end OneWay

/-! ### Steps of one end -/

namespace Joined

/-- Two ends that wrote nothing. -/
theorem init (m : ℕ) (pending : Bool) :
    Joined m (⟨[], [], pending, 0, 0, 0, 0⟩ : End α) ⟨[], [], pending, 0, 0, 0, 0⟩ := by
  have h : OneWay m (⟨[], [], pending, 0, 0, 0, 0⟩ : End α) ⟨[], [], pending, 0, 0, 0, 0⟩ :=
    ⟨rfl, Nat.le_refl 0, Nat.zero_le _, fun _ => rfl, Nat.le_refl 0, rfl, by simp [End.frames],
      List.Pairwise.nil, Nat.le_refl 0, Nat.le_refl 0, by simp⟩
  exact ⟨h, h⟩

theorem write (h : Joined m x y) (hw : x.Writes m f) : Joined m (x.write f) y :=
  ⟨h.1.write_left hw, h.2.write_right hw⟩

theorem flush (h : Joined m x y) (hq : x.queue = f :: queue) : Joined m (x.flush f queue) y :=
  ⟨h.1.flush_left hq, h.2.flush_right h.1.reads_le hq⟩

theorem complete (h : Joined m x y) (hlog : (items x.log).length = x.completed + 1) :
    Joined m x.complete y :=
  ⟨h.1.complete_left hlog, { h.2 with }⟩

theorem drop (h : Joined m x y) (hq : queue.Sublist x.queue)
    (hpending : items queue = items x.queue ∨ x.pending = true) : Joined m (x.drop queue) y :=
  ⟨h.1.drop_left hq hpending, h.2.drop_right hq⟩

theorem pending (h : Joined m x y) : Joined m { x with pending := true } y :=
  ⟨h.1.pending_left, { h.2 with }⟩

theorem read (h : Joined m x y) (hf : y.log[x.reads]? = some f) (hprompt : x.Prompt f) :
    Joined m (x.read f) y :=
  ⟨h.1.read_left hf hprompt, h.2.read_right hf⟩

end Joined

end HatDrivers.Lib.SlidingWindow
