import HatDrivers.Iec61850.Manager.Data
import Mathlib.Data.List.Perm.Basic

namespace HatDrivers.Iec61850.Manager

open HatDrivers.Lib

/-!
# IEC 61850 — members of structured values

The templates of a value attribute make a tree of members (`memberOf`).  `_get_data_conf` yields an
entry for the attribute and goes on with its members, but where it ends a loop or changes its
variables members are left out or get the path of others (`Reads`).  It reads out all of them just if
every structure has one member to be read (`getDataConf_reads_members_iff`).
-/

/-! ### Enough fuel -/

section
variable {rootEl : Element}

/-- A sequence of calls does what it did if none of the calls is the one that failed. -/
theorem mapM_congr_of_ne {ε α β : Type} {e : ε} {f g : α → Except ε β} {as : List α}
    (h : ∀ a ∈ as, f a ≠ .error e → g a = f a) (hne : as.mapM f ≠ .error e) :
    as.mapM g = as.mapM f := by
  induction as with
  | nil => rfl
  | cons a as ih =>
    obtain ⟨ha, hrest⟩ := List.forall_mem_cons.mp h
    rw [List.mapM_cons] at hne
    rw [List.mapM_cons, List.mapM_cons]
    cases hf : f a with
    | error e' =>
      rw [hf, error_bind] at hne
      rw [ha (by rw [hf]; simpa using hne), hf]
      rfl
    | ok b =>
      have hne' : as.mapM f ≠ .error e := by
        intro has
        rw [hf, ok_bind, has] at hne
        exact hne rfl
      rw [ha (by rw [hf]; simp), hf, ok_bind, ok_bind, ih hrest hne']

theorem mapM_ne_error {ε α β : Type} {e : ε} {f : α → Except ε β} {as : List α}
    (h : ∀ a ∈ as, f a ≠ .error e) : as.mapM f ≠ .error e := by
  induction as with
  | nil => simp [pure, Except.pure]
  | cons a as ih =>
    obtain ⟨ha, hrest⟩ := List.forall_mem_cons.mp h
    rw [List.mapM_cons]
    cases hf : f a with
    | error e' =>
      rw [hf] at ha
      rw [error_bind]
      simpa using ha
    | ok b =>
      rw [ok_bind]
      cases hm : as.mapM f with
      | error e' =>
        have := ih hrest
        rw [hm] at this
        exact this
      | ok bs => simp [pure, Except.pure]

theorem parseInt_ne_recursionError (s : List Char) : parseInt s ≠ .error .recursionError := by
  have hdigits : ∀ s, parseDigits s ≠ .error .recursionError := by
    intro s
    unfold parseDigits
    split <;> simp
  unfold parseInt
  split
  all_goals
    cases h : parseDigits _ with
    | ok n => simp [pure, Except.pure]
    | error e =>
      intro he
      exact hdigits _ (h.trans (congrArg _ (Except.error.inj he)))

/-- More fuel changes nothing about a call that ended. -/
theorem getValueType_mono {fuel fuel' : ℕ} {nodeEl : Element} {isArrayElement : Bool}
    (hle : fuel ≤ fuel')
    (h : getValueType rootEl fuel nodeEl isArrayElement ≠ .error .recursionError) :
    getValueType rootEl fuel' nodeEl isArrayElement =
      getValueType rootEl fuel nodeEl isArrayElement := by
  induction fuel generalizing fuel' nodeEl isArrayElement with
  | zero => exact absurd rfl h
  | succ fuel ih =>
    obtain ⟨fuel', rfl⟩ : ∃ n, fuel' = n + 1 := ⟨fuel' - 1, by omega⟩
    rw [getValueType] at h ⊢
    rw [getValueType]
    split
    · rfl
    next htag =>
      rw [if_neg htag] at h
      split
      · rfl
      next hbasic =>
        simp only [hbasic] at h
        cases hcount : getCount nodeEl with
        | error e => rfl
        | ok count =>
          simp only [hcount, ok_bind] at h ⊢
          split
          next harray =>
            rw [if_pos harray] at h
            have hne : getValueType rootEl fuel nodeEl true ≠ .error .recursionError := by
              intro he
              rw [he] at h
              exact h rfl
            rw [ih (by omega) hne]
          next hflat =>
            rw [if_neg hflat] at h
            cases htype : getNodeTypeEl rootEl nodeEl with
            | none => rfl
            | some nodeTypeEl =>
              simp only [htype] at h ⊢
              refine congrArg (· >>= _) (mapM_congr_of_ne (e := .recursionError) ?_ ?_)
              · intro daEl _ hne
                rw [ih (by omega)]
                intro he
                rw [he] at hne
                exact hne rfl
              · intro he
                rw [he] at h
                exact h rfl

/-- A call that does not make an array ends if those for the nodes of the template do. -/
theorem getValueType_flat_ends {fuel : ℕ} {el : Element} {isArrayElement : Bool} {count : ℤ}
    (hcount : getCount el = .ok count) (hflat : ¬ (count ≠ 0 ∧ ¬ isArrayElement))
    (htypes : ∀ typeEl, getNodeTypeEl rootEl el = some typeEl →
      ∀ el' ∈ typeEl.children, getValueType rootEl fuel el' false ≠ .error .recursionError) :
    getValueType rootEl (fuel + 1) el isArrayElement ≠ .error .recursionError := by
  rw [getValueType]
  split
  · simp
  split
  · simp
  simp only [hcount, ok_bind, if_neg hflat]
  cases htype : getNodeTypeEl rootEl el with
  | none => simp [pure, Except.pure]
  | some typeEl =>
    have hne : (typeEl.children.mapM fun daEl => do
        let elType ← getValueType rootEl fuel daEl false
        return elType.map fun elType => (daEl.get "name", elType)) ≠
          .error Exn.recursionError := by
      refine mapM_ne_error fun daEl hda he => ?_
      refine htypes typeEl htype daEl hda ?_
      cases hvalue : getValueType rootEl fuel daEl false with
      | error e =>
        rw [hvalue, error_bind] at he
        simpa using he
      | ok _ =>
        rw [hvalue] at he
        cases he
    show (typeEl.children.mapM _ >>= _) ≠ _
    cases hmap : typeEl.children.mapM fun daEl => do
        let elType ← getValueType rootEl fuel daEl false
        return elType.map fun elType => (daEl.get "name", elType) with
    | error e =>
      rw [hmap] at hne
      rw [error_bind]
      simpa using hne
    | ok elements => simp [pure, Except.pure]

/-- With templates without cycles, every call ends when there is enough fuel. -/
theorem exists_getValueType_ends (hacyclic : Acyclic rootEl) (el : Element) :
    ∃ n, getValueType rootEl n el false ≠ .error .recursionError := by
  refine hacyclic.exists_bound (Q := fun _ => True)
    (P := fun n el => getValueType rootEl n el false ≠ .error .recursionError) ?_ ?_
    (fun _ _ _ _ => trivial) el trivial
  · intro n m el hle h
    rwa [getValueType_mono hle h]
  · intro el _ htypes
    -- the fuel for the nodes of the template, if there is one
    obtain ⟨n, hn⟩ : ∃ n, ∀ typeEl, getNodeTypeEl rootEl el = some typeEl →
        ∀ el' ∈ typeEl.children, getValueType rootEl n el' false ≠ .error .recursionError := by
      cases htype : getNodeTypeEl rootEl el with
      | none => exact ⟨0, nofun⟩
      | some typeEl =>
        obtain ⟨n, hn⟩ := htypes typeEl htype
        refine ⟨n, fun typeEl' heq => ?_⟩
        obtain rfl := Option.some.inj heq
        exact hn
    cases hcount : getCount el with
    | error e =>
      refine ⟨1, ?_⟩
      rw [getValueType]
      split
      · simp
      split
      · simp
      · rw [hcount, error_bind]
        intro he
        exact parseInt_ne_recursionError _ (hcount.trans (congrArg _ (Except.error.inj he)))
    | ok count =>
      by_cases harray : count = 0
      · exact ⟨n + 1, getValueType_flat_ends hcount (by simp [harray]) hn⟩
      · refine ⟨n + 2, ?_⟩
        have hinner : getValueType rootEl (n + 1) el true ≠ .error .recursionError :=
          getValueType_flat_ends hcount (by simp) hn
        rw [getValueType]
        split
        · simp
        split
        · simp
        simp only [hcount, ok_bind]
        rw [if_pos (by simpa using harray)]
        cases hvalue : getValueType rootEl (n + 1) el true with
        | error e =>
          rw [hvalue] at hinner
          rw [error_bind]
          simpa using hinner
        | ok _ => simp [pure, Except.pure]

end

/-! ### Members -/

/-- A value with its members. -/
inductive Member
  /-- `readable`: with a value type, and with the values of its enumeration -/
  | mk (el : Element) (readable : Bool) (members : List Member)

/-- The nodes of the template of a struct. -/
def memberEls (rootEl el : Element) : List Element :=
  if truthy (el.get "type") ∧ el.get "bType" = some "Struct" then
    ((getNodeTypeEl rootEl el).map Element.children).getD []
  else []

/-- A node can be read out. -/
def isReadable (rootEl : Element) (fuel : ℕ) (el : Element) : Except Exn Bool :=
  match getValueType rootEl fuel el false with
  | .error .recursionError => .error .recursionError
  | .ok (some _) => .ok (enumeratedOf rootEl el).isOk
  | _ => .ok false

/-- The value of a node, with templates nested to a depth. -/
def memberOf (rootEl : Element) : (depth : ℕ) → Element → Except Exn Member
  | 0, _ => .error .recursionError
  | depth + 1, el => do
    let readable ← isReadable rootEl depth el
    let members ← (memberEls rootEl el).mapM (memberOf rootEl depth)
    return .mk el readable members

def Member.el : Member → Element
  | mk el _ _ => el

def Member.readable : Member → Bool
  | mk _ readable _ => readable

def Member.members : Member → List Member
  | mk _ _ members => members

/-- Members that are to be read out: attributes, and whatever else can be, except for those that the
code leaves out. -/
def Member.Supported (fc : Option String) (m : Member) : Prop :=
  skipped (fcOf m.el fc) m.el = false ∧ (m.el.tag = "BDA" ∨ m.readable = true)

instance (fc : Option String) (m : Member) : Decidable (m.Supported fc) :=
  inferInstanceAs (Decidable (_ ∧ _))

section
variable (logicalDevice logicalNode : String)

/-- The reference of a node. -/
def Member.ref (fc : Option String) (names : List (Option Name)) (m : Member) : RefConf :=
  ⟨logicalDevice, logicalNode, fcOf m.el fc, names ++ [nameOf (m.el.get "name")]⟩

mutual

/-- The references of a value and of all its members that are to be read out. -/
def Member.entries (fc : Option String) (names : List (Option Name)) : Member → List RefConf
  | .mk el readable members =>
    (Member.mk el readable members).ref logicalDevice logicalNode fc names ::
      Member.entriesOfAll (fcOf el fc) (names ++ [nameOf (el.get "name")]) members

def Member.entriesOfAll (fc : Option String) (names : List (Option Name)) :
    List Member → List RefConf
  | [] => []
  | m :: ms => (if m.Supported fc then m.entries fc names else []) ++ Member.entriesOfAll fc names ms

end

/-! ### What is read out -/

/-- The members, from some on, and the references the loop yields for them.  After a member that is
read out the loop ends, or goes on with the name of this member in the path. -/
inductive Reads : Option String → List (Option Name) → List Member → List RefConf → Prop
  | nil {fc : Option String} {names : List (Option Name)} : Reads fc names [] []
  | skip {fc : Option String} {names : List (Option Name)} {m : Member} {ms : List Member}
      {refs : List RefConf} (hskipped : skipped (fcOf m.el fc) m.el = true)
      (hrest : Reads (fcOf m.el fc) names ms refs) : Reads fc names (m :: ms) refs
  | fail {fc : Option String} {names : List (Option Name)} {m : Member} {ms : List Member}
      (hskipped : skipped (fcOf m.el fc) m.el = false) (hreadable : m.readable = false) :
    Reads fc names (m :: ms) []
  | stop {fc : Option String} {names : List (Option Name)} {m : Member} {ms : List Member}
      {inner : List RefConf} (hskipped : skipped (fcOf m.el fc) m.el = false)
      (hreadable : m.readable = true)
      (hinner : Reads (fcOf m.el fc) (names ++ [nameOf (m.el.get "name")]) m.members inner) :
    Reads fc names (m :: ms) (m.ref logicalDevice logicalNode fc names :: inner)
  | more {fc : Option String} {names : List (Option Name)} {m : Member} {ms : List Member}
      {inner rest : List RefConf} (hskipped : skipped (fcOf m.el fc) m.el = false)
      (hreadable : m.readable = true)
      (hinner : Reads (fcOf m.el fc) (names ++ [nameOf (m.el.get "name")]) m.members inner)
      (hrest : Reads (fcOf m.el fc) (names ++ [nameOf (m.el.get "name")]) ms rest) :
    Reads fc names (m :: ms) (m.ref logicalDevice logicalNode fc names :: (inner ++ rest))

end

/-- Of the members that are not left out, at most the first is to be read out, and it can be. -/
def AtMostFirst (fc : Option String) (ms : List Member) : Prop :=
  match ms.filter fun m => skipped (fcOf m.el fc) m.el = false with
  | [] => True
  | m :: rest => (m.Supported fc → m.readable = true) ∧ ∀ m' ∈ rest, ¬ m'.Supported fc

mutual

/-- The structures of a value that are read out each have at most one member to be read out. -/
def Member.Single (fc : Option String) : Member → Prop
  | .mk el _ members => AtMostFirst (fcOf el fc) members ∧ Member.AllSingle (fcOf el fc) members

def Member.AllSingle (fc : Option String) : List Member → Prop
  | [] => True
  | m :: ms => (m.Supported fc → m.Single fc) ∧ Member.AllSingle fc ms

end

mutual

/-- The members of a value have no functional constraint of their own. -/
def Member.Plain : Member → Prop
  | .mk _ _ members => Member.AllPlain members

def Member.AllPlain : List Member → Prop
  | [] => True
  | m :: ms => truthy (m.el.get "fc") = false ∧ m.Plain ∧ Member.AllPlain ms

end

section
variable {logicalDevice logicalNode : String} {fc : Option String} {names : List (Option Name)}

theorem fcOf_of_not_truthy {el : Element} (h : truthy (el.get "fc") = false) : fcOf el fc = fc := by
  rw [fcOf, h]
  rfl

/-- What is read out of members has longer paths. -/
theorem Reads.length_lt {ms : List Member} {refs : List RefConf}
    (h : Reads logicalDevice logicalNode fc names ms refs) :
    ∀ ref ∈ refs, names.length < ref.names.length := by
  induction h with
  | nil => exact nofun
  | skip _ _ ih => exact ih
  | fail _ _ => exact nofun
  | stop _ _ _ ih =>
    refine List.forall_mem_cons.mpr ⟨by simp [Member.ref], fun ref href => ?_⟩
    have := ih ref href
    rw [List.length_append, List.length_singleton] at this
    omega
  | more _ _ _ _ ih ih' =>
    refine List.forall_mem_cons.mpr ⟨by simp [Member.ref], fun ref href => ?_⟩
    rcases List.mem_append.mp href with href | href
    · have := ih ref href
      rw [List.length_append, List.length_singleton] at this
      omega
    · have := ih' ref href
      rw [List.length_append, List.length_singleton] at this
      omega

theorem entriesOfAll_eq_nil {ms : List Member} :
    Member.entriesOfAll logicalDevice logicalNode fc names ms = [] ↔
      ∀ m ∈ ms, ¬ m.Supported fc := by
  induction ms with
  | nil => exact iff_of_true rfl nofun
  | cons m ms ih =>
    rw [Member.entriesOfAll, List.append_eq_nil_iff, ih, List.forall_mem_cons]
    refine and_congr_left fun _ => ?_
    by_cases hm : m.Supported fc
    · rw [if_pos hm]
      refine iff_of_false ?_ (not_not.mpr hm)
      obtain ⟨el, readable, members⟩ := m
      rw [Member.entries]
      exact List.cons_ne_nil _ _
    · rw [if_neg hm]
      exact iff_of_true rfl hm

/-- Nothing is read out where nothing is to be. -/
theorem Reads.eq_nil {ms : List Member} {refs : List RefConf} (hplain : Member.AllPlain ms)
    (h : Reads logicalDevice logicalNode fc names ms refs) (hnone : ∀ m ∈ ms, ¬ m.Supported fc) :
    refs = [] := by
  induction h with
  | nil => rfl
  | skip _ _ ih =>
    rw [fcOf_of_not_truthy hplain.1] at ih
    exact ih hplain.2.2 (List.forall_mem_cons.mp hnone).2
  | fail _ _ => rfl
  | stop hskipped hreadable _ _ =>
    exact absurd ⟨hskipped, .inr hreadable⟩ (List.forall_mem_cons.mp hnone).1
  | more hskipped hreadable _ _ _ _ =>
    exact absurd ⟨hskipped, .inr hreadable⟩ (List.forall_mem_cons.mp hnone).1

theorem allSingle_of_none {ms : List Member} (h : ∀ m ∈ ms, ¬ m.Supported fc) :
    Member.AllSingle fc ms := by
  induction ms with
  | nil => trivial
  | cons m ms ih =>
    obtain ⟨hm, hrest⟩ := List.forall_mem_cons.mp h
    exact ⟨fun hsupported => absurd hsupported hm, ih hrest⟩

theorem atMostFirst_cons_skipped {m : Member} {ms : List Member}
    (hskipped : skipped (fcOf m.el fc) m.el = true) :
    AtMostFirst fc (m :: ms) ↔ AtMostFirst fc ms := by
  rw [AtMostFirst, List.filter_cons_of_neg (by simp [hskipped])]
  exact Iff.rfl

theorem atMostFirst_cons {m : Member} {ms : List Member}
    (hskipped : skipped (fcOf m.el fc) m.el = false) :
    AtMostFirst fc (m :: ms) ↔
      (m.Supported fc → m.readable = true) ∧ ∀ m' ∈ ms, ¬ m'.Supported fc := by
  rw [AtMostFirst, List.filter_cons_of_pos (by simp [hskipped])]
  refine and_congr_right fun _ => ⟨fun h m' hm' hsupported => ?_, fun h m' hm' => ?_⟩
  · exact h m' (List.mem_filter.mpr ⟨hm', decide_eq_true hsupported.1⟩) hsupported
  · exact h m' (List.mem_filter.mp hm').1

/-- The reference of a member that is to be read out is one of the entries. -/
theorem ref_mem_entriesOfAll {m : Member} {ms : List Member} (hm : m ∈ ms) (h : m.Supported fc) :
    m.ref logicalDevice logicalNode fc names ∈
      Member.entriesOfAll logicalDevice logicalNode fc names ms := by
  induction ms with
  | nil => cases hm
  | cons m' ms ih =>
    rw [Member.entriesOfAll, List.mem_append]
    rcases List.mem_cons.mp hm with rfl | hm
    · rw [if_pos h]
      obtain ⟨el, readable, members⟩ := m
      exact .inl List.mem_cons_self
    · exact .inr (ih hm)

/-- The members from one on that is read out: what follows it must be nothing to be read out. -/
theorem perm_entriesOfAll_iff {m : Member} (ms : List Member) {inner : List RefConf}
    (rest : List RefConf)
    (hfc : truthy (m.el.get "fc") = false) (hskipped : skipped (fcOf m.el fc) m.el = false)
    (hreadable : m.readable = true)
    (hinner : ∀ ref ∈ inner, names.length + 1 < ref.names.length)
    (hrest : ∀ ref ∈ rest, names.length + 1 < ref.names.length)
    (hnil : (∀ m' ∈ ms, ¬ m'.Supported fc) → rest = [])
    (ih : inner.Perm (Member.entriesOfAll logicalDevice logicalNode fc
        (names ++ [nameOf (m.el.get "name")]) m.members) ↔
      AtMostFirst fc m.members ∧ Member.AllSingle fc m.members) :
    (m.ref logicalDevice logicalNode fc names :: (inner ++ rest)).Perm
        (Member.entriesOfAll logicalDevice logicalNode fc names (m :: ms)) ↔
      AtMostFirst fc (m :: ms) ∧ Member.AllSingle fc (m :: ms) := by
  have hsupported : m.Supported fc := ⟨hskipped, .inr hreadable⟩
  have hentries : Member.entriesOfAll logicalDevice logicalNode fc names (m :: ms) =
      m.ref logicalDevice logicalNode fc names ::
        (Member.entriesOfAll logicalDevice logicalNode fc (names ++ [nameOf (m.el.get "name")])
            m.members ++ Member.entriesOfAll logicalDevice logicalNode fc names ms) := by
    rw [Member.entriesOfAll, if_pos hsupported]
    obtain ⟨el, readable, members⟩ := m
    rw [Member.entries, show fcOf el fc = fc from fcOf_of_not_truthy hfc]
    rfl
  have hsingle : m.Single fc ↔ AtMostFirst fc m.members ∧ Member.AllSingle fc m.members := by
    obtain ⟨el, readable, members⟩ := m
    rw [Member.Single, show fcOf el fc = fc from fcOf_of_not_truthy hfc]
    rfl
  rw [hentries, List.perm_cons, atMostFirst_cons hskipped, Member.AllSingle,
    and_iff_right (fun _ => hreadable : m.Supported fc → m.readable = true)]
  constructor
  · intro hperm
    -- an entry of what follows would have a path as short as that of the member
    have hnone : ∀ m' ∈ ms, ¬ m'.Supported fc := by
      intro m' hm' hsupported'
      have hmem : m'.ref logicalDevice logicalNode fc names ∈ inner ++ rest :=
        hperm.mem_iff.mpr (List.mem_append_right _ (ref_mem_entriesOfAll hm' hsupported'))
      have hlength : (m'.ref logicalDevice logicalNode fc names).names.length =
          names.length + 1 := by simp [Member.ref]
      rcases List.mem_append.mp hmem with hmem | hmem
      · exact absurd hlength (hinner _ hmem).ne'
      · exact absurd hlength (hrest _ hmem).ne'
    rw [hnil hnone, entriesOfAll_eq_nil.mpr hnone, List.append_nil, List.append_nil] at hperm
    exact ⟨hnone, fun _ => hsingle.mpr (ih.mp hperm), allSingle_of_none hnone⟩
  · rintro ⟨hnone, hm, -⟩
    rw [hnil hnone, entriesOfAll_eq_nil.mpr hnone, List.append_nil, List.append_nil]
    exact ih.mpr (hsingle.mp (hm hsupported))

/-- Just the members that are to be read out are, if every structure has at most one. -/
theorem Reads.perm_iff {ms : List Member} {refs : List RefConf} (hplain : Member.AllPlain ms)
    (h : Reads logicalDevice logicalNode fc names ms refs) :
    refs.Perm (Member.entriesOfAll logicalDevice logicalNode fc names ms) ↔
      AtMostFirst fc ms ∧ Member.AllSingle fc ms := by
  induction h with
  | nil => exact iff_of_true (List.Perm.refl _) ⟨trivial, trivial⟩
  | @skip fc names m ms refs hskipped _ ih =>
    have hsupported : ¬ m.Supported fc := fun h => by simp [h.1] at hskipped
    rw [fcOf_of_not_truthy hplain.1] at ih
    rw [Member.entriesOfAll, if_neg hsupported, List.nil_append, atMostFirst_cons_skipped hskipped,
      Member.AllSingle, and_iff_right (fun h => absurd h hsupported), ih hplain.2.2]
  | @fail fc names m ms hskipped hreadable =>
    rw [List.nil_perm, entriesOfAll_eq_nil, List.forall_mem_cons, atMostFirst_cons hskipped,
      hreadable]
    constructor
    · rintro ⟨hm, hrest⟩
      exact ⟨⟨fun h => absurd h hm, hrest⟩, allSingle_of_none (List.forall_mem_cons.mpr ⟨hm, hrest⟩)⟩
    · rintro ⟨⟨hm, hrest⟩, -⟩
      exact ⟨fun h => absurd (hm h) Bool.false_ne_true, hrest⟩
  | @stop fc names m ms inner hskipped hreadable hinner ih =>
    rw [fcOf_of_not_truthy hplain.1] at ih hinner
    have hiff := perm_entriesOfAll_iff ms [] hplain.1 hskipped hreadable
      (fun ref href => by simpa using hinner.length_lt ref href) nofun (fun _ => rfl)
      (ih (by obtain ⟨el, readable, members⟩ := m; exact hplain.2.1))
    rwa [List.append_nil] at hiff
  | @more fc names m ms inner rest hskipped hreadable hinner hrest ih _ =>
    rw [fcOf_of_not_truthy hplain.1] at ih hinner hrest
    exact perm_entriesOfAll_iff ms rest hplain.1 hskipped hreadable
      (fun ref href => by simpa using hinner.length_lt ref href)
      (fun ref href => by simpa using hrest.length_lt ref href)
      (fun hnone => hrest.eq_nil hplain.2.2 hnone)
      (ih (by obtain ⟨el, readable, members⟩ := m; exact hplain.2.1))

end

/-! ### Values have members -/

section
variable {rootEl : Element}

theorem memberOf_eq_ok {depth : ℕ} {el : Element} {m : Member} :
    memberOf rootEl (depth + 1) el = .ok m ↔
      ∃ readable members, isReadable rootEl depth el = .ok readable ∧
        (memberEls rootEl el).mapM (memberOf rootEl depth) = .ok members ∧
        m = .mk el readable members := by
  rw [memberOf]
  constructor
  · intro h
    obtain ⟨readable, hreadable, h⟩ := bind_eq_ok.mp h
    obtain ⟨members, hmembers, h⟩ := bind_eq_ok.mp h
    exact ⟨readable, members, hreadable, hmembers, (Except.ok.inj h).symm⟩
  · rintro ⟨readable, members, hreadable, hmembers, rfl⟩
    rw [hreadable, ok_bind, hmembers]
    rfl

theorem isReadable_mono {fuel fuel' : ℕ} {el : Element} {readable : Bool} (hle : fuel ≤ fuel')
    (h : isReadable rootEl fuel el = .ok readable) : isReadable rootEl fuel' el = .ok readable := by
  have hne : getValueType rootEl fuel el false ≠ .error .recursionError := by
    intro he
    rw [isReadable, he] at h
    cases h
  rw [isReadable, getValueType_mono hle hne]
  exact h

theorem memberOf_mono {depth depth' : ℕ} {el : Element} {m : Member} (hle : depth ≤ depth')
    (h : memberOf rootEl depth el = .ok m) : memberOf rootEl depth' el = .ok m := by
  induction depth generalizing depth' el m with
  | zero => cases h
  | succ depth ih =>
    obtain ⟨depth', rfl⟩ : ∃ n, depth' = n + 1 := ⟨depth' - 1, by omega⟩
    obtain ⟨readable, members, hreadable, hmembers, rfl⟩ := memberOf_eq_ok.mp h
    have hmap := mapM_eq_ok_map_of (k := id)
      (fun el _ m hm => ih (show depth ≤ depth' by omega) hm) hmembers
    rw [List.map_id] at hmap
    exact memberOf_eq_ok.mpr ⟨readable, members, isReadable_mono (by omega) hreadable, hmap, rfl⟩

theorem memberEls_eq (rootEl el : Element) : memberEls rootEl el = [] ∨
    ∃ typeEl, getNodeTypeEl rootEl el = some typeEl ∧ memberEls rootEl el = typeEl.children := by
  unfold memberEls
  split
  · cases htype : getNodeTypeEl rootEl el with
    | none => exact .inl rfl
    | some typeEl => exact .inr ⟨typeEl, rfl, rfl⟩
  · exact .inl rfl

/-- With templates without cycles, every value has a tree of members. -/
theorem exists_memberOf (hacyclic : Acyclic rootEl) (el : Element) :
    ∃ depth m, memberOf rootEl depth el = .ok m := by
  refine hacyclic.exists_bound (Q := fun _ => True)
    (P := fun depth el => ∃ m, memberOf rootEl depth el = .ok m) ?_ ?_
    (fun _ _ _ _ => trivial) el trivial
  · rintro n m el hle ⟨member, hmember⟩
    exact ⟨member, memberOf_mono hle hmember⟩
  · intro el _ htypes
    obtain ⟨n, hn⟩ := exists_getValueType_ends hacyclic el
    obtain ⟨readable, hreadable⟩ : ∃ readable, isReadable rootEl n el = .ok readable := by
      unfold isReadable
      split
      next he => exact absurd he hn
      · exact ⟨_, rfl⟩
      · exact ⟨_, rfl⟩
    obtain ⟨depth, hdepth⟩ : ∃ depth, ∀ el' ∈ memberEls rootEl el,
        ∃ m, memberOf rootEl depth el' = .ok m := by
      rcases memberEls_eq rootEl el with hnil | ⟨typeEl, htype, hels⟩
      · exact ⟨0, by simp [hnil]⟩
      · rw [hels]
        exact htypes typeEl htype
    obtain ⟨members, hmembers⟩ := exists_mapM_eq_ok fun el' hel' =>
      (hdepth el' hel').imp fun m hm => memberOf_mono (le_max_right n depth) hm
    exact ⟨max n depth + 1, _, memberOf_eq_ok.mpr
      ⟨readable, members, isReadable_mono (le_max_left _ _) hreadable, hmembers, rfl⟩⟩

end

/-! ### The loop -/

/-- What follows the entry of a node: the entries of the members of a struct, and then the rest. -/
def withMembers (rootEl el : Element) (recurse : Element → Generator Exn DataConf Unit)
    (rest : Generator Exn DataConf Unit) : Generator Exn DataConf Unit :=
  if ¬ truthy (el.get "type") ∨ el.get "bType" ≠ some "Struct" then pure ()
  else
    match getNodeTypeEl rootEl el with
    | none => .raise (.exception "type undefined")
    | some typeEl => do
      recurse typeEl
      rest

section
variable {rootEl : Element} {logicalDevice logicalNode : String} {datasets : List DatasetConf}
  {fuel : ℕ} {query : DataQuery} {typeEl : Element}
  {recurse : Element → DataState → Generator Exn DataConf Unit} {el : Element}
  {els : List Element} {st : DataState}

theorem dataConfLoop_skip (h : ¬ truthy query.valueName ∧ skipped (fcOf el st.fc) el) :
    dataConfLoop rootEl logicalDevice logicalNode datasets fuel query typeEl recurse (el :: els) st =
      dataConfLoop rootEl logicalDevice logicalNode datasets fuel query typeEl recurse els
        { st with fc := fcOf el st.fc } := by
  rw [dataConfLoop]
  exact if_pos h

/-- A node that cannot be read out ends the loop. -/
theorem dataConfLoop_fail (h : ¬ (¬ truthy query.valueName ∧ skipped (fcOf el st.fc) el))
    (hreadable : isReadable rootEl fuel el = .ok false) :
    (dataConfLoop rootEl logicalDevice logicalNode datasets fuel query typeEl recurse (el :: els)
      st).yielded = [] := by
  rw [dataConfLoop]
  simp only [if_neg h, Generator.ofExcept_bind]
  unfold isReadable at hreadable
  cases hvalue : getValueType rootEl fuel el false with
  | error e => rfl
  | ok valueType =>
    cases valueType with
    | none => rfl
    | some valueType =>
      rw [hvalue] at hreadable
      cases henumerated : enumeratedOf rootEl el with
      | error e => rfl
      | ok enumerated =>
        rw [henumerated] at hreadable
        cases hreadable

/-- A node that can be read out. -/
theorem dataConfLoop_read (h : ¬ (¬ truthy query.valueName ∧ skipped (fcOf el st.fc) el))
    (hreadable : isReadable rootEl fuel el = .ok true) :
    ∃ conf : DataConf, ∃ st' : DataState,
      conf.value = ⟨logicalDevice, logicalNode, fcOf el st.fc,
        st.names ++ [nameOf (el.get "name")]⟩ ∧
      st'.fc = fcOf el st.fc ∧ st'.names = st.names ++ [nameOf (el.get "name")] ∧
      (dataConfLoop rootEl logicalDevice logicalNode datasets fuel query typeEl recurse (el :: els)
          st).yielded =
        conf :: (withMembers rootEl el (recurse · st') (dataConfLoop rootEl logicalDevice
          logicalNode datasets fuel query typeEl recurse els st')).yielded := by
  unfold isReadable at hreadable
  cases hvalue : getValueType rootEl fuel el false with
  | error e =>
    rw [hvalue] at hreadable
    cases e <;> cases hreadable
  | ok valueType =>
    cases valueType with
    | none =>
      rw [hvalue] at hreadable
      cases hreadable
    | some valueType =>
      rw [hvalue] at hreadable
      cases henumerated : enumeratedOf rootEl el with
      | error e =>
        rw [henumerated] at hreadable
        cases hreadable
      | ok enumerated =>
        rw [dataConfLoop]
        simp only [if_neg h, Generator.ofExcept_bind, hvalue, henumerated, Generator.yield_bind]
        exact ⟨_, _, rfl, rfl, rfl, rfl⟩

end

section
variable {rootEl : Element} {logicalDevice logicalNode : String} {datasets : List DatasetConf}

/-- A loop over nodes whose values are nested to a depth reads out their members. -/
def LoopReads (rootEl : Element) (logicalDevice logicalNode : String) (datasets : List DatasetConf)
    (depth : ℕ) : Prop :=
  ∀ (fuel : ℕ) (writable : Bool) (typeEl : Element) (els : List Element) (ms : List Member)
    (st : DataState), depth ≤ fuel + 1 → els.mapM (memberOf rootEl depth) = .ok ms →
    Reads logicalDevice logicalNode st.fc st.names ms
      ((dataConfLoop rootEl logicalDevice logicalNode datasets fuel { writable } typeEl
        (getDataConf rootEl logicalDevice logicalNode datasets fuel { writable }) els
          st).yielded.map DataConf.value)

theorem eq_nil_of_mapM_memberOf_zero {els : List Element} {ms : List Member}
    (h : els.mapM (memberOf rootEl 0) = .ok ms) : els = [] ∧ ms = [] := by
  cases els with
  | nil => exact ⟨rfl, (Except.ok.inj h).symm⟩
  | cons el els =>
    rw [List.mapM_cons] at h
    cases h

/-- A call for a template reads out the members that its nodes are. -/
theorem getDataConf_reads {depth fuel : ℕ} (writable : Bool) {typeEl : Element}
    {ms : List Member} (st : DataState)
    (hloop : LoopReads rootEl logicalDevice logicalNode datasets depth) (hle : depth ≤ fuel)
    (hms : typeEl.children.mapM (memberOf rootEl depth) = .ok ms) :
    Reads logicalDevice logicalNode st.fc st.names ms
      ((getDataConf rootEl logicalDevice logicalNode datasets fuel { writable } typeEl
        st).yielded.map DataConf.value) := by
  cases fuel with
  | zero =>
    obtain rfl : depth = 0 := by omega
    obtain ⟨-, rfl⟩ := eq_nil_of_mapM_memberOf_zero hms
    exact .nil
  | succ fuel =>
    rw [getDataConf, if_neg (show ¬ truthy none = true by decide)]
    exact hloop fuel writable typeEl typeEl.children ms st (by omega) hms

/-- After a node that was read out come its members, and perhaps the rest of the loop. -/
theorem yielded_members {depth fuel : ℕ} (writable : Bool) {el : Element} {members : List Member}
    (st : DataState) (rest : Generator Exn DataConf Unit)
    (hloop : LoopReads rootEl logicalDevice logicalNode datasets depth) (hle : depth ≤ fuel)
    (hmembers : (memberEls rootEl el).mapM (memberOf rootEl depth) = .ok members) :
    ∃ inner, Reads logicalDevice logicalNode st.fc st.names members (inner.map DataConf.value) ∧
      ((withMembers rootEl el (getDataConf rootEl logicalDevice logicalNode datasets fuel
          { writable } · st) rest).yielded = inner ∨
        (withMembers rootEl el (getDataConf rootEl logicalDevice logicalNode datasets fuel
          { writable } · st) rest).yielded = inner ++ rest.yielded) := by
  unfold withMembers
  by_cases hleaf : ¬ truthy (el.get "type") ∨ el.get "bType" ≠ some "Struct"
  · have hels : memberEls rootEl el = [] := by
      rw [memberEls, if_neg]
      rintro ⟨htype, hstruct⟩
      exact hleaf.elim (fun h => h htype) fun h => h hstruct
    rw [hels] at hmembers
    obtain rfl := Except.ok.inj hmembers
    rw [if_pos hleaf]
    exact ⟨[], .nil, .inl rfl⟩
  · rw [if_neg hleaf]
    have hels : memberEls rootEl el = ((getNodeTypeEl rootEl el).map Element.children).getD [] := by
      rw [memberEls, if_pos]
      simpa using hleaf
    cases htype : getNodeTypeEl rootEl el with
    | none =>
      rw [hels, htype] at hmembers
      obtain rfl := Except.ok.inj hmembers
      exact ⟨[], .nil, .inl rfl⟩
    | some typeEl' =>
      rw [hels, htype] at hmembers
      refine ⟨_, getDataConf_reads writable st hloop hle hmembers, ?_⟩
      cases hresult : (getDataConf rootEl logicalDevice logicalNode datasets fuel { writable }
        typeEl' st).result with
      | error e => exact .inl (Generator.yielded_bind_of_error hresult _)
      | ok b => exact .inr (Generator.yielded_bind_of_ok hresult _)

theorem loopReads (depth : ℕ) : LoopReads rootEl logicalDevice logicalNode datasets depth := by
  induction depth with
  | zero =>
    intro fuel writable typeEl els ms st _ hms
    obtain ⟨rfl, rfl⟩ := eq_nil_of_mapM_memberOf_zero hms
    exact .nil
  | succ depth ih =>
    intro fuel writable typeEl els ms st hle hms
    induction els generalizing ms st with
    | nil =>
      obtain rfl := Except.ok.inj hms
      exact .nil
    | cons el els ihels =>
      rw [List.mapM_cons] at hms
      obtain ⟨m, hm, hms⟩ := bind_eq_ok.mp hms
      obtain ⟨ms, hmembers', hms⟩ := bind_eq_ok.mp hms
      obtain rfl := Except.ok.inj hms
      obtain ⟨readable, members, hreadable, hmembers, rfl⟩ := memberOf_eq_ok.mp hm
      have hread := isReadable_mono (show depth ≤ fuel by omega) hreadable
      by_cases hskipped : skipped (fcOf el st.fc) el = true
      · rw [dataConfLoop_skip ⟨show ¬ truthy none = true by decide, hskipped⟩]
        exact .skip hskipped (ihels ms { st with fc := fcOf el st.fc } hmembers')
      · have hnot : ¬ (¬ truthy ({ writable } : DataQuery).valueName ∧
            skipped (fcOf el st.fc) el) := fun h => hskipped h.2
        have hkept : skipped (fcOf el st.fc) el = false := Bool.not_eq_true _ ▸ hskipped
        cases readable with
        | false =>
          rw [dataConfLoop_fail hnot hread]
          exact .fail hkept rfl
        | true =>
          obtain ⟨conf, st', hvalue, hfc, hnames, hyielded⟩ := dataConfLoop_read hnot hread
          rw [hyielded, List.map_cons, hvalue]
          obtain ⟨inner, hinner, hrest⟩ := yielded_members writable st'
            (dataConfLoop rootEl logicalDevice logicalNode datasets fuel { writable } typeEl
              (getDataConf rootEl logicalDevice logicalNode datasets fuel { writable }) els st')
            ih (show depth ≤ fuel by omega) hmembers
          rw [hfc, hnames] at hinner
          rcases hrest with hrest | hrest
          · rw [hrest]
            exact .stop hkept rfl hinner
          · rw [hrest, List.map_append]
            have hmore := ihels ms st' hmembers'
            rw [hfc, hnames] at hmore
            exact .more hkept rfl hinner hmore

/-- A value attribute of a data object is read out with all its members, each with its path and once,
just if it can be read out and each of its structures, at every depth, has at most one member to be
read out, which must be the first that is not left out. -/
theorem getDataConf_reads_members_iff (rootEl typeEl el : Element) (hacyclic : Acyclic rootEl)
    (logicalDevice logicalNode : String) (datasets : List DatasetConf) (query : DataQuery)
    (st : DataState) (hname : truthy query.valueName = true)
    (hel : daNameEl typeEl query.valueName = some el) :
    ∃ depth m, memberOf rootEl depth el = .ok m ∧ ∀ fuel, depth ≤ fuel → m.Plain →
      (((getDataConf rootEl logicalDevice logicalNode datasets fuel query typeEl st).yielded.map
          DataConf.value).Perm (m.entries logicalDevice logicalNode st.fc st.names) ↔
        m.readable = true ∧ m.Single st.fc) := by
  obtain ⟨depth, m, hm⟩ := exists_memberOf hacyclic el
  refine ⟨depth, m, hm, fun fuel hle hplain => ?_⟩
  cases depth with
  | zero => cases hm
  | succ depth =>
    obtain ⟨fuel, rfl⟩ : ∃ n, fuel = n + 1 := ⟨fuel - 1, by omega⟩
    obtain ⟨readable, members, hreadable, hmembers, rfl⟩ := memberOf_eq_ok.mp hm
    have hread := isReadable_mono (show depth ≤ fuel by omega) hreadable
    have hnot : ¬ (¬ truthy query.valueName ∧ skipped (fcOf el st.fc) el) := fun h => h.1 hname
    rw [getDataConf, if_pos hname, hel]
    cases readable with
    | false =>
      simp only [dataConfLoop_fail hnot hread, List.map_nil, List.nil_perm]
      exact iff_of_false (by rw [Member.entries]; exact List.cons_ne_nil _ _)
        fun h => Bool.false_ne_true h.1
    | true =>
      simp only
      obtain ⟨conf, st', hvalue, hfc, hnames, hyielded⟩ := dataConfLoop_read hnot hread
      rw [hyielded, List.map_cons, hvalue]
      obtain ⟨inner, hinner, hrest⟩ := yielded_members query.writable st'
        (dataConfLoop rootEl logicalDevice logicalNode datasets fuel query typeEl
          (getDataConf rootEl logicalDevice logicalNode datasets fuel
            { writable := query.writable }) [] st')
        (loopReads depth) (show depth ≤ fuel by omega) hmembers
      have hyields : (withMembers rootEl el (getDataConf rootEl logicalDevice logicalNode datasets
          fuel { writable := query.writable } · st') (dataConfLoop rootEl logicalDevice logicalNode
            datasets fuel query typeEl (getDataConf rootEl logicalDevice logicalNode datasets fuel
              { writable := query.writable }) [] st')).yielded = inner := by
        rcases hrest with hrest | hrest
        · exact hrest
        · rw [hrest]
          exact List.append_nil _
      rw [hfc, hnames] at hinner
      rw [hyields, Member.entries, Member.Single, ← hinner.perm_iff hplain]
      exact (List.perm_cons _).trans (and_iff_right rfl).symm

end

/-! ### A struct of two members -/

/-- The type of a measured value, of an integer and a float. -/
def measuredType : Element :=
  .mk "DAType" [("id", "Measured")] none
    [.mk "BDA" [("name", "i"), ("bType", "INT32")] none [],
     .mk "BDA" [("name", "f"), ("bType", "FLOAT32")] none []]

def magDa : Element :=
  .mk "DA" [("name", "mag"), ("fc", "MX"), ("bType", "Struct"), ("type", "Measured")] none []

def measuringType : Element := .mk "DOType" [("id", "Measuring"), ("cdc", "MV")] none [magDa]

def measuringRoot : Element :=
  .mk "SCL" [] none [.mk "DataTypeTemplates" [] none [measuringType, measuredType]]

theorem acyclic_measuringRoot : Acyclic measuringRoot := by
  have hmeasured : ∀ typeEl, ¬ Uses measuringRoot measuredType typeEl := by
    rintro typeEl ⟨nodeEl, hnode, htype⟩
    rcases List.mem_cons.mp hnode with rfl | hnode
    · cases htype
    · obtain rfl := List.mem_singleton.mp hnode
      cases htype
  have hmeasuring : ∀ typeEl, Uses measuringRoot measuringType typeEl → typeEl = measuredType := by
    rintro typeEl ⟨nodeEl, hnode, htype⟩
    obtain rfl := List.mem_singleton.mp hnode
    exact (Option.some.inj htype).symm
  intro typeEl hmem hcycle
  obtain ⟨typeEl', huses, hback⟩ := Relation.TransGen.head'_iff.mp hcycle
  rcases List.mem_cons.mp hmem with rfl | hmem
  · obtain rfl := hmeasuring typeEl' huses
    rcases Relation.ReflTransGen.cases_head hback with heq | ⟨typeEl'', huses', -⟩
    · exact absurd (congrArg Element.tag heq) (by decide)
    · exact hmeasured typeEl'' huses'
  · obtain rfl : typeEl = measuredType := List.mem_singleton.mp hmem
    exact hmeasured typeEl' huses

/-- The float is left out, as the loop over the members ends after the integer. -/
theorem members_left_out :
    (∃ m, memberOf measuringRoot 3 magDa = .ok m ∧ m.Plain ∧
      m.entries "LD" "MMXU1" none [some (.str "TotW")] =
        [⟨"LD", "MMXU1", some "MX", [some (.str "TotW"), some (.str "mag")]⟩,
         ⟨"LD", "MMXU1", some "MX", [some (.str "TotW"), some (.str "mag"), some (.str "i")]⟩,
         ⟨"LD", "MMXU1", some "MX", [some (.str "TotW"), some (.str "mag"), some (.str "f")]⟩]) ∧
    ∀ fuel, 3 ≤ fuel →
      (getDataConf measuringRoot "LD" "MMXU1" [] fuel { valueName := some "mag" } measuringType
        { fc := none, names := [some (.str "TotW")] }).yielded.map DataConf.value =
        [⟨"LD", "MMXU1", some "MX", [some (.str "TotW"), some (.str "mag")]⟩,
         ⟨"LD", "MMXU1", some "MX", [some (.str "TotW"), some (.str "mag"), some (.str "i")]⟩] := by
  refine ⟨⟨_, rfl, ⟨rfl, trivial, rfl, trivial, trivial⟩, by decide +kernel⟩, fun fuel hle => ?_⟩
  obtain ⟨fuel, rfl⟩ : ∃ n, fuel = n + 3 := ⟨fuel - 3, by omega⟩
  rfl

/-- The magnitude of the measured value, at every depth of calls that its template needs. -/
theorem getDataConf_reads_members_iff_mag :
    ∃ depth m, memberOf measuringRoot depth magDa = .ok m ∧ ∀ fuel, depth ≤ fuel → m.Plain →
      (((getDataConf measuringRoot "LD" "MMXU1" [] fuel { valueName := some "mag" } measuringType
          { fc := none, names := [some (.str "TotW")] }).yielded.map DataConf.value).Perm
          (m.entries "LD" "MMXU1" none [some (.str "TotW")]) ↔
        m.readable = true ∧ m.Single none) :=
  getDataConf_reads_members_iff measuringRoot measuringType magDa acyclic_measuringRoot "LD" "MMXU1"
    [] { valueName := some "mag" } { fc := none, names := [some (.str "TotW")] } rfl rfl

end HatDrivers.Iec61850.Manager
