import Mathlib.Data.Finset.Card
import PageBoot.Proofs.Bridge.FiniteMap

/-!
What becomes of the values in a table of objects. A value is referenced from the call that gives it
an id that was not live to the call that ends that id. `references_account` says that each reference
lets go of its value once, when it ends, whatever the calls. An object is given by the values that
are it, so that nothing depends on when two values are equal.
-/

namespace PageBoot.Bridge

namespace ObjectTable

/-! ## The ids of an object -/

/-- The ids under which one of the values is live. -/
def idsOf (t : ObjectTable) (p : Value → Bool) : Finset Int :=
  ((Finset.range t.entries.length).image fun i : Nat => (i : Int) + 1).filter fun id =>
    (t.live? id).any p = true

theorem mem_idsOf {t : ObjectTable} {p : Value → Bool} {id : Int} :
    id ∈ t.idsOf p ↔ ∃ v, t.live? id = some v ∧ p v = true := by
  rw [idsOf, Finset.mem_filter, Option.any_eq_true, Finset.mem_image]
  refine ⟨And.right, fun h => ⟨?_, h⟩⟩
  obtain ⟨v, hv, -⟩ := h
  obtain ⟨e, he, -⟩ := Option.map_eq_some_iff.mp hv
  obtain ⟨hpos, hplace⟩ := slot?_eq_some.mp he
  obtain ⟨hlt, -⟩ := List.getElem?_eq_some_iff.mp hplace
  exact ⟨id.toNat - 1, Finset.mem_range.mpr hlt, by omega⟩

theorem idsOf_congr {t u : ObjectTable} (h : ∀ id, u.live? id = t.live? id) (p : Value → Bool) :
    u.idsOf p = t.idsOf p := by
  ext id
  simp only [mem_idsOf, h]

theorem idsOf_of_dead {t : ObjectTable} (h : ∀ id, t.live? id = none) (p : Value → Bool) :
    t.idsOf p = ∅ := by
  ext id
  simp [mem_idsOf, h]

theorem card_idsOf_insert {t u : ObjectTable} {k : Int} {v : Value} (hfresh : t.live? k = none)
    (h : ∀ id, u.live? id = if id = k then some v else t.live? id) (p : Value → Bool) :
    (u.idsOf p).card = (t.idsOf p).card + [v].countP p := by
  have hnot : k ∉ t.idsOf p := by simp [mem_idsOf, hfresh]
  by_cases hv : p v = true
  · have hids : u.idsOf p = insert k (t.idsOf p) := by
      ext id
      rw [Finset.mem_insert, mem_idsOf, mem_idsOf, h]
      by_cases hid : id = k <;> simp [hid, hv]
    rw [hids, Finset.card_insert_of_notMem hnot, List.countP_singleton, if_pos hv]
  · have hids : u.idsOf p = t.idsOf p := by
      ext id
      rw [mem_idsOf, mem_idsOf, h]
      by_cases hid : id = k <;> simp [hid, hv, hfresh]
    rw [hids, List.countP_singleton, if_neg hv, Nat.add_zero]

theorem idsOf_erase {t u : ObjectTable} {k : Int}
    (h : ∀ id, u.live? id = if id = k then none else t.live? id) (p : Value → Bool) :
    u.idsOf p = (t.idsOf p).erase k := by
  ext id
  rw [Finset.mem_erase, mem_idsOf, mem_idsOf, h]
  by_cases hid : id = k <;> simp [hid]

theorem slot?_append_none {t u : ObjectTable} (hu : u.entries = t.entries ++ [none]) (id : Int) :
    u.slot? id = t.slot? id := by
  unfold slot?
  rw [hu]
  split
  · rfl
  · rw [List.getElem?_append]
    split
    · rfl
    · next hout =>
      rw [List.getElem?_eq_none (Nat.le_of_not_lt hout), List.getElem?_singleton]
      split <;> rfl

/-- The values that stand in a table, counted by their ids. -/
theorem countP_entries (p : Value → Bool) (es : List (Option Entry)) :
    (es.filterMap (·.map (·.value))).countP p = ({ entries := es : ObjectTable }.idsOf p).card := by
  induction es using List.reverseRecOn with
  | nil => rw [idsOf_of_dead (fun id => by simp [live?, slot?]) p]; rfl
  | append_singleton es e ih =>
    rw [List.filterMap_append, List.countP_append, ih]
    cases e with
    | none =>
      let t : ObjectTable := { entries := es }
      have hlive (id : Int) : { entries := es ++ [none] : ObjectTable }.live? id = t.live? id :=
        congrArg (Option.map _) (slot?_append_none (t := t) rfl id)
      rw [idsOf_congr hlive]
      rfl
    | some e =>
      let t : ObjectTable := { entries := es }
      have hlive (id : Int) : { entries := es ++ [some e] : ObjectTable }.live? id =
          if id = (es.length + 1 : Nat) then some e.value else t.live? id := by
        rw [live?, slot?_append (t := t) rfl]
        split <;> rfl
      have hfresh : t.live? (es.length + 1 : Nat) = none := by simp [t, live?, slot?]
      rw [card_idsOf_insert hfresh hlive]
      rfl

theorem Coherent.countP_close {t : ObjectTable} (ht : t.Coherent) (p : Value → Bool) :
    t.close.1.countP p = (t.idsOf p).card := by
  have hentries : _ = (t.idsOf p).card := countP_entries p t.entries
  unfold ObjectTable.close
  split
  · next h => simpa [ht.closed h] using hentries
  · exact hentries

/-! ## Calls one after another -/

/-- One call. -/
structure Moment where
  before : ObjectTable
  call : Call
  answer : Answer
  after : ObjectTable

def react (t : ObjectTable) (c : Call) : Moment :=
  { before := t, call := c, answer := (t.answer c).1, after := (t.answer c).2 }

def moments : ObjectTable → List Call → List Moment
  | _, [] => []
  | t, c :: cs => t.react c :: (t.react c).after.moments cs

/-- The table after some calls. -/
def after (t : ObjectTable) (calls : List Call) : ObjectTable :=
  calls.foldl (fun t c => (t.react c).after) t

namespace Moment

/-- The value that was given an id that was not live. -/
def referenced (m : Moment) : Option Value :=
  match m.call, m.answer with
  | .put v, .given id => if (m.before.live? id).isNone then some v else none
  | _, _ => none

/-- The values that were let go. Those that can be are released. -/
def dropped (m : Moment) : List Value :=
  match m.call, m.answer with
  | .free _, .value v => v.toList
  | .close, .closed vs => vs
  | _, _ => []

/-- The ids of an object that were live and are no more. -/
def ended (m : Moment) (p : Value → Bool) : Finset Int :=
  (m.before.idsOf p).filter fun id => m.after.live? id = none

end Moment

/-- What a call does to references. -/
inductive Change (m : Moment) : Prop
  | starts (v : Value) (k : Int) (hfresh : m.before.live? k = none)
      (hlive : ∀ id, m.after.live? id = if id = k then some v else m.before.live? id)
      (hreferenced : m.referenced = some v) (hdropped : m.dropped = [])
  | ends (v : Value) (k : Int) (hwas : m.before.live? k = some v)
      (hlive : ∀ id, m.after.live? id = if id = k then none else m.before.live? id)
      (hreferenced : m.referenced = none) (hdropped : m.dropped = [v])
  | endsAll (hlive : ∀ id, m.after.live? id = none) (hreferenced : m.referenced = none)
      (hdropped : ∀ p, m.dropped.countP p = (m.before.idsOf p).card)
  | stays (hlive : ∀ id, m.after.live? id = m.before.live? id) (hreferenced : m.referenced = none)
      (hdropped : m.dropped = [])

theorem Coherent.change_put {t : ObjectTable} (ht : t.Coherent) (v : Value) :
    Change (t.react (.put v)) ∧ (t.react (.put v)).after.Coherent := by
  by_cases hv : v = .null
  · subst hv
    exact ⟨.stays (fun _ => rfl) rfl rfl, ht⟩
  cases hc : t.closed with
  | true =>
    have hput := put_of_closed hv hc
    have hreact : t.react (.put v) =
        ⟨t, .put v, .refused (.invalidState .invoke "closed" "put"), t⟩ := by simp [react, answer, hput]
    rw [hreact]
    exact ⟨.stays (fun _ => rfl) rfl rfl, ht⟩
  | false =>
    have hput := put_of_open hv hc
    cases hid : t.idOf? v with
    | some id =>
      have hreact : t.react (.put v) = ⟨t, .put v, .given id, t⟩ := by simp [react, answer, hput, hid]
      obtain ⟨w, hw, -⟩ := ht.idOf?_eq_some.mp hid
      rw [hreact]
      exact ⟨.stays (fun _ => rfl) (by simp [Moment.referenced, hw]) rfl, ht⟩
    | none =>
      have hreact : t.react (.put v) = ⟨t, .put v, .given (t.allocate v).1, (t.allocate v).2⟩ := by
        simp [react, answer, hput, hid]
      have hfresh : t.live? (t.allocate v).1 = none := by
        rw [live?, (ht.allocate_fresh v).2]
        rfl
      rw [hreact]
      refine ⟨.starts v _ hfresh (fun id => ?_) (by simp [Moment.referenced, hfresh]) rfl,
        ht.allocate hc hid⟩
      rw [live?, ht.slot?_allocate v]
      split <;> rfl

theorem Coherent.change_free {t : ObjectTable} (ht : t.Coherent) (k : Int) :
    Change (t.react (.free k)) ∧ (t.react (.free k)).after.Coherent := by
  refine ⟨?_, ht.free k⟩
  cases hk : t.slot? k with
  | none =>
    have hreact : t.react (.free k) = ⟨t, .free k, .value none, t⟩ := by
      simp [react, answer, free_of_vacant hk]
    rw [hreact]
    exact .stays (fun _ => rfl) rfl rfl
  | some e =>
    refine .ends e.value k (by simp [react, live?, hk]) (fun id => ?_) rfl ?_
    · show (t.free k).2.live? id = _
      rw [live?, slot?_free]
      split <;> rfl
    · have hvalue : (t.free k).1 = some e.value := by simp [ObjectTable.free, hk]
      simp [react, answer, Moment.dropped, hvalue]

/-- One call, and the table is coherent after it. -/
theorem Coherent.change {t : ObjectTable} (ht : t.Coherent) (c : Call) :
    Change (t.react c) ∧ (t.react c).after.Coherent := by
  cases c with
  | put v => exact ht.change_put v
  | free k => exact ht.change_free k
  | close =>
    refine ⟨.endsAll (fun id => ?_) rfl fun p => ht.countP_close p, ht.close⟩
    show t.close.2.live? id = none
    rw [live?, slot?_of_nil ht.close_eq.1]
    rfl
  | _ => exact ⟨.stays (fun _ => rfl) rfl rfl, ht⟩

/-- What is live stays live under its id, or is let go. -/
theorem Change.kept {m : Moment} (h : Change m) {id : Int} {v : Value}
    (hv : m.before.live? id = some v) : m.after.live? id = some v ∨ m.after.live? id = none := by
  cases h with
  | starts w k hfresh hlive =>
    have hne : id ≠ k := by
      rintro rfl
      rw [hfresh] at hv
      cases hv
    exact .inl (by rw [hlive, if_neg hne, hv])
  | ends w k hwas hlive =>
    by_cases hid : id = k
    · exact .inr (by rw [hlive, if_pos hid])
    · exact .inl (by rw [hlive, if_neg hid, hv])
  | endsAll hlive => exact .inr (hlive id)
  | stays hlive => exact .inl (by rw [hlive, hv])

/-- A call lets go of a value once for each id of the value that it ends. -/
theorem Change.countP_dropped {m : Moment} (h : Change m) (p : Value → Bool) :
    m.dropped.countP p = (m.ended p).card := by
  have hmem (id : Int) : id ∈ m.ended p ↔
      (∃ v, m.before.live? id = some v ∧ p v = true) ∧ m.after.live? id = none := by
    rw [Moment.ended, Finset.mem_filter, mem_idsOf]
  cases h with
  | starts v k hfresh hlive _ hdropped =>
    have hended : m.ended p = ∅ := by
      ext id
      rw [hmem, hlive]
      by_cases hid : id = k <;> simp_all
    rw [hdropped, hended]
    rfl
  | ends v k hwas hlive _ hdropped =>
    have hended : m.ended p = if p v = true then {k} else ∅ := by
      ext id
      rw [hmem, hlive]
      by_cases hid : id = k <;> by_cases hv : p v = true <;> simp_all
    rw [hdropped, hended, List.countP_singleton]
    split <;> rfl
  | endsAll hlive _ hdropped =>
    have hended : m.ended p = m.before.idsOf p := by
      ext id
      simp [hmem, mem_idsOf, hlive]
    rw [hdropped, hended]
  | stays hlive _ hdropped =>
    have hended : m.ended p = ∅ := by
      ext id
      rw [hmem, hlive]
      simp_all
    rw [hdropped, hended]
    rfl

/-- The references that a call starts and ends, counted. -/
theorem Change.balance {m : Moment} (h : Change m) (p : Value → Bool) :
    m.dropped.countP p + (m.after.idsOf p).card =
      (m.before.idsOf p).card + m.referenced.toList.countP p := by
  cases h with
  | starts v k hfresh hlive hreferenced hdropped =>
    rw [card_idsOf_insert hfresh hlive, hreferenced, hdropped]
    exact Nat.zero_add _
  | ends v k hwas hlive hreferenced hdropped =>
    rw [idsOf_erase hlive, hreferenced, hdropped, List.countP_singleton]
    by_cases hv : p v = true
    · have hmem : k ∈ m.before.idsOf p := mem_idsOf.mpr ⟨v, hwas, hv⟩
      have hcard := Finset.card_erase_add_one hmem
      simp [hv]
      omega
    · have hnot : k ∉ m.before.idsOf p := by simp [mem_idsOf, hwas, hv]
      simp [hv, Finset.erase_eq_of_notMem hnot]
  | endsAll hlive hreferenced hdropped =>
    rw [idsOf_of_dead hlive, hreferenced, hdropped]
    rfl
  | stays hlive hreferenced hdropped =>
    rw [idsOf_congr hlive, hreferenced, hdropped]
    exact Nat.zero_add _

/-- The values that were let go in some calls, in order. -/
def droppedIn (ms : List Moment) : List Value := ms.flatMap (·.dropped)

/-- The values that were given an id that was not live, in order. -/
def referencedIn (ms : List Moment) : List Value := ms.filterMap (·.referenced)

theorem referencedIn_cons (m : Moment) (ms : List Moment) :
    referencedIn (m :: ms) = m.referenced.toList ++ referencedIn ms := by
  cases h : m.referenced <;> simp [referencedIn, h]

theorem Coherent.after {t : ObjectTable} (ht : t.Coherent) (calls : List Call) :
    (t.after calls).Coherent := by
  induction calls generalizing t with
  | nil => exact ht
  | cons c calls ih => exact ih (ht.change c).2

/-- What is let go and what is live make up what was live and what was referenced. -/
theorem Coherent.balance {t : ObjectTable} (ht : t.Coherent) (calls : List Call) (p : Value → Bool) :
    (droppedIn (t.moments calls)).countP p + ((t.after calls).idsOf p).card =
      (t.idsOf p).card + (referencedIn (t.moments calls)).countP p := by
  induction calls generalizing t with
  | nil => exact Nat.add_comm 0 _
  | cons c calls ih =>
    obtain ⟨hchange, hnext⟩ := ht.change c
    have hone := hchange.balance p
    have hrest := ih hnext
    rw [moments, referencedIn_cons, droppedIn, List.flatMap_cons, ← droppedIn, List.countP_append,
      List.countP_append]
    change _ + ((ObjectTable.after (t.react c).after calls).idsOf p).card = _
    change _ = (t.idsOf p).card + _ at hone
    omega

theorem Coherent.forall_moments {t : ObjectTable} (ht : t.Coherent) (calls : List Call) :
    ∀ m ∈ t.moments calls, Change m := by
  induction calls generalizing t with
  | nil => simp [moments]
  | cons c calls ih =>
    intro m hm
    rcases List.mem_cons.mp hm with rfl | hm
    · exact (ht.change c).1
    · exact ih (ht.change c).2 m hm

theorem moments_append (t : ObjectTable) (cs ds : List Call) :
    t.moments (cs ++ ds) = t.moments cs ++ (t.after cs).moments ds := by
  induction cs generalizing t with
  | nil => rfl
  | cons c cs ih =>
    rw [List.cons_append, moments, ih, moments, List.cons_append]
    rfl

/-! ## Closing -/

/-- A closed table stays as it is. -/
theorem Coherent.react_of_closed {t : ObjectTable} (ht : t.Coherent) (h : t.closed = true) (c : Call) :
    (t.react c).after = t ∧ (t.react c).referenced = none ∧ (t.react c).dropped = [] := by
  cases c with
  | put v =>
    by_cases hv : v = .null
    · subst hv
      exact ⟨rfl, rfl, rfl⟩
    · simp [react, answer, put_of_closed hv h, Moment.referenced, Moment.dropped]
  | free k =>
    have hvacant := slot?_of_nil (ht.closed h) k
    simp [react, answer, free_of_vacant hvacant, Moment.referenced, Moment.dropped]
  | close =>
    have hclose : t.close = ([], t) := by simp [ObjectTable.close, h]
    simp [react, answer, hclose, Moment.referenced, Moment.dropped]
  | _ => exact ⟨rfl, rfl, rfl⟩

theorem Coherent.closed_forever {t : ObjectTable} (ht : t.Coherent) (h : t.closed = true)
    (calls : List Call) :
    t.after calls = t ∧ ∀ m ∈ t.moments calls, m.referenced = none ∧ m.dropped = [] := by
  induction calls with
  | nil => exact ⟨rfl, by simp [moments]⟩
  | cons c calls ih =>
    obtain ⟨hafter, hnothing⟩ := ht.react_of_closed h c
    rw [moments, hafter, ObjectTable.after, List.foldl_cons, hafter]
    refine ⟨ih.1, fun m hm => ?_⟩
    rcases List.mem_cons.mp hm with rfl | hm
    · exact hnothing
    · exact ih.2 m hm

/-- After closing nothing is live, and nothing happens any more. -/
theorem Coherent.after_close {t : ObjectTable} (ht : t.Coherent) (earlier later : List Call) :
    (t.after (earlier ++ [Call.close])).after later = t.after (earlier ++ [Call.close]) ∧
      (∀ id, (t.after (earlier ++ [Call.close])).live? id = none) ∧
      ∀ m ∈ (t.after (earlier ++ [Call.close])).moments later, m.referenced = none ∧ m.dropped = [] := by
  have hclosed := (ht.after earlier).close_eq
  have hlast : t.after (earlier ++ [Call.close]) = (t.after earlier).close.2 := by
    rw [ObjectTable.after, List.foldl_append]
    rfl
  obtain ⟨hstays, hnothing⟩ := (ht.after earlier).close.closed_forever hclosed.2.2 later
  rw [hlast]
  exact ⟨hstays, fun id => congrArg _ (slot?_of_nil hclosed.1 id), hnothing⟩

/-! ## Releases -/

/-- Whether a value is the object of the given name. -/
def named (n : Text) (v : Value) : Bool := releaseName? v == some n

/-- How often an object was released. -/
def releasesOf (n : Text) (ms : List Moment) : Nat := ((droppedIn ms).filterMap releaseName?).count n

theorem releasesOf_eq (n : Text) (ms : List Moment) :
    releasesOf n ms = (droppedIn ms).countP (named n) := by
  rw [releasesOf, List.count, List.countP_filterMap]
  congr 1
  funext v
  cases h : releaseName? v <;> simp [named, h]

/-- **References account for releases.** In any run of a new table, for every object, releases and
live ids together are as many as references, also if an object is any class of values at all. A call
lets go of as many of its values as it ends ids of it, and a value that keeps its id is not let go.
After closing, everything that was referenced is released, and further calls release nothing. -/
theorem references_account (calls : List Call) :
    (∀ n, releasesOf n (empty.moments calls) + ((empty.after calls).idsOf (named n)).card =
      (referencedIn (empty.moments calls)).countP (named n)) ∧
    (∀ p, (droppedIn (empty.moments calls)).countP p + ((empty.after calls).idsOf p).card =
      (referencedIn (empty.moments calls)).countP p) ∧
    (∀ m ∈ empty.moments calls, (∀ p, m.dropped.countP p = (m.ended p).card) ∧
      ∀ id v, m.before.live? id = some v → m.after.live? id = some v ∨ m.after.live? id = none) ∧
    ∀ earlier later, calls = earlier ++ .close :: later →
      (∀ id, (empty.after calls).live? id = none) ∧
      (∀ n, releasesOf n (empty.moments (earlier ++ [.close])) =
        (referencedIn (empty.moments calls)).countP (named n)) ∧
      ∀ m ∈ (empty.after (earlier ++ [.close])).moments later,
        m.referenced = none ∧ m.dropped = [] := by
  have hbalance (calls : List Call) (p : Value → Bool) :
      (droppedIn (empty.moments calls)).countP p + ((empty.after calls).idsOf p).card =
        (referencedIn (empty.moments calls)).countP p := by
    have hdead : ∀ id, empty.live? id = none := fun id => congrArg _ (slot?_of_nil rfl id)
    rw [coherent_empty.balance, idsOf_of_dead hdead]
    exact Nat.zero_add _
  refine ⟨fun n => by rw [releasesOf_eq, hbalance], hbalance calls, fun m hm => ?_, ?_⟩
  · have hchange := coherent_empty.forall_moments calls m hm
    exact ⟨hchange.countP_dropped, fun id v => hchange.kept⟩
  · intro earlier later hcalls
    obtain ⟨hends, hdead, hnothing⟩ := coherent_empty.after_close earlier later
    have hsplit : calls = (earlier ++ [Call.close]) ++ later := by rw [hcalls, List.append_cons]
    have hsame : referencedIn (empty.moments calls) =
        referencedIn (empty.moments (earlier ++ [Call.close])) := by
      rw [hsplit, moments_append, referencedIn, List.filterMap_append, ← referencedIn,
        List.filterMap_eq_nil_iff.mpr fun m hm => (hnothing m hm).1, List.append_nil]
    refine ⟨fun id => ?_, fun n => ?_, hnothing⟩
    · rw [hsplit, ObjectTable.after, List.foldl_append]
      change ((empty.after (earlier ++ [Call.close])).after later).live? id = none
      rw [hends]
      exact hdead id
    · have hrun := hbalance (earlier ++ [Call.close]) (named n)
      rw [idsOf_of_dead hdead] at hrun
      rw [releasesOf_eq, hsame]
      exact hrun

end ObjectTable

end PageBoot.Bridge
