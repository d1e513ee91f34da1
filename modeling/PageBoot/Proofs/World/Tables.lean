import PageBoot.Proofs.World.Moves

/-!
Through which table the objects of a module cross the bridge. A guest has the table it was given
last, and every module that is bridged through it gives it its own; `after_tabled` keeps track of
both through loads and calls. So a call through any of these modules goes by the table of the newest
one: `call_enters_newest` says what it does to all tables, and `sharedByTwo` is a page on which a
module's objects end up in another's.
-/

namespace PageBoot

/-! ## A dispatched call and its table -/

/-- The table after values were handed over to a guest. One that takes no calls takes none. -/
def Wasm.Plugin.entered (p : Wasm.Plugin) (objects : Bridge.ObjectTable) (values : List Value) :
    Bridge.ObjectTable :=
  if p.dispatch.isSome then (references objects values).2 else objects

theorem Wasm.Plugin.runDispatch_objects (p : Wasm.Plugin) (objects : Bridge.ObjectTable) (disp : Int)
    (this : Value) (args : List Value) :
    (p.runDispatch (some objects) disp this args).2 = some (p.entered objects (this :: args)) := by
  unfold runDispatch entered
  cases hd : p.dispatch with
  | none => simp
  | some f =>
    simp only [Option.isSome_some, if_true]
    split
    next e after h => rw [h]
    next ids after h =>
      rw [h]
      simp only
      split <;> rfl

namespace World

open Page (ConnectorId)
open Connector Loader

/-- A call to a guest goes by the table that the guest was given, and by no other. -/
theorem callDispatch_guest {w : World} {c : ConnectorId} {x : Wired} {p : Wasm.Plugin} {t : Nat}
    {objects : Bridge.ObjectTable} (hx : w.connectors[c]? = some x) (hp : x.device = .guest p)
    (ht : x.table = some t) (hobjects : w.tables[t]? = some objects) (disp : Int) (this : Value)
    (args : List Value) :
    (w.callDispatch c disp this args).1 = (p.runDispatch (some objects) disp this args).1.reply ∧
      (w.callDispatch c disp this args).2.tables =
        w.tables.set t (p.entered objects (this :: args)) := by
  have hafter := p.runDispatch_objects objects disp this args
  cases hrun : p.runDispatch (some objects) disp this args with
  | mk call table =>
    rw [hrun] at hafter
    simp only at hafter
    subst hafter
    simp only [callDispatch, hx, hp, ht, Option.bind_some, hobjects, hrun]
    refine ⟨rfl, ?_⟩
    exact (signals_kept _ c call.signals).tables

theorem call_guest {w : World} {i : Nat} {m : DevModule} {a : Bridge.Adapters} {c : ConnectorId}
    {x : Wired} {p : Wasm.Plugin} {t : Nat} {objects : Bridge.ObjectTable}
    (hm : w.modules[i]? = some m) (ha : m.adapters = some a) (hc : m.connector = some c)
    (hx : w.connectors[c]? = some x) (hp : x.device = .guest p) (ht : x.table = some t)
    (hobjects : w.tables[t]? = some objects) (disp arity : Int) (tearOff : Bool) (this : Value)
    (args : List Value) :
    if (args.length : Int) = (a.adapter disp arity tearOff).1 then
      (w.call i disp arity tearOff this args).1 = some ((p.runDispatch (some objects) disp this
          args).1.reply.bind fun r => .ofExcept (Bridge.outcomeOf disp r)) ∧
        (w.call i disp arity tearOff this args).2.tables =
          w.tables.set t (p.entered objects (this :: args))
    else
      (w.call i disp arity tearOff this args).1 = some (.failure
          (Bridge.arityFailure disp (a.adapter disp arity tearOff).1 args.length)) ∧
        (w.call i disp arity tearOff this args).2.tables = w.tables := by
  cases hadapter : a.adapter disp arity tearOff with
  | mk n a' =>
    simp only [call, hm, ha, hc, hadapter]
    generalize w.modules.set i _ = ms
    by_cases harity : (args.length : Int) = n
    · rw [if_pos harity, if_neg (not_not_intro harity)]
      obtain ⟨hreply, htables⟩ :=
        callDispatch_guest (w := { w with modules := ms }) hx hp ht hobjects disp this args
      rw [← hreply]
      split <;> next h => rw [h] at htables ⊢; exact ⟨rfl, htables⟩
    · rw [if_neg harity, if_pos harity]
      exact ⟨rfl, rfl⟩

/-! ## Which table a guest was given last -/

/-- Module `j`, with table `t`, is the newest that was bridged through connector `c`. -/
structure Newest (w : World) (c : ConnectorId) (j t : Nat) : Prop where
  link : ∃ k, w.links[j]? = some k ∧ k.connector = some c ∧ k.table = some t
  last : ∀ i k, j < i → w.links[i]? = some k → k.connector ≠ some c

/-- Modules that are bridged through others, or through none, change nothing about that. -/
theorem Newest.append {w v : World} {c : ConnectorId} {j t : Nat} {ks : List Link}
    (h : w.Newest c j t) (hlinks : v.links = w.links ++ ks)
    (hks : ∀ k ∈ ks, k.connector ≠ some c) : v.Newest c j t where
  link := by
    obtain ⟨k, hk, hlink⟩ := h.link
    obtain ⟨hlt, -⟩ := List.getElem?_eq_some_iff.mp hk
    exact ⟨k, by rw [hlinks, List.getElem?_append_left hlt, hk], hlink⟩
  last i k hi hk := by
    rw [hlinks] at hk
    obtain hold | ⟨-, hnew⟩ := List.getElem?_append_cases hk
    · exact h.last i k hi hold
    · exact hks k hnew

theorem newest_concat {w v : World} {c : ConnectorId} {k : Link} {t : Nat}
    (hlinks : v.links = w.links ++ [k]) (hc : k.connector = some c) (ht : k.table = some t) :
    v.Newest c w.links.length t where
  link := ⟨k, by simp [hlinks], hc, ht⟩
  last i k' hi hk' := by
    have hlt := (List.getElem?_eq_some_iff.mp hk').1
    simp only [hlinks, List.length_append, List.length_singleton] at hlt
    omega

/-- A module that is bridged through a guest takes calls and has a table of its own, and the guest
was given that of the newest such module. -/
def Tabled (w : World) : Prop :=
  ∀ (c : ConnectorId) (x : Wiring) (i : Nat) (k : Link), w.wiring? c = some x → x.isGuest = true →
    w.links[i]? = some k → k.connector = some c →
    k.takesCalls = true ∧ ∃ own j t, k.table = some own ∧ own < w.tables.length ∧
      w.Newest c j t ∧ x.table = some t ∧ (own = t ↔ i = j)

theorem Tabled.bridges {w v : World} {cs : List ConnectorId} {c : ConnectorId} (hw : w.Tabled)
    (h : Bridges cs c w v) : v.Tabled := by
  intro c' y i k hy hguest hk hc'
  obtain ⟨takesCalls, hlinks, htakes⟩ := h.links
  rw [h.wiring] at hy
  obtain ⟨x, hx, rfl⟩ := Option.map_eq_some_iff.mp hy
  have hlength : v.tables.length = w.tables.length + 1 := by simp [h.tables]
  simp only at hguest
  have hcases := hk
  rw [hlinks] at hcases
  obtain hold | ⟨hle, hnew⟩ := List.getElem?_append_cases hcases
  · obtain ⟨htakes', own, j, t, hown, hlt, hnewest, ht, hiff⟩ := hw c' x i k hx hguest hold hc'
    have hi := (List.getElem?_eq_some_iff.mp hold).1
    refine ⟨htakes', ?_⟩
    by_cases hcc : c' = c
    · -- the new module takes the place of the newest
      subst hcc
      refine ⟨own, w.links.length, w.tables.length, hown, by omega, newest_concat hlinks rfl rfl, ?_, ?_⟩
      · simp [hguest]
      · omega
    · refine ⟨own, j, t, hown, by omega, hnewest.append hlinks ?_, ?_, hiff⟩
      · simpa using Ne.symm hcc
      · simpa [hcc] using ht
  · obtain rfl := List.mem_singleton.mp hnew
    cases hc'
    have hi := (List.getElem?_eq_some_iff.mp hk).1
    simp only [hlinks, List.length_append, List.length_singleton] at hi
    refine ⟨htakes x hx hguest, w.tables.length, w.links.length, w.tables.length, rfl, by omega,
      newest_concat hlinks rfl rfl, ?_, ?_⟩
    · simp [hguest]
    · omega

theorem Tabled.strands {w v : World} {cs : List ConnectorId} (hw : w.Tabled)
    (h : Strands cs w v) : v.Tabled := by
  intro c y i k hy hguest hk hc
  obtain ⟨ks, hlinks, hnone⟩ := h.links
  rw [h.wiring] at hy
  obtain ⟨x, hx, rfl⟩ := Option.map_eq_some_iff.mp hy
  rw [hlinks] at hk
  obtain hold | ⟨-, hnew⟩ := List.getElem?_append_cases hk
  · obtain ⟨htakes, own, j, t, hown, hlt, hnewest, ht, hiff⟩ := hw c x i k hx hguest hold hc
    refine ⟨htakes, own, j, t, hown, by rwa [h.tables], hnewest.append hlinks ?_, ht, hiff⟩
    intro k' hk'
    simp [hnone k' hk']
  · rw [hnone k hnew] at hc
    cases hc

theorem Tabled.stirs {w v : World} (hw : w.Tabled) (h : Stirs w v) : v.Tabled := by
  intro c x i k hx hguest hk hc
  rw [h.wiring] at hx
  rw [h.links] at hk
  obtain ⟨htakes, own, j, t, hown, hlt, hnewest, hrest⟩ := hw c x i k hx hguest hk hc
  have hlinks : v.links = w.links ++ [] := by rw [h.links, List.append_nil]
  exact ⟨htakes, own, j, t, hown, by rwa [h.tables], hnewest.append hlinks (by simp), hrest⟩

theorem after_tabled {w : World} (hw : w.Tabled) (moves : List Move) : (w.after moves).Tabled := by
  induction moves generalizing w with
  | nil => exact hw
  | cons m moves ih =>
    refine ih ?_
    cases m with
    | load options loadError name base =>
      obtain ⟨c, -, h⟩ | ⟨-, h⟩ := onLoad_cases w options loadError name base
      · exact hw.bridges h
      · exact hw.strands h
    | call i disp arity tearOff this args => exact hw.stirs (call_stirs w i disp arity tearOff this args)

theorem tabled_of_no_modules {w : World} (h : w.modules = []) : w.Tabled := by
  intro c x i k _ _ hk
  simp [links, h] at hk

/-- **Whose table a call goes by.** From a page without modules, loads and calls led to one on which
module `i` is bridged through guest `c`. A call through it enters the receiver and the arguments in
the table of the newest module that is bridged through the same guest, resolves the result there,
and leaves all other tables as they are; with a wrong number of arguments no table changes. The
module's own table is that one exactly if the module itself is the newest. -/
theorem call_enters_newest {w : World} {moves : List Move} {i : Nat} {m : DevModule}
    {c : ConnectorId} {p : Wasm.Plugin} (hw : w.modules = [])
    (hm : (w.after moves).modules[i]? = some m) (hc : m.connector = some c)
    (hp : (w.after moves).device? c = some (.guest p)) :
    let v := w.after moves
    ∃ a own j t objects, m.adapters = some a ∧ m.table = some own ∧ own < v.tables.length ∧
      v.Newest c j t ∧ v.tables[t]? = some objects ∧ (own = t ↔ i = j) ∧
      ∀ (disp arity : Int) (tearOff : Bool) (this : Value) (args : List Value),
        if (args.length : Int) = (a.adapter disp arity tearOff).1 then
          (v.call i disp arity tearOff this args).1 = some ((p.runDispatch (some objects) disp this
              args).1.reply.bind fun r => .ofExcept (Bridge.outcomeOf disp r)) ∧
            (v.call i disp arity tearOff this args).2.tables =
              v.tables.set t (p.entered objects (this :: args))
        else
          (v.call i disp arity tearOff this args).1 = some (.failure
              (Bridge.arityFailure disp (a.adapter disp arity tearOff).1 args.length)) ∧
            (v.call i disp arity tearOff this args).2.tables = v.tables := by
  intro v
  obtain ⟨x, hx, hd⟩ := device?_eq hp
  have hwiring : v.wiring? c = some x.wiring := by simp [wiring?, v, hx]
  have hguest : x.wiring.isGuest = true := by simp [Wired.wiring, hd]
  have htabled : v.Tabled := after_tabled (tabled_of_no_modules hw) moves
  have hlink : v.links[i]? = some m.link := by simp [links, v, hm]
  obtain ⟨htakes, own, j, t, hown, hlt, hnewest, ht, hiff⟩ :=
    htabled c x.wiring i m.link hwiring hguest hlink hc
  obtain ⟨a, ha⟩ := Option.isSome_iff_exists.mp htakes
  -- the newest module has a table of its own too, and it is the one that the guest was given
  obtain ⟨k, hk, hkc, hkt⟩ := hnewest.link
  obtain ⟨-, own', -, -, hown', hlt', -⟩ := htabled c x.wiring j k hwiring hguest hk hkc
  obtain rfl : t = own' := Option.some.inj (hkt.symm.trans hown')
  exact ⟨a, own, j, t, v.tables[t], ha, hown, hlt, hnewest, List.getElem?_eq_getElem hlt', hiff,
    call_guest hm ha hc hx hd ht (List.getElem?_eq_getElem hlt')⟩

/-- On the shared page a call through the module `A` enters its receiver in the table of `B`. -/
theorem call_enters_newest_shared :
    ∃ objects p, sharedByTwo.tables[1]? = some objects ∧ sharedByTwo.device? 0 = some (.guest p) ∧
      (sharedByTwo.call 0 5 0 false (.int 3) []).2.tables =
        sharedByTwo.tables.set 1 (p.entered objects [.int 3]) := by
  obtain ⟨m, hm, hlink⟩ := exists_module (w := sharedByTwo) (i := 0) (by rw [sharedByTwo_links]; rfl)
  have hc : m.connector = some 0 := congrArg Link.connector hlink
  obtain ⟨p, hp⟩ := sharedByTwo_guest
  obtain ⟨a, own, j, t, objects, -, -, -, hnewest, hobjects, -, hcall⟩ :=
    call_enters_newest (w := shared) rfl hm hc hp
  rw [← sharedByTwo] at hnewest hobjects
  -- the newest module is the second
  have hsecond : ¬ j < 1 := by
    intro hj
    have hlast := hnewest.last 1 ⟨some 0, 1, some 1, true⟩ hj
    rw [sharedByTwo_links] at hlast
    exact hlast rfl rfl
  obtain ⟨k, hk, -, ht⟩ := hnewest.link
  rw [sharedByTwo_links] at hk
  obtain rfl : j = 1 := by
    have hlt := (List.getElem?_eq_some_iff.mp hk).1
    simp only [List.length_cons, List.length_nil] at hlt
    omega
  cases hk
  cases ht
  have harity : (([] : List Value).length : Int) = (a.adapter 5 0 false).1 := rfl
  have hentered := hcall 5 0 false (.int 3) []
  rw [← sharedByTwo, if_pos harity] at hentered
  exact ⟨objects, p, hobjects, hp, hentered.2⟩

/-- It is not so that a call through one of two modules that share a guest leaves the table of the
other as it is. -/
theorem call_enters_others_table :
    ¬ ∀ (w : World) (moves : List Move) (i i' : Nat) (m m' : DevModule) (c : ConnectorId)
      (p : Wasm.Plugin) (t : Nat) (disp arity : Int) (tearOff : Bool) (this : Value)
      (args : List Value), w.modules = [] → i ≠ i' →
      (w.after moves).modules[i]? = some m → (w.after moves).modules[i']? = some m' →
      m.connector = some c → m'.connector = some c →
      (w.after moves).device? c = some (.guest p) → m'.table = some t →
      ((w.after moves).call i disp arity tearOff this args).2.tables[t]? =
        (w.after moves).tables[t]? := by
  intro h
  obtain ⟨a, ha, halink⟩ := exists_module (w := sharedByTwo) (i := 0) (by rw [sharedByTwo_links]; rfl)
  obtain ⟨b, hb, hblink⟩ := exists_module (w := sharedByTwo) (i := 1) (by rw [sharedByTwo_links]; rfl)
  obtain ⟨p, hp⟩ := sharedByTwo_guest
  have hsame := h shared _ 0 1 a b 0 p 1 5 0 false (.int 3) [] rfl Nat.zero_ne_one ha hb
    (congrArg Link.connector halink) (congrArg Link.connector hblink) hp (congrArg Link.table hblink)
  have hbefore : (sharedByTwo.tables[1]?).map (·.size) = some 0 := by decide +kernel
  have hafter : ((sharedByTwo.call 0 5 0 false (.int 3) []).2.tables[1]?).map (·.size) = some 1 := by
    decide +kernel
  rw [sharedByTwo, hsame, ← sharedByTwo, hbefore] at hafter
  cases hafter

end World

end PageBoot
