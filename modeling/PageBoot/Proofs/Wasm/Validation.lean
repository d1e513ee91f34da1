import PageBoot.Wasm.Machine

/-!
What validation promises about a run. While a checked body runs, its stack has as many operands as
the check has counted; code that the check no longer counts in comes after `unreachable` and is
never reached. So a function that returns gives as many results as its type declares, which
`run_results` states for a whole program and `call_results` for an instance.
-/

namespace PageBoot.Wasm

namespace Check.Operands

/-- The stack of a run is the one that was checked. -/
structure Fits (o : Operands) (s : Stack) : Prop where
  live : o.dead = false
  length : o.stack.length = s.length

variable {o o' : Operands} {s : Stack}

theorem Fits.push (h : o.Fits s) (t : ValType) (x : UInt64) : (o.push t).Fits (x :: s) :=
  ⟨h.live, by simp [Operands.push, h.length]⟩

theorem Fits.pushAll (h : o.Fits s) {ts : List ValType} {xs : Stack} (hlen : xs.length = ts.length) :
    (o.pushAll ts).Fits (xs.reverse ++ s) := by
  induction ts generalizing o s xs with
  | nil =>
    obtain rfl := List.length_eq_zero_iff.mp hlen
    exact h
  | cons t ts ih =>
    cases xs with
    | nil => simp at hlen
    | cons x xs =>
      have hrest : xs.length = ts.length := by simpa using hlen
      simpa [Operands.pushAll] using ih (h.push t x) hrest

theorem Fits.pop (h : o.Fits s) {v : Option ValType} (hp : o.pop = some (v, o')) :
    ∃ x rest, s = x :: rest ∧ o'.Fits rest := by
  have hlen := h.length
  cases hs : o.stack with
  | nil => simp [Operands.pop, hs, h.live] at hp
  | cons t ts =>
    rw [hs] at hlen
    cases s with
    | nil => simp at hlen
    | cons x rest =>
      simp only [Operands.pop, hs, Option.some.injEq, Prod.mk.injEq] at hp
      obtain ⟨-, rfl⟩ := hp
      exact ⟨x, rest, rfl, h.live, by simpa using hlen⟩

theorem Fits.popType (h : o.Fits s) {t : ValType} (hp : o.popType t = some o') :
    ∃ x rest, s = x :: rest ∧ o'.Fits rest := by
  unfold Operands.popType at hp
  split at hp
  next v q hq =>
    split at hp
    · cases hp
      exact h.pop hq
    · cases hp
  next q hq =>
    cases hp
    exact h.pop hq
  next => cases hp

theorem Fits.popTypes (h : o.Fits s) {ts : List ValType} (hp : o.popTypes ts = some o') :
    ts.length ≤ s.length ∧ o'.Fits (s.drop ts.length) := by
  induction ts generalizing o s with
  | nil =>
    cases hp
    exact ⟨Nat.zero_le _, h⟩
  | cons t ts ih =>
    obtain ⟨q, hq, hrest⟩ := Option.bind_eq_some_iff.mp hp
    obtain ⟨x, rest, rfl, hfits⟩ := h.popType hq
    obtain ⟨hle, hdrop⟩ := ih hfits hrest
    exact ⟨by simpa using hle, by simpa using hdrop⟩

/-! ## One instruction -/

theorem Fits.unary (h : o.Fits s) (hc : Check.unary o = some o') :
    ∃ x rest, s = x :: rest ∧ ∀ y, o'.Fits (y :: rest) := by
  obtain ⟨q, hq, rfl⟩ := Option.map_eq_some_iff.mp hc
  obtain ⟨x, rest, rfl, hfits⟩ := h.popType hq
  exact ⟨x, rest, rfl, hfits.push .i32⟩

theorem Fits.binary (h : o.Fits s) (hc : Check.binary o = some o') :
    ∃ x y rest, s = x :: y :: rest ∧ ∀ z, o'.Fits (z :: rest) := by
  obtain ⟨q, hq, rfl⟩ := Option.map_eq_some_iff.mp hc
  obtain ⟨hle, hfits⟩ := h.popTypes hq
  match s, hle with
  | x :: y :: rest, _ => exact ⟨x, y, rest, rfl, hfits.push .i32⟩

theorem Fits.select {c : Context} (h : o.Fits s) (hc : Check.instr c o .select = some o') :
    ∃ x y z rest, s = x :: y :: z :: rest ∧ ∀ v, o'.Fits (v :: rest) := by
  simp only [Check.instr, Option.bind_eq_bind, Option.bind_eq_some_iff] at hc
  obtain ⟨q₁, h₁, ⟨a, q₂⟩, h₂, ⟨b, q₃⟩, h₃, hpush⟩ := hc
  obtain ⟨x, s₁, rfl, f₁⟩ := h.popType h₁
  obtain ⟨y, s₂, rfl, f₂⟩ := f₁.pop h₂
  obtain ⟨z, s₃, rfl, f₃⟩ := f₂.pop h₃
  refine ⟨x, y, z, s₃, rfl, fun v => ?_⟩
  cases a with
  | none =>
    cases hpush
    exact ⟨f₃.live, by simp [f₃.length]⟩
  | some a =>
    cases b with
    | none =>
      cases hpush
      exact f₃.push a v
    | some b =>
      simp only at hpush
      split at hpush
      · cases hpush
        exact f₃.push a v
      · cases hpush

theorem pushed_eq_ok {s t : Stack} {cause : TrapCause} {v : Option UInt64}
    (h : pushed s cause v = .ok t) : ∃ x, t = x :: s := by
  cases v with
  | none => cases h
  | some x =>
    cases h
    exact ⟨x, rfl⟩

/-- An instruction that goes through leaves the stack as it was checked. Calls, assignments and
`unreachable` never go through here. -/
theorem Fits.step {c : Context} {i : Instr} {locals : Stack} {globals : List UInt64}
    {memory : Option Memory} {t : Stack} (h : o.Fits s) (hc : Check.instr c o i = some o')
    (hs : i.step locals globals memory s = .ok t) : o'.Fits t := by
  cases i with
  | unreachable => cases hs
  | call f => cases hs
  | globalSet i => cases hs
  | select =>
    obtain ⟨x, y, z, rest, rfl, hfits⟩ := h.select hc
    cases hs
    exact hfits _
  | localGet i =>
    obtain ⟨v, -, rfl⟩ := Option.map_eq_some_iff.mp hc
    obtain ⟨x, rfl⟩ := pushed_eq_ok hs
    exact h.push v x
  | globalGet i =>
    obtain ⟨g, -, rfl⟩ := Option.map_eq_some_iff.mp hc
    obtain ⟨x, rfl⟩ := pushed_eq_ok hs
    exact h.push g.type x
  | load align offset =>
    simp only [Check.instr] at hc
    split at hc
    · obtain ⟨x, rest, rfl, hfits⟩ := h.unary hc
      obtain ⟨y, rfl⟩ := pushed_eq_ok hs
      exact hfits y
    · cases hc
  | load8 align offset =>
    simp only [Check.instr] at hc
    split at hc
    · obtain ⟨x, rest, rfl, hfits⟩ := h.unary hc
      obtain ⟨y, rfl⟩ := pushed_eq_ok hs
      exact hfits y
    · cases hc
  | const v =>
    cases hc
    cases hs
    exact h.push .i32 _
  | eqz =>
    obtain ⟨x, rest, rfl, hfits⟩ := h.unary hc
    cases hs
    exact hfits _
  | eq | ltS | leU | add | and =>
    obtain ⟨x, y, rest, rfl, hfits⟩ := h.binary hc
    cases hs
    exact hfits _

end Check.Operands

/-! ## Bodies -/

open Check.Operands

/-- Calls give as many results as the types of the functions declare. -/
def Honest (funcs : List FuncType) (call : Nat → Stack → State → Run Stack) : Prop :=
  ∀ f args st results st', call f args st = (.ok results, st') →
    results.length = ((funcs[f]?).getD ⟨[], []⟩).results.length

theorem fits_runBody {p : Program} {memory : Option Memory} {self : Nat}
    {call : Nat → Stack → State → Run Stack} {locals : Stack} {c : Check.Context}
    (hfuncs : c.funcs = p.funcs) (hcall : Honest p.funcs call) {is : List Instr} {s t : Stack}
    {st st' : State} {o o' : Check.Operands} (h : o.Fits s) (hc : Check.instrs c o is = some o')
    (hr : runBody p memory self call locals is s st = (.ok t, st')) : o'.Fits t := by
  fun_induction runBody p memory self call locals is s st generalizing o with
  | case1 s st =>
    cases hc
    cases hr
    exact h
  | case2 f is s st type₀ n results u hf =>
    rename_i ih
    obtain ⟨q, hi, hrest⟩ := Option.bind_eq_some_iff.mp hc
    simp only [Check.instr, Option.bind_eq_bind, Option.bind_eq_some_iff, hfuncs] at hi
    obtain ⟨type, htype, q', hpop, hpush⟩ := hi
    cases hpush
    have hn : n = type.params.length := by simp [n, type₀, htype]
    have hlen : results.length = type.results.length := by
      simpa [htype] using hcall _ _ _ _ _ hf
    obtain ⟨-, hfits⟩ := h.popTypes hpop
    rw [List.length_reverse, ← hn] at hfits
    exact ih (hfits.pushAll hlen) hrest hr
  | case3 => cases hr
  | case4 i is v s st ih =>
    obtain ⟨q, hi, hrest⟩ := Option.bind_eq_some_iff.mp hc
    simp only [Check.instr, Option.bind_eq_bind, Option.bind_eq_some_iff] at hi
    obtain ⟨g, -, hset⟩ := hi
    split at hset
    · obtain ⟨x, rest, hcons, hfits⟩ := h.popType hset
      cases hcons
      exact ih hfits hrest hr
    · cases hset
  | case5 i is s st hne₁ hne₂ u hu ih =>
    obtain ⟨q, hi, hrest⟩ := Option.bind_eq_some_iff.mp hc
    exact ih (h.step hi hu) hrest hr
  | case6 => cases hr

/-! ## Programs -/

/-- Every body was checked against its type, and the imports that are linked take and give
nothing. -/
structure Program.Valid (p : Program) : Prop where
  bodies : ∀ r ∈ p.routines, ∃ c : Check.Context, c.funcs = p.funcs ∧
    Check.body c r.type r.code = true
  imports : ∀ i ∈ p.imports, i.2 = ⟨[], []⟩

theorem body_results {p : Program} {memory : Option Memory} {self : Nat}
    {call : Nat → Stack → State → Run Stack} {locals : Stack} {c : Check.Context} {type : FuncType}
    {code : List Instr} {t : Stack} {st st' : State} (hfuncs : c.funcs = p.funcs)
    (hcall : Honest p.funcs call) (hc : Check.body c type code = true)
    (hr : runBody p memory self call locals code [] st = (.ok t, st')) :
    t.length = type.results.length := by
  unfold Check.body at hc
  split at hc
  next => cases hc
  next o ho =>
    have hfits := fits_runBody hfuncs hcall (o := {}) ⟨rfl, rfl⟩ ho hr
    split at hc
    next q hq =>
      obtain ⟨hle, hrest⟩ := hfits.popTypes hq
      have hempty : q.stack = [] := by simpa using hc
      have hnone := hrest.length
      simp only [hempty, List.length_nil, List.length_drop, List.length_reverse] at hnone hle
      omega
    next => cases hc

theorem Program.funcs_of_import {p : Program} (hp : p.Valid) {f : Nat}
    (hf : f < p.imports.length) : p.funcs[f]? = some ⟨[], []⟩ := by
  have htype : (p.imports[f]).2 = ⟨[], []⟩ := hp.imports _ (List.getElem_mem hf)
  have hlt : f < (p.imports.map (·.2)).length := by simpa using hf
  rw [funcs, List.getElem?_append_left hlt]
  simp [hf, htype]

theorem Program.funcs_of_routine {p : Program} {f : Nat} {r : Routine}
    (hf : ¬ f < p.imports.length) (hr : p.routines[f - p.imports.length]? = some r) :
    p.funcs[f]? = some r.type := by
  have hle : (p.imports.map (·.2)).length ≤ f := by simpa using hf
  rw [funcs, List.getElem?_append_right hle]
  simp [hr]

/-- An import that is linked takes and gives nothing. -/
theorem run_import_results {p : Program} (hp : p.Valid) {memory : Option Memory} {depth f : Nat}
    {args results : Stack} {st st' : State} (hf : f < p.imports.length)
    (hr : run p memory depth f args st = (.ok results, st')) :
    results.length = ((p.funcs[f]?).getD ⟨[], []⟩).results.length := by
  unfold run at hr
  simp only [hf, if_true, Prod.mk.injEq, Except.ok.injEq] at hr
  simp [← hr.1, Program.funcs_of_import hp hf]

/-- **Results of a run.** A function that returns gives as many results as its type declares. -/
theorem run_results {p : Program} (hp : p.Valid) (memory : Option Memory) (depth : Nat) :
    Honest p.funcs (run p memory depth) := by
  induction depth with
  | zero =>
    intro f args st results st' hr
    by_cases hf : f < p.imports.length
    · exact run_import_results hp hf hr
    · unfold run at hr
      simp only [hf, if_false] at hr
      cases hroutine : p.routines[f - p.imports.length]? <;> simp [hroutine] at hr
  | succ depth ih =>
    intro f args st results st' hr
    by_cases hf : f < p.imports.length
    · exact run_import_results hp hf hr
    · unfold run at hr
      simp only [hf, if_false] at hr
      cases hroutine : p.routines[f - p.imports.length]? with
      | none => simp [hroutine] at hr
      | some r =>
        obtain ⟨c, hfuncs, hbody⟩ := hp.bodies r (List.mem_of_getElem? hroutine)
        simp only [hroutine] at hr
        split at hr
        next t u hrun =>
          have hlen := body_results hfuncs ih hbody hrun
          simp only [Prod.mk.injEq, Except.ok.injEq] at hr
          simp [← hr.1, Program.funcs_of_routine hf hroutine, hlen]
        next => simp at hr

/-- Results of a call from outside. -/
theorem Instance.call_results {i i' : Instance} (hi : i.program.Valid) {f : Nat} {args s : Stack}
    {signals : Nat} (h : i.call f args = (.ok s, signals, i')) :
    s.length = ((i.type? f).getD ⟨[], []⟩).results.length := by
  unfold call at h
  simp only at h
  split at h
  next => simp at h
  next =>
    cases hr : run i.program i.memory i.depthLimit f args { globals := i.globals } with
    | mk out st =>
      simp only [hr] at h
      cases out with
      | error t => simp at h
      | ok results =>
        obtain ⟨hresults, -⟩ := Prod.mk.inj h
        split at hresults
        next => cases hresults
        next =>
          cases hresults
          exact run_results hi i.memory i.depthLimit f args _ _ _ hr

/-! ## Modules that are compiled -/

theorem checkBodies_eq_ok {m : Module} {funcs : List FuncType} {bodies : List (Nat × Body)}
    {i : Nat} {rs : List Routine} (h : m.checkBodies funcs bodies i = .ok rs) :
    rs.map (·.type) = (bodies.map (·.1)).filterMap (m.types[·]?) ∧
      ∀ r ∈ rs, ∃ c : Check.Context, c.funcs = funcs ∧ Check.body c r.type r.code = true := by
  induction bodies generalizing i rs with
  | nil =>
    cases h
    simp
  | cons b bodies ih =>
    unfold Module.checkBodies at h
    split at h
    next => cases h
    next type htype =>
      simp only at h
      split at h
      next => cases h
      next code hcode =>
        split at h
        next hbody =>
          cases hrest : m.checkBodies funcs bodies (i + 1) with
          | error f => simp [hrest, Except.map] at h
          | ok rest =>
            simp only [hrest, Except.map, Except.ok.injEq] at h
            subst h
            obtain ⟨htypes, hrs⟩ := ih hrest
            refine ⟨by simp [htype, htypes], ?_⟩
            intro r hr
            rcases List.mem_cons.mp hr with rfl | hr
            · exact ⟨_, rfl, hbody⟩
            · exact hrs r hr
        next => cases h

theorem read?_balanced {d : Demands} {bytes : Text} {m : Module}
    (h : Module.read? d bytes = some m) :
    m.funcs.length = m.bodies.length := by
  unfold Module.read? at h
  split at h
  · simp only [Option.bind_eq_bind, Option.bind_eq_some_iff] at h
    obtain ⟨m', -, hm'⟩ := h
    split at hm'
    next heq =>
      cases hm'
      exact heq
    next => cases hm'
  · cases h

theorem check_bodies {m : Module} {p : Program} (hlen : m.funcs.length = m.bodies.length)
    (h : m.check = .ok p) :
    ∀ r ∈ p.routines, ∃ c : Check.Context, c.funcs = p.funcs ∧
      Check.body c r.type r.code = true := by
  unfold Module.check at h
  simp only at h
  split at h
  next => cases h
  next =>
    split at h
    next => cases h
    next =>
      cases hbodies : m.checkBodies _ (m.funcs.zip m.bodies) 0 with
      | error f => rw [hbodies] at h; cases h
      | ok rs =>
        rw [hbodies] at h
        cases h
        obtain ⟨htypes, hrs⟩ := checkBodies_eq_ok hbodies
        rw [List.map_fst_zip (Nat.le_of_eq hlen)] at htypes
        intro r hr
        obtain ⟨c, hfuncs, hbody⟩ := hrs r hr
        exact ⟨c, by rw [hfuncs, Program.funcs, htypes], hbody⟩

theorem compile_bodies {bytes : Text} {p : Program} (h : compile bytes = .ok p) :
    ∀ r ∈ p.routines, ∃ c : Check.Context, c.funcs = p.funcs ∧
      Check.body c r.type r.code = true := by
  unfold compile at h
  split at h
  next => cases h
  next m hm => exact check_bodies (read?_balanced hm) h

end PageBoot.Wasm
