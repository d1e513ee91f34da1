import PageBoot.Proofs.Wasm.Crashes
import PageBoot.Proofs.Wasm.Drafts

/-!
Guests as they are loaded. The module that is put together for a guest passes every check, whatever
the guest's behaviour, and what is loaded from its bytes is known to the last field: `program` is
its code, `loaded` the plugin. Only a guest that signals so often that its `connect` cannot be
written down is not loaded, nor is any guest under the name of the host.
-/

namespace PageBoot.Wasm

/-! ## Code that is read back -/

namespace Instr

/-- Its numbers are of 32 bits. -/
def Proper : Instr → Prop
  | .call i | .localGet i | .globalGet i | .globalSet i => i < 2 ^ 32
  | .load a o | .load8 a o => a < 2 ^ 32 ∧ o < 2 ^ 32
  | .const v => -2 ^ 31 ≤ v ∧ v < 2 ^ 31
  | _ => True

instance : (i : Instr) → Decidable i.Proper
  | .call i | .localGet i | .globalGet i | .globalSet i => inferInstanceAs (Decidable (i < 2 ^ 32))
  | .load a o | .load8 a o => inferInstanceAs (Decidable (a < 2 ^ 32 ∧ o < 2 ^ 32))
  | .const v => inferInstanceAs (Decidable (-2 ^ 31 ≤ v ∧ v < 2 ^ 31))
  | .unreachable | .select | .eqz | .eq | .ltS | .leU | .add | .and =>
    inferInstanceAs (Decidable True)

theorem read?_bytes {i : Instr} (h : i.Proper) (rest : Text) :
    read? (i.bytes ++ rest) = some (i, rest) := by
  cases i with
  | call f | localGet f | globalGet f | globalSet f =>
    simp [bytes, read?, decodeU_encodeU h]
  | load a o | load8 a o =>
    simp [bytes, read?, decodeU_encodeU h.1, decodeU_encodeU h.2]
  | const v => simp [bytes, read?, decodeS_encodeS h]
  | _ => rfl

theorem bytes_ne_nil (i : Instr) : i.bytes ≠ [] := by
  cases i <;> simp [bytes]

theorem length_le_code (is : List Instr) : is.length ≤ (code is).length :=
  Module.length_le_flatMap fun i _ => bytes_ne_nil i

theorem readAll?_code {is : List Instr} (h : ∀ i ∈ is, i.Proper) {n : Nat} (hn : is.length ≤ n) :
    readAll? n (code is ++ [0x0B]) = some is := by
  induction is generalizing n with
  | nil => cases n <;> rfl
  | cons i is ih =>
    cases n with
    | zero => simp at hn
    | succ n =>
      have hread := read?_bytes (h i (by simp)) (code is ++ [0x0B])
      have hrest := ih (fun j hj => h j (by simp [hj])) (Nat.le_of_succ_le_succ hn)
      have hcode : code (i :: is) ++ [0x0B] = i.bytes ++ (code is ++ [0x0B]) := by simp [code]
      have hlong : i.bytes ++ (code is ++ [0x0B]) ≠ [0x0B] := by
        intro heq
        have hlen := congrArg List.length heq
        have hpos := List.length_pos_iff.mpr (bytes_ne_nil i)
        simp at hlen
        omega
      rw [hcode, readAll?]
      · simp only [hread, hrest, Option.bind_eq_bind, Option.bind_some, Option.pure_def]
      · exact hlong

end Instr

namespace Module

/-- What it takes for a body to be taken in as the routine `r`. -/
structure Checks (m : Module) (funcs : List FuncType) (b : Nat × Body) (r : Routine) : Prop where
  type : m.types[b.1]? = some r.type
  body : b.2 = ⟨[], Instr.code r.code ++ [0x0B]⟩
  locals : r.locals = 0
  proper : ∀ i ∈ r.code, i.Proper
  valid : Check.body
    { funcs, globals := m.globals, memory := m.memory.isSome, locals := r.type.params }
    r.type r.code = true

theorem checkBodies_of_checks {m : Module} {funcs : List FuncType} {bs : List (Nat × Body)}
    {rs : List Routine} (h : List.Forall₂ (m.Checks funcs) bs rs) (i : Nat) :
    m.checkBodies funcs bs i = .ok rs := by
  induction h generalizing i with
  | nil => rfl
  | @cons b r bs rs hb _ ih =>
    obtain ⟨typeIndex, body⟩ := b
    obtain ⟨type, locals, code⟩ := r
    obtain ⟨htype, rfl, rfl, hproper, hvalid⟩ := hb
    have hread : Instr.readAll? (Instr.code code ++ [0x0B]).length (Instr.code code ++ [0x0B]) =
        some code := by
      refine Instr.readAll?_code hproper ?_
      have := Instr.length_le_code code
      simp
      omega
    simp only at htype hvalid
    simp only [checkBodies, htype, hread, List.append_nil, hvalid, if_true, ih, Except.map,
      List.length_nil]

end Module

namespace Guest

/-! ## The program of a guest -/

/-- The calls that put the module of a guest together. -/
def calls (b : Behavior) : List Draft.Call :=
  [.importFunc hostModule disconnectedImport [] [], .memory 1 memoryExport, .global [] 1024 true,
    .global disconnectCallsExport 0 true,
    .func allocExport [.i32] [.i32] (Instr.code (allocBody 0)),
    .func initExport [] [.i32] (Instr.bytes (.const (if b.init then 1 else 0))),
    .func connectExport (List.replicate 10 .i32) [.i32] (Instr.code (connectBody b 0)),
    .func disconnectExport [] [] (Instr.code (disconnectBody 1))] ++
  if b.dispatch then
    [.func dispatchExport (List.replicate 4 .i32) [.i32, .i32] (Instr.code dispatchBody)]
  else []

theorem draft_eq (b : Behavior) : draft b = Draft.after {} (calls b) := by
  obtain ⟨init, accept, checkVersion, signals, dispatch⟩ := b
  cases dispatch <;> rfl

/-- The functions of a guest, as they run. -/
def routines (b : Behavior) : List Routine :=
  [⟨⟨[.i32], [.i32]⟩, 0, allocBody 0⟩,
    ⟨⟨[], [.i32]⟩, 0, [.const (if b.init then 1 else 0)]⟩,
    ⟨⟨List.replicate 10 .i32, [.i32]⟩, 0, connectBody b 0⟩,
    ⟨⟨[], []⟩, 0, disconnectBody 1⟩] ++
  if b.dispatch then [⟨⟨List.replicate 4 .i32, [.i32, .i32]⟩, 0, dispatchBody⟩] else []

/-- The program that a guest is compiled to. -/
def program (b : Behavior) : Program where
  imports := [(⟨hostModule, disconnectedImport, 0⟩, ⟨[], []⟩)]
  routines := routines b
  memory := some 1
  globals := [⟨.i32, true, 1024⟩, ⟨.i32, true, 0⟩]
  exports := (draft b).exports

/-- Types of the functions of a guest, the imported one first. -/
def types (b : Behavior) : List FuncType :=
  [⟨[], []⟩, ⟨[.i32], [.i32]⟩, ⟨[], [.i32]⟩, ⟨List.replicate 10 .i32, [.i32]⟩, ⟨[], []⟩] ++
    if b.dispatch then [⟨List.replicate 4 .i32, [.i32, .i32]⟩] else []

/-! ## What is checked -/

theorem names_draft (b : Behavior) :
    (draft b).names = (draft { dispatch := b.dispatch }).names := by
  obtain ⟨init, accept, checkVersion, signals, dispatch⟩ := b
  cases dispatch <;> rfl

theorem meets_draft (b : Behavior) : (draft b).Meets .engine := by
  have hvalid : ∀ c : Bool, ∀ t ∈ (draft { dispatch := c }).names, Text.isValid t = true := by
    decide +kernel
  refine ⟨fun t ht => hvalid b.dispatch t (names_draft b ▸ ht), ?_⟩
  obtain ⟨init, accept, checkVersion, signals, dispatch⟩ := b
  cases dispatch <;> exact (by decide : 1 ≤ 65536)

/-- Calls of a function that takes and gives nothing are checked away. -/
theorem instrs_calls {c : Check.Context} (hc : c.funcs[0]? = some ⟨[], []⟩) (n : Nat)
    (s : Check.Operands) (is : List Instr) :
    Check.instrs c s (List.replicate n (.call 0) ++ is) = Check.instrs c s is := by
  induction n with
  | zero => rfl
  | succ n ih =>
    have hone : Check.instr c s (.call 0) = some s := by
      simp [Check.instr, hc, Check.Operands.popTypes, Check.Operands.pushAll]
    simp [List.replicate_succ, Check.instrs, hone, ih]

/-- First the signals are sent, then it is answered. -/
theorem connectBody_eq (b : Behavior) :
    connectBody b 0 =
      List.replicate b.signals.toNat (.call 0) ++ connectBody { b with signals := 0 } 0 := rfl

theorem proper_connectBody (b : Behavior) : ∀ i ∈ connectBody b 0, i.Proper := by
  intro i hi
  rw [connectBody_eq] at hi
  rcases List.mem_append.mp hi with hi | hi
  · rw [List.eq_of_mem_replicate hi]
    decide
  · have hclosed : ∀ accept checkVersion : Bool,
        ∀ i ∈ connectBody { accept, checkVersion } 0, i.Proper := by decide
    exact hclosed b.accept b.checkVersion i hi

theorem contents_types (b : Behavior) : (draft b).contents.types = types b := by
  obtain ⟨init, accept, checkVersion, signals, dispatch⟩ := b
  cases dispatch <;> rfl

theorem body_connect (b : Behavior) (funcs : List FuncType) (hfuncs : funcs[0]? = some ⟨[], []⟩)
    (globals : List GlobalDef) :
    Check.body { funcs, globals, memory := true, locals := List.replicate 10 .i32 }
      ⟨List.replicate 10 .i32, [.i32]⟩ (connectBody b 0) = true := by
  rw [connectBody_eq]
  unfold Check.body
  rw [instrs_calls hfuncs]
  obtain ⟨init, accept, checkVersion, signals, dispatch⟩ := b
  cases accept <;> cases checkVersion <;> rfl

/-- Every function of a guest is taken in as the routine that is run. -/
theorem checks_draft (b : Behavior) :
    List.Forall₂ ((draft b).contents.Checks (types b))
      ((draft b).contents.funcs.zip (draft b).contents.bodies) (routines b) := by
  have hconnect := body_connect b (types b) rfl (draft b).contents.globals
  have hproper := proper_connectBody b
  obtain ⟨init, accept, checkVersion, signals, dispatch⟩ := b
  have hinit : ∀ i ∈ [Instr.const (if init then 1 else 0)], i.Proper := by
    cases init <;> decide
  have hcode : (Instr.const (if init then 1 else 0)).bytes =
      Instr.code [.const (if init then 1 else 0)] := by simp [Instr.code]
  cases dispatch with
  | false =>
    refine .cons ⟨rfl, rfl, rfl, by decide, rfl⟩ (.cons ⟨rfl, ?_, rfl, hinit, rfl⟩
      (.cons ⟨rfl, rfl, rfl, hproper, hconnect⟩ (.cons ⟨rfl, rfl, rfl, by decide, rfl⟩ .nil)))
    rw [← hcode]
    rfl
  | true =>
    refine .cons ⟨rfl, rfl, rfl, by decide, rfl⟩ (.cons ⟨rfl, ?_, rfl, hinit, rfl⟩
      (.cons ⟨rfl, rfl, rfl, hproper, hconnect⟩ (.cons ⟨rfl, rfl, rfl, by decide, rfl⟩
        (.cons ⟨rfl, rfl, rfl, by decide, rfl⟩ .nil))))
    rw [← hcode]
    rfl

theorem exportsValid_draft (b : Behavior) :
    (draft b).contents.exportsValid (types b).length = true := by
  have hclosed : ∀ c : Bool, (draft { dispatch := c }).contents.exportsValid
      (types { dispatch := c }).length = true := by decide +kernel
  have := hclosed b.dispatch
  obtain ⟨init, accept, checkVersion, signals, dispatch⟩ := b
  cases dispatch <;> exact this

/-- The module of a guest passes every check. -/
theorem check_draft (b : Behavior) : (draft b).contents.check = .ok (program b) := by
  have hbodies := Module.checkBodies_of_checks (checks_draft b) 0
  have hexports := exportsValid_draft b
  have htypes := contents_types b
  have htyped : (draft b).contents.imports.filterMap (fun i =>
      ((draft b).contents.types[i.typeIndex]?).map fun t => (i, t)) = (program b).imports := by
    obtain ⟨init, accept, checkVersion, signals, dispatch⟩ := b
    cases dispatch <;> rfl
  have hown : (draft b).contents.funcs.filterMap (fun i => (draft b).contents.types[i]?) =
      (routines b).map (·.type) := by
    obtain ⟨init, accept, checkVersion, signals, dispatch⟩ := b
    cases dispatch <;> rfl
  have hfuncs : (program b).imports.map (·.2) ++ (routines b).map (·.type) = types b := by
    obtain ⟨init, accept, checkVersion, signals, dispatch⟩ := b
    cases dispatch <;> rfl
  have hcount : ¬ ((program b).imports.length ≠ (draft b).contents.imports.length ∨
      ((routines b).map (·.type)).length ≠ (draft b).contents.funcs.length) := by
    obtain ⟨init, accept, checkVersion, signals, dispatch⟩ := b
    cases dispatch <;>
      simp [program, routines, draft, Draft.contents, Draft.func, Draft.global, Draft.memory,
        Draft.addType]
  simp only [Module.check, htyped, hown, if_neg hcount, hfuncs, hexports, Bool.not_true,
    Bool.false_eq_true, if_false, hbodies]
  obtain ⟨init, accept, checkVersion, signals, dispatch⟩ := b
  cases dispatch <;> rfl

/-! ## Loading -/

/-- The plugin that a guest is loaded as. -/
def loaded (name : Text) (b : Behavior) : Plugin where
  name := name
  guest := Instance.ofProgram (program b)
  alloc := 1
  init := 2
  connect := 3
  disconnect := some 4
  dispatch := if b.dispatch then some 5 else none

theorem compile_bytes {b : Behavior} (h : (draft b).Short) : compile (bytes b) = .ok (program b) := by
  have hindexed : (draft b).WellIndexed := draft_eq b ▸ Draft.wellIndexed_empty.after (calls b)
  have hread := Draft.read?_build hindexed (meets_draft b) h
  simp only [compile, bytes, hread, check_draft]

theorem compile_bytes_eq_ok {b : Behavior} {p : Program} :
    compile (bytes b) = .ok p ↔ (draft b).Short ∧ p = program b := by
  constructor
  · intro h
    have hshort : (draft b).Short := by
      cases hread : Module.read? .engine (bytes b) with
      | none => simp [compile, hread] at h
      | some m => exact Draft.short_of_read? hread
    rw [compile_bytes hshort] at h
    cases h
    exact ⟨hshort, rfl⟩
  · rintro ⟨hshort, rfl⟩
    exact compile_bytes hshort

theorem func?_program (b : Behavior) :
    (Instance.ofProgram (program b)).func? Instance.startExport = none ∧
    (Instance.ofProgram (program b)).func? allocExport = some 1 ∧
    (Instance.ofProgram (program b)).func? initExport = some 2 ∧
    (Instance.ofProgram (program b)).func? connectExport = some 3 ∧
    (Instance.ofProgram (program b)).func? disconnectExport = some 4 ∧
    (Instance.ofProgram (program b)).func? dispatchExport = if b.dispatch then some 5 else none := by
  have hexports : (draft b).exports = (draft { dispatch := b.dispatch }).exports := by
    obtain ⟨init, accept, checkVersion, signals, dispatch⟩ := b
    cases dispatch <;> rfl
  simp only [Instance.func?, Instance.ofProgram, program, hexports]
  cases b.dispatch <;> decide +kernel

theorem linkImport_signal :
    Instance.linkImport (⟨hostModule, disconnectedImport, 0⟩, ⟨[], []⟩) = .ok () := rfl

theorem instantiate_program (name : Text) (b : Behavior) :
    Instance.instantiate (program b) name =
      if name = hostModule then .error .foreign
      else .ok (Instance.ofProgram (program b), 0) := by
  have hlink : (program b).imports.forM Instance.linkImport = .ok () := by
    show Instance.linkImport _ >>= _ = _
    rw [linkImport_signal]
    rfl
  unfold Instance.instantiate
  rw [hlink]
  simp only [bind, Except.bind, (func?_program b).1]
  split <;> rfl

theorem required_program (b : Behavior) :
    Plugin.required (Instance.ofProgram (program b)) allocExport = .ok 1 ∧
      Plugin.required (Instance.ofProgram (program b)) initExport = .ok 2 ∧
      Plugin.required (Instance.ofProgram (program b)) connectExport = .ok 3 := by
  obtain ⟨-, halloc, hinit, hconnect, -⟩ := func?_program b
  simp only [Plugin.required, Instance.runtime_func?, halloc, hinit, hconnect, and_self]

/-- A guest is loaded under any name but the host's if its module is short enough to be written
down, and then it is the plugin `loaded`. -/
theorem load_bytes_eq_ok {name : Text} {b : Behavior} {p : Plugin} {n : Nat} :
    Plugin.load name (bytes b) = .ok (p, n) ↔
      name ≠ hostModule ∧ (draft b).Short ∧ p = loaded name b ∧ n = 0 := by
  obtain ⟨-, -, -, -, hdisconnect, hdispatch⟩ := func?_program b
  obtain ⟨halloc, hinit, hconnect⟩ := required_program b
  have hparts (hname : name ≠ hostModule) (hshort : (draft b).Short) :
      Plugin.load name (bytes b) = .ok (loaded name b, 0) := by
    have hstart := Instance.compile_eq_ok.mpr ⟨_, compile_bytes hshort, rfl⟩
    unfold Plugin.load Plugin.loadOn
    rw [hstart]
    simp only [Except.mapError, bind, Except.bind, instantiate_program, if_neg hname, halloc, hinit,
      hconnect, Instance.runtime_func?, hdisconnect, hdispatch, pure, Except.pure, loaded]
  constructor
  · intro h
    obtain ⟨start, hstart, hrest⟩ := bind_eq_ok.mp h
    obtain ⟨program, hcompile, rfl⟩ := Instance.compile_eq_ok.mp (mapError_eq_ok.mp hstart)
    obtain ⟨hshort, rfl⟩ := compile_bytes_eq_ok.mp hcompile
    obtain ⟨guest, hinstantiate, -⟩ := bind_eq_ok.mp hrest
    have hname : name ≠ hostModule := by
      intro heq
      rw [mapError_eq_ok, instantiate_program, if_pos heq] at hinstantiate
      cases hinstantiate
    rw [hparts hname hshort] at h
    cases h
    exact ⟨hname, hshort, rfl, rfl⟩
  · rintro ⟨hname, hshort, rfl, rfl⟩
    exact hparts hname hshort

end Guest

end PageBoot.Wasm
