import PageBoot.Proofs.Wasm.Validation
import PageBoot.Wasm.Plugin

/-!
What is known of any runtime. A call that returns gives the results that its function declares, a memory
is there from the start or never and does not shrink, and bytes are written if they end inside it
(`Runtime.Lawful`). That is all that the results about hosts need of the runtime under them, and the
guests that run here keep to it (`Instance.lawful`).
-/

namespace PageBoot.Wasm

namespace Runtime

variable {G : Type} [Runtime G] {g h k : G}

/-- What may become of a guest. -/
inductive Leads (g : G) : G → Prop where
  | refl : Leads g g
  | call {h : G} (hg : Leads g h) (f : Nat) (args : Stack) : Leads g (Runtime.call h f args).2.2
  | write {h : G} (hg : Leads g h) (place : Nat) (bytes : Text) : Leads g (Runtime.write h place bytes).2
  | close {h : G} (hg : Leads g h) : Leads g (Runtime.close h)

theorem Leads.trans (hg : Leads g h) (hh : Leads h k) : Leads g k := by
  induction hh with
  | refl => exact hg
  | call _ f args ih => exact ih.call f args
  | write _ place bytes ih => exact ih.write place bytes
  | close _ ih => exact ih.close

/-- A guest that was made of a module, whatever became of it since. -/
def Live (g : G) : Prop :=
  ∃ bytes start name made, compile bytes = .ok start ∧ start name = .ok made ∧ Leads made.1 g

theorem Live.leads (hg : Live g) (hh : Leads g h) : Live h := by
  obtain ⟨bytes, start, name, made, hcompile, hmade, hleads⟩ := hg
  exact ⟨bytes, start, name, made, hcompile, hmade, hleads.trans hh⟩

/-- From `g` to `h` functions declare what they did, and the memory is as large as it was, or larger. -/
structure Keeps (g h : G) : Prop where
  results : ∀ f, Runtime.results h f = Runtime.results g f
  grows : ∀ n ∈ size? g, ∃ m ∈ size? h, n ≤ m
  bare : size? g = none → size? h = none

theorem Keeps.refl (g : G) : Keeps g g := ⟨fun _ => rfl, fun n hn => ⟨n, hn, Nat.le_refl n⟩, id⟩

theorem Keeps.trans (hg : Keeps g h) (hh : Keeps h k) : Keeps g k where
  results f := (hh.results f).trans (hg.results f)
  grows n hn := by
    obtain ⟨m, hm, hle⟩ := hg.grows n hn
    obtain ⟨l, hl, hle'⟩ := hh.grows m hm
    exact ⟨l, hl, Nat.le_trans hle hle'⟩
  bare hn := hh.bare (hg.bare hn)

theorem Keeps.of_eq (hresults : ∀ f, Runtime.results h f = Runtime.results g f) (hsize : size? h = size? g) :
    Keeps g h :=
  ⟨hresults, fun n hn => ⟨n, hsize ▸ hn, Nat.le_refl n⟩, fun hn => hsize ▸ hn⟩

theorem Keeps.size?_eq_none (hg : Keeps g h) : size? h = none ↔ size? g = none := by
  refine ⟨fun hh => ?_, hg.bare⟩
  cases hn : size? g with
  | none => rfl
  | some n =>
    obtain ⟨m, hm, -⟩ := hg.grows n hn
    rw [hh] at hm
    cases hm

/-- What is documented of a runtime. -/
structure Lawful (G : Type) [Runtime G] : Prop where
  /-- A call that returns gives as many results as its function declares. -/
  call_results : ∀ {g : G} {f : Nat} {args s : Stack}, Live g → (Runtime.call g f args).1 = .ok s →
    s.length = Runtime.results g f
  call_keeps : ∀ {g : G} (f : Nat) (args : Stack), Live g → Keeps g (Runtime.call g f args).2.2
  close_keeps : ∀ {g : G}, Live g → Keeps g (Runtime.close g)
  write_results : ∀ {g : G} (place : Nat) (bytes : Text) (f : Nat), Live g →
    Runtime.results (Runtime.write g place bytes).2 f = Runtime.results g f
  write_size : ∀ {g : G} (place : Nat) (bytes : Text), Live g →
    size? (Runtime.write g place bytes).2 = size? g
  /-- Bytes are written if they end inside the memory. -/
  write_done : ∀ {g : G} {place n : Nat} {bytes : Text}, Live g → size? g = some n →
    ((Runtime.write g place bytes).1 = true ↔ place + bytes.length ≤ n)

theorem Lawful.keeps (hG : Lawful G) (hg : Live g) (hh : Leads g h) : Keeps g h := by
  induction hh with
  | refl => exact .refl g
  | call hh f args ih => exact ih.trans (hG.call_keeps f args (hg.leads hh))
  | write hh place bytes ih =>
    exact ih.trans (.of_eq (hG.write_results place bytes · (hg.leads hh)) (hG.write_size place bytes (hg.leads hh)))
  | close hh ih => exact ih.trans (hG.close_keeps (hg.leads hh))

end Runtime

/-! ## The guests that run here -/

@[simp] theorem Memory.size_write (m : Memory) (a : Nat) (t : Text) : (m.write a t).size = m.size := by
  unfold write
  split <;> rfl

namespace Instance

theorem call_program (i : Instance) (f : Nat) (args : Stack) :
    (i.call f args).2.2.program = i.program ∧ (i.call f args).2.2.memory = i.memory := by
  unfold call
  simp only
  split
  · exact ⟨rfl, rfl⟩
  · cases (run i.program i.memory i.depthLimit f args { globals := i.globals }).1 <;> exact ⟨rfl, rfl⟩

theorem linkImport_eq_ok {i : Import × FuncType} (h : linkImport i = .ok ()) : i.2 = ⟨[], []⟩ := by
  unfold linkImport at h
  simp only at h
  split at h
  · cases h
  · split at h
    · cases h
    · next htype => simpa using htype

theorem forM_linkImport {is : List (Import × FuncType)} (h : is.forM linkImport = .ok ()) :
    ∀ i ∈ is, i.2 = ⟨[], []⟩ := by
  induction is with
  | nil => simp
  | cons i is ih =>
    have hboth : linkImport i >>= (fun _ => is.forM linkImport) = .ok () := h
    obtain ⟨u, hi, hrest⟩ := bind_eq_ok.mp hboth
    intro j hj
    rcases List.mem_cons.mp hj with rfl | hj
    · exact linkImport_eq_ok hi
    · exact ih hrest j hj

theorem instantiate_eq_ok {name : Text} {program : Program} {i : Instance} {n : Nat}
    (h : instantiate program name = .ok (i, n)) :
    i.program = program ∧ program.imports.forM linkImport = .ok () := by
  unfold instantiate at h
  obtain ⟨u, hlink, h⟩ := bind_eq_ok.mp h
  refine ⟨?_, hlink⟩
  split at h
  · cases h
  · simp only at h
    split at h
    · cases h
      rfl
    · next f hstart =>
      split at h
      next out signals j hcall =>
        cases h
        have hsame := (call_program (Instance.ofProgram program) f []).1
        rw [hcall] at hsame
        exact hsame
      next => cases h

theorem compile_eq_ok {bytes : Text} {start : Text → Except Failure (Instance × Nat)} :
    Runtime.compile (G := Instance) bytes = .ok start ↔
      ∃ program, compile bytes = .ok program ∧ start = instantiate program := by
  show (compile bytes).map instantiate = .ok start ↔ _
  cases compile bytes with
  | error f => simp [Except.map]
  | ok program => simp [Except.map, eq_comm]

theorem leads_program {i j : Instance} (h : Runtime.Leads i j) : j.program = i.program := by
  induction h with
  | refl => rfl
  | call _ f args ih => exact (call_program _ f args).1.trans ih
  | write _ place bytes ih => exact ih
  | close _ ih => exact ih

/-- The program of a guest is a valid one. -/
theorem live_valid {i : Instance} (h : Runtime.Live i) : i.program.Valid := by
  obtain ⟨bytes, start, name, made, hstart, hmade, hleads⟩ := h
  obtain ⟨program, hcompile, rfl⟩ := compile_eq_ok.mp hstart
  obtain ⟨hprogram, hlink⟩ := instantiate_eq_ok hmade
  rw [leads_program hleads, hprogram]
  exact ⟨compile_bodies hcompile, forM_linkImport hlink⟩

/-- The guests that run here keep to what is documented of guests. -/
theorem lawful : Runtime.Lawful Instance where
  call_results {g f args s} hg h := by
    cases hcall : g.call f args with
    | mk out rest =>
      have hout : out = .ok s := by
        have hfst : (g.call f args).1 = .ok s := h
        rwa [hcall] at hfst
      subst hout
      exact call_results (live_valid hg) hcall
  call_keeps {g} f args _ := by
    obtain ⟨hprogram, hmemory⟩ := call_program g f args
    refine .of_eq (fun k => ?_) ?_
    · show (g.call f args).2.2.results k = g.results k
      rw [results, type?, hprogram]
      rfl
    · show (g.call f args).2.2.size? = g.size?
      rw [size?, hmemory, size?]
  close_keeps _ := .of_eq (fun _ => rfl) rfl
  write_results _ _ _ _ := rfl
  write_size {g} place bytes _ := by
    simp [Function.comp_def]
  write_done {g place n bytes} _ hn := by
    obtain ⟨m, hm, rfl⟩ := Option.map_eq_some_iff.mp hn
    show g.memory.any (fun m => place + bytes.length ≤ m.size) = true ↔ _
    simp [hm]

end Instance

end PageBoot.Wasm
