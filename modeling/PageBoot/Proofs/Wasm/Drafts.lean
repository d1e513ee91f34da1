import PageBoot.Proofs.Lists
import PageBoot.Proofs.Wasm.ReadBack

/-!
Modules are read back from their bytes. Whatever calls put a draft together, a reader of the binary
form finds in its bytes exactly what was put in, and every index that a call handed out still names
what that call defined.
-/

namespace PageBoot.Wasm

/-- The module that a draft describes. -/
def Draft.contents (d : Draft) : Module where
  types := d.types
  imports := d.imports
  funcs := d.funcs.map (·.typeIndex)
  memory := if d.memoryPages = 0 then none else some d.memoryPages
  globals := d.globals.map (·.definition)
  exports := d.exports
  bodies := d.funcs.map (·.ownBody)

/-- What is behind an index of a function. -/
inductive Entity where
  | imported (module name : Text) (type : FuncType)
  | own (type : FuncType) (body : Body)
  deriving DecidableEq, Repr

/-- The function with an index: imports come first, then the functions of the module itself. -/
def Module.entity? (m : Module) (i : Nat) : Option Entity :=
  match m.imports[i]? with
  | some im => (m.types[im.typeIndex]?).map (.imported im.module im.name)
  | none => do
    let typeIndex ← m.funcs[i - m.imports.length]?
    let type ← m.types[typeIndex]?
    let body ← m.bodies[i - m.imports.length]?
    return .own type body

namespace Draft

/-! ## Drafts that calls put together -/

/-- A call that adds to a draft. -/
inductive Call where
  | importFunc (module name : Text) (params results : List ValType)
  | memory (pages : UInt32) (exportName : Text)
  | global (exportName : Text) (init : Int32) (mutable : Bool)
  | func (exportName : Text) (params results : List ValType) (body : Text)

/-- The index that a call hands out, and the draft after it. A function that comes too late to be
imported is refused. -/
def perform (d : Draft) : Call → Option Nat × Draft
  | .importFunc module name params results =>
    match d.importFunc? module name params results with
    | some (i, d) => (some i, d)
    | none => (none, d)
  | .memory pages exportName => (none, d.memory pages.toNat exportName)
  | .global exportName init mutable =>
    let (i, d) := d.global exportName init.toInt mutable
    (some i, d)
  | .func exportName params results body =>
    let (i, d) := d.func exportName params results body
    (some i, d)

def after (d : Draft) (cs : List Call) : Draft := cs.foldl (fun d c => (d.perform c).2) d

/-- Numbers are in their range, and every function has a type of its own. -/
structure WellIndexed (d : Draft) : Prop where
  types : d.types.length = d.imports.length + d.funcs.length
  imports : ∀ i ∈ d.imports, i.typeIndex < d.types.length
  funcs : ∀ f ∈ d.funcs, f.typeIndex < d.types.length
  pages : d.memoryPages < 2 ^ 32
  inits : ∀ g ∈ d.globals, -2 ^ 31 ≤ g.init ∧ g.init < 2 ^ 31

theorem wellIndexed_empty : WellIndexed {} where
  types := rfl
  imports := by simp
  funcs := by simp
  pages := by decide
  inits := by simp

theorem perform_importFunc (d : Draft) (module name : Text) (params results : List ValType) :
    d.perform (.importFunc module name params results) =
      if d.funcs.isEmpty then
        (some d.imports.length, { d with
          types := d.types ++ [{ params, results }]
          imports := d.imports ++ [{ module, name, typeIndex := d.types.length }] })
      else (none, d) := by
  unfold perform importFunc?
  cases d.funcs.isEmpty <;> rfl

theorem WellIndexed.perform {d : Draft} (h : d.WellIndexed) (c : Call) :
    (d.perform c).2.WellIndexed := by
  cases c with
  | importFunc module name params results =>
    rw [perform_importFunc]
    split
    · refine ⟨?_, ?_, ?_, h.pages, h.inits⟩
      · have := h.types
        simp only [List.length_append, List.length_singleton]
        omega
      · intro i hi
        rcases List.mem_append.mp hi with hi | hi
        · exact Nat.lt_of_lt_of_le (h.imports i hi) (by simp)
        · simp [List.mem_singleton.mp hi]
      · intro f hf
        exact Nat.lt_of_lt_of_le (h.funcs f hf) (by simp)
    · exact h
  | memory pages exportName => exact { h with pages := pages.toNat_lt }
  | global exportName init mutable =>
    refine { h with inits := ?_ }
    intro g hg
    rcases List.mem_append.mp hg with hg | hg
    · exact h.inits g hg
    · rw [List.mem_singleton.mp hg]
      exact ⟨init.le_toInt, init.toInt_lt⟩
  | func exportName params results body =>
    refine ⟨?_, ?_, ?_, h.pages, h.inits⟩
    · have := h.types
      simp only [Draft.perform, Draft.func, addType, List.length_append, List.length_singleton]
      omega
    · intro i hi
      exact Nat.lt_of_lt_of_le (h.imports i hi) (by simp [Draft.perform, Draft.func, addType])
    · intro f hf
      rcases List.mem_append.mp hf with hf | hf
      · exact Nat.lt_of_lt_of_le (h.funcs f hf) (by simp [Draft.perform, Draft.func, addType])
      · simp [Draft.perform, Draft.func, addType, List.mem_singleton.mp hf]

theorem WellIndexed.after {d : Draft} (h : d.WellIndexed) (cs : List Call) :
    (d.after cs).WellIndexed := by
  induction cs generalizing d with
  | nil => exact h
  | cons c cs ih => exact ih (h.perform c)

/-! ## Exports -/

/-- What a draft exports: functions, its memory and globals that have a name to be exported under.
Imported functions come before those of the module. -/
inductive Exports (d : Draft) : Export → Prop where
  | func {i : Nat} {f : Func} (at_ : d.funcs[i]? = some f) (named : f.exportName ≠ []) :
    Exports d { name := f.exportName, kind := 0x00, index := d.imports.length + i }
  | memory (some : 0 < d.memoryPages) (named : d.memoryExport ≠ []) :
    Exports d { name := d.memoryExport, kind := 0x02, index := 0 }
  | global {i : Nat} {g : Global} (at_ : d.globals[i]? = some g) (named : g.exportName ≠ []) :
    Exports d { name := g.exportName, kind := 0x03, index := i }

theorem mem_exports {d : Draft} {e : Export} : e ∈ d.exports ↔ d.Exports e := by
  simp only [Draft.exports, List.mem_append, List.mem_filterMap, Prod.exists]
  constructor
  · rintro ((⟨f, i, hf, he⟩ | he) | ⟨g, i, hg, he⟩)
    · split at he
      · cases he
      · next hnamed =>
        cases he
        exact .func (List.mem_zipIdx_iff_getElem?.mp hf) (by simpa using hnamed)
    · split at he
      · next hm =>
        rw [List.mem_singleton.mp he]
        exact .memory hm.1 (by simpa using hm.2)
      · cases he
    · split at he
      · cases he
      · next hnamed =>
        cases he
        exact .global (List.mem_zipIdx_iff_getElem?.mp hg) (by simpa using hnamed)
  · rintro (⟨hf, hnamed⟩ | ⟨hm, hnamed⟩ | ⟨hg, hnamed⟩)
    · exact .inl (.inl ⟨_, _, List.mem_zipIdx_iff_getElem?.mpr hf, by simp [hnamed]⟩)
    · exact .inl (.inr (by simp [hm, hnamed]))
    · exact .inr ⟨_, _, List.mem_zipIdx_iff_getElem?.mpr hg, by simp [hnamed]⟩

theorem WellIndexed.index_lt {d : Draft} (h : d.WellIndexed) {e : Export} (he : d.Exports e)
    (htypes : d.types.length < 2 ^ 32) (hglobals : d.globals.length < 2 ^ 32) : e.index < 2 ^ 32 := by
  have hcount := h.types
  cases he with
  | func hf hnamed =>
    have := (List.getElem?_eq_some_iff.mp hf).1
    simp only
    omega
  | memory hm hnamed => exact Nat.two_pow_pos 32
  | global hg hnamed =>
    have := (List.getElem?_eq_some_iff.mp hg).1
    simp only
    omega

/-! ## Reading a draft back -/

/-- Names that a draft writes. -/
def names (d : Draft) : List Text :=
  d.imports.flatMap (fun i => [i.module, i.name]) ++ d.exports.map (·.name)

/-- What a reader demands is met by a draft. -/
structure Meets (d : Draft) (dm : Demands) : Prop where
  names : ∀ t ∈ d.names, dm.isName t = true
  pages : d.memoryPages ≤ dm.maxPages

theorem Meets.imports {d : Draft} {dm : Demands} (h : d.Meets dm) (i : Import) (hi : i ∈ d.imports) :
    dm.isName i.module = true ∧ dm.isName i.name = true := by
  have hmem (t : Text) (ht : t ∈ [i.module, i.name]) : t ∈ d.names :=
    List.mem_append_left _ (List.mem_flatMap.mpr ⟨i, hi, ht⟩)
  exact ⟨h.names _ (hmem _ (by simp)), h.names _ (hmem _ (by simp))⟩

theorem Meets.exports {d : Draft} {dm : Demands} (h : d.Meets dm) (e : Export) (he : e ∈ d.exports) :
    dm.isName e.name = true :=
  h.names _ (List.mem_append_right _ (List.mem_map.mpr ⟨e, he, rfl⟩))

theorem takeSections_append {dm : Demands} {m k m' : Module} {ss ts : List (UInt8 × Text)}
    (hs : Module.takeSections dm m ss = some k) (ht : Module.takeSections dm k ts = some m') :
    Module.takeSections dm m (ss ++ ts) = some m' := by
  simp only [Module.takeSections, List.foldlM_append, Option.bind_eq_bind, Option.bind_eq_some_iff]
  exact ⟨k, hs, ht⟩

/-- A section that is left out changes nothing. -/
theorem takeSections_sectionUnless {dm : Demands} {m m' : Module} {empty : Bool} {id : UInt8}
    {body : Text} (hempty : empty = true → m = m')
    (hread : empty = false → Module.readSection dm m id body = some m') :
    Module.takeSections dm m (sectionUnless empty id body) = some m' := by
  cases empty with
  | true => simp [Module.takeSections, sectionUnless, hempty]
  | false => simp [Module.takeSections, sectionUnless, hread]

theorem map_sectionUnless_sublist (empty : Bool) (id : UInt8) (body : Text) :
    ((sectionUnless empty id body).map (·.1)).Sublist [id] := by
  cases empty
  · exact List.Sublist.refl _
  · exact List.nil_sublist _

theorem rising_sections (d : Draft) : (0 :: d.sections.map (·.1)).Pairwise (· < ·) := by
  have hsub : (d.sections.map (·.1)).Sublist
      ([0x01] ++ [0x02] ++ [0x03] ++ [0x05] ++ [0x06] ++ [0x07] ++ [0x0A]) := by
    simp only [sections, List.map_append]
    refine .append (.append (.append (.append (.append (.append ?_ ?_) ?_) ?_) ?_) ?_) ?_
    case refine_6 => exact List.Sublist.refl _
    all_goals exact map_sectionUnless_sublist _ _ _
  exact List.Pairwise.sublist (hsub.cons_cons 0) (by decide)

/-- Every section is short enough for its length to be written. -/
def Short (d : Draft) : Prop := ∀ s ∈ d.sections, s.2.length < 2 ^ 32

theorem Short.of_sectionUnless {d : Draft} (h : d.Short) {empty : Bool} {i : UInt8} {body : Text}
    (hmem : ∀ s ∈ sectionUnless empty i body, s ∈ d.sections) (hsome : empty = false) :
    body.length < 2 ^ 32 := h (i, body) (hmem _ (by simp [sectionUnless, hsome]))

theorem Short.types {d : Draft} (h : d.Short) :
    d.types.isEmpty = false → (vector FuncType.bytes d.types).length < 2 ^ 32 :=
  h.of_sectionUnless (i := 0x01) fun s hs => by simp only [sections, List.mem_append, hs, true_or]

theorem Short.imports {d : Draft} (h : d.Short) :
    d.imports.isEmpty = false → (vector Import.bytes d.imports).length < 2 ^ 32 :=
  h.of_sectionUnless (i := 0x02) fun s hs => by
    simp only [sections, List.mem_append, hs, true_or, or_true]

theorem Short.funcs {d : Draft} (h : d.Short) : d.funcs.isEmpty = false →
    (vector (fun f : Func => encodeU f.typeIndex) d.funcs).length < 2 ^ 32 :=
  h.of_sectionUnless (i := 0x03) fun s hs => by
    simp only [sections, List.mem_append, hs, true_or, or_true]

theorem Short.memory {d : Draft} (h : d.Short) :
    (d.memoryPages == 0) = false → ([0x01, 0x00] ++ encodeU d.memoryPages : Text).length < 2 ^ 32 :=
  h.of_sectionUnless (i := 0x05) fun s hs => by
    simp only [sections, List.mem_append, hs, true_or, or_true]

theorem Short.globals {d : Draft} (h : d.Short) :
    d.globals.isEmpty = false → (vector Global.bytes d.globals).length < 2 ^ 32 :=
  h.of_sectionUnless (i := 0x06) fun s hs => by
    simp only [sections, List.mem_append, hs, true_or, or_true]

theorem Short.exports {d : Draft} (h : d.Short) : (vector Export.bytes d.exports).length < 2 ^ 32 :=
  h (0x07, vector Export.bytes d.exports)
    (by simp only [sections, List.mem_append, List.mem_singleton, true_or, or_true])

theorem Short.bodies {d : Draft} (h : d.Short) :
    d.funcs.isEmpty = false → (vector Func.code d.funcs).length < 2 ^ 32 :=
  h.of_sectionUnless (i := 0x0A) fun s hs => by simp only [sections, List.mem_append, hs, or_true]

theorem Short.length_types_lt {d : Draft} (h : d.Short) : d.types.length < 2 ^ 32 := by
  cases hsome : d.types.isEmpty with
  | true => simp [List.isEmpty_iff.mp hsome]
  | false => exact Module.length_lt_of_vector (by simp [FuncType.bytes]) (h.types hsome)

theorem Short.length_globals_lt {d : Draft} (h : d.Short) : d.globals.length < 2 ^ 32 := by
  cases hsome : d.globals.isEmpty with
  | true => simp [List.isEmpty_iff.mp hsome]
  | false => exact Module.length_lt_of_vector (by simp [Global.bytes]) (h.globals hsome)

/-- The sections of a draft together say what the draft says. -/
theorem takeSections_sections {d : Draft} {dm : Demands} (h : d.WellIndexed) (hmeets : d.Meets dm)
    (hshort : d.Short) : Module.takeSections dm {} d.sections = some d.contents := by
  have hindex (e : Export) (he : e ∈ d.exports) : e.index < 2 ^ 32 :=
    h.index_lt (mem_exports.mp he) hshort.length_types_lt hshort.length_globals_lt
  let m₁ : Module := { types := d.types }
  let m₂ : Module := { m₁ with imports := d.imports }
  let m₃ : Module := { m₂ with funcs := d.funcs.map (·.typeIndex) }
  let m₄ : Module := { m₃ with memory := if d.memoryPages = 0 then none else some d.memoryPages }
  let m₅ : Module := { m₄ with globals := d.globals.map (·.definition) }
  let m₆ : Module := { m₅ with exports := d.exports }
  refine takeSections_append (k := m₆) (takeSections_append (k := m₅) (takeSections_append (k := m₄)
    (takeSections_append (k := m₃) (takeSections_append (k := m₂) (takeSections_append (k := m₁)
      ?types ?imports) ?funcs) ?memory) ?globals) ?exports) ?bodies
  case types =>
    refine takeSections_sectionUnless (fun hnone => ?_) fun hsome => ?_
    · simp [m₁, List.isEmpty_iff.mp hnone]
    · exact Module.readSection_types _ (hshort.types hsome)
  case imports =>
    refine takeSections_sectionUnless (fun hnone => ?_) fun hsome => ?_
    · simp [m₂, m₁, List.isEmpty_iff.mp hnone]
    · exact Module.readSection_imports _ hmeets.imports
        (fun i hi => Nat.lt_trans (h.imports i hi) hshort.length_types_lt) (hshort.imports hsome)
  case funcs =>
    refine takeSections_sectionUnless (fun hnone => ?_) fun hsome => ?_
    · simp [m₃, m₂, m₁, List.isEmpty_iff.mp hnone]
    · exact Module.readSection_funcs _
        (fun f hf => Nat.lt_trans (h.funcs f hf) hshort.length_types_lt) (hshort.funcs hsome)
  case memory =>
    refine takeSections_sectionUnless (fun hnone => ?_) fun hsome => ?_
    · simp [m₄, m₃, m₂, m₁, beq_iff_eq.mp hnone]
    · rw [Module.readSection_memory _ hmeets.pages h.pages (hshort.memory hsome)]
      simp [m₄, beq_eq_false_iff_ne.mp hsome]
  case globals =>
    refine takeSections_sectionUnless (fun hnone => ?_) fun hsome => ?_
    · simp [m₅, m₄, m₃, m₂, m₁, List.isEmpty_iff.mp hnone]
    · exact Module.readSection_globals _ h.inits (hshort.globals hsome)
  case exports =>
    show Module.takeSections dm m₅ (sectionUnless false 0x07 (vector Export.bytes d.exports)) = some m₆
    exact takeSections_sectionUnless (by simp) fun _ =>
      Module.readSection_exports _ hmeets.exports hindex hshort.exports
  case bodies =>
    refine takeSections_sectionUnless (fun hnone => ?_) fun hsome => ?_
    · simp [m₆, m₅, m₄, m₃, m₂, m₁, contents, List.isEmpty_iff.mp hnone]
    · exact Module.readSection_bodies _ (hshort.bodies hsome)

/-- A draft is read back from its bytes, to the last one. -/
theorem read?_build {d : Draft} {dm : Demands} (h : d.WellIndexed) (hmeets : d.Meets dm)
    (hshort : d.Short) : Module.read? dm d.build = some d.contents := by
  have hbody : (d.build).drop 8 = d.sections.flatMap fun s => sectionBytes s.1 s.2 := rfl
  have hsections := Module.readSections_eq (rising_sections d) hshort (Nat.le_refl _)
    (takeSections_sections h hmeets hshort)
  have hprefix : header.isPrefixOf d.build = true := by simp [build]
  simp only [Module.read?, hprefix, if_true, hbody, hsections, Option.bind_eq_bind,
    Option.bind_some, contents, List.length_map]

/-- Sections that were read had lengths that could be written. -/
theorem short_of_readSections {dm : Demands} {ss : List (UInt8 × Text)} {n : Nat} {last : UInt8}
    {m m' : Module}
    (h : Module.readSections dm n last m (ss.flatMap fun s => sectionBytes s.1 s.2) = some m') :
    ∀ s ∈ ss, s.2.length < 2 ^ 32 := by
  induction ss generalizing n last m with
  | nil => simp
  | cons s ss ih =>
    obtain ⟨id, body⟩ := s
    have hbytes : ((id, body) :: ss).flatMap (fun s => sectionBytes s.1 s.2) =
        id :: (encodeU body.length ++ (body ++ ss.flatMap fun s => sectionBytes s.1 s.2)) := by
      simp [sectionBytes]
    rw [hbytes] at h
    cases n with
    | zero => cases h
    | succ n =>
      rcases Nat.lt_or_ge body.length (2 ^ 32) with hlt | hge
      · simp only [Module.readSections, decodeU_encodeU hlt, Module.reads_readBytes _ _,
          Option.bind_eq_bind, Option.bind_some] at h
        split at h
        · cases h
        · obtain ⟨m₁, -, hrest⟩ := Option.bind_eq_some_iff.mp h
          intro s hs
          rcases List.mem_cons.mp hs with rfl | hs
          · exact hlt
          · exact ih hrest s hs
      · simp only [Module.readSections, decodeU_encodeU_of_big hge, Option.bind_eq_bind,
          Option.bind_none] at h
        cases h

/-- A draft that is read back at all is short enough. -/
theorem short_of_read? {d : Draft} {dm : Demands} {m : Module}
    (h : Module.read? dm d.build = some m) : d.Short := by
  have hbody : (d.build).drop 8 = d.sections.flatMap fun s => sectionBytes s.1 s.2 := rfl
  unfold Module.read? at h
  split at h
  · rw [hbody] at h
    obtain ⟨m', hread, -⟩ := Option.bind_eq_some_iff.mp h
    exact short_of_readSections hread
  · cases h

/-! ## Indices -/

/-- Index `i` of a module names what a call defined, which is exported if it was given a name. -/
def Call.NamedBy (m : Module) (i : Nat) : Call → Prop
  | .importFunc module name params results =>
    m.entity? i = some (.imported module name { params, results })
  | .memory .. => False
  | .global exportName init mutable =>
    m.globals[i]? = some { type := .i32, mutable, init := init.toInt } ∧
      (exportName ≠ [] ↔ { name := exportName, kind := 0x03, index := i } ∈ m.exports)
  | .func exportName params results body =>
    m.entity? i = some (.own { params, results } { locals := [], code := body ++ [0x0B] }) ∧
      (exportName ≠ [] ↔ { name := exportName, kind := 0x00, index := i } ∈ m.exports)

/-- What later calls leave of a draft: everything stays where it is, and once there is a function
nothing is imported any more. -/
structure Extends (d d' : Draft) : Prop where
  types : d.types <+: d'.types
  imports : d.imports <+: d'.imports
  funcs : d.funcs <+: d'.funcs
  globals : d.globals <+: d'.globals
  settled : d.funcs ≠ [] → d'.imports = d.imports

theorem Extends.refl (d : Draft) : Extends d d :=
  ⟨List.prefix_rfl, List.prefix_rfl, List.prefix_rfl, List.prefix_rfl, fun _ => rfl⟩

theorem Extends.trans {d d' d'' : Draft} (h : Extends d d') (h' : Extends d' d'') : Extends d d'' where
  types := h.types.trans h'.types
  imports := h.imports.trans h'.imports
  funcs := h.funcs.trans h'.funcs
  globals := h.globals.trans h'.globals
  settled hne := by
    have hne' : d'.funcs ≠ [] := fun hnil => hne (List.prefix_nil.mp (hnil ▸ h.funcs))
    exact (h'.settled hne').trans (h.settled hne)

theorem perform_extends (d : Draft) (c : Call) : Extends d (d.perform c).2 := by
  cases c with
  | importFunc module name params results =>
    rw [perform_importFunc]
    split
    · next hnone =>
      exact ⟨List.prefix_append _ _, List.prefix_append _ _, List.prefix_rfl, List.prefix_rfl,
        fun hne => absurd (List.isEmpty_iff.mp hnone) hne⟩
    · exact .refl d
  | memory pages exportName =>
    exact ⟨List.prefix_rfl, List.prefix_rfl, List.prefix_rfl, List.prefix_rfl, fun _ => rfl⟩
  | global exportName init mutable =>
    exact ⟨List.prefix_rfl, List.prefix_rfl, List.prefix_rfl, List.prefix_append _ _, fun _ => rfl⟩
  | func exportName params results body =>
    exact ⟨List.prefix_append _ _, List.prefix_rfl, List.prefix_append _ _, List.prefix_rfl,
      fun _ => rfl⟩

theorem after_extends (d : Draft) (cs : List Call) : Extends d (d.after cs) := by
  induction cs generalizing d with
  | nil => exact .refl d
  | cons c cs ih => exact (perform_extends d c).trans (ih _)

/-- A draft has at index `i` what a call defined. -/
def Holds (d : Draft) (i : Nat) : Call → Prop
  | .importFunc module name params results => ∃ t,
    d.imports[i]? = some { module, name, typeIndex := t } ∧ d.types[t]? = some { params, results }
  | .memory .. => False
  | .global exportName init mutable =>
    d.globals[i]? = some { exportName, init := init.toInt, mutable }
  | .func exportName params results body => ∃ k t, i = d.imports.length + k ∧
    d.funcs[k]? = some { exportName, body, typeIndex := t } ∧ d.types[t]? = some { params, results }

theorem holds_perform {d : Draft} {c : Call} {i : Nat} (h : (d.perform c).1 = some i) :
    (d.perform c).2.Holds i c := by
  cases c with
  | importFunc module name params results =>
    rw [perform_importFunc] at h ⊢
    split at h
    · next hnone =>
      cases h
      rw [if_pos hnone]
      exact ⟨d.types.length, by simp, by simp⟩
    · cases h
  | memory pages exportName => cases h
  | global exportName init mutable =>
    cases h
    simp [Holds, Draft.perform, Draft.global]
  | func exportName params results body =>
    cases h
    exact ⟨d.funcs.length, d.types.length, rfl, by simp [Draft.perform, Draft.func, addType],
      by simp [Draft.perform, Draft.func, addType]⟩

theorem Holds.extends {d d' : Draft} {c : Call} {i : Nat} (h : d.Holds i c) (he : Extends d d') :
    d'.Holds i c := by
  cases c with
  | importFunc module name params results =>
    obtain ⟨t, himport, htype⟩ := h
    exact ⟨t, List.getElem?_of_prefix he.imports himport, List.getElem?_of_prefix he.types htype⟩
  | memory pages exportName => exact h
  | global exportName init mutable => exact List.getElem?_of_prefix he.globals h
  | func exportName params results body =>
    obtain ⟨k, t, rfl, hfunc, htype⟩ := h
    have hne : d.funcs ≠ [] := by
      rintro hnil
      simp [hnil] at hfunc
    rw [← he.settled hne]
    exact ⟨k, t, rfl, List.getElem?_of_prefix he.funcs hfunc, List.getElem?_of_prefix he.types htype⟩

theorem mem_exports_func {d : Draft} {k : Nat} {f : Func} (hf : d.funcs[k]? = some f) :
    { name := f.exportName, kind := 0x00, index := d.imports.length + k } ∈ d.exports ↔
      f.exportName ≠ [] := by
  rw [mem_exports]
  constructor
  · generalize he : (⟨f.exportName, 0x00, d.imports.length + k⟩ : Export) = e
    rintro (⟨-, hnamed⟩ | ⟨-, hnamed⟩ | ⟨-, hnamed⟩) <;> simp_all
  · exact .func hf

theorem mem_exports_global {d : Draft} {i : Nat} {g : Global} (hg : d.globals[i]? = some g) :
    { name := g.exportName, kind := 0x03, index := i } ∈ d.exports ↔ g.exportName ≠ [] := by
  rw [mem_exports]
  constructor
  · generalize he : (⟨g.exportName, 0x03, i⟩ : Export) = e
    rintro (⟨-, hnamed⟩ | ⟨-, hnamed⟩ | ⟨-, hnamed⟩) <;> simp_all
  · exact .global hg

theorem Holds.namedBy {d : Draft} {c : Call} {i : Nat} (h : d.Holds i c) :
    c.NamedBy d.contents i := by
  cases c with
  | importFunc module name params results =>
    obtain ⟨t, himport, htype⟩ := h
    simp [Call.NamedBy, Module.entity?, contents, himport, htype]
  | memory pages exportName => exact h
  | global exportName init mutable =>
    refine ⟨?_, (mem_exports_global h).symm⟩
    simp only [contents, List.getElem?_map, (show d.globals[i]? = _ from h), Option.map_some,
      Global.definition]
  | func exportName params results body =>
    obtain ⟨k, t, rfl, hfunc, htype⟩ := h
    refine ⟨?_, (mem_exports_func hfunc).symm⟩
    simp [Module.entity?, contents, hfunc, htype, Func.ownBody]

theorem after_append (d : Draft) (cs cs' : List Call) :
    d.after (cs ++ cs') = (d.after cs).after cs' := by
  simp [after]

/-- A module that any calls put together is read back from its bytes, up to the last one, as exactly
what was put into it; where its names are UTF-8 and its memory can be addressed, so does a reader
that demands this. Exported is what has a name, and a memory without pages is none. An index that a
call handed out names what the call defined, whatever calls came after it. -/
theorem read?_build_after (cs : List Call) (hshort : (after {} cs).Short) :
    Module.read? .form (after {} cs).build = some (after {} cs).contents ∧
      ((after {} cs).Meets .engine →
        Module.read? .engine (after {} cs).build = some (after {} cs).contents) ∧
      (∀ e, e ∈ (after {} cs).contents.exports ↔ (after {} cs).Exports e) ∧
      ∀ before c later i, cs = before ++ c :: later → ((after {} before).perform c).1 = some i →
        c.NamedBy (after {} cs).contents i := by
  have hindexed : (after {} cs).WellIndexed := wellIndexed_empty.after cs
  have hform : (after {} cs).Meets .form := ⟨fun _ _ => rfl, Nat.le_of_lt hindexed.pages⟩
  refine ⟨read?_build hindexed hform hshort, fun h => read?_build hindexed h hshort,
    fun e => mem_exports, ?_⟩
  rintro before c later i rfl hi
  have hlater : after {} (before ++ c :: later) = ((after {} before).perform c).2.after later := by
    rw [after_append]
    rfl
  rw [hlater]
  exact ((holds_perform hi).extends (after_extends _ later)).namedBy

/-- A guest that imports a signal, has a memory and a counter, and exports one function. -/
def guestCalls : List Call :=
  [.importFunc "bridge" "disconnected" [] [], .memory 1 "memory", .global "" (-1) true,
    .func "init" [.i32] [.i32] [0x20, 0x00], .importFunc "bridge" "late" [] []]

theorem read?_build_after_guest :
    (after {} guestCalls).Short ∧
      Module.read? .engine (after {} guestCalls).build = some {
        types := [⟨[], []⟩, ⟨[.i32], [.i32]⟩]
        imports := [⟨"bridge", "disconnected", 0⟩]
        funcs := [1]
        memory := some 1
        globals := [⟨.i32, true, -1⟩]
        exports := [⟨"init", 0x00, 1⟩, ⟨"memory", 0x02, 0⟩]
        bodies := [⟨[], [0x20, 0x00, 0x0B]⟩] } ∧
      (Call.func "init" [.i32] [.i32] [0x20, 0x00]).NamedBy (after {} guestCalls).contents 1 := by
  have hshort : (after {} guestCalls).Short := by
    unfold Short
    decide +kernel
  obtain ⟨-, hengine, -, hnamed⟩ := read?_build_after guestCalls hshort
  refine ⟨hshort, ?_, hnamed (guestCalls.take 3) _ (guestCalls.drop 4) 1 rfl (by decide)⟩
  exact hengine ⟨by decide +kernel, by decide⟩

end Draft

end PageBoot.Wasm
