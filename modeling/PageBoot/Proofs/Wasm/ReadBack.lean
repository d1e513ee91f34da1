import PageBoot.Proofs.Wasm.Leb128
import PageBoot.Wasm.Module

/-!
Readers of the binary form, part by part: each takes in what was written for a part and leaves what
follows it. Sections with rising numbers are taken in one after another, to the last byte.
-/

namespace PageBoot.Wasm

/-- The definition that a global is read as. -/
def Global.definition (g : Global) : GlobalDef :=
  { type := .i32, mutable := g.mutable, init := g.init }

/-- The body that a function is read as. -/
def Func.ownBody (f : Func) : Body := { locals := [], code := f.body ++ [0x0B] }

/-! ## Readers that take in a piece and leave what follows it -/

namespace Module

variable {α β : Type}

/-- `r` takes `bytes` in as `x`, whatever follows. -/
def Reads (r : Reader α) (bytes : Text) (x : α) : Prop := ∀ rest, r (bytes ++ rest) = some (x, rest)

theorem reads_decodeU {n : Nat} (h : n < 2 ^ 32) : Reads decodeU (encodeU n) n := decodeU_encodeU h

theorem reads_decodeS {v : Int} (h : -2 ^ 31 ≤ v ∧ v < 2 ^ 31) : Reads decodeS (encodeS v) v :=
  decodeS_encodeS h

theorem reads_readByte (b : UInt8) : Reads readByte [b] b := fun _ => rfl

theorem reads_readBytes (t : Text) : Reads (readBytes t.length) t t := by
  intro rest
  simp [readBytes]

theorem reads_readMany {r : Reader β} {item : α → Text} {f : α → β} {xs : List α}
    (h : ∀ x ∈ xs, Reads r (item x) (f x)) :
    Reads (readMany r xs.length) (xs.flatMap item) (xs.map f) := by
  induction xs with
  | nil => exact fun _ => rfl
  | cons x xs ih =>
    intro rest
    have hfirst := h x (by simp) (xs.flatMap item ++ rest)
    have hothers := ih (fun y hy => h y (by simp [hy])) rest
    simp only [List.flatMap_cons, List.append_assoc, List.length_cons, List.map_cons, readMany,
      hfirst, hothers, Option.bind_eq_bind, Option.bind_some, Option.pure_def]

theorem length_item_le {item : α → Text} {xs : List α} {x : α} (hx : x ∈ xs) :
    (item x).length ≤ (vector item xs).length := by
  obtain ⟨before, after, rfl⟩ := List.append_of_mem hx
  simp only [vector, List.flatMap_append, List.flatMap_cons, List.length_append]
  omega

/-- Items that are not empty are no more than the bytes they are written in. -/
theorem length_le_flatMap {item : α → Text} {xs : List α} (h : ∀ x ∈ xs, item x ≠ []) :
    xs.length ≤ (xs.flatMap item).length := by
  induction xs with
  | nil => simp
  | cons x xs ih =>
    have hx := List.length_pos_iff.mpr (h x (by simp))
    have hxs := ih fun y hy => h y (by simp [hy])
    simp only [List.length_cons, List.flatMap_cons, List.length_append]
    omega

theorem length_lt_of_vector {item : α → Text} {xs : List α} (hne : ∀ x ∈ xs, item x ≠ [])
    (hlen : (vector item xs).length < 2 ^ 32) : xs.length < 2 ^ 32 := by
  have := length_le_flatMap hne
  simp only [vector, List.length_append] at hlen
  omega

theorem reads_readVector {r : Reader β} {item : α → Text} {f : α → β} {xs : List α}
    (hne : ∀ x ∈ xs, item x ≠ []) (hlen : (vector item xs).length < 2 ^ 32)
    (h : ∀ x ∈ xs, Reads r (item x) (f x)) :
    Reads (readVector r) (vector item xs) (xs.map f) := by
  intro rest
  have hcount := reads_decodeU (length_lt_of_vector hne hlen) (xs.flatMap item ++ rest)
  have hroom : ¬ xs.length > (xs.flatMap item ++ rest).length := by
    have := length_le_flatMap hne
    simp only [List.length_append]
    omega
  simp only [readVector, vector, List.append_assoc, hcount, Option.bind_eq_bind, Option.bind_some,
    if_neg hroom]
  exact reads_readMany h rest

theorem reads_readVector_self {r : Reader α} {item : α → Text} {xs : List α}
    (hne : ∀ x ∈ xs, item x ≠ []) (hlen : (vector item xs).length < 2 ^ 32)
    (h : ∀ x ∈ xs, Reads r (item x) x) : Reads (readVector r) (vector item xs) xs := by
  simpa using reads_readVector (f := id) hne hlen h

theorem whole_eq_some {r : Reader α} {bytes : Text} {x : α} (h : Reads r bytes x) :
    whole r bytes = some x := by
  have := h []
  rw [List.append_nil] at this
  simp only [whole, this]

/-! ## The parts of a module -/

variable {d : Demands}

/-- The count in front of a piece says where it ends. -/
theorem decodeU_nameBytes {t : Text} (hlen : t.length < 2 ^ 32) (rest : Text) :
    decodeU (nameBytes t ++ rest) = some (t.length, t ++ rest) := by
  rw [nameBytes, List.append_assoc]
  exact reads_decodeU hlen _

theorem length_le_nameBytes (t : Text) : t.length ≤ (nameBytes t).length := by
  simp [nameBytes]

theorem reads_readName {t : Text} (hname : d.isName t = true) (hlen : (nameBytes t).length < 2 ^ 32) :
    Reads (readName d) (nameBytes t) t := by
  intro rest
  have hlen' := Nat.lt_of_le_of_lt (length_le_nameBytes t) hlen
  simp only [readName, decodeU_nameBytes hlen', reads_readBytes t _, Option.bind_eq_bind,
    Option.bind_some, hname, if_true, Option.pure_def]

theorem reads_readValType (v : ValType) : Reads readValType [v.code] v := by
  intro rest
  cases v <;> rfl

theorem reads_types (vs : List ValType) (hlen : (vector (fun v => [v.code]) vs).length < 2 ^ 32) :
    Reads (readVector readValType) (vector (fun v => [v.code]) vs) vs :=
  reads_readVector_self (by simp) hlen fun v _ => reads_readValType v

theorem reads_readFuncType {t : FuncType} (hlen : t.bytes.length < 2 ^ 32) :
    Reads readFuncType t.bytes t := by
  intro rest
  simp only [FuncType.bytes, List.length_append] at hlen
  have hparams := reads_types t.params (by omega)
  have hresults := reads_types t.results (by omega)
  simp only [FuncType.bytes, List.append_assoc, List.cons_append, List.nil_append, readFuncType,
    hparams _, hresults _, Option.bind_eq_bind, Option.bind_some, Option.pure_def]

theorem reads_readImport {i : Import} (hmodule : d.isName i.module = true)
    (hname : d.isName i.name = true) (htype : i.typeIndex < 2 ^ 32)
    (hlen : i.bytes.length < 2 ^ 32) : Reads (readImport d) i.bytes i := by
  intro rest
  simp only [Import.bytes, List.length_append] at hlen
  have hmodule' := reads_readName hmodule (by omega)
  have hname' := reads_readName hname (by omega)
  simp only [Import.bytes, List.append_assoc, readImport, hmodule' _, hname' _,
    reads_readByte 0 _, reads_decodeU htype _, Option.bind_eq_bind, Option.bind_some, ne_eq,
    not_true_eq_false, if_false, Option.pure_def]

theorem reads_readGlobal {g : Global} (h : -2 ^ 31 ≤ g.init ∧ g.init < 2 ^ 31) :
    Reads readGlobal g.bytes g.definition := by
  intro rest
  have hinit := reads_decodeS h (0x0B :: rest)
  have hflag : (if g.mutable then (0x01 : UInt8) else 0x00) ≤ 1 ∧
      ((if g.mutable then (0x01 : UInt8) else 0x00) == 1) = g.mutable := by
    cases g.mutable <;> decide
  simp only [Global.bytes, List.append_assoc, List.cons_append, List.nil_append, readGlobal,
    readValType, readByte, hinit, Option.bind_eq_bind, Option.bind_some]
  simp [hflag, Global.definition]

theorem reads_readExport {e : Export} (hname : d.isName e.name = true) (hindex : e.index < 2 ^ 32)
    (hlen : e.bytes.length < 2 ^ 32) : Reads (readExport d) e.bytes e := by
  intro rest
  simp only [Export.bytes, List.length_append] at hlen
  have hname' := reads_readName hname (by omega)
  simp only [Export.bytes, List.append_assoc, readExport, hname' _, reads_readByte e.kind _,
    reads_decodeU hindex _, Option.bind_eq_bind, Option.bind_some, Option.pure_def]

theorem readLocals_none (t : Text) : readLocals (0x00 :: t) = some ([], t) := by
  simp [readLocals, readVector, decodeU, decodeUFrom, readMany]

theorem reads_readBody {f : Func} (hlen : f.code.length < 2 ^ 32) :
    Reads readBody f.code f.ownBody := by
  intro rest
  have hcode : f.code = nameBytes ([0x00] ++ f.body ++ [0x0B]) := rfl
  have hlocals : readLocals ([0x00] ++ f.body ++ [0x0B]) = some ([], f.body ++ [0x0B]) := by
    rw [List.append_assoc]
    exact readLocals_none _
  rw [hcode] at hlen ⊢
  have hlen' := Nat.lt_of_le_of_lt (length_le_nameBytes _) hlen
  simp only [readBody, decodeU_nameBytes hlen', reads_readBytes _ _, hlocals, Option.bind_eq_bind,
    Option.bind_some, List.getLast?_append, List.getLast?_singleton, Option.some_or, if_true,
    Option.pure_def, Func.ownBody]

/-! ## Sections -/

theorem readSection_types (m : Module) {ts : List FuncType}
    (hlen : (vector FuncType.bytes ts).length < 2 ^ 32) :
    readSection d m 0x01 (vector FuncType.bytes ts) = some { m with types := ts } := by
  have hreads := reads_readVector_self (r := readFuncType) (fun t _ => by simp [FuncType.bytes]) hlen
    fun t ht => reads_readFuncType (Nat.lt_of_le_of_lt (length_item_le ht) hlen)
  simp only [readSection, whole_eq_some hreads, Option.map_some]

theorem readSection_imports (m : Module) {is : List Import}
    (hnames : ∀ i ∈ is, d.isName i.module = true ∧ d.isName i.name = true)
    (htypes : ∀ i ∈ is, i.typeIndex < 2 ^ 32) (hlen : (vector Import.bytes is).length < 2 ^ 32) :
    readSection d m 0x02 (vector Import.bytes is) = some { m with imports := is } := by
  have hreads := reads_readVector_self (r := readImport d) (fun i _ => by simp [Import.bytes]) hlen
    fun i hi => reads_readImport (hnames i hi).1 (hnames i hi).2 (htypes i hi)
      (Nat.lt_of_le_of_lt (length_item_le hi) hlen)
  simp only [readSection, whole_eq_some hreads, Option.map_some]

theorem readSection_funcs (m : Module) {fs : List Func} (htypes : ∀ f ∈ fs, f.typeIndex < 2 ^ 32)
    (hlen : (vector (fun f => encodeU f.typeIndex) fs).length < 2 ^ 32) :
    readSection d m 0x03 (vector (fun f => encodeU f.typeIndex) fs) =
      some { m with funcs := fs.map (·.typeIndex) } := by
  have hreads := reads_readVector (r := decodeU) (f := (·.typeIndex))
    (fun f _ => encodeU_ne_nil f.typeIndex) hlen fun f hf => reads_decodeU (htypes f hf)
  simp only [readSection, whole_eq_some hreads, Option.map_some]

theorem readSection_memory (m : Module) {pages : Nat} (hmax : pages ≤ d.maxPages)
    (hpages : pages < 2 ^ 32) (hlen : ([0x01, 0x00] ++ encodeU pages : Text).length < 2 ^ 32) :
    readSection d m 0x05 ([0x01, 0x00] ++ encodeU pages) = some { m with memory := some pages } := by
  have hone : Reads (readMemory d) ([0x00] ++ encodeU pages) pages := by
    intro rest
    simp only [readMemory, List.append_assoc, reads_readByte 0 _, reads_decodeU hpages rest,
      Option.bind_eq_bind, Option.bind_some, if_true, Option.pure_def]
  have hvector : vector (fun n => [0x00] ++ encodeU n) [pages] = [0x01, 0x00] ++ encodeU pages := by
    simp [vector, encodeU_of_lt]
  have hreads : Reads (readVector (readMemory d)) (vector (fun n => [0x00] ++ encodeU n) [pages])
      [pages] := reads_readVector_self (by simp) (by rw [hvector]; exact hlen) fun n hn => by
    rw [List.mem_singleton.mp hn]
    exact hone
  rw [hvector] at hreads
  simp only [readSection, whole_eq_some hreads]
  rw [if_neg (by omega)]

theorem readSection_globals (m : Module) {gs : List Global}
    (hinit : ∀ g ∈ gs, -2 ^ 31 ≤ g.init ∧ g.init < 2 ^ 31)
    (hlen : (vector Global.bytes gs).length < 2 ^ 32) :
    readSection d m 0x06 (vector Global.bytes gs) =
      some { m with globals := gs.map (·.definition) } := by
  have hreads := reads_readVector (r := readGlobal) (f := (·.definition))
    (fun g _ => by simp [Global.bytes]) hlen fun g hg => reads_readGlobal (hinit g hg)
  simp only [readSection, whole_eq_some hreads, Option.map_some]

theorem readSection_exports (m : Module) {es : List Export} (hnames : ∀ e ∈ es, d.isName e.name = true)
    (hindex : ∀ e ∈ es, e.index < 2 ^ 32) (hlen : (vector Export.bytes es).length < 2 ^ 32) :
    readSection d m 0x07 (vector Export.bytes es) = some { m with exports := es } := by
  have hreads := reads_readVector_self (r := readExport d) (fun e _ => by simp [Export.bytes]) hlen
    fun e he => reads_readExport (hnames e he) (hindex e he)
      (Nat.lt_of_le_of_lt (length_item_le he) hlen)
  simp only [readSection, whole_eq_some hreads, Option.map_some]

theorem readSection_bodies (m : Module) {fs : List Func} (hlen : (vector Func.code fs).length < 2 ^ 32) :
    readSection d m 0x0A (vector Func.code fs) = some { m with bodies := fs.map (·.ownBody) } := by
  have hreads := reads_readVector (r := readBody) (f := (·.ownBody))
    (fun f _ => by simp [Func.code]) hlen
    fun f hf => reads_readBody (Nat.lt_of_le_of_lt (length_item_le hf) hlen)
  simp only [readSection, whole_eq_some hreads, Option.map_some]

/-- Takes in one section after another. -/
def takeSections (d : Demands) (m : Module) (ss : List (UInt8 × Text)) : Option Module :=
  ss.foldlM (fun m s => readSection d m s.1 s.2) m

/-- Sections with rising numbers are taken in one after another, up to the last byte. -/
theorem readSections_eq {ss : List (UInt8 × Text)} {last : UInt8} {m m' : Module} {n : Nat}
    (hrise : (last :: ss.map (·.1)).Pairwise (· < ·)) (hlen : ∀ s ∈ ss, s.2.length < 2 ^ 32)
    (hn : (ss.flatMap fun s => sectionBytes s.1 s.2).length ≤ n)
    (h : takeSections d m ss = some m') :
    readSections d n last m (ss.flatMap fun s => sectionBytes s.1 s.2) = some m' := by
  induction ss generalizing last m n with
  | nil =>
    cases h
    cases n <;> rfl
  | cons s ss ih =>
    obtain ⟨id, body⟩ := s
    simp only [takeSections, List.foldlM_cons, Option.bind_eq_bind, Option.bind_eq_some_iff] at h
    obtain ⟨m₁, hfirst, hothers⟩ := h
    simp only [List.map_cons, List.pairwise_cons] at hrise
    have hlast : last < id := hrise.1 id (by simp)
    have hid : id ≠ 0 := fun h0 => by simp [h0] at hlast
    have hskip : ¬ (id ≠ 0 ∧ id ≤ last) := fun hle => absurd hlast (UInt8.not_lt.mpr hle.2)
    have hpos : 0 < (sectionBytes id body).length := by simp [sectionBytes]
    simp only [List.flatMap_cons, List.length_append] at hn
    cases n with
    | zero => omega
    | succ n =>
      have hsize := hlen (id, body) (by simp)
      have hrest : readSections d n id m₁ (ss.flatMap fun s => sectionBytes s.1 s.2) = some m' :=
        ih (List.pairwise_cons.mpr hrise.2) (fun t ht => hlen t (by simp [ht])) (by omega) hothers
      have hbytes : sectionBytes id body = id :: nameBytes body := rfl
      simp only [List.flatMap_cons, hbytes, List.cons_append, readSections,
        decodeU_nameBytes hsize, reads_readBytes _ _, Option.bind_eq_bind, Option.bind_some,
        if_neg hskip, hfirst, if_neg hid, hrest]

end Module

end PageBoot.Wasm
