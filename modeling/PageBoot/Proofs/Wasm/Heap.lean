import PageBoot.Proofs.Wasm.Assembled

/-!
The heap of a guest. It starts at 1024, hands out one place after another and takes none back, so of
the one page of memory there are 64512 bytes to hand out. Outside of what was handed out the memory is
zero (`Standing`), and what is written to a new place leaves the bytes of every earlier one as they
are (`Keeps`). `Standing.writeTexts` says of any texts that they are all found again at the places
that come back, or that the first for which there is no room is refused.
-/

namespace PageBoot.Wasm

/-! ## Memory that is written and read -/

namespace Memory

/-- The bytes at a place, if the memory reaches that far. -/
def read? (m : Memory) (a n : Nat) : Option Text :=
  if a + n ≤ m.size then some ((List.range n).map fun i => m.byte (a + i)) else none

theorem byte_write_of_outside {m : Memory} {a : Nat} {t : Text} {x : Nat}
    (h : x < a ∨ a + t.length ≤ x) : (m.write a t).byte x = m.byte x := by
  unfold write
  split
  · have hout : ¬ (a ≤ x ∧ x < a + t.length) := by omega
    simp only [byte, byteIn, if_neg hout]
  · rfl

theorem byte_write_of_inside {m : Memory} {a : Nat} {t : Text} (h : a + t.length ≤ m.size) {i : Nat}
    (hi : i < t.length) : (m.write a t).byte (a + i) = t[i] := by
  have hin : a ≤ a + i ∧ a + i < a + t.length := by omega
  simp only [write, if_pos h, byte, byteIn, if_pos hin, Nat.add_sub_cancel_left]
  simp [hi]

theorem read?_write {m : Memory} {a : Nat} {t : Text} (h : a + t.length ≤ m.size) :
    (m.write a t).read? a t.length = some t := by
  simp only [read?, size_write, if_pos h, Option.some.injEq]
  refine List.ext_getElem (by simp) fun i _ hi => ?_
  simpa using byte_write_of_inside h hi

/-- Up to `top`, one memory says what the other says. -/
structure Keeps (top : Nat) (m m' : Memory) : Prop where
  size : m'.size = m.size
  byte : ∀ x, x < top → m'.byte x = m.byte x

theorem Keeps.refl (top : Nat) (m : Memory) : Keeps top m m := ⟨rfl, fun _ _ => rfl⟩

theorem Keeps.trans {top top' : Nat} {m m' m'' : Memory} (h : Keeps top m m')
    (h' : Keeps top' m' m'') (hle : top ≤ top') : Keeps top m m'' :=
  ⟨h'.size.trans h.size, fun x hx => (h'.byte x (Nat.lt_of_lt_of_le hx hle)).trans (h.byte x hx)⟩

theorem keeps_write (m : Memory) (a : Nat) (t : Text) : Keeps a m (m.write a t) :=
  ⟨size_write m a t, fun _ hx => byte_write_of_outside (.inl hx)⟩

theorem Keeps.read? {top : Nat} {m m' : Memory} (h : Keeps top m m') {a n : Nat} (hle : a + n ≤ top) :
    m'.read? a n = m.read? a n := by
  simp only [Memory.read?, h.size]
  congr 2
  refine List.map_congr_left fun i hi => h.byte _ ?_
  have := List.mem_range.mp hi
  omega

/-- The texts that a row of places and lengths designates. -/
def texts? (m : Memory) : Stack → Option (List Text)
  | [] => some []
  | place :: length :: rest => do
    let t ← m.read? (Plugin.low32 place) (Plugin.low32 length)
    let ts ← m.texts? rest
    return t :: ts
  | [_] => none

theorem texts?_eq_cons {m : Memory} {args : Stack} {t : Text} {ts : List Text} :
    m.texts? args = some (t :: ts) ↔
      ∃ place length rest, args = place :: length :: rest ∧
        m.read? (Plugin.low32 place) (Plugin.low32 length) = some t ∧ m.texts? rest = some ts := by
  match args with
  | [] => simp [texts?]
  | [w] => simp [texts?]
  | place :: length :: rest =>
    cases hfirst : m.read? (Plugin.low32 place) (Plugin.low32 length) <;>
      cases hrest : m.texts? rest <;> simp [texts?, hfirst, hrest]

theorem texts?_eq_nil {m : Memory} {args : Stack} : m.texts? args = some [] ↔ args = [] := by
  match args with
  | [] => simp [texts?]
  | [w] => simp [texts?]
  | place :: length :: rest =>
    cases hfirst : m.read? (Plugin.low32 place) (Plugin.low32 length) <;>
      cases hrest : m.texts? rest <;> simp [texts?, hfirst, hrest]

end Memory

theorem low32_ofNat {n : Nat} (h : n < 2 ^ 32) : Plugin.low32 (UInt64.ofNat n) = n := by
  rw [Plugin.low32, UInt64.toUInt32_ofNat', UInt32.toNat_ofNat']
  exact Nat.mod_eq_of_lt h

theorem word32_of_lt {n : Nat} (h : n < 2 ^ 32) : Plugin.word32 n = n := Nat.mod_eq_of_lt h

/-! ## Runs -/

/-- A call runs the body of the routine, and gives what its body leaves. -/
theorem Instance.call_routine {i : Instance} {f : Nat} {args : Stack} (r : Routine) (s : Stack) (st : State)
    (hopened : i.closed = false) (hf : ¬ f < i.program.imports.length)
    (hr : i.program.routines[f - i.program.imports.length]? = some r)
    (hargs : r.type.params.length = args.length)
    (hrun : runBody i.program i.memory f (run i.program i.memory (i.depthLimit - 1))
      (args ++ List.replicate r.locals 0) r.code [] { globals := i.globals } = (.ok s, st)) :
    i.call f args =
      (.ok (s.take r.type.results.length).reverse, st.signals, { i with globals := st.globals }) := by
  have htype : ((i.type? f).getD ⟨[], []⟩).params = r.type.params := by
    rw [Instance.type?, Program.funcs_of_routine hf hr]
    rfl
  have hdepth : i.depthLimit = i.depthLimit - 1 + 1 := by
    have : 64 ≤ i.depthLimit := Nat.le_max_right _ _
    omega
  have hrun' : run i.program i.memory i.depthLimit f args { globals := i.globals } =
      (.ok (s.take r.type.results.length).reverse, st) := by
    rw [hdepth]
    simp only [run, if_neg hf, hr, hrun]
  simp only [call, htype, hargs, ne_eq, not_true_eq_false, if_false, hrun', hopened, Bool.false_eq_true]

/-- Signals are counted, and change nothing else. -/
theorem runBody_signals {p : Program} (hp : p.funcs[0]? = some ⟨[], []⟩) (himport : 0 < p.imports.length)
    (memory : Option Memory) (self depth : Nat) (locals : Stack) (n : Nat) (is : List Instr) (s : Stack)
    (st : State) :
    runBody p memory self (run p memory depth) locals (List.replicate n (.call 0) ++ is) s st =
      runBody p memory self (run p memory depth) locals is s { st with signals := st.signals + n } := by
  induction n generalizing st with
  | zero => rfl
  | succ n ih =>
    have hone : run p memory depth 0 [] st = (.ok [], { st with signals := st.signals + 1 }) := by
      unfold run
      rw [if_pos himport]
    simp only [List.replicate_succ, List.cons_append, runBody, hp, Option.getD_some,
      List.length_nil, List.take_zero, List.reverse_nil, hone, List.nil_append, List.drop_zero, ih,
      Nat.add_right_comm, Nat.add_assoc]

/-! ## The heap -/

namespace Guest

/-- There is room for `n` bytes when `used` were asked for. For no bytes there always is. -/
def Fits (used n : Nat) : Prop := n = 0 ∨ used + n ≤ 64512

instance (used n : Nat) : Decidable (Fits used n) := inferInstanceAs (Decidable (_ ∨ _))

/-- Where the next `n` bytes are. -/
def place (used n : Nat) : Nat := if n = 0 then 0 else 1024 + used

/-- What was asked for after some texts were to be copied. The first for which there is no room is
the last that is asked for. -/
def asked : Nat → List Text → Nat
  | used, [] => used
  | used, t :: ts => if Fits used t.length then asked (used + t.length) ts else used + t.length

theorem fits_add {used n k : Nat} : Fits used (n + k) ↔ Fits used n ∧ Fits (used + n) k := by
  unfold Fits
  omega

theorem le_asked (used : Nat) (ts : List Text) : used ≤ asked used ts := by
  induction ts generalizing used with
  | nil => exact Nat.le_refl _
  | cons t ts ih =>
    unfold asked
    split
    · exact Nat.le_trans (Nat.le_add_right _ _) (ih _)
    · exact Nat.le_add_right _ _

/-- The plugin of a guest of which `used` bytes were asked: nothing but its heap, the count of
disconnect calls and its memory has changed, and above the heap and below it the memory is zero. -/
structure Standing (b : Behavior) (used : Nat) (m : Memory) (p : Plugin) : Prop where
  program : p.guest.program = Guest.program b
  globals : ∃ calls, p.guest.globals = [UInt64.ofNat (1024 + used), calls]
  memory : p.guest.memory = some m
  size : m.size = 65536
  blank : ∀ x, x < 1024 ∨ 1024 + used ≤ x → m.byte x = 0
  alloc : p.alloc = 1
  connect : p.connect = 3
  dispatch : p.dispatch = if b.dispatch then some 5 else none
  opened : p.guest.closed = false

theorem standing_loaded (name : Text) (b : Behavior) :
    Standing b 0 { size := 65536 } (loaded name b) where
  program := rfl
  globals := ⟨_, rfl⟩
  memory := rfl
  size := rfl
  blank _ _ := rfl
  alloc := rfl
  connect := rfl
  dispatch := rfl
  opened := rfl

variable {b : Behavior} {used : Nat} {m : Memory} {p : Plugin}

/-- What is written to places that were handed out leaves the rest of the memory zero. -/
theorem Standing.writeMemory (h : Standing b used m p) {a : Nat} {t : Text}
    (ht : t = [] ∨ 1024 ≤ a ∧ a + t.length ≤ 1024 + used) :
    Standing b used (m.write a t) (p.writeMemory a t) where
  program := h.program
  globals := h.globals
  memory := by simp [Plugin.writeMemory, h.memory]
  size := by rw [Memory.size_write, h.size]
  blank x hx := by
    rw [Memory.byte_write_of_outside, h.blank x hx]
    rcases ht with rfl | hin
    · simp
      omega
    · omega
  alloc := h.alloc
  connect := h.connect
  dispatch := h.dispatch
  opened := h.opened

theorem runBody_alloc (p : Program) (memory : Option Memory) (self : Nat)
    (call : Nat → Stack → State → Run Stack) (n heap calls : UInt64) :
    runBody p memory self call [n] (allocBody 0) [] { globals := [heap, calls] } =
      (.ok [heap], { globals := [(heap.toUInt32 + n.toUInt32).toUInt64, calls] }) := rfl

theorem routines_alloc (b : Behavior) :
    (routines b)[0]? = some ⟨⟨[.i32], [.i32]⟩, 0, allocBody 0⟩ := rfl

/-- The guest's `alloc` gives the end of its heap, and moves it on. -/
theorem Standing.callGuest_alloc (h : Standing b used m p) {n : Nat} (hn : 1024 + used + n < 2 ^ 32) :
    (p.callGuest p.alloc [UInt64.ofNat n]).reply = .answer [UInt64.ofNat (1024 + used)] ∧
      (p.callGuest p.alloc [UInt64.ofNat n]).signals = 0 ∧
      Standing b (used + n) m (p.callGuest p.alloc [UInt64.ofNat n]).plugin := by
  obtain ⟨calls, hglobals⟩ := h.globals
  have hmoved : ((UInt64.ofNat (1024 + used)).toUInt32 + (UInt64.ofNat n).toUInt32).toUInt64 =
      UInt64.ofNat (1024 + (used + n)) := by
    rw [UInt64.toUInt32_ofNat', UInt64.toUInt32_ofNat', ← UInt32.ofNat_add, ← Nat.add_assoc,
      UInt32.toUInt64_ofNat' hn]
  have hcall : p.guest.call p.alloc [UInt64.ofNat n] =
      (.ok [UInt64.ofNat (1024 + used)], 0,
        { p.guest with globals := [UInt64.ofNat (1024 + (used + n)), calls] }) := by
    rw [h.alloc]
    refine Instance.call_routine ⟨⟨[.i32], [.i32]⟩, 0, allocBody 0⟩ [UInt64.ofNat (1024 + used)]
      { globals := [UInt64.ofNat (1024 + (used + n)), calls] } h.opened ?_ ?_ rfl ?_
    · rw [h.program]
      exact Nat.lt_irrefl 1
    · rw [h.program]
      exact routines_alloc b
    · rw [hglobals, ← hmoved]
      exact runBody_alloc _ _ _ _ _ _ _
  simp only [Plugin.callGuest, Instance.runtime_call, hcall, true_and]
  exact {
    program := h.program
    globals := ⟨calls, rfl⟩
    memory := h.memory
    size := h.size
    blank := fun x hx => h.blank x (by omega)
    alloc := h.alloc
    connect := h.connect
    dispatch := h.dispatch
    opened := h.opened }

theorem Standing.size? (h : Standing b used m p) : Runtime.size? p.guest = some 65536 := by
  rw [Instance.runtime_size?, h.memory, Option.map_some, h.size]

/-- What comes of asking for room: a place if there is one, else a failure; the heap has moved on in
either case. -/
theorem Standing.room (h : Standing b used m p) {n : Nat} (hn : 1024 + used + n < 2 ^ 32) :
    (p.room n).signals = 0 ∧ Standing b (used + n) m (p.room n).plugin ∧
      (Fits used n → (p.room n).reply = .answer (place used n)) ∧
      (¬ Fits used n → ∃ e, (p.room n).reply = .failure e) := by
  have hword : Plugin.word32 n = n := word32_of_lt (by omega)
  by_cases hzero : n = 0
  · subst hzero
    have hnothing : p.room 0 = { reply := .answer 0, plugin := p } := rfl
    rw [hnothing]
    exact ⟨rfl, h, fun _ => rfl, fun hno => absurd (.inl rfl) hno⟩
  · obtain ⟨hreply, hsignals, hstanding⟩ := h.callGuest_alloc hn
    have hpage : Plugin.word32 65536 = 65536 := rfl
    by_cases hfits : used + n ≤ 64512
    · have hle : 1024 + used + n ≤ 65536 := by omega
      have hroom : p.room n =
          { p.callGuest p.alloc [UInt64.ofNat n] with reply := .answer (1024 + used) } := by
        simp only [Plugin.room, Plugin.allocate, hword, if_neg hzero, hreply, hstanding.size?,
          low32_ofNat (show 1024 + used < 2 ^ 32 by omega), hpage, if_pos hle, reduceCtorEq, and_false,
          if_false]
      simp only [hroom]
      exact ⟨hsignals, hstanding, fun _ => by rw [place, if_neg hzero],
        fun hno => absurd (.inr hfits) hno⟩
    · have hlt : ¬ 1024 + used + n ≤ 65536 := by omega
      have hnot : ¬ Fits used n := by
        unfold Fits
        omega
      simp only [Plugin.room, Plugin.allocate, hword, if_neg hzero, hreply, hstanding.size?,
        low32_ofNat (show 1024 + used < 2 ^ 32 by omega), hpage, if_neg hlt]
      exact ⟨hsignals, hstanding, fun hyes => absurd hyes hnot, fun _ => ⟨_, rfl⟩⟩

/-- A text is copied to the place that was given for it, and to no other. -/
theorem Standing.writeText (h : Standing b used m p) {t : Text}
    (hn : 1024 + used + t.length < 2 ^ 32) :
    (p.writeText t).signals = 0 ∧
      (Fits used t.length →
        ∃ a m', (p.writeText t).reply = .answer [UInt64.ofNat a, UInt64.ofNat t.length] ∧
          a + t.length ≤ 1024 + (used + t.length) ∧ a < 65536 ∧ m'.read? a t.length = some t ∧
          Memory.Keeps (1024 + used) m m' ∧
          Standing b (used + t.length) m' (p.writeText t).plugin) ∧
      (¬ Fits used t.length → (∃ e, (p.writeText t).reply = .failure e) ∧
        Standing b (used + t.length) m (p.writeText t).plugin) := by
  obtain ⟨hsignals, hstanding, hyes, hno⟩ := h.room hn
  by_cases hfits : Fits used t.length
  · have hwritten : p.writeText t =
        { p.room t.length with
          reply := .answer [UInt64.ofNat (place used t.length), UInt64.ofNat t.length]
          plugin := if t.isEmpty then (p.room t.length).plugin
            else (p.room t.length).plugin.writeMemory (place used t.length) t } := by
      simp only [Plugin.writeText, hyes hfits, word32_of_lt (show t.length < 2 ^ 32 by omega)]
    rw [hwritten]
    refine ⟨hsignals, fun _ => ?_, fun hnot => absurd hfits hnot⟩
    by_cases hnil : t = []
    · subst hnil
      exact ⟨0, m, rfl, by omega, by omega, rfl, .refl _ _, hstanding⟩
    · have hsome : t.length ≠ 0 := fun hzero => hnil (List.length_eq_zero_iff.mp hzero)
      have hplace : place used t.length = 1024 + used := if_neg hsome
      have hroom : used + t.length ≤ 64512 := hfits.resolve_left hsome
      rw [hplace, if_neg (by simpa using hnil)]
      refine ⟨1024 + used, m.write (1024 + used) t, rfl, by omega, by omega, ?_,
        Memory.keeps_write _ _ _, hstanding.writeMemory (.inr ⟨by omega, by omega⟩)⟩
      refine Memory.read?_write ?_
      rw [h.size]
      omega
  · obtain ⟨e, he⟩ := hno hfits
    have hrefused : p.writeText t = { p.room t.length with reply := .failure e } := by
      simp only [Plugin.writeText, he]
    rw [hrefused]
    exact ⟨hsignals, fun hyes => absurd hyes hfits, fun _ => ⟨⟨e, rfl⟩, hstanding⟩⟩

/-- Texts for which there is room are all copied, and each is found where it was copied to: what was
written later lies above. If there is no room for them all, it fails. -/
theorem Standing.writeTexts {ts : List Text} (h : Standing b used m p)
    (hn : 1024 + asked used ts < 2 ^ 32) :
    (p.writeTexts ts).signals = 0 ∧
      (Fits used (ts.map List.length).sum →
        ∃ args m', (p.writeTexts ts).reply = .answer args ∧ m'.texts? args = some ts ∧
          (∀ w ∈ args, Plugin.low32 w < 65536) ∧ Memory.Keeps (1024 + used) m m' ∧
          Standing b (asked used ts) m' (p.writeTexts ts).plugin) ∧
      (¬ Fits used (ts.map List.length).sum →
        (∃ e, (p.writeTexts ts).reply = .failure e) ∧
          ∃ m', Standing b (asked used ts) m' (p.writeTexts ts).plugin) := by
  induction ts generalizing used m p with
  | nil =>
    refine ⟨rfl, fun _ => ⟨[], m, rfl, rfl, by simp, .refl _ _, h⟩, fun hno => absurd (.inl rfl) hno⟩
  | cons t ts ih =>
    have hsum : ((t :: ts).map List.length).sum = t.length + (ts.map List.length).sum := rfl
    rw [hsum, fits_add]
    by_cases hfits : Fits used t.length
    · have hasked : asked used (t :: ts) = asked (used + t.length) ts := if_pos hfits
      rw [hasked] at hn ⊢
      have hle := le_asked (used + t.length) ts
      obtain ⟨hsignals, hyes, -⟩ := h.writeText (t := t) (by omega)
      obtain ⟨a, m₁, hreply, hin, ha, hread, hkeeps, hstanding⟩ := hyes hfits
      obtain ⟨hrestSignals, hrestYes, hrestNo⟩ := ih hstanding hn
      have hwritten : p.writeTexts (t :: ts) =
          { (p.writeText t).plugin.writeTexts ts with
            reply := ((p.writeText t).plugin.writeTexts ts).reply.map
              ([UInt64.ofNat a, UInt64.ofNat t.length] ++ ·)
            signals := (p.writeText t).signals +
              ((p.writeText t).plugin.writeTexts ts).signals } := by
        simp only [Plugin.writeTexts, hreply]
      rw [hwritten]
      refine ⟨by simp only [hsignals, hrestSignals], fun hall => ?_, fun hnot => ?_⟩
      · obtain ⟨args, m₂, hrest, htexts, hsmall, hkeeps', hlast⟩ := hrestYes hall.2
        have hplace : Plugin.low32 (UInt64.ofNat a) = a := low32_ofNat (by omega)
        have hlength : Plugin.low32 (UInt64.ofNat t.length) = t.length := low32_ofNat (by omega)
        -- the place of the first text lies below all that was written after it
        have hfirst : m₂.read? a t.length = some t := (hkeeps'.read? (by omega)).trans hread
        have hshort : t.length < 65536 := by
          unfold Fits at hfits
          omega
        refine ⟨_, m₂, by rw [hrest, Reply.map], ?_, ?_, hkeeps.trans hkeeps' (by omega), hlast⟩
        · exact Memory.texts?_eq_cons.mpr ⟨_, _, _, rfl, by rw [hplace, hlength, hfirst], htexts⟩
        · intro w hw
          simp only [List.cons_append, List.nil_append, List.mem_cons] at hw
          rcases hw with rfl | rfl | hw
          · rw [hplace]
            exact ha
          · rw [hlength]
            exact hshort
          · exact hsmall w hw
      · obtain ⟨⟨e, he⟩, hlast⟩ := hrestNo fun hrest => hnot ⟨hfits, hrest⟩
        exact ⟨⟨e, by rw [he, Reply.map]⟩, hlast⟩
    · have hasked : asked used (t :: ts) = used + t.length := if_neg hfits
      rw [hasked] at hn ⊢
      obtain ⟨hsignals, -, hno⟩ := h.writeText (t := t) (by omega)
      obtain ⟨⟨e, he⟩, hstanding⟩ := hno hfits
      have hrefused : p.writeTexts (t :: ts) = { p.writeText t with reply := .failure e } := by
        simp only [Plugin.writeTexts, he]
      rw [hrefused]
      exact ⟨hsignals, fun hall => absurd hall.1 hfits, fun _ => ⟨⟨e, rfl⟩, m, hstanding⟩⟩

end Guest

end PageBoot.Wasm
