import PageBoot.Connector.Script
import PageBoot.Proofs.Wasm.Heap

/-!
What a guest hears of a request. Of any row of requests, those that failed included, each that still
fits above the heap reaches the guest's `connect` with its five texts where the arguments say they
are, and one that does not fit fails without `connect` being called (`handshake`). So a guest that
looks at the protocol version sees the version of that request, and no other text.
-/

namespace PageBoot.Wasm

namespace Memory

/-- A text that was read has the length that was read. -/
theorem length_of_read? {m : Memory} {a n : Nat} {t : Text} (h : m.read? a n = some t) :
    t.length = n := by
  unfold read? at h
  split at h
  · cases h
    simp
  · cases h

theorem head?_of_read? {m : Memory} {a n : Nat} {t : Text} (h : m.read? a n = some t) :
    t.head? = if n = 0 then none else some (m.byte a) := by
  unfold read? at h
  split at h
  · cases h
    cases n <;> simp [List.range_succ_eq_map]
  · cases h

end Memory

/-- A byte that is loaded is compared by its value. -/
theorem loaded_beq (x : UInt8) : ((UInt64.ofNat x.toNat).toUInt32 == 50) = (x == 50) := by
  have hlt := x.toNat_lt
  have hnat : (UInt64.ofNat x.toNat).toUInt32.toNat = x.toNat := by
    rw [UInt64.toUInt32_ofNat', UInt32.toNat_ofNat']
    exact Nat.mod_eq_of_lt (by omega)
  rw [Bool.eq_iff_iff, beq_iff_eq, beq_iff_eq, ← UInt32.toNat_inj, ← UInt8.toNat_inj, hnat]
  rfl

/-! ## Whether `connect` is called -/

namespace Plugin

/-- The plugin that `connect` is called of, and the arguments of the call, if there is one. -/
def heard? {G : Type} [Runtime G] (p : Plugin G) (request : List Text) : Option (Plugin G × Stack) :=
  match (p.writeTexts request).reply with
  | .answer args => some ((p.writeTexts request).plugin, args)
  | _ => none

/-- The plugin with another function in the place of its `connect`. -/
def connecting (p : Plugin) (f : Nat) : Plugin := { p with connect := f }

theorem room_connecting (p : Plugin) (f n : Nat) :
    (p.connecting f).room n = { p.room n with plugin := (p.room n).plugin.connecting f } := by
  have hallocate : (p.connecting f).allocate (word32 n) =
      { p.allocate (word32 n) with plugin := (p.allocate (word32 n)).plugin.connecting f } := by
    by_cases hzero : word32 n = 0
    · simp only [allocate, if_pos hzero]
    · simp only [allocate, if_neg hzero]
      rfl
  simp only [room, hallocate]
  obtain ⟨reply, signals, q⟩ := p.allocate (word32 n)
  cases reply with
  | answer a =>
    have hguest : (q.connecting f).guest = q.guest := rfl
    simp only [hguest]
    split <;> rfl
  | _ => rfl

theorem writeText_connecting (p : Plugin) (f : Nat) (t : Text) :
    (p.connecting f).writeText t =
      { p.writeText t with plugin := (p.writeText t).plugin.connecting f } := by
  simp only [writeText, room_connecting]
  cases (p.room t.length).reply with
  | answer a => cases t.isEmpty <;> rfl
  | _ => rfl

/-- What is copied for a request does not depend on what is called afterwards. -/
theorem writeTexts_connecting (p : Plugin) (f : Nat) (ts : List Text) :
    (p.connecting f).writeTexts ts =
      { p.writeTexts ts with plugin := (p.writeTexts ts).plugin.connecting f } := by
  induction ts generalizing p with
  | nil => rfl
  | cons t ts ih =>
    simp only [writeTexts, writeText_connecting]
    cases (p.writeText t).reply with
    | answer args => simp only [ih]
    | _ => rfl

/-- If `connect` is not called, it does not matter which function it is. -/
theorem runConnect_connecting {p : Plugin} {ts : List Text} (h : p.heard? ts = none) (f : Nat) :
    (p.connecting f).runConnect ts =
      { p.runConnect ts with plugin := (p.runConnect ts).plugin.connecting f } := by
  simp only [runConnect, writeTexts_connecting]
  unfold heard? at h
  cases hreply : (p.writeTexts ts).reply with
  | answer args => simp [hreply] at h
  | _ => rfl

/-- The plugin after some requests, those that failed included. -/
def afterConnects (p : Plugin) (rs : List Connector.Request) : Plugin :=
  rs.foldl (fun p r => (p.runConnect r.texts).plugin) p

end Plugin

/-! ## What `connect` answers -/

namespace Guest

/-- Whether a guest connects to a host of the given protocol version. -/
def Behavior.admits (b : Behavior) (version : Text) : Bool :=
  b.accept && (!b.checkVersion || (version.length == 3 && version.head? == some 50))

theorem Behavior.admits_iff {b : Behavior} (haccept : b.accept = true)
    (hcheck : b.checkVersion = true) (version : Text) :
    b.admits version = true ↔ version.length = 3 ∧ version.head? = some 50 := by
  simp [admits, haccept, hcheck]

variable {b : Behavior} {used : Nat} {m : Memory} {p : Plugin}

/-- A guest that looks at the version loads its first byte, and what happens to be at its place if it
is empty: the length tells that apart. -/
theorem runBody_answer (prog : Program) (self : Nat) (call : Nat → Stack → State → Run Stack)
    {w₀ w₁ w₂ w₃ w₄ w₅ w₆ w₇ place length : UInt64} {version : Text} (st : State)
    (hplace : Plugin.low32 place < m.size)
    (hversion : m.read? (Plugin.low32 place) (Plugin.low32 length) = some version) :
    runBody prog (some m) self call [w₀, w₁, w₂, w₃, w₄, w₅, w₆, w₇, place, length]
        (connectBody { b with signals := 0 } 0) [] st =
      (.ok [if b.admits version then 1 else 0], st) := by
  obtain ⟨init, accept, checkVersion, signals, dispatch⟩ := b
  cases accept with
  | false => rfl
  | true =>
    cases checkVersion with
    | false => rfl
    | true =>
      have hload : m.load8? (place.toUInt32.toNat + 0) =
          some (UInt64.ofNat (m.byte (Plugin.low32 place)).toNat) := if_pos hplace
      have hrun : runBody prog (some m) self call
          [w₀, w₁, w₂, w₃, w₄, w₅, w₆, w₇, place, length]
          (connectBody ⟨init, true, true, 0, dispatch⟩ 0) [] st =
          (.ok [((if (UInt64.ofNat (m.byte (Plugin.low32 place)).toNat).toUInt32 == 50
              then (1 : UInt64) else 0).toUInt32 &&&
            (if length.toUInt32 == 3 then (1 : UInt64) else 0).toUInt32).toUInt64], st) := by
        simp only [connectBody, Int.toNat_zero, List.replicate_zero, List.nil_append,
          Bool.not_true, Bool.false_eq_true, if_false, if_true, runBody, Instr.step,
          List.getElem?_cons_succ, List.getElem?_cons_zero, pushed, Option.bind_some, hload]
        rfl
      have hlength : (length.toUInt32 == 3) = (version.length == 3) := by
        rw [Memory.length_of_read? hversion, Bool.eq_iff_iff, beq_iff_eq, beq_iff_eq,
          ← UInt32.toNat_inj]
        rfl
      have hhead := Memory.head?_of_read? hversion
      rw [← Memory.length_of_read? hversion] at hhead
      rw [hrun, loaded_beq, hlength]
      by_cases hthree : version.length = 3
      · rw [if_neg (by omega)] at hhead
        cases hfirst : m.byte (Plugin.low32 place) == 50 <;>
          simp [Behavior.admits, hthree, hhead, hfirst]
      · simp [Behavior.admits, hthree]

theorem routines_connect (b : Behavior) :
    (routines b)[2]? = some ⟨⟨List.replicate 10 .i32, [.i32]⟩, 0, connectBody b 0⟩ := rfl

/-- A guest that is called with five texts answers by the last of them. -/
theorem Standing.callGuest_connect (h : Standing b used m p) {args : Stack}
    {url session codeServer module version : Text}
    (htexts : m.texts? args = some [url, session, codeServer, module, version])
    (hsmall : ∀ w ∈ args, Plugin.low32 w < 65536) :
    (p.callGuest p.connect args).reply = .answer [if b.admits version then 1 else 0] ∧
      (p.callGuest p.connect args).signals = b.signals.toNat ∧
      (p.callGuest p.connect args).plugin = p := by
  obtain ⟨w₀, w₁, rest₁, rfl, -, htexts⟩ := Memory.texts?_eq_cons.mp htexts
  obtain ⟨w₂, w₃, rest₂, rfl, -, htexts⟩ := Memory.texts?_eq_cons.mp htexts
  obtain ⟨w₄, w₅, rest₃, rfl, -, htexts⟩ := Memory.texts?_eq_cons.mp htexts
  obtain ⟨w₆, w₇, rest₄, rfl, -, htexts⟩ := Memory.texts?_eq_cons.mp htexts
  obtain ⟨place, length, rest, rfl, hversion, hrest⟩ := Memory.texts?_eq_cons.mp htexts
  obtain rfl := Memory.texts?_eq_nil.mp hrest
  have hplace : Plugin.low32 place < m.size := by
    rw [h.size]
    exact hsmall place (by simp)
  have hcall : p.guest.call p.connect [w₀, w₁, w₂, w₃, w₄, w₅, w₆, w₇, place, length] =
      (.ok [if b.admits version then 1 else 0], b.signals.toNat, p.guest) := by
    rw [h.connect]
    refine Instance.call_routine ⟨⟨List.replicate 10 .i32, [.i32]⟩, 0, connectBody b 0⟩
      [if b.admits version then 1 else 0]
      { globals := p.guest.globals, signals := b.signals.toNat } h.opened ?_ ?_ rfl ?_
    · rw [h.program]
      exact (by decide : ¬ 3 < 1)
    · rw [h.program]
      exact routines_connect b
    · have hsignal : (Guest.program b).funcs[0]? = some ⟨[], []⟩ := rfl
      have himport : 0 < (Guest.program b).imports.length := Nat.one_pos
      rw [h.program, h.memory, connectBody_eq, runBody_signals hsignal himport, Nat.zero_add]
      exact runBody_answer _ _ _ _ hplace hversion
  simp only [Plugin.callGuest, Instance.runtime_call, hcall, and_self]

/-! ## Requests -/

/-- What was asked for after some requests. -/
def askedBy (used : Nat) (rs : List Connector.Request) : Nat :=
  rs.foldl (fun used r => asked used r.texts) used

theorem le_askedBy (used : Nat) (rs : List Connector.Request) : used ≤ askedBy used rs := by
  induction rs generalizing used with
  | nil => exact Nat.le_refl _
  | cons r rs ih => exact Nat.le_trans (le_asked used r.texts) (ih _)

/-- There is room for all the texts of a request. -/
def HasRoom (used : Nat) (r : Connector.Request) : Prop := Fits used (r.texts.map List.length).sum

instance (used : Nat) (r : Connector.Request) : Decidable (HasRoom used r) :=
  inferInstanceAs (Decidable (Fits _ _))

/-- One request: it is heard in full and answered, or it fails. -/
theorem Standing.runConnect (h : Standing b used m p) {r : Connector.Request}
    (hn : 1024 + asked used r.texts < 2 ^ 32) :
    (HasRoom used r → ∃ q args m', p.heard? r.texts = some (q, args) ∧
      Standing b (asked used r.texts) m' q ∧ m'.texts? args = some r.texts ∧
      p.runConnect r.texts =
        Plugin.answering .handshake "connector connect" (q.callGuest q.connect args) ∧
      p.runConnect r.texts =
        { reply := .answer (b.admits r.version), signals := b.signals.toNat, plugin := q }) ∧
    (¬ HasRoom used r → p.heard? r.texts = none ∧
      (∃ m', Standing b (asked used r.texts) m' (p.runConnect r.texts).plugin) ∧
      (p.runConnect r.texts).signals = 0 ∧ ∃ e, (p.runConnect r.texts).reply = .failure e) := by
  obtain ⟨hsignals, hyes, hno⟩ := h.writeTexts hn
  refine ⟨fun hroom => ?_, fun hroom => ?_⟩
  · obtain ⟨args, m', hreply, htexts, hsmall, -, hstanding⟩ := hyes hroom
    obtain ⟨hanswer, hsent, hplugin⟩ := hstanding.callGuest_connect htexts hsmall
    have hcalled : p.runConnect r.texts = Plugin.answering .handshake "connector connect"
        ((p.writeTexts r.texts).plugin.callGuest (p.writeTexts r.texts).plugin.connect args) := by
      simp only [Plugin.runConnect, hreply, hsignals, Nat.zero_add, h.connect, hstanding.connect]
    have hword : Plugin.accepted [if b.admits r.version then 1 else 0] = b.admits r.version := by
      cases b.admits r.version <;> rfl
    refine ⟨(p.writeTexts r.texts).plugin, args, m', by simp only [Plugin.heard?, hreply],
      hstanding, htexts, hcalled, ?_⟩
    simp only [hcalled, Plugin.answering, hanswer, hsent, hplugin, hword]
  · obtain ⟨⟨e, hreply⟩, m', hstanding⟩ := hno hroom
    have hfailed : p.runConnect r.texts =
        { reply := .failure e, plugin := (p.writeTexts r.texts).plugin } := by
      simp only [Plugin.runConnect, hreply, hsignals]
    rw [hfailed]
    exact ⟨by simp only [Plugin.heard?, hreply], ⟨m', hstanding⟩, rfl, e, rfl⟩

/-- What a request leaves, whatever came of it. -/
theorem Standing.runConnect_plugin (h : Standing b used m p) {r : Connector.Request}
    (hn : 1024 + asked used r.texts < 2 ^ 32) :
    ∃ m', Standing b (asked used r.texts) m' (p.runConnect r.texts).plugin := by
  obtain ⟨hyes, hno⟩ := h.runConnect hn
  by_cases hroom : HasRoom used r
  · obtain ⟨q, args, m', -, hstanding, -, -, hrun⟩ := hyes hroom
    exact ⟨m', by rwa [hrun]⟩
  · exact (hno hroom).2.1

theorem Standing.afterConnects (h : Standing b used m p) (rs : List Connector.Request)
    (hn : 1024 + askedBy used rs < 2 ^ 32) :
    ∃ m', Standing b (askedBy used rs) m' (p.afterConnects rs) := by
  induction rs generalizing used m p with
  | nil => exact ⟨m, h⟩
  | cons r rs ih =>
    have hle := le_askedBy (asked used r.texts) rs
    have hn' : 1024 + askedBy (asked used r.texts) rs < 2 ^ 32 := hn
    obtain ⟨m', hnext⟩ := h.runConnect_plugin (r := r) (by omega)
    exact ih hnext hn'

/-- **What a guest hears.** Let a guest of any behaviour be loaded, and asked to connect any number of
times, in all for less than `2 ^ 32 - 1024` bytes. If there is room for the five texts of the next
request, its `connect` is called with ten arguments that designate, in the memory as it is then, just
these texts in their order; what it answers is decided by its behaviour, and a guest that accepts but
looks at the version accepts exactly those of three bytes that start with `2`. If there is no room for
one of them, the call fails, and the guest's `connect` is not called: no other function in its place
would make a difference. -/
theorem handshake {name : Text} {b : Behavior} {p : Plugin} {n : Nat}
    (hload : Plugin.load name (bytes b) = .ok (p, n)) (before : List Connector.Request)
    (r : Connector.Request) (hn : askedBy 0 (before ++ [r]) < 2 ^ 32 - 1024) :
    (HasRoom (askedBy 0 before) r →
      (∃ q args m, (p.afterConnects before).heard? r.texts = some (q, args) ∧
        q.guest.memory = some m ∧ m.texts? args = some r.texts ∧
        (p.afterConnects before).runConnect r.texts =
          Plugin.answering .handshake "connector connect" (q.callGuest q.connect args)) ∧
      ((p.afterConnects before).runConnect r.texts).reply = .answer (b.admits r.version) ∧
      ((p.afterConnects before).runConnect r.texts).signals = b.signals.toNat ∧
      (b.accept = true → b.checkVersion = true →
        (((p.afterConnects before).runConnect r.texts).reply = .answer true ↔
          r.version.length = 3 ∧ r.version.head? = some 50))) ∧
    (¬ HasRoom (askedBy 0 before) r →
      (∃ e, ((p.afterConnects before).runConnect r.texts).reply = .failure e) ∧
      (p.afterConnects before).heard? r.texts = none ∧
      ((p.afterConnects before).runConnect r.texts).signals = 0 ∧
      ∀ f, ((p.afterConnects before).connecting f).runConnect r.texts =
        { (p.afterConnects before).runConnect r.texts with
          plugin := ((p.afterConnects before).runConnect r.texts).plugin.connecting f }) := by
  obtain ⟨-, -, rfl, -⟩ := load_bytes_eq_ok.mp hload
  have hlast : asked (askedBy 0 before) r.texts < 2 ^ 32 - 1024 := by
    simpa [askedBy, List.foldl_append] using hn
  have hle := le_asked (askedBy 0 before) r.texts
  obtain ⟨m, hstanding⟩ := (standing_loaded name b).afterConnects before (by omega)
  obtain ⟨hyes, hno⟩ := hstanding.runConnect (r := r) (by omega)
  refine ⟨fun hroom => ?_, fun hroom => ?_⟩
  · obtain ⟨q, args, m', hheard, hafter, htexts, hcalled, hrun⟩ := hyes hroom
    refine ⟨⟨q, args, m', hheard, hafter.memory, htexts, hcalled⟩, by rw [hrun], by rw [hrun], ?_⟩
    intro haccept hcheck
    rw [hrun, Reply.answer.injEq]
    exact Behavior.admits_iff haccept hcheck r.version
  · obtain ⟨hheard, -, hsignals, e, hfailed⟩ := hno hroom
    exact ⟨⟨e, hfailed⟩, hheard, hsignals, Plugin.runConnect_connecting hheard⟩

theorem short_loopback : (draft loopback).Short := by
  show ∀ s ∈ (draft loopback).sections, s.2.length < 2 ^ 32
  decide +kernel

/-- After a request that asked for more than there is, one with nothing but a version is refused, and
after one that was heard the next is heard too. -/
theorem handshake_loopback :
    ∃ p n, Plugin.load [112] (bytes loopback) = .ok (p, n) ∧
      (∃ before r : Connector.Request, askedBy 0 ([before] ++ [r]) < 2 ^ 32 - 1024 ∧
        HasRoom (askedBy 0 [before]) r ∧
        ((p.afterConnects [before]).runConnect r.texts).reply = .answer true) ∧
      ∃ before r : Connector.Request, askedBy 0 ([before] ++ [r]) < 2 ^ 32 - 1024 ∧
        ¬ HasRoom (askedBy 0 [before]) r ∧ (p.afterConnects [before]).heard? r.texts = none := by
  have hload : Plugin.load [112] (bytes loopback) = .ok (loaded [112] loopback, 0) :=
    load_bytes_eq_ok.mpr ⟨by decide, short_loopback, rfl, rfl⟩
  refine ⟨_, _, hload, ?_, ?_⟩
  · let before : Connector.Request := { url := [104], version := [50, 46, 48] }
    let r : Connector.Request := { session := [115, 49], version := [50, 46, 49] }
    have hn : askedBy 0 ([before] ++ [r]) < 2 ^ 32 - 1024 := by decide
    have hroom : HasRoom (askedBy 0 [before]) r := by decide
    exact ⟨before, r, hn, hroom, ((handshake hload [before] r hn).1 hroom).2.1⟩
  · obtain ⟨t, ht⟩ : ∃ t : Text, t.length = 64513 := ⟨List.replicate 64513 0, List.length_replicate⟩
    let before : Connector.Request := { url := t }
    let r : Connector.Request := { version := [50, 46, 48] }
    have hasked : askedBy 0 [before] = 64513 := by
      simp [askedBy, asked, Connector.Request.texts, before, Fits, ht]
    have hn : askedBy 0 ([before] ++ [r]) < 2 ^ 32 - 1024 := by
      have hlast : askedBy 0 ([before] ++ [r]) = asked (askedBy 0 [before]) r.texts := by
        simp [askedBy]
      rw [hlast, hasked]
      decide
    have hroom : ¬ HasRoom (askedBy 0 [before]) r := by
      rw [hasked]
      decide
    exact ⟨before, r, hn, hroom, ((handshake hload [before] r hn).2 hroom).2.1⟩

end Guest

end PageBoot.Wasm
