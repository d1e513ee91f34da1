import PageBoot.Proofs.Wasm.Handshake
import PageBoot.Proofs.Wasm.Passing

/-!
Guests that echo the calls dispatched to them. By its id, a call gives the receiver back, or the first
argument, or is thrown, or comes back as a number. The values come back as what was handed over, for
no one else writes to where their ids are: that holds of every call, after any others and after
requests to connect, for which there is room left for the ids of its arguments (`echo`). From when
there is none, a call with arguments is answered by an exception.
-/

namespace PageBoot.Wasm

open Bridge
open Bridge.ObjectTable
open Plugin

/-! ## Words as signed numbers -/

theorem signed32_eq (w : UInt64) : signed32 w = (low32 w : Int).bmod (2 ^ 32) :=
  BitVec.toInt_eq_toNat_bmod w.toUInt32.toBitVec

theorem low32_int32Word (v : Int) : (low32 (int32Word v) : Int) = v % (2 ^ 32 : Nat) := by
  have hlt : (v % UInt32.size).toNat < 2 ^ 32 := by
    simp only [UInt32.size]
    omega
  rw [int32Word, low32_ofNat hlt, Int.toNat_of_nonneg (Int.emod_nonneg _ (by decide))]
  rfl

theorem signed32_int32Word (v : Int) : signed32 (int32Word v) = v.bmod (2 ^ 32) := by
  rw [signed32_eq, low32_int32Word, Int.emod_bmod]

theorem signed32_add (x y : UInt64) :
    signed32 (x.toUInt32 + y.toUInt32).toUInt64 = (signed32 x + signed32 y).bmod (2 ^ 32) := by
  have hsum : (low32 (x.toUInt32 + y.toUInt32).toUInt64 : Int) =
      ((low32 x : Int) + low32 y) % (2 ^ 32 : Nat) := by simp [low32]
  rw [signed32_eq, hsum, Int.emod_bmod, signed32_eq, signed32_eq, Int.add_bmod]

/-! ## The body of `dispatch` -/

/-- A choice by a condition that was left on the stack as a word. -/
theorem select_truth (P : Prop) [Decidable P] (x y : UInt64) :
    (if (if P then (1 : UInt64) else 0).toUInt32 ≠ 0 then x else y) = if P then x else y := by
  by_cases h : P
  · rw [if_pos h, if_pos h]
    rfl
  · rw [if_neg h, if_neg h]
    rfl

namespace Guest

variable {b : Behavior} {used : Nat} {m : Memory} {p : Plugin} {t : ObjectTable}

/-- The first argument is loaded whether or not it is given back. -/
theorem runBody_dispatch (prog : Program) (self : Nat) (call : Nat → Stack → State → Run Stack)
    {disp this count base first : UInt64} (st : State)
    (hload : m.load32? (low32 base) = some first) :
    runBody prog (some m) self call [disp, this, count, base] dispatchBody [] st =
      (.ok [if disp.toUInt32.toInt32 < 0 then disp
          else if disp.toUInt32 ≤ 1 then (if disp.toUInt32 = 0 then this else first)
          else (disp.toUInt32 + count.toUInt32).toUInt64,
        if disp.toUInt32.toInt32 < 0 then 2 else if disp.toUInt32 ≤ 1 then 1 else 0], st) := by
  have hload' : m.load32? (base.toUInt32.toNat + 0) = some first := hload
  simp only [dispatchBody, List.cons_append, List.nil_append, runBody, Instr.step,
    List.getElem?_cons_succ, List.getElem?_cons_zero, pushed, Option.bind_some, hload']
  show (Except.ok [if (if decide (disp.toUInt32.toInt32 < 0) then (1 : UInt64) else 0).toUInt32 ≠ 0
      then disp
      else if (if decide (disp.toUInt32 ≤ 1) then (1 : UInt64) else 0).toUInt32 ≠ 0 then
        (if (if disp.toUInt32 == 0 then (1 : UInt64) else 0).toUInt32 ≠ 0 then this else first)
      else (disp.toUInt32 + count.toUInt32).toUInt64,
    if (if decide (disp.toUInt32.toInt32 < 0) then (1 : UInt64) else 0).toUInt32 ≠ 0
      then (2 : UInt64)
      else if (if decide (disp.toUInt32 ≤ 1) then (1 : UInt64) else 0).toUInt32 ≠ 0 then 1 else 0],
    st) = _
  simp only [decide_eq_true_eq, beq_iff_eq, select_truth]

/-- What a guest leaves of a call: a kind and a value. -/
def echoed (disp : Int) (this first : UInt64) (count : Nat) : Stack :=
  if disp < 0 then [2, int32Word disp]
  else if disp = 0 then [1, this]
  else if disp = 1 then [1, first]
  else [0, ((int32Word disp).toUInt32 + (UInt64.ofNat count).toUInt32).toUInt64]

/-- Ids of calls in the numbers that a guest can be told. -/
def InRange (disp : Int) : Prop := -2 ^ 31 ≤ disp ∧ disp < 2 ^ 31

instance (disp : Int) : Decidable (InRange disp) := inferInstanceAs (Decidable (_ ∧ _))

theorem echoed_eq {disp : Int} (h : InRange disp) (this first : UInt64) (count : Nat) :
    [if (int32Word disp).toUInt32.toInt32 < 0 then (2 : UInt64)
        else if (int32Word disp).toUInt32 ≤ 1 then 1 else 0,
      if (int32Word disp).toUInt32.toInt32 < 0 then int32Word disp
        else if (int32Word disp).toUInt32 ≤ 1 then
          (if (int32Word disp).toUInt32 = 0 then this else first)
        else ((int32Word disp).toUInt32 + (UInt64.ofNat count).toUInt32).toUInt64] =
      echoed disp this first count := by
  obtain ⟨hlow, hhigh⟩ := h
  have hsigned : (int32Word disp).toUInt32.toInt32.toInt = disp := by
    have := signed32_int32Word disp
    rw [Int.bmod_eq_of_le (by omega) (by omega)] at this
    exact this
  have hunsigned : ((int32Word disp).toUInt32.toNat : Int) = disp % (2 ^ 32 : Nat) :=
    low32_int32Word disp
  have hneg : (int32Word disp).toUInt32.toInt32 < 0 ↔ disp < 0 := by
    rw [Int32.lt_iff_toInt_lt, hsigned]
    rfl
  have hone : (int32Word disp).toUInt32 ≤ 1 ↔ (int32Word disp).toUInt32.toNat ≤ 1 :=
    UInt32.le_iff_toNat_le
  have hzero : (int32Word disp).toUInt32 = 0 ↔ (int32Word disp).toUInt32.toNat = 0 :=
    UInt32.toNat_inj.symm
  simp only [hneg, hone, hzero, echoed]
  split
  · rfl
  · next hpos =>
    by_cases h0 : disp = 0
    · have hle : (int32Word disp).toUInt32.toNat ≤ 1 := by omega
      have heq : (int32Word disp).toUInt32.toNat = 0 := by omega
      rw [if_pos hle, if_pos hle, if_pos heq, if_pos h0]
    · by_cases h1 : disp = 1
      · have hle : (int32Word disp).toUInt32.toNat ≤ 1 := by omega
        have hne : ¬ (int32Word disp).toUInt32.toNat = 0 := by omega
        rw [if_pos hle, if_pos hle, if_neg hne, if_neg h0, if_pos h1]
      · have hgt : ¬ (int32Word disp).toUInt32.toNat ≤ 1 := by omega
        rw [if_neg hgt, if_neg hgt, if_neg h0, if_neg h1]

theorem routines_dispatch {b : Behavior} (hb : b.dispatch = true) :
    (routines b)[4]? =
      some ⟨⟨List.replicate 4 .i32, [.i32, .i32]⟩, 0, dispatchBody⟩ := by
  simp [routines, hb]

/-- A guest that is called leaves a kind and a value, and is as it was. -/
theorem Standing.callGuest_dispatch (h : Standing b used m p) (hb : b.dispatch = true) {disp : Int}
    (hdisp : InRange disp) (this base : UInt64) {first : UInt64} (count : Nat)
    (hload : m.load32? (low32 base) = some first) :
    p.callGuest 5 [int32Word disp, this, UInt64.ofNat count, base] =
      { reply := .answer (echoed disp this first count), plugin := p } := by
  have hcall : p.guest.call 5 [int32Word disp, this, UInt64.ofNat count, base] =
      (.ok (echoed disp this first count), 0, p.guest) := by
    rw [← echoed_eq hdisp]
    refine Instance.call_routine ⟨⟨List.replicate 4 .i32, [.i32, .i32]⟩, 0, dispatchBody⟩ [_, _]
      { globals := p.guest.globals } h.opened ?_ ?_ rfl ?_
    · rw [h.program]
      exact (by decide : ¬ 5 < 1)
    · rw [h.program]
      exact routines_dispatch hb
    · rw [h.program, h.memory]
      exact runBody_dispatch _ _ _ _ hload
  simp only [callGuest, Instance.runtime_call, hcall]

/-! ## One call -/

/-- What comes back for the number under which an object is to be found. -/
def found (t : ObjectTable) (crossed : Int) : Bridge.Result :=
  if crossed = 0 then ⟨false, .null⟩
  else match t.live? crossed with
    | some u => ⟨false, u⟩
    | none => ⟨true, .failure (.notFound .invoke "object" (Text.ofInt crossed))⟩

/-- What an id is read back as that crossed to the guest and back, in 32 bits and with a sign. -/
def readBack (t : ObjectTable) (id : Nat) : Bridge.Result := found t ((id : Int).bmod (2 ^ 32))

theorem signed32_word32 (n : Nat) : signed32 (UInt64.ofNat (word32 n)) = (n : Int).bmod (2 ^ 32) := by
  have hlt : word32 n < 2 ^ 32 := Nat.mod_lt _ (by decide)
  have hsize : UInt32.size = 2 ^ 32 := rfl
  rw [signed32_eq, low32_ofNat hlt, word32, hsize, Int.natCast_mod, Int.emod_bmod]

theorem decode_object (t : ObjectTable) (w : UInt64) : decode t [1, w] = found t (signed32 w) := rfl

theorem decode_id (t : ObjectTable) (id : Nat) : decode t [1, UInt64.ofNat (word32 id)] = readBack t id := by
  rw [decode_object, signed32_word32, readBack]

/-- An object is found again by the id it crossed under, if that is not too large for the guest to
give back as a positive number. -/
theorem readBack_of_small {before after : ObjectTable} {v : Value} {id : Nat}
    (h : Names before after v id) (hsmall : after.entries.length < 2 ^ 31) :
    ∃ u, readBack after id = ⟨false, u⟩ ∧ before.Matches v u := by
  rcases h with ⟨rfl, rfl⟩ | ⟨hpos, hle, u, hlive, hmatches⟩
  · exact ⟨.null, rfl, .inl rfl⟩
  · have hne : (id : Int) ≠ 0 := by omega
    refine ⟨u, ?_, hmatches⟩
    rw [readBack, Int.bmod_eq_of_le (by omega) (by omega), found, if_neg hne, hlive]

theorem decode_number (t : ObjectTable) (w : UInt64) :
    decode t [0, w] = ⟨false, .int (signed32 w)⟩ := rfl

theorem decode_exception (t : ObjectTable) (w : UInt64) :
    decode t [2, w] = ⟨true, .int (signed32 w)⟩ := rfl

/-- What a call comes back as. Ids cross as signed numbers of 32 bits: an object is found again if the
table has not given out `2 ^ 31` ids, and beyond that what comes back is what its id is read as then. -/
structure Echoes (before after : ObjectTable) (disp : Int) (this : Value) (args : List Value)
    (r : Bridge.Result) : Prop where
  thrown : disp < 0 → r = ⟨true, .int disp⟩
  receiver : disp = 0 → after.entries.length < 2 ^ 31 →
    ∃ u, r = ⟨false, u⟩ ∧ before.Matches this u
  argument : disp = 1 → after.entries.length < 2 ^ 31 → ∀ a ∈ args.head?,
    ∃ u, r = ⟨false, u⟩ ∧ (u = this ∧ this.same a = true ∨ before.Matches a u)
  receiver_read : disp = 0 → ∃ id, Names before after this id ∧ r = readBack after id
  /-- When the argument crosses, the receiver is in the table already. -/
  argument_read : disp = 1 → ∀ a ∈ args.head?, ∃ entered id, Names entered after a id ∧
    (∀ k u, entered.live? k = some u → u = this ∨ before.live? k = some u) ∧ r = readBack after id
  nothing : disp = 1 → args = [] → r = ⟨false, .null⟩
  number : 1 < disp → r = ⟨false, .int ((disp + args.length).bmod (2 ^ 32))⟩

/-- What a guest leaves of a call is read as what the call comes back as. `entered` is the table with
the receiver, before the arguments are looked for in it. -/
theorem echoes_decode {before entered after : ObjectTable} {disp : Int} {this : Value}
    {args : List Value} {id : Nat} {ids : List Nat} (hdisp : InRange disp)
    (hcount : args.length < 2 ^ 32) (hlen : ids.length = args.length)
    (hthis : Names before after this id)
    (hargs : ∀ a ∈ args.head?, ∃ k, ids.head? = some k ∧ Names entered after a k)
    (hentered : ∀ k u, entered.live? k = some u → u = this ∨ before.live? k = some u) :
    Echoes before after disp this args
      (decode after (echoed disp (UInt64.ofNat (word32 id))
        (UInt64.ofNat (word32 (ids.headD 0))) args.length)) := by
  have hreceiver (hzero : disp = 0) : decode after (echoed disp (UInt64.ofNat (word32 id))
      (UInt64.ofNat (word32 (ids.headD 0))) args.length) = readBack after id := by
    rw [echoed, if_neg (by omega), if_pos hzero, decode_id]
  have hfirst (hone : disp = 1) {k : Nat} (hk : ids.head? = some k) :
      decode after (echoed disp (UInt64.ofNat (word32 id)) (UInt64.ofNat (word32 (ids.headD 0)))
        args.length) = readBack after k := by
    have hhead : ids.headD 0 = k := by rw [List.headD_eq_head?_getD, hk, Option.getD_some]
    rw [echoed, if_neg (by omega), if_neg (by omega), if_pos hone, hhead, decode_id]
  refine ⟨fun hneg => ?_, fun hzero hsmall => ?_, fun hone hsmall a ha => ?_, fun hzero => ?_,
    fun hone a ha => ?_, fun hone hnil => ?_, fun hlarge => ?_⟩
  · rw [echoed, if_pos hneg, decode_exception, signed32_int32Word,
      Int.bmod_eq_of_le (by have := hdisp.1; omega) (by omega)]
  · rw [hreceiver hzero]
    exact readBack_of_small hthis hsmall
  · obtain ⟨k, hk, hnames⟩ := hargs a ha
    obtain ⟨u, hread, hmatches⟩ := readBack_of_small hnames hsmall
    refine ⟨u, (hfirst hone hk).trans hread, ?_⟩
    rcases hmatches with rfl | ⟨hsame, key, hlive⟩
    · exact .inr (.inl rfl)
    · rcases hentered key u hlive with rfl | hlive
      · exact .inl ⟨rfl, hsame⟩
      · exact .inr (.inr ⟨hsame, key, hlive⟩)
  · exact ⟨id, hthis, hreceiver hzero⟩
  · obtain ⟨k, hk, hnames⟩ := hargs a ha
    exact ⟨entered, k, hnames, hentered, hfirst hone hk⟩
  · obtain rfl : ids = [] := List.length_eq_zero_iff.mp (by simpa [hnil] using hlen)
    rw [echoed, if_neg (by omega), if_neg (by omega), if_pos hone]
    rfl
  · have hsum : signed32 (UInt64.ofNat args.length) = (args.length : Int).bmod (2 ^ 32) := by
      rw [signed32_eq, low32_ofNat hcount]
    rw [echoed, if_neg (by omega), if_neg (by omega), if_neg (by omega), decode_number, signed32_add,
      signed32_int32Word, hsum, ← Int.add_bmod]

/-- One call: it comes back if there is room for the ids of its arguments, and is answered by an
exception if there is none. -/
theorem Standing.runDispatch (h : Standing b used m p) (hb : b.dispatch = true) (ht : t.Open)
    {disp : Int} (hdisp : InRange disp) (this : Value) (args : List Value)
    (hn : 1024 + used + 4 * args.length < 2 ^ 32) :
    ∃ m' t', (p.runDispatch (some t) disp this args).2 = some t' ∧ t'.Open ∧
      Standing b (used + 4 * args.length) m' (p.runDispatch (some t) disp this args).1.plugin ∧
      (Fits used (4 * args.length) → ∃ r, Echoes t t' disp this args r ∧
        (p.runDispatch (some t) disp this args).1.reply = .answer r) ∧
      (¬ Fits used (4 * args.length) → ∃ e,
        (p.runDispatch (some t) disp this args).1.reply = .answer ⟨true, .failure e⟩) := by
  obtain ⟨id, t₁, hthis, hopen₁, hgrows₁, hnames₁, honly⟩ := reference_open ht this
  obtain ⟨ids, t', hargs, hopen, hgrows, hfirst⟩ := references_open hopen₁ args
  have hrefs : references t (this :: args) = (.ok (id :: ids), t') := by
    simp only [references, hthis, hargs]
    rfl
  have hlen : ids.length = args.length := references_length hargs
  have hdispatch : p.dispatch = some 5 := by simp [h.dispatch, hb]
  obtain ⟨-, hstanding, hyes, hno⟩ := h.room (n := 4 * args.length) hn
  by_cases hfits : Fits used (4 * args.length)
  · have hroom := hyes hfits
    obtain ⟨m', hlaid, hload⟩ := hstanding.writeIds ids (by rw [hlen]) (by rwa [hlen])
    rw [hlen] at hlaid hload
    have hplace : place used (4 * args.length) < 2 ^ 32 := by
      unfold place
      split <;> omega
    have hcount : word32 args.length = args.length := word32_of_lt (by omega)
    have hcall := hlaid.callGuest_dispatch hb hdisp (UInt64.ofNat (word32 id))
      (UInt64.ofNat (place used (4 * args.length))) args.length
      (by rwa [low32_ofNat hplace])
    have hrun : p.runDispatch (some t) disp this args =
        ({ reply := .answer (decode t' (echoed disp (UInt64.ofNat (word32 id))
              (UInt64.ofNat (word32 (ids.headD 0))) args.length))
           signals := (p.room (4 * args.length)).signals
           plugin := (p.room (4 * args.length)).plugin.writeIds
              (place used (4 * args.length)) ids }, some t') := by
      simp only [Plugin.runDispatch, hdispatch, hrefs, List.drop_one, List.tail_cons, hlen, hroom,
        List.head?_cons, Option.getD_some, hcount, hcall, Nat.add_zero]
    rw [hrun]
    refine ⟨m', t', rfl, hopen, hlaid, fun _ => ⟨_, ?_, rfl⟩, fun hnot => absurd hfits hnot⟩
    exact echoes_decode hdisp (by omega) hlen (hnames₁.grows hgrows) hfirst honly
  · obtain ⟨e, hfailed⟩ := hno hfits
    have hrun : p.runDispatch (some t) disp this args =
        ({ p.room (4 * args.length) with reply := threw e }, some t') := by
      simp only [Plugin.runDispatch, hdispatch, hrefs, List.drop_one, List.tail_cons, hlen, hfailed]
    rw [hrun]
    exact ⟨m, t', rfl, hopen, hstanding, fun hyes => absurd hyes hfits, fun _ => ⟨e, rfl⟩⟩

/-! ## Calls and requests in a row -/

/-- What is asked of the guest beside its start and its end: to connect by the five texts of a request,
or to take a call. -/
def Spoken : Operation → Prop
  | .connect texts => texts.length = 5
  | .dispatch disp _ _ => InRange disp
  | _ => False

/-- What was asked for after an operation: texts, and four bytes for each argument. -/
def askedFor (used : Nat) : Operation → Nat
  | .connect texts => asked used texts
  | .dispatch _ _ args => used + 4 * args.length
  | _ => used

def askedIn (used : Nat) (ops : List Operation) : Nat := ops.foldl askedFor used

theorem le_askedFor (used : Nat) (op : Operation) : used ≤ askedFor used op := by
  cases op with
  | connect texts => exact le_asked used texts
  | dispatch disp this args => exact Nat.le_add_right _ _
  | _ => exact Nat.le_refl _

theorem le_askedIn (used : Nat) (ops : List Operation) : used ≤ askedIn used ops := by
  induction ops generalizing used with
  | nil => exact Nat.le_refl _
  | cons op ops ih => exact Nat.le_trans (le_askedFor used op) (ih _)

/-- A guest at work, with an open table. -/
def Serving (b : Behavior) (used : Nat) (s : Service) : Prop :=
  ∃ m t, Standing b used m s.plugin ∧ s.objects = some t ∧ t.Open

theorem Serving.perform {s : Service} (h : Serving b used s) (hb : b.dispatch = true)
    {op : Operation} (hop : Spoken op) (hn : 1024 + askedFor used op < 2 ^ 32) :
    Serving b (askedFor used op) (s.perform op).2 := by
  obtain ⟨m, t, hstanding, hobjects, hopen⟩ := h
  cases op with
  | connect texts =>
    match texts, hop with
    | [url, session, codeServer, module, version], _ =>
      let r : Connector.Request := { url, session, codeServer, module, version }
      obtain ⟨m', hnext⟩ := hstanding.runConnect_plugin (r := r) hn
      exact ⟨m', t, hnext, hobjects, hopen⟩
  | dispatch disp this args =>
    have hn' : 1024 + used + 4 * args.length < 2 ^ 32 := by rwa [Nat.add_assoc]
    obtain ⟨m', t', htable, hopen', hnext, -, -⟩ := hstanding.runDispatch hb hopen hop this args hn'
    exact ⟨m', t', by simpa only [Service.perform, hobjects, askedFor] using hnext,
      by simpa only [Service.perform, hobjects] using htable, hopen'⟩
  | _ => exact absurd hop id

theorem Serving.after {s : Service} (h : Serving b used s) (hb : b.dispatch = true)
    {ops : List Operation} (hops : ∀ op ∈ ops, Spoken op) (hn : 1024 + askedIn used ops < 2 ^ 32) :
    Serving b (askedIn used ops) (s.after ops) := by
  induction ops generalizing used s with
  | nil => exact h
  | cons op ops ih =>
    have hle := le_askedIn (askedFor used op) ops
    have hn' : 1024 + askedIn (askedFor used op) ops < 2 ^ 32 := hn
    have hnext := h.perform hb (hops op (by simp)) (by omega)
    exact ih hnext (fun o ho => hops o (by simp [ho])) hn'

/-- **What calls come back as.** Let a guest that echoes calls be loaded and given an open table, and
let it be asked any number of times to connect or to take a call, in all for less than
`2 ^ 32 - 1024` bytes. If there is room above the heap for the ids of its arguments, the next call
gives its receiver or its first argument back, is thrown, or comes back as a number, as its id says;
a call with arguments for which there is no room is answered by an exception. -/
theorem echo {name : Text} {b : Behavior} {p : Plugin} {n : Nat}
    (hload : Plugin.load name (bytes b) = .ok (p, n)) (hb : b.dispatch = true) {table : ObjectTable}
    (htable : table.Open) {ops : List Operation} (hops : ∀ op ∈ ops, Spoken op) {disp : Int}
    (hdisp : InRange disp) (this : Value) (args : List Value)
    (hn : askedIn 0 ops + 4 * args.length < 2 ^ 32 - 1024) :
    ∃ before after, ((⟨p, some table⟩ : Service).after ops).objects = some before ∧
      (((⟨p, some table⟩ : Service).after ops).perform (.dispatch disp this args)).2.objects =
        some after ∧
      (args = [] ∨ askedIn 0 ops + 4 * args.length ≤ 64512 →
        ∃ r, Echoes before after disp this args r ∧
          (((⟨p, some table⟩ : Service).after ops).perform (.dispatch disp this args)).1 =
            .answer (.returned r)) ∧
      (args ≠ [] → 64512 < askedIn 0 ops + 4 * args.length →
        ∃ e, (((⟨p, some table⟩ : Service).after ops).perform (.dispatch disp this args)).1 =
          .answer (.returned ⟨true, .failure e⟩)) := by
  obtain ⟨-, -, rfl, -⟩ := load_bytes_eq_ok.mp hload
  have hserving : Serving b 0 ⟨loaded name b, some table⟩ :=
    ⟨_, table, standing_loaded name b, rfl, htable⟩
  obtain ⟨m, t, hstanding, hobjects, hopen⟩ := hserving.after hb hops (by omega)
  obtain ⟨m', t', hafter, -, -, hyes, hno⟩ :=
    hstanding.runDispatch hb hopen hdisp this args (by omega)
  have hnone : 4 * args.length = 0 ↔ args = [] := by
    rw [← List.length_eq_zero_iff]
    omega
  refine ⟨t, t', hobjects, by simpa only [Service.perform, hobjects] using hafter, fun hroom => ?_,
    fun hsome hfull => ?_⟩
  · obtain ⟨r, hechoes, hreply⟩ := hyes (hroom.imp_left hnone.mpr)
    exact ⟨r, hechoes, by simp only [Service.perform, hobjects, hreply, Reply.map]⟩
  · have hfull' : ¬ Fits (askedIn 0 ops) (4 * args.length) := by
      rintro (hzero | hle)
      · exact hsome (hnone.mp hzero)
      · omega
    obtain ⟨e, hreply⟩ := hno hfull'
    exact ⟨e, by simp only [Service.perform, hobjects, hreply, Reply.map]⟩

theorem open_empty : ObjectTable.empty.Open := ⟨coherent_empty, rfl⟩

/-- After a request and a call, a call with an id above one comes back as the id and the number of its
arguments; after a text that leaves no room, a call with an argument is answered by an exception. -/
theorem echo_loopback :
    ∃ p n, Plugin.load [112] (bytes loopback) = .ok (p, n) ∧ loopback.dispatch = true ∧
      ObjectTable.empty.Open ∧
      (∃ ops : List Operation, (∀ op ∈ ops, Spoken op) ∧ askedIn 0 ops + 8 ≤ 64512 ∧
        (((⟨p, some .empty⟩ : Service).after ops).perform
          (.dispatch 7 (.object [97]) [.null, .object [98]])).1 =
            .answer (.returned ⟨false, .int 9⟩)) ∧
      ∃ ops : List Operation, (∀ op ∈ ops, Spoken op) ∧ 64512 < askedIn 0 ops + 4 ∧
        ∃ e, (((⟨p, some .empty⟩ : Service).after ops).perform (.dispatch 0 .null [.null])).1 =
          .answer (.returned ⟨true, .failure e⟩) := by
  have hload : Plugin.load [112] (bytes loopback) = .ok (loaded [112] loopback, 0) :=
    load_bytes_eq_ok.mpr ⟨by decide, short_loopback, rfl, rfl⟩
  refine ⟨_, _, hload, rfl, open_empty, ?_, ?_⟩
  · let ops : List Operation :=
      [.connect [[104], [115], [], [], [50, 46, 48]], .dispatch 0 (.object [97]) [.object [98]]]
    have hops : ∀ op ∈ ops, Spoken op := by
      intro op hop
      simp only [ops, List.mem_cons, List.not_mem_nil, or_false] at hop
      rcases hop with rfl | rfl
      · rfl
      · exact ⟨by decide, by decide⟩
    have hroom : askedIn 0 ops + 8 ≤ 64512 := by decide
    obtain ⟨before, after, -, -, hyes, -⟩ := echo hload rfl open_empty hops
      (show InRange 7 from ⟨by decide, by decide⟩) (.object [97]) [.null, .object [98]] (by decide)
    obtain ⟨r, hechoes, hreply⟩ := hyes (.inr hroom)
    exact ⟨ops, hops, hroom, by rw [hreply, hechoes.number (by decide)]; rfl⟩
  · obtain ⟨t, ht⟩ : ∃ t : Text, t.length = 64512 := ⟨List.replicate 64512 0, List.length_replicate⟩
    let ops : List Operation := [.connect [t, [], [], [], []]]
    have hops : ∀ op ∈ ops, Spoken op := by
      intro op hop
      obtain rfl := List.mem_singleton.mp hop
      rfl
    have hasked : askedIn 0 ops = 64512 := by
      simp [ops, askedIn, askedFor, asked, Fits, ht]
    obtain ⟨before, after, -, -, -, hno⟩ := echo hload rfl open_empty hops
      (show InRange 0 from ⟨by decide, by decide⟩) .null [.null] (by rw [hasked]; decide)
    obtain ⟨e, he⟩ := hno (by simp) (by rw [hasked]; decide)
    exact ⟨ops, hops, by rw [hasked]; decide, e, he⟩

end Guest

end PageBoot.Wasm
