import PageBoot.Proofs.Wasm.Runtimes

/-!
When a call to a plugin crashes its host. Everything a guest may do wrong comes back as a failure or
as a thrown value, with one exception: what the guest's `alloc` gives is taken without a look at
whether there is a result, and written to without a look at whether there is a memory. So a plugin
that has a memory and whose `alloc` declares a result never crashes its host, and of any other
`crashes_iff` says which calls do.
-/

namespace PageBoot

namespace Reply

variable {α β : Type}

/-- Whether work ended in a crash. -/
def isCrash : Reply α → Bool
  | .crash _ => true
  | _ => false

@[simp] theorem isCrash_answer (a : α) : (answer a).isCrash = false := rfl

@[simp] theorem isCrash_failure (f : Failure) : (failure f : Reply α).isCrash = false := rfl

@[simp] theorem isCrash_crash (t : Text) : (crash t : Reply α).isCrash = true := rfl

@[simp] theorem isCrash_map (f : α → β) (r : Reply α) : (r.map f).isCrash = r.isCrash := by
  cases r <;> rfl

end Reply

namespace Wasm

namespace Plugin

open Wasm.Runtime (Lawful Leads Live)

variable {G : Type} [Runtime G]

/-! ## What no call changes -/

/-- `q` may come of `p`: its guest may, and it asks the same function for room. -/
structure Akin (p q : Plugin G) : Prop where
  guest : Leads p.guest q.guest
  alloc : q.alloc = p.alloc

theorem Akin.refl (p : Plugin G) : Akin p p := ⟨.refl, rfl⟩

theorem Akin.trans {p q r : Plugin G} (h : Akin p q) (h' : Akin q r) : Akin p r :=
  ⟨h.guest.trans h'.guest, h'.alloc.trans h.alloc⟩

theorem callGuest_akin (p : Plugin G) (f : Nat) (args : Stack) :
    Akin p (p.callGuest f args).plugin :=
  ⟨Leads.refl.call f args, rfl⟩

theorem allocate_akin (p : Plugin G) (n : Nat) : Akin p (p.allocate n).plugin := by
  unfold allocate
  split
  · exact .refl p
  · exact callGuest_akin p _ _

theorem room_plugin (p : Plugin G) (size : Nat) :
    (p.room size).plugin = (p.allocate (word32 size)).plugin := by
  unfold room
  simp only
  split
  · split <;> rfl
  · rfl

theorem room_akin (p : Plugin G) (size : Nat) : Akin p (p.room size).plugin := by
  rw [room_plugin]
  exact allocate_akin p _

theorem writeMemory_akin (p : Plugin G) (a : Nat) (bytes : Text) : Akin p (p.writeMemory a bytes) :=
  ⟨Leads.refl.write a bytes, rfl⟩

theorem writeIds_akin (p : Plugin G) (base : Nat) (ids : List Nat) : Akin p (p.writeIds base ids) := by
  unfold writeIds
  generalize ids.zipIdx = ps
  induction ps generalizing p with
  | nil => exact .refl p
  | cons e ps ih => exact (writeMemory_akin p _ _).trans (ih _)

theorem writeText_akin (p : Plugin G) (t : Text) : Akin p (p.writeText t).plugin := by
  unfold writeText
  simp only
  split
  · split
    · exact room_akin p _
    · exact (room_akin p _).trans (writeMemory_akin _ _ _)
  · exact room_akin p _
  · exact room_akin p _

theorem writeTexts_akin (p : Plugin G) (ts : List Text) : Akin p (p.writeTexts ts).plugin := by
  induction ts generalizing p with
  | nil => exact .refl p
  | cons t ts ih =>
    unfold writeTexts
    simp only
    split
    · exact (writeText_akin p t).trans (ih _)
    · exact writeText_akin p t
    · exact writeText_akin p t

theorem runConnect_akin (p : Plugin G) (request : List Text) :
    Akin p (p.runConnect request).plugin := by
  unfold runConnect
  simp only
  split
  · exact (writeTexts_akin p request).trans (callGuest_akin _ _ _)
  · exact writeTexts_akin p request
  · exact writeTexts_akin p request

theorem runDisconnect_akin (p : Plugin G) : Akin p p.runDisconnect.plugin := by
  unfold runDisconnect
  split
  · exact .refl p
  · exact callGuest_akin p _ _

theorem runDispatch_akin (p : Plugin G) (objects : Option Bridge.ObjectTable) (disp : Int)
    (this : Value) (args : List Value) :
    Akin p (p.runDispatch objects disp this args).1.plugin := by
  unfold runDispatch
  split
  · exact .refl p
  · exact .refl p
  · split
    · exact .refl p
    · simp only
      split
      · exact room_akin p _
      · exact room_akin p _
      · exact ((room_akin p _).trans (writeIds_akin _ _ _)).trans (callGuest_akin _ _ _)

theorem close_akin (p : Plugin G) : Akin p p.close := by
  unfold close
  split
  · exact .refl p
  · exact ⟨Leads.refl.close, rfl⟩

/-! ## Room in the guest -/

/-- Number of results that the guest's `alloc` declares. -/
def allocResults (p : Plugin G) : Nat := Runtime.results p.guest p.alloc

/-- The guest's `alloc` returns when it is asked for `n` bytes. -/
def Grants (p : Plugin G) (n : Nat) : Prop :=
  ∃ s, (p.callGuest p.alloc [UInt64.ofNat n]).reply = .answer s

/-- The guest does not refuse room for `size` bytes and yet has none: its `alloc` returns, if it is
asked at all, but gives no result, or there is no memory. -/
structure Fumbles (p : Plugin G) (size : Nat) : Prop where
  some : size ≠ 0
  granted : word32 size ≠ 0 → p.Grants (word32 size)
  missing : Runtime.size? p.guest = none ∨ word32 size ≠ 0 ∧ p.allocResults = 0

theorem Akin.allocResults_eq {p q : Plugin G} (h : Akin p q) (hG : Lawful G) (hp : Live p.guest) :
    q.allocResults = p.allocResults := by
  rw [allocResults, h.alloc, (hG.keeps hp h.guest).results, allocResults]

theorem Akin.size?_eq_none {p q : Plugin G} (h : Akin p q) (hG : Lawful G) (hp : Live p.guest) :
    Runtime.size? q.guest = none ↔ Runtime.size? p.guest = none :=
  (hG.keeps hp h.guest).size?_eq_none

theorem callGuest_not_crash (p : Plugin G) (f : Nat) (args : Stack) (t : Text) :
    (p.callGuest f args).reply ≠ .crash t := by
  unfold callGuest
  simp only
  cases (Runtime.call p.guest f args).1 <;> simp

/-- A call that comes back with results is one that the runtime made. -/
theorem callGuest_eq_answer {p : Plugin G} {f : Nat} {args s : Stack} :
    (p.callGuest f args).reply = .answer s ↔ (Runtime.call p.guest f args).1 = .ok s := by
  unfold callGuest
  simp only
  cases (Runtime.call p.guest f args).1 <;> simp

theorem length_of_granted {p : Plugin G} (hG : Lawful G) (hp : Live p.guest) {args s : Stack}
    (h : (p.callGuest p.alloc args).reply = .answer s) : s.length = p.allocResults :=
  hG.call_results hp (callGuest_eq_answer.mp h)

/-- Allocation crashes if `alloc` returns without a result, or there is no memory to look into. -/
theorem allocate_isCrash_iff {p : Plugin G} (hG : Lawful G) (hp : Live p.guest) (n : Nat) :
    (p.allocate n).reply.isCrash = true ↔
      n ≠ 0 ∧ p.Grants n ∧ (Runtime.size? p.guest = none ∨ p.allocResults = 0) := by
  unfold allocate Grants
  by_cases hn : n = 0
  · simp [hn]
  · simp only [hn, if_false]
    cases hreply : (p.callGuest p.alloc [UInt64.ofNat n]).reply with
    | failure e => simp
    | crash t => exact absurd hreply (callGuest_not_crash p _ _ t)
    | answer s =>
      have hlen := length_of_granted hG hp hreply
      cases s with
      | nil => simp [hn, ← hlen]
      | cons w s =>
        have hsome : p.allocResults ≠ 0 := by simp [← hlen]
        rw [← (callGuest_akin p p.alloc [UInt64.ofNat n]).size?_eq_none hG hp]
        cases hm : Runtime.size? (p.callGuest p.alloc [UInt64.ofNat n]).plugin.guest with
        | none => simp [hn]
        | some size =>
          by_cases hle : low32 w + n ≤ word32 size <;> simp [hle, hsome]

theorem allocate_answer {p : Plugin G} {n a : Nat} (h : (p.allocate n).reply = .answer a) :
    n ≠ 0 → p.Grants n := by
  intro hn
  unfold allocate at h
  simp only [hn, if_false] at h
  split at h
  next => cases h
  next => cases h
  next => cases h
  next w s hreply => exact ⟨w :: s, hreply⟩

theorem room_of_word32_eq_zero {p : Plugin G} {size : Nat} (h : word32 size = 0) :
    (p.room size).reply.isCrash = true ↔ size ≠ 0 ∧ Runtime.size? p.guest = none := by
  unfold room allocate
  simp only [h, if_true]
  split
  next hmissing => simpa [Reply.isCrash] using hmissing
  next hmissing => simpa [Reply.isCrash] using hmissing

/-- A size that the guest is asked for crashes where the allocation does. -/
theorem room_of_word32_ne_zero {p : Plugin G} (hG : Lawful G) (hp : Live p.guest) {size : Nat}
    (h : word32 size ≠ 0) :
    (p.room size).reply.isCrash = (p.allocate (word32 size)).reply.isCrash := by
  unfold room
  simp only
  cases hreply : (p.allocate (word32 size)).reply with
  | failure e => simp [hreply]
  | crash t => simp [hreply]
  | answer a =>
    have hsafe : ¬ (p.allocate (word32 size)).reply.isCrash = true := by simp [hreply]
    have hmemory : Runtime.size? (p.allocate (word32 size)).plugin.guest ≠ none := by
      intro hnone
      have hnone' := ((allocate_akin p (word32 size)).size?_eq_none hG hp).mp hnone
      exact hsafe ((allocate_isCrash_iff hG hp _).mpr ⟨h, allocate_answer hreply h, .inl hnone'⟩)
    simp [hreply, hmemory]

/-- Asking for room crashes exactly if the guest fumbles. -/
theorem room_isCrash_iff {p : Plugin G} (hG : Lawful G) (hp : Live p.guest) (size : Nat) :
    (p.room size).reply.isCrash = true ↔ p.Fumbles size := by
  by_cases hw : word32 size = 0
  · rw [room_of_word32_eq_zero hw]
    constructor
    · rintro ⟨hsize, hmemory⟩
      exact ⟨hsize, fun h => absurd hw h, .inl hmemory⟩
    · rintro ⟨hsize, -, hmemory | ⟨hne, -⟩⟩
      · exact ⟨hsize, hmemory⟩
      · exact absurd hw hne
  · have hsize : size ≠ 0 := by
      rintro rfl
      exact hw rfl
    rw [room_of_word32_ne_zero hG hp hw, allocate_isCrash_iff hG hp]
    constructor
    · rintro ⟨-, hgrants, hmissing⟩
      exact ⟨hsize, fun _ => hgrants, hmissing.imp_right fun h => ⟨hw, h⟩⟩
    · rintro ⟨-, hgrants, hmissing⟩
      exact ⟨hw, hgrants hw, hmissing.imp_right And.right⟩

/-! ## Calls -/

theorem writeText_isCrash (p : Plugin G) (t : Text) :
    (p.writeText t).reply.isCrash = (p.room t.length).reply.isCrash := by
  unfold writeText
  simp only
  split <;> simp [*]

theorem writeTexts_of_answer {p : Plugin G} {t : Text} {args : Stack}
    (h : (p.writeText t).reply = .answer args) (ts : List Text) :
    (p.writeTexts (t :: ts)).reply = ((p.writeText t).plugin.writeTexts ts).reply.map (args ++ ·) ∧
      (p.writeTexts (t :: ts)).plugin = ((p.writeText t).plugin.writeTexts ts).plugin := by
  simp only [writeTexts, h, and_self]

/-- Texts are written one after another: the first that the guest fumbles crashes. -/
theorem writeTexts_isCrash_iff {p : Plugin G} (hG : Lawful G) (hp : Live p.guest) (ts : List Text) :
    (p.writeTexts ts).reply.isCrash = true ↔
      ∃ before t later args, ts = before ++ t :: later ∧
        (p.writeTexts before).reply = .answer args ∧
        (p.writeTexts before).plugin.Fumbles t.length := by
  induction ts generalizing p with
  | nil => simp [writeTexts]
  | cons t ts ih =>
    have hfirst := room_isCrash_iff hG hp t.length
    rw [← writeText_isCrash] at hfirst
    cases hreply : (p.writeText t).reply with
    | crash text =>
      have hcrash : (p.writeTexts (t :: ts)).reply.isCrash = true := by
        simp [writeTexts, hreply]
      have hfumbles : p.Fumbles t.length := hfirst.mp (by simp [hreply])
      exact iff_of_true hcrash ⟨[], t, ts, [], rfl, rfl, hfumbles⟩
    | failure e =>
      have hsafe : ¬ (p.writeTexts (t :: ts)).reply.isCrash = true := by
        simp [writeTexts, hreply]
      refine iff_of_false hsafe ?_
      rintro ⟨before, t', later, args, hsplit, hwritten, hfumbles⟩
      cases before with
      | nil =>
        cases hsplit
        simpa [hreply] using hfirst.mpr hfumbles
      | cons b before =>
        cases hsplit
        simp [writeTexts, hreply] at hwritten
    | answer args =>
      have hlive : Live (p.writeText t).plugin.guest := hp.leads (writeText_akin p t).guest
      rw [(writeTexts_of_answer hreply ts).1, Reply.isCrash_map, ih hlive]
      constructor
      · rintro ⟨before, t', later, args', rfl, hwritten, hfumbles⟩
        obtain ⟨hanswer, hplugin⟩ := writeTexts_of_answer hreply before
        refine ⟨t :: before, t', later, args ++ args', rfl, ?_, ?_⟩
        · rw [hanswer, hwritten]
          rfl
        · rw [hplugin]
          exact hfumbles
      · rintro ⟨before, t', later, args', hsplit, hwritten, hfumbles⟩
        cases before with
        | nil =>
          cases hsplit
          simpa [hreply] using hfirst.mpr hfumbles
        | cons b before =>
          cases hsplit
          obtain ⟨hanswer, hplugin⟩ := writeTexts_of_answer hreply before
          rw [hanswer] at hwritten
          rw [hplugin] at hfumbles
          cases hrest : ((p.writeText t).plugin.writeTexts before).reply with
          | answer rest => exact ⟨before, t', later, rest, rfl, hrest, hfumbles⟩
          | failure e => simp [hrest, Reply.map] at hwritten
          | crash text => simp [hrest, Reply.map] at hwritten

theorem answering_isCrash (phase : Phase) (detail : Text) (p : Plugin G) (f : Nat) (args : Stack) :
    (answering phase detail (p.callGuest f args)).reply.isCrash = false := by
  unfold answering
  simp only
  cases hreply : (p.callGuest f args).reply with
  | crash t => exact absurd hreply (callGuest_not_crash p f args t)
  | _ => rfl

theorem runConnect_isCrash (p : Plugin G) (request : List Text) :
    (p.runConnect request).reply.isCrash = (p.writeTexts request).reply.isCrash := by
  unfold runConnect
  simp only
  split
  next args hreply => simp [hreply, answering_isCrash]
  next e hreply => simp [hreply]
  next t hreply => simp [hreply]

theorem runDisconnect_isCrash (p : Plugin G) : p.runDisconnect.reply.isCrash = false := by
  unfold runDisconnect
  split
  · rfl
  · exact answering_isCrash _ _ p _ _

theorem references_length {objects objects' : Bridge.ObjectTable} {vs : List Value} {ids : List Nat}
    (h : references objects vs = (.ok ids, objects')) : ids.length = vs.length := by
  induction vs generalizing objects ids with
  | nil =>
    cases h
    rfl
  | cons v vs ih =>
    unfold references at h
    split at h
    · cases h
    · next id table hid =>
      cases hrest : references table vs with
      | mk out table' =>
        simp only [hrest, Prod.mk.injEq] at h
        cases out with
        | error e => simp [Except.map] at h
        | ok ids' =>
          simp only [Except.map, Except.ok.injEq] at h
          obtain ⟨rfl, rfl⟩ := h
          simp [ih hrest]

/-- A dispatched call crashes exactly if it gets so far as to ask for room for its arguments, and
the guest fumbles. -/
theorem runDispatch_isCrash_iff {p : Plugin G} (hG : Lawful G) (hp : Live p.guest)
    (objects : Option Bridge.ObjectTable) (disp : Int) (this : Value) (args : List Value) :
    (p.runDispatch objects disp this args).1.reply.isCrash = true ↔
      p.dispatch.isSome = true ∧
        (∃ table ids, objects = some table ∧ (references table (this :: args)).1 = .ok ids) ∧
        p.Fumbles (4 * args.length) := by
  unfold runDispatch
  cases hf : p.dispatch with
  | none => simp [threw]
  | some f =>
    cases objects with
    | none => simp [threw]
    | some table =>
      cases hrefs : references table (this :: args) with
      | mk out table' =>
        cases out with
        | error e => simp [threw, hrefs]
        | ok ids =>
          have hlen : (ids.drop 1).length = args.length := by
            simp [references_length hrefs]
          have hentered : ∃ t ids', some table = some t ∧
              (references t (this :: args)).1 = .ok ids' := ⟨table, ids, rfl, by rw [hrefs]⟩
          rw [← room_isCrash_iff hG hp, ← hlen]
          simp only [hrefs, Option.isSome_some, hentered, true_and]
          cases hroom : (p.room (4 * (ids.drop 1).length)).reply with
          | crash t => simp
          | failure e => simp [threw]
          | answer base =>
            simp only [Reply.isCrash_answer]
            split
            next => simp
            next => simp [threw]
            next t hcrash => exact absurd hcrash (callGuest_not_crash _ _ _ t)

/-! ## Services -/

/-- What a host asks of a plugin. A table may be bound at any time, also one that was bound before
and has changed since. -/
inductive Operation where
  | init
  | connect (request : List Text)
  | bind (objects : Option Bridge.ObjectTable)
  | dispatch (disp : Int) (this : Value) (args : List Value)
  | disconnect
  | close

/-- A plugin and the table it was given. -/
structure Service (G : Type := Instance) where
  plugin : Plugin G
  objects : Option Bridge.ObjectTable := none

namespace Service

/-- What comes back of an operation: nothing, a flag, or the result of a dispatched call. -/
inductive Answer where
  | done
  | told (b : Bool)
  | returned (r : Bridge.Result)

def perform (s : Service G) : Operation → Reply Answer × Service G
  | .init => (s.plugin.runInit.reply.map .told, { s with plugin := s.plugin.runInit.plugin })
  | .connect request =>
    let c := s.plugin.runConnect request
    (c.reply.map .told, { s with plugin := c.plugin })
  | .bind objects => (.answer .done, { s with objects })
  | .dispatch disp this args =>
    let (c, objects) := s.plugin.runDispatch s.objects disp this args
    (c.reply.map .returned, { plugin := c.plugin, objects })
  | .disconnect =>
    (s.plugin.runDisconnect.reply.map fun _ => .done, { s with plugin := s.plugin.runDisconnect.plugin })
  | .close => (.answer .done, { s with plugin := s.plugin.close })

/-- The service after some operations, those that crash included. -/
def after (s : Service G) (ops : List Operation) : Service G := ops.foldl (fun s op => (s.perform op).2) s

theorem perform_akin (s : Service G) (op : Operation) : Akin s.plugin (s.perform op).2.plugin := by
  cases op with
  | init => exact callGuest_akin s.plugin _ _
  | connect request => exact runConnect_akin s.plugin request
  | bind objects => exact .refl _
  | dispatch disp this args => exact runDispatch_akin s.plugin s.objects disp this args
  | disconnect => exact runDisconnect_akin s.plugin
  | close => exact close_akin s.plugin

theorem after_akin (s : Service G) (ops : List Operation) : Akin s.plugin (s.after ops).plugin := by
  induction ops generalizing s with
  | nil => exact .refl _
  | cons op ops ih => exact (perform_akin s op).trans (ih (s.perform op).2)

/-- An operation gets so far as to ask for room, and the guest fumbles. -/
def Fumbles (s : Service G) : Operation → Prop
  | .connect request =>
    ∃ before t later args, request = before ++ t :: later ∧
      (s.plugin.writeTexts before).reply = .answer args ∧
      (s.plugin.writeTexts before).plugin.Fumbles t.length
  | .dispatch _ this args =>
    s.plugin.dispatch.isSome = true ∧
      (∃ table ids, s.objects = some table ∧ (references table (this :: args)).1 = .ok ids) ∧
      s.plugin.Fumbles (4 * args.length)
  | _ => False

theorem perform_isCrash_iff {s : Service G} (hG : Lawful G) (hs : Live s.plugin.guest) (op : Operation) :
    (s.perform op).1.isCrash = true ↔ s.Fumbles op := by
  cases op with
  | init => simp [perform, Fumbles, runInit, answering_isCrash]
  | connect request =>
    simp only [perform, Reply.isCrash_map, Fumbles]
    rw [runConnect_isCrash, writeTexts_isCrash_iff hG hs]
  | bind objects => simp [perform, Fumbles]
  | dispatch disp this args =>
    simp only [perform, Reply.isCrash_map, Fumbles]
    exact runDispatch_isCrash_iff hG hs s.objects disp this args
  | disconnect => simp [perform, Fumbles, runDisconnect_isCrash]
  | close => simp [perform, Fumbles]

end Service

/-! ## Loading -/

/-- The guest of a plugin that was loaded was made of a module. -/
theorem load_live {name bytes : Text} {p : Plugin G} {n : Nat} (h : loadOn G name bytes = .ok (p, n)) :
    Live p.guest := by
  unfold loadOn at h
  obtain ⟨start, hcompile, h⟩ := bind_eq_ok.mp h
  obtain ⟨⟨guest, signals⟩, hstart, h⟩ := bind_eq_ok.mp h
  obtain ⟨alloc, -, h⟩ := bind_eq_ok.mp h
  obtain ⟨init, -, h⟩ := bind_eq_ok.mp h
  obtain ⟨connect, -, h⟩ := bind_eq_ok.mp h
  cases h
  exact ⟨bytes, start, name, _, mapError_eq_ok.mp hcompile, mapError_eq_ok.mp hstart, .refl⟩

/-- A guest with a memory and an `alloc` that declares a result fumbles nothing. -/
theorem not_fumbles {p q : Plugin G} (hG : Lawful G) (hp : Live p.guest) (h : Akin p q)
    (hmemory : (Runtime.size? p.guest).isSome = true) (hresults : p.allocResults ≠ 0) (size : Nat) :
    ¬ q.Fumbles size := by
  rintro ⟨-, -, hnone | ⟨-, hzero⟩⟩
  · rw [(h.size?_eq_none hG hp).mp hnone] at hmemory
    cases hmemory
  · exact hresults (h.allocResults_eq hG hp ▸ hzero)

theorem Service.not_fumbles {p : Plugin G} {s : Service G} (hG : Lawful G) (hp : Live p.guest)
    (h : Akin p s.plugin) (hmemory : (Runtime.size? p.guest).isSome = true)
    (hresults : p.allocResults ≠ 0) (op : Operation) : ¬ s.Fumbles op := by
  cases op with
  | connect request =>
    rintro ⟨before, t, later, args, -, -, hfumbles⟩
    have hakin := h.trans (writeTexts_akin s.plugin before)
    exact Plugin.not_fumbles hG hp hakin hmemory hresults _ hfumbles
  | dispatch disp this args =>
    rintro ⟨-, -, hfumbles⟩
    exact Plugin.not_fumbles hG hp h hmemory hresults _ hfumbles
  | _ => exact id

/-- **Which calls crash.** Of a plugin that was loaded, whatever was asked of it before, a call
crashes exactly if it asks for room and the guest fumbles it. None does if the guest has a memory and
its `alloc` declares a result. It does not matter which runtime the guest is of. -/
theorem crashes_iff {G : Type} [Runtime G] (hG : Lawful G) {name bytes : Text} {p : Plugin G} {n : Nat}
    (h : loadOn G name bytes = .ok (p, n)) (ops : List Operation) (op : Operation) :
    ((((⟨p, none⟩ : Service G).after ops).perform op).1.isCrash = true ↔
        ((⟨p, none⟩ : Service G).after ops).Fumbles op) ∧
      ((Runtime.size? p.guest).isSome = true → p.allocResults ≠ 0 →
        (((⟨p, none⟩ : Service G).after ops).perform op).1.isCrash = false) := by
  have hlive : Live p.guest := load_live h
  have hakin : Akin p ((⟨p, none⟩ : Service G).after ops).plugin := Service.after_akin ⟨p, none⟩ ops
  have hiff := Service.perform_isCrash_iff hG (hlive.leads hakin.guest) op
  refine ⟨hiff, fun hmemory hresults => ?_⟩
  rw [Bool.eq_false_iff, Ne, hiff]
  exact Service.not_fumbles hG hlive hakin hmemory hresults op

/-- A module whose `alloc` takes a size and gives nothing. -/
def mute : Text :=
  [0x00, 0x61, 0x73, 0x6D, 0x01, 0x00, 0x00, 0x00,
    -- types: one parameter and no result, then twice nothing at all
    0x01, 0x0B, 0x03, 0x60, 0x01, 0x7F, 0x00, 0x60, 0x00, 0x00, 0x60, 0x00, 0x00,
    -- three functions, and a memory of one page
    0x03, 0x04, 0x03, 0x00, 0x01, 0x02, 0x05, 0x03, 0x01, 0x00, 0x01,
    -- exports: alloc, init, connect, memory
    0x07, 0x23, 0x04, 0x05, 0x61, 0x6C, 0x6C, 0x6F, 0x63, 0x00, 0x00,
    0x04, 0x69, 0x6E, 0x69, 0x74, 0x00, 0x01,
    0x07, 0x63, 0x6F, 0x6E, 0x6E, 0x65, 0x63, 0x74, 0x00, 0x02,
    0x06, 0x6D, 0x65, 0x6D, 0x6F, 0x72, 0x79, 0x02, 0x00,
    -- bodies, all empty
    0x0A, 0x0A, 0x03, 0x02, 0x00, 0x0B, 0x02, 0x00, 0x0B, 0x02, 0x00, 0x0B]

theorem connect_mute : ∃ p n, load [] mute = .ok (p, n) ∧
    ((⟨p, none⟩ : Service).perform (.connect [[117]])).1.isCrash = true := ⟨_, _, rfl, rfl⟩

/-- The mute module is loaded, and crashes when it is to connect with a text. -/
theorem crashes_mute : ∃ p n, load [] mute = .ok (p, n) ∧
    ((⟨p, none⟩ : Service).perform (.connect [[117]])).1.isCrash = true ∧
    (⟨p, none⟩ : Service).Fumbles (.connect [[117]]) := by
  obtain ⟨p, n, h, hcrash⟩ := connect_mute
  exact ⟨p, n, h, hcrash, (crashes_iff Instance.lawful h [] (.connect [[117]])).1.mp hcrash⟩

/-- It is not so that no guest that is loaded crashes its host. -/
theorem loaded_guest_may_crash :
    ¬ ∀ (name bytes : Text) (p : Plugin) (n : Nat) (ops : List Operation) (op : Operation),
      load name bytes = .ok (p, n) →
      (((⟨p, none⟩ : Service).after ops).perform op).1.isCrash = false := by
  intro hsafe
  obtain ⟨p, n, h, hcrash⟩ := connect_mute
  have hnot := hsafe [] mute p n [] (.connect [[117]]) h
  simp only [Service.after, List.foldl_nil, hcrash] at hnot
  cases hnot

end Plugin

end Wasm

end PageBoot
