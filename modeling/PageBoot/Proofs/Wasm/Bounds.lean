import PageBoot.Proofs.Wasm.Handshake
import PageBoot.Proofs.Wasm.Recording

/-!
Where a host writes in the memory of a guest. The guest says where there is room, and may say anything:
a place is taken only if what is to be written ends inside the memory (`room_answer`), so that every
write is done and none is cut, and a place too near the end is a failure, with nothing asked of the guest
afterwards (`Copies`, `Connects`, `Dispatches`). `writes_inside` says so of every plugin that was loaded,
on any runtime that keeps to what is documented.
-/

namespace PageBoot.Wasm

open Wasm.Runtime (Lawful Live)

variable {G : Type} [Runtime G]

/-! ## What a guest is asked -/

namespace Ask

/-- What is written, and where. -/
def write? : Ask G → Option (Nat × Text)
  | .call .. => none
  | .write _ place bytes => some (place, bytes)

/-- A write ends inside the memory as it is then, and is done. -/
def Inside : Ask G → Prop
  | .call .. => True
  | .write g place bytes =>
    (∃ size ∈ Runtime.size? g, place + bytes.length ≤ size) ∧ (Runtime.write g place bytes).1 = true

/-- Asked for `n` bytes, the guest gives the place `a`, from where they would end behind its memory. -/
def Overreaches (x : Ask G) (alloc a n : Nat) : Prop :=
  ∃ g w rest size, x = .call g alloc [UInt64.ofNat n] ∧ n < 2 ^ 32 ∧
    (Runtime.call g alloc [UInt64.ofNat n]).1 = .ok (w :: rest) ∧ Plugin.low32 w = a ∧
    Runtime.size? (Runtime.call g alloc [UInt64.ofNat n]).2.2 = some size ∧ Plugin.word32 size < a + n

end Ask

namespace Plugin

/-! ## Room -/

/-- The failure of a guest that gives a place too near the end of its memory. -/
def outOfRange (a n : Nat) : Failure :=
  .report .handshake .invalidValue []
    ("alloc returned out-of-range pointer " ++ Text.ofNat a ++ " for " ++ Text.ofNat n ++ " bytes") .null none

section

variable {p : Plugin G} {n a : Nat}

/-- What is asked for ends inside the memory if there is a place for it. -/
theorem room_answer (hn : n < 2 ^ 32) (hsome : n ≠ 0) (h : (p.room n).reply = .answer a) :
    ∃ size ∈ Runtime.size? (p.room n).plugin.guest, a + n ≤ size ∧ a + n < 2 ^ 32 := by
  have hallocate : (p.allocate n).reply = .answer a := by
    unfold room at h
    rw [word32_of_lt hn] at h
    simp only at h
    split at h
    · split at h
      · cases h
      · exact h
    · exact h
  rw [room_plugin, word32_of_lt hn]
  simp only [allocate, if_neg hsome] at hallocate ⊢
  split at hallocate
  · cases hallocate
  · cases hallocate
  · cases hallocate
  · split at hallocate
    · cases hallocate
    · next size hsize =>
      split at hallocate
      · next hle =>
        cases hallocate
        have hword : word32 size ≤ size := Nat.mod_le _ _
        have hlt : word32 size < 2 ^ 32 := Nat.mod_lt _ (by decide)
        exact ⟨size, hsize, by omega, by omega⟩
      · cases hallocate

/-- A guest that gives a place too near the end has given none. -/
theorem room_overreached (hn : n < 2 ^ 32) (hsome : n ≠ 0) {f k : Nat}
    (h : (Ask.call p.guest p.alloc [UInt64.ofNat n]).Overreaches f a k) :
    (p.room n).reply = .failure (outOfRange a k) := by
  obtain ⟨g, w, rest, size, heq, hk, hreturns, rfl, hmemory, hfar⟩ := h
  obtain ⟨rfl, rfl, hargs⟩ := Ask.call.inj heq
  obtain rfl : n = k := by
    have hlow := congrArg low32 (List.singleton_inj.mp hargs)
    rwa [low32_ofNat hn, low32_ofNat hk] at hlow
  have hreply : (p.callGuest p.alloc [UInt64.ofNat n]).reply = .answer (w :: rest) :=
    callGuest_eq_answer.mpr hreturns
  have hsize : Runtime.size? (p.callGuest p.alloc [UInt64.ofNat n]).plugin.guest = some size := hmemory
  have hnot : ¬ low32 w + n ≤ word32 size := by omega
  simp only [room, word32_of_lt hn, allocate, if_neg hsome, hreply, hsize, if_neg hnot, outOfRange]

end

/-! ## Texts -/

/-- What copying texts asks of a guest, and comes to: room for each text that is not empty, by a call of
`alloc`, and the writes, which all end inside the memory and are done. A place that is too near the end is
a failure, and the last that the guest is asked for. -/
structure Copies (alloc : Nat) (ts : List Text) (reply : Reply Stack) (xs : List (Ask G)) : Prop where
  calls : ∀ g f args, .call g f args ∈ xs → f = alloc ∧ ∃ t ∈ ts, t ≠ [] ∧ args = [UInt64.ofNat t.length]
  inside : ∀ x ∈ xs, x.Inside
  /-- Places and lengths come back, and there the texts are written. -/
  placed : ∀ args, reply = .answer args → ∃ placed : List (Nat × Text), placed.map (·.2) = ts ∧
    args = placed.flatMap (fun w => [UInt64.ofNat w.1, UInt64.ofNat w.2.length]) ∧
    xs.filterMap Ask.write? = placed.filter (·.2 ≠ [])
  overreached : ∀ x ∈ xs, ∀ a n, x.Overreaches alloc a n → reply = .failure (outOfRange a n)
  last : xs.Pairwise fun x _ => ∀ a n, ¬ x.Overreaches alloc a n

theorem copies_nil (alloc : Nat) : Copies (G := G) alloc [] (.answer []) [] where
  calls := nofun
  inside := nofun
  placed args hargs := by
    cases hargs
    exact ⟨[], rfl, rfl, rfl⟩
  overreached := nofun
  last := .nil

/-- An empty text is not copied. -/
theorem copies_empty (alloc : Nat) : Copies (G := G) alloc [[]] (.answer [0, 0]) [] where
  calls := nofun
  inside := nofun
  placed args hargs := by
    cases hargs
    exact ⟨[(0, [])], rfl, rfl, rfl⟩
  overreached := nofun
  last := .nil

/-- A text was copied, and then others are. -/
theorem Copies.cons {alloc : Nat} {t : Text} {ts : List Text} {args : Stack} {reply : Reply Stack}
    {xs ys : List (Ask G)} (hx : Copies alloc [t] (.answer args) xs) (hy : Copies alloc ts reply ys) :
    Copies alloc (t :: ts) (reply.map (args ++ ·)) (xs ++ ys) where
  calls g f as hmem := by
    rcases List.mem_append.mp hmem with hmem | hmem
    · obtain ⟨hf, u, hu, hsome, has⟩ := hx.calls g f as hmem
      obtain rfl := List.mem_singleton.mp hu
      exact ⟨hf, u, List.mem_cons_self, hsome, has⟩
    · obtain ⟨hf, u, hu, hsome, has⟩ := hy.calls g f as hmem
      exact ⟨hf, u, List.mem_cons_of_mem t hu, hsome, has⟩
  inside x hmem := (List.mem_append.mp hmem).elim (hx.inside x) (hy.inside x)
  placed all hall := by
    obtain ⟨first, hfirst, hargs, hwrites⟩ := hx.placed args rfl
    cases reply with
    | answer more =>
      obtain ⟨rest, hrest, hmore, hlater⟩ := hy.placed more rfl
      cases hall
      exact ⟨first ++ rest, by simp [hfirst, hrest], by simp [hargs, hmore], by simp [hwrites, hlater]⟩
    | failure e => cases hall
    | crash t => cases hall
  overreached x hmem a n hover := by
    rcases List.mem_append.mp hmem with hmem | hmem
    · cases hx.overreached x hmem a n hover
    · rw [hy.overreached x hmem a n hover]
      rfl
  last := by
    refine List.pairwise_append.mpr ⟨hx.last, hy.last, fun x hmem y _ a n hover => ?_⟩
    cases hx.overreached x hmem a n hover

/-- Copying ended with this text. -/
theorem Copies.stop {alloc : Nat} {t : Text} {reply : Reply Stack} {xs : List (Ask G)}
    (h : Copies alloc [t] reply xs) (hstop : ∀ args, reply ≠ .answer args) (ts : List Text) :
    Copies alloc (t :: ts) reply xs where
  calls g f args hmem := by
    obtain ⟨hf, u, hu, hsome, hargs⟩ := h.calls g f args hmem
    exact ⟨hf, u, List.mem_cons.mpr (.inl (List.mem_singleton.mp hu)), hsome, hargs⟩
  inside := h.inside
  placed args hargs := absurd hargs (hstop args)
  overreached := h.overreached
  last := h.last

/-- A text is not copied if there is no room for it. -/
theorem copies_refused {g : G} {alloc : Nat} {t : Text} {reply : Reply Stack} (hsome : t ≠ [])
    (hstop : ∀ args, reply ≠ .answer args)
    (hover : ∀ a n, (Ask.call g alloc [UInt64.ofNat t.length]).Overreaches alloc a n →
      reply = .failure (outOfRange a n)) :
    Copies alloc [t] reply [.call g alloc [UInt64.ofNat t.length]] where
  calls g' f args hmem := by
    obtain ⟨-, rfl, rfl⟩ := Ask.call.inj (List.mem_singleton.mp hmem)
    exact ⟨rfl, t, List.mem_singleton_self t, hsome, rfl⟩
  inside x hmem := by
    obtain rfl := List.mem_singleton.mp hmem
    trivial
  placed args hargs := absurd hargs (hstop args)
  overreached x hmem a n hx := by
    obtain rfl := List.mem_singleton.mp hmem
    exact hover a n hx
  last := List.pairwise_singleton _ _

/-- A text for which there is room is written there. -/
theorem copies_written {g h : G} {alloc a : Nat} {t : Text} (hsome : t ≠ [])
    (hinside : (Ask.write h a t).Inside)
    (hroom : ∀ b n, ¬ (Ask.call g alloc [UInt64.ofNat t.length]).Overreaches alloc b n) :
    Copies alloc [t] (.answer [UInt64.ofNat a, UInt64.ofNat t.length])
      [.call g alloc [UInt64.ofNat t.length], .write h a t] where
  calls g' f args hmem := by
    rcases List.mem_cons.mp hmem with heq | hmem
    · obtain ⟨-, rfl, rfl⟩ := Ask.call.inj heq
      exact ⟨rfl, t, List.mem_singleton_self t, hsome, rfl⟩
    · cases List.mem_singleton.mp hmem
  inside x hmem := by
    rcases List.mem_cons.mp hmem with rfl | hmem
    · trivial
    · rw [List.mem_singleton.mp hmem]
      exact hinside
  placed args hargs := by
    have hkept : [(a, t)].filter (·.2 ≠ []) = [(a, t)] := by simp [hsome]
    cases hargs
    exact ⟨[(a, t)], rfl, rfl, hkept.symm⟩
  overreached x hmem b n hx := by
    rcases List.mem_cons.mp hmem with rfl | hmem
    · exact absurd hx (hroom b n)
    · obtain rfl := List.mem_singleton.mp hmem
      obtain ⟨g', w, rest, size, heq, -⟩ := hx
      cases heq
  last := List.pairwise_pair.mpr hroom

/-! ### What copying asks -/

/-- What the guest is asked when there is to be room: nothing for no bytes. -/
def roomAsks (p : Plugin G) (n : Nat) : List (Ask G) :=
  if n = 0 then [] else [.call p.guest p.alloc [UInt64.ofNat n]]

omit [Runtime G] in
theorem mem_roomAsks {p : Plugin G} {n : Nat} {x : Ask G} (hx : x ∈ p.roomAsks n) :
    n ≠ 0 ∧ x = .call p.guest p.alloc [UInt64.ofNat n] := by
  unfold roomAsks at hx
  split at hx
  · cases hx
  · next hsome => exact ⟨hsome, List.mem_singleton.mp hx⟩

theorem room_asks (q : Plugin (Recorded G)) {n : Nat} (hn : n < 2 ^ 32) :
    (q.room n).plugin.asks = q.asks ++ q.forget.roomAsks n := by
  rw [room_plugin, word32_of_lt hn]
  unfold allocate roomAsks
  split
  · exact (List.append_nil _).symm
  · rfl

theorem room_reply_forget (q : Plugin (Recorded G)) (n : Nat) : (q.room n).reply = (q.forget.room n).reply :=
  congrArg Called.reply (q.room_forget n)

theorem forget_room (q : Plugin (Recorded G)) (n : Nat) :
    (q.room n).plugin.forget = (q.forget.room n).plugin :=
  congrArg Called.plugin (q.room_forget n)

variable {q : Plugin (Recorded G)}

/-- Where there is room a text is written, and its place and length come back. -/
theorem writeText_granted {t : Text} (hsome : t ≠ []) (ht : t.length < 2 ^ 32) {a : Nat}
    (hroom : (q.room t.length).reply = .answer a) :
    (q.writeText t).reply = .answer [UInt64.ofNat a, UInt64.ofNat t.length] ∧
      (q.writeText t).plugin.asks = (q.room t.length).plugin.asks ++
        [.write (q.room t.length).plugin.forget.guest a t] := by
  have hfull : t.isEmpty = false := by simpa using hsome
  simp only [writeText, hroom, hfull, word32_of_lt ht, Bool.false_eq_true, if_false, true_and]
  rfl

/-- Without room nothing is written, and what there was instead comes back. -/
theorem writeText_refused {t : Text} (hroom : ∀ a, (q.room t.length).reply ≠ .answer a) :
    (q.writeText t).reply = (q.room t.length).reply.map (fun _ => []) ∧
      (q.writeText t).plugin = (q.room t.length).plugin := by
  cases hreply : (q.room t.length).reply with
  | answer a => exact absurd hreply (hroom a)
  | failure e => simp only [writeText, hreply, Reply.map, and_self]
  | crash text => simp only [writeText, hreply, Reply.map, and_self]

theorem writeText_copies (hG : Lawful G) (hq : Live q.forget.guest) {t : Text} (ht : t.length < 2 ^ 32) :
    ∃ xs, (q.writeText t).plugin.asks = q.asks ++ xs ∧
      Copies q.alloc [t] (q.writeText t).reply xs := by
  by_cases hnil : t = []
  · subst hnil
    exact ⟨[], by simp [writeText, room, allocate, word32], copies_empty q.alloc⟩
  have hsome : t.length ≠ 0 := fun hzero => hnil (List.length_eq_zero_iff.mp hzero)
  have hasked := q.room_asks ht
  rw [roomAsks, if_neg hsome] at hasked
  have hover (a n : Nat)
      (hx : (Ask.call q.forget.guest q.alloc [UInt64.ofNat t.length]).Overreaches q.alloc a n) :
      (q.room t.length).reply = .failure (outOfRange a n) :=
    (q.room_reply_forget t.length).trans (room_overreached ht hsome hx)
  by_cases hroom : ∃ a, (q.room t.length).reply = .answer a
  · obtain ⟨a, hroom⟩ := hroom
    obtain ⟨hreply, hwritten⟩ := writeText_granted hnil ht hroom
    obtain ⟨size, hsize, hle, -⟩ := room_answer ht hsome ((q.room_reply_forget t.length).symm.trans hroom)
    have hlive : Live (q.forget.room t.length).plugin.guest := hq.leads (room_akin q.forget t.length).guest
    rw [hwritten, hreply, hasked, forget_room, List.append_assoc]
    refine ⟨_, rfl, copies_written hnil ⟨⟨size, hsize, hle⟩, (hG.write_done hlive hsize).mpr hle⟩ ?_⟩
    intro b n hx
    cases hroom.symm.trans (hover b n hx)
  · obtain ⟨hreply, hplugin⟩ := writeText_refused (not_exists.mp hroom)
    rw [hplugin, hasked]
    refine ⟨_, rfl, copies_refused hnil (fun args hargs => ?_) fun a n hx => ?_⟩
    · cases hrefused : (q.room t.length).reply with
      | answer a => exact hroom ⟨a, hrefused⟩
      | _ =>
        rw [hreply, hrefused] at hargs
        cases hargs
    · rw [hreply, hover a n hx]
      rfl

/-- Texts that are copied one after another. -/
theorem writeTexts_copies (hG : Lawful G) (hq : Live q.forget.guest) {ts : List Text}
    (hts : ∀ t ∈ ts, t.length < 2 ^ 32) :
    ∃ xs, (q.writeTexts ts).plugin.asks = q.asks ++ xs ∧ Copies q.alloc ts (q.writeTexts ts).reply xs := by
  induction ts generalizing q with
  | nil => exact ⟨[], (List.append_nil _).symm, copies_nil q.alloc⟩
  | cons t ts ih =>
    obtain ⟨ht, hrest⟩ := List.forall_mem_cons.mp hts
    obtain ⟨xs, hasks, hcopies⟩ := writeText_copies hG hq ht
    have hakin := writeText_akin q t
    cases hreply : (q.writeText t).reply with
    | answer args =>
      have hforget : (q.writeText t).plugin.forget = (q.forget.writeText t).plugin :=
        congrArg Called.plugin (q.writeText_forget t)
      have hlive : Live (q.writeText t).plugin.forget.guest := by
        rw [hforget]
        exact hq.leads (writeText_akin q.forget t).guest
      obtain ⟨ys, hasks', hcopies'⟩ := ih hlive hrest
      obtain ⟨hanswer, hplugin⟩ := writeTexts_of_answer hreply ts
      rw [hakin.alloc] at hcopies'
      rw [hreply] at hcopies
      refine ⟨xs ++ ys, ?_, ?_⟩
      · rw [hplugin, hasks', hasks, List.append_assoc]
      · rw [hanswer]
        exact hcopies.cons hcopies'
    | failure e =>
      rw [hreply] at hcopies
      refine ⟨xs, by simpa only [writeTexts, hreply] using hasks, ?_⟩
      simpa only [writeTexts, hreply] using hcopies.stop (by simp) ts
    | crash text =>
      rw [hreply] at hcopies
      refine ⟨xs, by simpa only [writeTexts, hreply] using hasks, ?_⟩
      simpa only [writeTexts, hreply] using hcopies.stop (by simp) ts

/-! ## Connecting -/

variable {p : Plugin G}

/-- What the guest is asked when it is to connect. -/
def connectAsks (p : Plugin G) (request : List Text) : List (Ask G) :=
  (p.recorded.runConnect request).plugin.asks

/-- A request to connect: the texts are copied, all that is written ends inside the memory and is done,
and then `connect` is called with just these places and lengths. A place that is too near the end is a
failure, with nothing asked afterwards and without `connect` being called. -/
structure Connects (p : Plugin G) (request : List Text) : Prop where
  same : (p.recorded.runConnect request).forget = p.runConnect request
  asks : ∃ xs, Copies p.alloc request (p.writeTexts request).reply xs ∧ p.connectAsks request =
    xs ++ (p.heard? request).toList.map fun c => .call c.1.guest p.connect c.2
  inside : ∀ x ∈ p.connectAsks request, x.Inside
  overreached : ∀ x ∈ p.connectAsks request, ∀ a n, x.Overreaches p.alloc a n →
    p.heard? request = none ∧ (p.runConnect request).reply = .failure (outOfRange a n)
  last : (p.connectAsks request).Pairwise fun x _ => ∀ a n, ¬ x.Overreaches p.alloc a n

theorem connectAsks_eq (hG : Lawful G) (hp : Live p.guest) {request : List Text}
    (hts : ∀ t ∈ request, t.length < 2 ^ 32) :
    ∃ xs, Copies p.alloc request (p.writeTexts request).reply xs ∧ p.connectAsks request =
      xs ++ (p.heard? request).toList.map fun c => .call c.1.guest p.connect c.2 := by
  obtain ⟨xs, hasks, hcopies⟩ := writeTexts_copies (q := p.recorded) hG hp hts
  have hforget : (p.recorded.writeTexts request).forget = p.writeTexts request :=
    p.recorded.writeTexts_forget request
  have hreply : (p.recorded.writeTexts request).reply = (p.writeTexts request).reply :=
    congrArg Called.reply hforget
  have hplugin : (p.recorded.writeTexts request).plugin.forget = (p.writeTexts request).plugin :=
    congrArg Called.plugin hforget
  have hnothing : p.recorded.asks = [] := rfl
  rw [hnothing, List.nil_append] at hasks
  rw [hreply] at hcopies
  refine ⟨xs, hcopies, ?_⟩
  cases htexts : (p.writeTexts request).reply with
  | answer args =>
    have hcalled : p.connectAsks request = (p.recorded.writeTexts request).plugin.asks ++
        [.call (p.recorded.writeTexts request).plugin.forget.guest p.connect args] := by
      simp only [connectAsks, runConnect, hreply, htexts]
      rfl
    rw [hcalled, hasks, hplugin]
    simp only [heard?, htexts, Option.toList_some, List.map_cons, List.map_nil]
  | failure e =>
    simp only [connectAsks, runConnect, hreply, htexts, hasks, heard?, Option.toList_none, List.map_nil,
      List.append_nil]
  | crash t =>
    simp only [connectAsks, runConnect, hreply, htexts, hasks, heard?, Option.toList_none, List.map_nil,
      List.append_nil]

/-- The arguments of `connect` come in pairs, so it is never mistaken for `alloc`. -/
theorem not_overreaches_connect {request : List Text} {xs : List (Ask G)}
    (hcopies : Copies p.alloc request (p.writeTexts request).reply xs) {c : Plugin G × Stack}
    (hheard : p.heard? request = some c) (a n : Nat) :
    ¬ (Ask.call c.1.guest p.connect c.2).Overreaches p.alloc a n := by
  rintro ⟨g, w, rest, size, heq, -⟩
  obtain ⟨-, -, hargs⟩ := Ask.call.inj heq
  unfold heard? at hheard
  split at hheard
  · next args hreply =>
    cases hheard
    obtain ⟨placed, -, hplaced, -⟩ := hcopies.placed args hreply
    -- neither no pair nor at least one is a single argument
    cases placed with
    | nil => cases hplaced.symm.trans hargs
    | cons w placed => exact List.cons_ne_nil _ _ (List.cons.inj (hplaced.symm.trans hargs)).2
  · cases hheard

theorem heard?_of_failure {request : List Text} {e : Failure} (h : (p.writeTexts request).reply = .failure e) :
    p.heard? request = none ∧ (p.runConnect request).reply = .failure e := by
  simp only [heard?, runConnect, h, and_self]

theorem connects (hG : Lawful G) (hp : Live p.guest) {request : List Text}
    (hts : ∀ t ∈ request, t.length < 2 ^ 32) : p.Connects request := by
  obtain ⟨xs, hcopies, hasks⟩ := connectAsks_eq hG hp hts
  have hcall (x : Ask G) (hx : x ∈ (p.heard? request).toList.map fun c => .call c.1.guest p.connect c.2) :
      ∃ c, p.heard? request = some c ∧ x = .call c.1.guest p.connect c.2 := by
    obtain ⟨c, hc, rfl⟩ := List.mem_map.mp hx
    exact ⟨c, Option.mem_toList.mp hc, rfl⟩
  refine ⟨p.recorded.runConnect_forget request, ⟨xs, hcopies, hasks⟩, ?_, ?_, ?_⟩
  · intro x hx
    rw [hasks] at hx
    rcases List.mem_append.mp hx with hx | hx
    · exact hcopies.inside x hx
    · obtain ⟨c, -, rfl⟩ := hcall x hx
      trivial
  · intro x hx a n hover
    rw [hasks] at hx
    rcases List.mem_append.mp hx with hx | hx
    · exact heard?_of_failure (hcopies.overreached x hx a n hover)
    · obtain ⟨c, hc, rfl⟩ := hcall x hx
      exact absurd hover (not_overreaches_connect hcopies hc a n)
  · rw [hasks, List.pairwise_append]
    refine ⟨hcopies.last, ?_, fun x hx y hy a n hover => ?_⟩
    · cases p.heard? request with
      | none => exact .nil
      | some c => exact List.pairwise_singleton _ _
    · obtain ⟨c, hc, -⟩ := hcall y hy
      rw [(heard?_of_failure (hcopies.overreached x hx a n hover)).1] at hc
      cases hc

/-! ## Ids -/

/-- The writes that handing over ids makes, one behind the other. -/
def idWrites (base : Nat) (ids : List Nat) : List (Nat × Text) :=
  ids.zipIdx.map fun e => (word32 (base + 4 * e.2), Memory.bytes32 e.1)

theorem writeIds_eq (p : Plugin G) (base : Nat) (ids : List Nat) :
    p.writeIds base ids = (idWrites base ids).foldl (fun p w => p.writeMemory w.1 w.2) p := by
  rw [writeIds, idWrites, List.foldl_map]

section

variable {ids : List Nat} {base : Nat}

/-- No place of an id wraps around, as there is room for all of them. -/
theorem idWrites_eq (hn : 4 * ids.length < 2 ^ 32) (hroom : (p.room (4 * ids.length)).reply = .answer base) :
    idWrites base ids = ids.zipIdx.map fun e => (base + 4 * e.2, Memory.bytes32 e.1) := by
  refine List.map_congr_left fun e he => ?_
  have hlt : e.2 < ids.length := by simpa using (List.mem_zipIdx he).2.1
  obtain ⟨-, -, -, hword⟩ := room_answer hn (by omega) hroom
  rw [word32_of_lt (by omega)]

theorem idWrites_inside (hn : 4 * ids.length < 2 ^ 32)
    (hroom : (p.room (4 * ids.length)).reply = .answer base) :
    ∀ w ∈ idWrites base ids, ∃ size ∈ Runtime.size? (p.room (4 * ids.length)).plugin.guest,
      w.1 + w.2.length ≤ size := by
  rw [idWrites_eq hn hroom]
  intro w hw
  obtain ⟨e, he, rfl⟩ := List.mem_map.mp hw
  have hlt : e.2 < ids.length := by simpa using (List.mem_zipIdx he).2.1
  obtain ⟨size, hsize, hle, -⟩ := room_answer hn (by omega) hroom
  refine ⟨size, hsize, ?_⟩
  show base + 4 * e.2 + 4 ≤ size
  omega

end

/-- What was asked of the guest are writes, one after another, and all of them were done. -/
structure Wrote (ws : List (Nat × Text)) (xs : List (Ask G)) : Prop where
  writes : xs.map Ask.write? = ws.map some
  inside : ∀ x ∈ xs, x.Inside

theorem foldl_writeMemory_wrote (hG : Lawful G) (hq : Live q.forget.guest) {ws : List (Nat × Text)}
    (hws : ∀ w ∈ ws, ∃ size ∈ Runtime.size? q.forget.guest, w.1 + w.2.length ≤ size) :
    ∃ xs, (ws.foldl (fun p w => p.writeMemory w.1 w.2) q).asks = q.asks ++ xs ∧ Wrote ws xs := by
  induction ws generalizing q with
  | nil => exact ⟨[], (List.append_nil _).symm, rfl, nofun⟩
  | cons w ws ih =>
    obtain ⟨⟨size, hsize, hle⟩, hrest⟩ := List.forall_mem_cons.mp hws
    have hsame : Runtime.size? (q.writeMemory w.1 w.2).forget.guest = Runtime.size? q.forget.guest :=
      hG.write_size w.1 w.2 hq
    obtain ⟨xs, hasks, hwrites, hinside⟩ := ih (q := q.writeMemory w.1 w.2)
      (hq.leads (writeMemory_akin q.forget w.1 w.2).guest) (by rwa [hsame])
    have hfirst : (q.writeMemory w.1 w.2).asks = q.asks ++ [.write q.forget.guest w.1 w.2] := rfl
    refine ⟨.write q.forget.guest w.1 w.2 :: xs, ?_, ?_, ?_⟩
    · rw [List.foldl_cons, hasks, hfirst, List.append_assoc, List.singleton_append]
    · exact congrArg (some w :: ·) hwrites
    · exact List.forall_mem_cons.mpr ⟨⟨⟨size, hsize, hle⟩, (hG.write_done hq hsize).mpr hle⟩, hinside⟩

/-- Where there is room for them ids are written, one behind the other. -/
theorem asks_room_writeIds (hG : Lawful G) (hp : Live p.guest) {ids : List Nat} {base : Nat}
    (hn : 4 * ids.length < 2 ^ 32) (hroom : (p.room (4 * ids.length)).reply = .answer base) :
    ∃ xs, Wrote (ids.zipIdx.map fun e => (base + 4 * e.2, Memory.bytes32 e.1)) xs ∧
      ((p.recorded.room (4 * ids.length)).plugin.writeIds base ids).asks =
        p.roomAsks (4 * ids.length) ++ xs := by
  have hguest : (p.recorded.room (4 * ids.length)).plugin.forget = (p.room (4 * ids.length)).plugin :=
    forget_room _ _
  have hinside := idWrites_inside hn hroom
  rw [← hguest] at hinside
  have hlive : Live (p.recorded.room (4 * ids.length)).plugin.forget.guest := by
    rw [hguest]
    exact hp.leads (room_akin p _).guest
  obtain ⟨xs, hasks, hwrote⟩ := foldl_writeMemory_wrote hG hlive hinside
  rw [← writeIds_eq, room_asks _ hn] at hasks
  rw [idWrites_eq hn hroom] at hwrote
  exact ⟨xs, hwrote, hasks⟩

/-! ## Dispatch -/

/-- What the guest is asked by a call to dispatch. -/
def dispatchAsks (p : Plugin G) (objects : Option Bridge.ObjectTable) (disp : Int) (this : Value)
    (args : List Value) : List (Ask G) :=
  (p.recorded.runDispatch objects disp this args).1.plugin.asks

/-- A call gets its ids, and a place for those of its arguments. -/
structure Placed (p : Plugin G) (objects : Option Bridge.ObjectTable) (this : Value) (args : List Value)
    (f : Nat) (ids : List Nat) (base : Nat) : Prop where
  dispatch : p.dispatch = some f
  ids : ∃ table ∈ objects, (references table (this :: args)).1 = .ok ids
  room : (p.room (4 * args.length)).reply = .answer base

/-- The call of `dispatch` that comes of it, after the ids were written. -/
def dispatchAsk (p : Plugin G) (disp : Int) (args : List Value) (f : Nat) (ids : List Nat) (base : Nat) :
    Ask G :=
  .call ((p.room (4 * args.length)).plugin.writeIds base (ids.drop 1)).guest f
    [int32Word disp, UInt64.ofNat (word32 (ids.head?.getD 0)), UInt64.ofNat (word32 args.length),
      UInt64.ofNat base]

/-- A call to dispatch. If there is a place, the ids of the arguments are written there, one behind the
other, inside the memory and all of them, and then `dispatch` is called with that place and their number.
Without a place nothing but room is asked for, and a place that is too near the end is thrown. -/
structure Dispatches (p : Plugin G) (objects : Option Bridge.ObjectTable) (disp : Int) (this : Value)
    (args : List Value) : Prop where
  same : ((p.recorded.runDispatch objects disp this args).1.forget,
    (p.recorded.runDispatch objects disp this args).2) = p.runDispatch objects disp this args
  placed : ∀ f ids base, p.Placed objects this args f ids base → ∃ xs,
    Wrote ((ids.drop 1).zipIdx.map fun e => (base + 4 * e.2, Memory.bytes32 e.1)) xs ∧
      p.dispatchAsks objects disp this args =
        p.roomAsks (4 * args.length) ++ xs ++ [p.dispatchAsk disp args f ids base]
  unplaced : (∀ f ids base, ¬ p.Placed objects this args f ids base) →
    p.dispatchAsks objects disp this args = [] ∨
      p.dispatchAsks objects disp this args = p.roomAsks (4 * args.length)
  inside : ∀ x ∈ p.dispatchAsks objects disp this args, x.Inside
  overreached : ∀ x ∈ p.dispatchAsks objects disp this args, ∀ a n, x.Overreaches p.alloc a n →
    p.dispatchAsks objects disp this args = [x] ∧
      (p.runDispatch objects disp this args).1.reply = threw (outOfRange a n)

theorem length_drop_references {table : Bridge.ObjectTable} {this : Value} {args : List Value}
    {ids : List Nat} (h : (references table (this :: args)).1 = .ok ids) :
    (ids.drop 1).length = args.length := by
  have hlength := references_length (Prod.ext h rfl)
  simp [hlength]

section

variable {objects : Option Bridge.ObjectTable} {disp : Int} {this : Value} {args : List Value}

/-- With a place the ids are written and `dispatch` is called. -/
theorem dispatchAsks_of_placed (hG : Lawful G) (hp : Live p.guest) (hargs : 4 * args.length < 2 ^ 32)
    {f : Nat} {ids : List Nat} {base : Nat} (h : p.Placed objects this args f ids base) (disp : Int) :
    ∃ xs, Wrote ((ids.drop 1).zipIdx.map fun e => (base + 4 * e.2, Memory.bytes32 e.1)) xs ∧
      p.dispatchAsks objects disp this args =
        p.roomAsks (4 * args.length) ++ xs ++ [p.dispatchAsk disp args f ids base] := by
  obtain ⟨hf, ⟨table, rfl, hids⟩, hroom⟩ := h
  have hlength := length_drop_references hids
  obtain ⟨xs, hwrote, hasks⟩ := asks_room_writeIds hG hp (hlength ▸ hargs) (hlength ▸ hroom)
  refine ⟨xs, hwrote, ?_⟩
  have hrecorded : (p.recorded.room (4 * args.length)).reply = .answer base := hroom ▸ room_reply_forget _ _
  have hwritten : ((p.recorded.room (4 * args.length)).plugin.writeIds base (ids.drop 1)).forget =
      (p.room (4 * args.length)).plugin.writeIds base (ids.drop 1) := by
    rw [writeIds_forget, forget_room]
    rfl
  cases hrefs : references table (this :: args) with
  | mk out table' =>
    rw [hrefs] at hids
    cases hids
    have hrun : p.dispatchAsks (some table) disp this args =
        ((p.recorded.room (4 * args.length)).plugin.writeIds base (ids.drop 1)).asks ++
          [p.dispatchAsk disp args f ids base] := by
      have hf' : p.recorded.dispatch = some f := hf
      rw [dispatchAsk, ← hwritten]
      simp only [dispatchAsks, runDispatch, hf', hrefs, hlength, hrecorded]
      rfl
    rw [hlength] at hasks
    rw [hrun, hasks]

/-- Without a place nothing is asked, or room in vain. -/
theorem dispatchAsks_of_unplaced (hargs : 4 * args.length < 2 ^ 32)
    (h : ∀ f ids base, ¬ p.Placed objects this args f ids base) (disp : Int) :
    p.dispatchAsks objects disp this args = [] ∨
      p.dispatchAsks objects disp this args = p.roomAsks (4 * args.length) ∧
        ∀ e, (p.room (4 * args.length)).reply = .failure e →
          (p.runDispatch objects disp this args).1.reply = threw e := by
  have hrecorded : p.recorded.dispatch = p.dispatch := rfl
  cases hf : p.dispatch with
  | none =>
    left
    simp only [dispatchAsks, runDispatch, hrecorded, hf]
    rfl
  | some f =>
    cases objects with
    | none =>
      left
      simp only [dispatchAsks, runDispatch, hrecorded, hf]
      rfl
    | some table =>
      cases hrefs : references table (this :: args) with
      | mk out table' =>
        cases out with
        | error e =>
          left
          simp only [dispatchAsks, runDispatch, hrecorded, hf, hrefs]
          rfl
        | ok ids =>
          have hids : (references table (this :: args)).1 = .ok ids := by rw [hrefs]
          have hlength := length_drop_references hids
          have hnone (base : Nat) : (p.room (4 * args.length)).reply ≠ .answer base := fun hroom =>
            h f ids base ⟨hf, ⟨table, rfl, hids⟩, hroom⟩
          have hasks := room_asks p.recorded hargs
          have hreply := room_reply_forget p.recorded (4 * args.length)
          right
          constructor
          · simp only [dispatchAsks, runDispatch, hrecorded, hf, hrefs, hlength]
            cases hroom : (p.recorded.room (4 * args.length)).reply with
            | answer base => exact absurd (hreply ▸ hroom) (hnone base)
            | failure e => exact hasks
            | crash t => exact hasks
          · intro e he
            simp only [runDispatch, hf, hrefs, hlength, he]

theorem not_overreaches_dispatch {f : Nat} {ids : List Nat} {base : Nat} (alloc a n : Nat) :
    ¬ (p.dispatchAsk disp args f ids base).Overreaches alloc a n := by
  rintro ⟨g, w, rest, size, heq, -⟩
  obtain ⟨-, -, hargs⟩ := Ask.call.inj heq
  cases (List.cons.inj hargs).2

theorem Wrote.not_overreaches {ws : List (Nat × Text)} {xs : List (Ask G)} (h : Wrote ws xs) {x : Ask G}
    (hx : x ∈ xs) (alloc a n : Nat) : ¬ x.Overreaches alloc a n := by
  rintro ⟨g, w, rest, size, rfl, -⟩
  obtain ⟨w, -, hw⟩ := List.mem_map.mp (h.writes ▸ List.mem_map_of_mem hx)
  cases hw

theorem dispatches (hG : Lawful G) (hp : Live p.guest) (objects : Option Bridge.ObjectTable) (disp : Int)
    (this : Value) {args : List Value} (hargs : 4 * args.length < 2 ^ 32) :
    p.Dispatches objects disp this args := by
  have hsame := p.recorded.runDispatch_forget objects disp this args
  by_cases hplaced : ∃ f ids base, p.Placed objects this args f ids base
  · obtain ⟨f, ids, base, hplaced⟩ := hplaced
    obtain ⟨xs, hwrote, hasks⟩ := dispatchAsks_of_placed hG hp hargs hplaced disp
    have hmem (x : Ask G) (hx : x ∈ p.dispatchAsks objects disp this args) :
        x ∈ p.roomAsks (4 * args.length) ∨ x ∈ xs ∨ x = p.dispatchAsk disp args f ids base := by
      simpa only [hasks, List.mem_append, List.mem_singleton, or_assoc] using hx
    refine ⟨hsame, fun f ids base h => dispatchAsks_of_placed hG hp hargs h disp,
      fun hnone => absurd hplaced (hnone f ids base), fun x hx => ?_, fun x hx a n hover => ?_⟩
    · rcases hmem x hx with hx | hx | rfl
      · rw [(mem_roomAsks hx).2]
        trivial
      · exact hwrote.inside x hx
      · trivial
    · rcases hmem x hx with hx | hx | rfl
      · obtain ⟨hsome, rfl⟩ := mem_roomAsks hx
        cases hplaced.room.symm.trans (room_overreached hargs hsome hover)
      · exact absurd hover (hwrote.not_overreaches hx _ a n)
      · exact absurd hover (not_overreaches_dispatch _ a n)
  · have hnone : ∀ f ids base, ¬ p.Placed objects this args f ids base := by simpa using hplaced
    have hasks := dispatchAsks_of_unplaced hargs hnone disp
    refine ⟨hsame, fun f ids base h => absurd h (hnone f ids base),
      fun _ => hasks.imp_right And.left, fun x hx => ?_, fun x hx a n hover => ?_⟩
    · rcases hasks with hasks | ⟨hasks, -⟩ <;> rw [hasks] at hx
      · cases hx
      · rw [(mem_roomAsks hx).2]
        trivial
    · rcases hasks with hasks | ⟨hasks, hfailed⟩ <;> rw [hasks] at hx ⊢
      · cases hx
      · obtain ⟨hsome, rfl⟩ := mem_roomAsks hx
        exact ⟨if_neg hsome, hfailed _ (room_overreached hargs hsome hover)⟩

end

/-! ## Any guest -/

/-- **No write leaves the memory.** Let a plugin be loaded, on any runtime that keeps to what is
documented, and its guest have a memory. Whatever it was asked before and whatever places its `alloc`
gives, all that a request to connect writes of texts, and all that a dispatched call writes of ids, ends
inside the memory as it is then, and all of it is done; and a place from which what is to be written would
end behind the memory makes the call fail, with that place and that length, without the guest's `connect`
or `dispatch` being called. If `alloc` declares a result, no call ends otherwise than with an answer or a
failure. -/
theorem writes_inside {G : Type} [Runtime G] (hG : Lawful G) {name bytes : Text} {p : Plugin G} {n : Nat}
    (h : loadOn G name bytes = .ok (p, n)) (hmemory : (Runtime.size? p.guest).isSome = true)
    (halloc : p.allocResults ≠ 0) (ops : List Operation) :
    (∀ request, (∀ t ∈ request, t.length < 2 ^ 32) →
        ((⟨p, none⟩ : Service G).after ops).plugin.Connects request ∧
        (((⟨p, none⟩ : Service G).after ops).plugin.runConnect request).reply.isCrash = false) ∧
      ∀ objects disp this args, 4 * args.length < 2 ^ 32 →
        ((⟨p, none⟩ : Service G).after ops).plugin.Dispatches objects disp this args ∧
        (((⟨p, none⟩ : Service G).after ops).plugin.runDispatch objects disp this args).1.reply.isCrash =
          false := by
  have hlive : Live p.guest := load_live h
  have hakin : Akin p ((⟨p, none⟩ : Service G).after ops).plugin := Service.after_akin ⟨p, none⟩ ops
  have hlater := hlive.leads hakin.guest
  refine ⟨fun request hrequest => ⟨connects hG hlater hrequest, ?_⟩,
    fun objects disp this args hargs => ⟨dispatches hG hlater objects disp this hargs, ?_⟩⟩
  · rw [Bool.eq_false_iff, Ne, runConnect_isCrash, writeTexts_isCrash_iff hG hlater]
    rintro ⟨before, t, later, sofar, -, -, hfumbles⟩
    exact not_fumbles hG hlive (hakin.trans (writeTexts_akin _ before)) hmemory halloc _ hfumbles
  · rw [Bool.eq_false_iff, Ne, runDispatch_isCrash_iff hG hlater]
    rintro ⟨-, -, hfumbles⟩
    exact not_fumbles hG hlive hakin hmemory halloc _ hfumbles

/-- A module with one page of memory whose `alloc` always gives the sixth place from its end. -/
def brink : Text :=
  [0x00, 0x61, 0x73, 0x6D, 0x01, 0x00, 0x00, 0x00,
    -- types: one parameter and one result, then nothing at all
    0x01, 0x09, 0x02, 0x60, 0x01, 0x7F, 0x01, 0x7F, 0x60, 0x00, 0x00,
    -- four functions, and a memory of one page
    0x03, 0x05, 0x04, 0x00, 0x01, 0x01, 0x01, 0x05, 0x03, 0x01, 0x00, 0x01,
    -- exports: alloc, init, connect, dispatch, memory
    0x07, 0x2E, 0x05, 0x05, 0x61, 0x6C, 0x6C, 0x6F, 0x63, 0x00, 0x00,
    0x04, 0x69, 0x6E, 0x69, 0x74, 0x00, 0x01,
    0x07, 0x63, 0x6F, 0x6E, 0x6E, 0x65, 0x63, 0x74, 0x00, 0x02,
    0x08, 0x64, 0x69, 0x73, 0x70, 0x61, 0x74, 0x63, 0x68, 0x00, 0x03,
    0x06, 0x6D, 0x65, 0x6D, 0x6F, 0x72, 0x79, 0x02, 0x00,
    -- bodies: the place, then three that are empty
    0x0A, 0x11, 0x04, 0x06, 0x00, 0x41, 0xFA, 0xFF, 0x03, 0x0B, 0x02, 0x00, 0x0B, 0x02, 0x00, 0x0B,
    0x02, 0x00, 0x0B]

/-- The plugin that is loaded from it. -/
def atBrink : Plugin where
  name := []
  guest := .ofProgram {
    imports := []
    routines := ⟨⟨[.i32], [.i32]⟩, 0, [.const 65530]⟩ :: List.replicate 3 ⟨⟨[], []⟩, 0, []⟩
    memory := some 1
    globals := []
    exports := [⟨Guest.allocExport, 0, 0⟩, ⟨Guest.initExport, 0, 1⟩, ⟨Guest.connectExport, 0, 2⟩,
      ⟨Guest.dispatchExport, 0, 3⟩, ⟨Guest.memoryExport, 2, 0⟩] }
  alloc := 0
  init := 1
  connect := 2
  disconnect := none
  dispatch := some 3

theorem load_brink : load [] brink = .ok (atBrink, 0) := rfl

/-- At the brink six bytes are written up to the end of the memory, and seven are refused; and so are
the ids of two arguments. -/
theorem writes_inside_brink :
    load [] brink = .ok (atBrink, 0) ∧ (Runtime.size? atBrink.guest).isSome = true ∧
      atBrink.allocResults ≠ 0 ∧
      (atBrink.connectAsks [[1, 2, 3, 4, 5, 6]]).filterMap Ask.write? = [(65530, [1, 2, 3, 4, 5, 6])] ∧
      (∀ x ∈ atBrink.connectAsks [[1, 2, 3, 4, 5, 6]], x.Inside) ∧
      (atBrink.runConnect [[1], [1, 2, 3, 4, 5, 6, 7]]).reply = .failure (outOfRange 65530 7) ∧
      (atBrink.runDispatch (some .empty) 0 .null [.null, .null]).1.reply =
        threw (outOfRange 65530 8) := by
  have hresult : atBrink.allocResults ≠ 0 := by decide
  obtain ⟨hconnect, hcalls⟩ := writes_inside Instance.lawful load_brink rfl hresult []
  have hseventh : (Ask.call (atBrink.writeTexts [[1]]).plugin.guest atBrink.alloc [7]).Overreaches
      atBrink.alloc 65530 7 :=
    ⟨_, 65530, [], 65536, rfl, by decide, rfl, rfl, rfl, by decide⟩
  have hids : (Ask.call atBrink.guest atBrink.alloc [8]).Overreaches atBrink.alloc 65530 8 :=
    ⟨_, 65530, [], 65536, rfl, by decide, rfl, rfl, rfl, by decide⟩
  have hasked : atBrink.connectAsks [[1], [1, 2, 3, 4, 5, 6, 7]] =
      [.call atBrink.guest atBrink.alloc [1], .write atBrink.guest 65530 [1],
        .call (atBrink.writeTexts [[1]]).plugin.guest atBrink.alloc [7]] := rfl
  refine ⟨load_brink, rfl, hresult, rfl, (hconnect [[1, 2, 3, 4, 5, 6]] (by decide)).1.inside, ?_, ?_⟩
  · refine ((hconnect [[1], [1, 2, 3, 4, 5, 6, 7]] (by decide)).1.overreached _ ?_ _ _ hseventh).2
    exact hasked ▸ List.mem_of_getLast? rfl
  · exact ((hcalls (some .empty) 0 .null [.null, .null] (by decide)).1.overreached _
      (List.mem_singleton_self _) _ _ hids).2

end Plugin

end PageBoot.Wasm
