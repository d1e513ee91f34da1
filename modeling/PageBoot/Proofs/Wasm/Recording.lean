import PageBoot.Wasm.Plugin

/-!
A runtime that keeps a record of what its guests are asked. A host does the same over it as over the
runtime below (`runConnect_forget`, `runDispatch_forget`), so the record tells what the host asks of its
guests, and in which state they were then.
-/

namespace PageBoot.Wasm

/-- What a guest is asked, with the guest as it was before. -/
inductive Ask (G : Type) where
  | call (guest : G) (f : Nat) (args : Stack)
  | write (guest : G) (place : Nat) (bytes : Text)

/-- A guest and what it was asked, oldest first. -/
structure Recorded (G : Type) where
  guest : G
  asks : List (Ask G) := []

variable {G : Type} [Runtime G]

instance : Runtime (Recorded G) where
  compile bytes := (Runtime.compile (G := G) bytes).map fun start name =>
    (start name).map fun made => ({ guest := made.1 }, made.2)
  func? r := Runtime.func? r.guest
  results r := Runtime.results r.guest
  call r f args :=
    let called := Runtime.call r.guest f args
    (called.1, called.2.1, ⟨called.2.2, r.asks ++ [.call r.guest f args]⟩)
  size? r := Runtime.size? r.guest
  write r place bytes :=
    let written := Runtime.write r.guest place bytes
    (written.1, ⟨written.2, r.asks ++ [.write r.guest place bytes]⟩)
  close r := { r with guest := Runtime.close r.guest }

namespace Plugin

/-- The plugin with its guest under record. -/
def recorded (p : Plugin G) : Plugin (Recorded G) := { p with guest := { guest := p.guest } }

/-- The plugin without the record. -/
def forget (q : Plugin (Recorded G)) : Plugin G := { q with guest := q.guest.guest }

def asks (q : Plugin (Recorded G)) : List (Ask G) := q.guest.asks

end Plugin

def Called.forget {α : Type} (c : Called α (Recorded G)) : Called α G :=
  { reply := c.reply, signals := c.signals, plugin := c.plugin.forget }

namespace Plugin

/-! ## The same without the record -/

variable (q : Plugin (Recorded G))

theorem callGuest_forget (f : Nat) (args : Stack) :
    (q.callGuest f args).forget = q.forget.callGuest f args := rfl

theorem allocate_forget (n : Nat) : (q.allocate n).forget = q.forget.allocate n := by
  unfold allocate
  split
  · rfl
  · rw [← callGuest_forget]
    rfl

theorem room_forget (size : Nat) : (q.room size).forget = q.forget.room size := by
  unfold room
  rw [← allocate_forget]
  obtain ⟨reply, signals, r⟩ := q.allocate (word32 size)
  cases reply with
  | answer a =>
    have hsize : Runtime.size? r.forget.guest = Runtime.size? r.guest := rfl
    simp only [Called.forget, hsize]
    split <;> rfl
  | _ => rfl

theorem writeIds_forget (base : Nat) (ids : List Nat) :
    (q.writeIds base ids).forget = q.forget.writeIds base ids := by
  unfold writeIds
  generalize ids.zipIdx = entries
  induction entries generalizing q with
  | nil => rfl
  | cons e entries ih => exact ih _

theorem writeText_forget (t : Text) : (q.writeText t).forget = q.forget.writeText t := by
  unfold writeText
  rw [← room_forget]
  obtain ⟨reply, signals, r⟩ := q.room t.length
  cases reply with
  | answer a => cases t <;> rfl
  | _ => rfl

theorem writeTexts_forget (ts : List Text) : (q.writeTexts ts).forget = q.forget.writeTexts ts := by
  induction ts generalizing q with
  | nil => rfl
  | cons t ts ih =>
    unfold writeTexts
    rw [← writeText_forget]
    obtain ⟨reply, signals, r⟩ := q.writeText t
    cases reply with
    | answer args =>
      simp only [Called.forget, ← ih r]
    | _ => rfl

theorem runConnect_forget (request : List Text) :
    (q.runConnect request).forget = q.forget.runConnect request := by
  unfold runConnect
  rw [← writeTexts_forget]
  obtain ⟨reply, signals, r⟩ := q.writeTexts request
  cases reply <;> rfl

theorem runDispatch_forget (objects : Option Bridge.ObjectTable) (disp : Int) (this : Value)
    (args : List Value) :
    ((q.runDispatch objects disp this args).1.forget, (q.runDispatch objects disp this args).2) =
      q.forget.runDispatch objects disp this args := by
  have hdispatch : q.forget.dispatch = q.dispatch := rfl
  unfold runDispatch
  rw [hdispatch]
  cases q.dispatch with
  | none => rfl
  | some f =>
    cases objects with
    | none => rfl
    | some table =>
      simp only
      obtain ⟨ids, table'⟩ := references table (this :: args)
      cases ids with
      | error e => rfl
      | ok ids =>
        simp only [← room_forget]
        obtain ⟨reply, signals, r⟩ := q.room (4 * (ids.drop 1).length)
        cases reply with
        | answer base =>
          simp only [Called.forget, ← writeIds_forget, ← callGuest_forget]
        | _ => rfl

end Plugin

end PageBoot.Wasm
