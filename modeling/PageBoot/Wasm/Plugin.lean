import PageBoot.Wasm.Runtime
import PageBoot.Bridge.Adapters
import PageBoot.Bridge.ObjectTable
import PageBoot.Reply

/-!
Connectors that run as wasm guests. Texts and object ids are handed over in the guest's memory,
in room that the guest allocates. Every call tells how often the guest signalled a lost
connection while it ran; the caller passes those signals on. Guests may be those of any runtime;
where none is named they are the ones that run here.
-/

namespace PageBoot.Wasm

structure Plugin (G : Type := Instance) where
  name : Text
  guest : G
  alloc : Nat
  init : Nat
  connect : Nat
  disconnect : Option Nat
  dispatch : Option Nat
  closed : Bool := false
  deriving DecidableEq, Repr

/-- A call's end, the signals that were sent, and the plugin afterwards. -/
structure Called (α : Type) (G : Type := Instance) where
  reply : Reply α
  signals : Nat := 0
  plugin : Plugin G

namespace Plugin

variable {G : Type} [Runtime G]

/-! ## Loading -/

def missingExport (name : Text) : Failure :=
  .load ("connector module does not export " ++ Text.quote name) none

def required (g : G) (name : Text) : Except Failure Nat :=
  match Runtime.func? g name with
  | some f => .ok f
  | none => .error (missingExport name)

/-- Loads a plugin from the bytes of its module, for a runtime. -/
def loadOn (G : Type) [Runtime G] (name bytes : Text) : Except Failure (Plugin G × Nat) := do
  let start ← (Runtime.compile (G := G) bytes).mapError fun e => .load "compile connector module" (some e)
  let (guest, signals) ← (start name).mapError fun e => .load "instantiate connector module" (some e)
  let alloc ← required guest Guest.allocExport
  let init ← required guest Guest.initExport
  let connect ← required guest Guest.connectExport
  return ({
    name, guest, alloc, init, connect
    disconnect := Runtime.func? guest Guest.disconnectExport
    dispatch := Runtime.func? guest Guest.dispatchExport }, signals)

/-- Loads a plugin that runs here. -/
def load (name bytes : Text) : Except Failure (Plugin × Nat) := loadOn Instance name bytes

/-! ## Calls -/

/-- Calls a guest function. -/
def callGuest (p : Plugin G) (f : Nat) (args : Stack) : Called Stack G :=
  let (out, signals, guest) := Runtime.call p.guest f args
  let reply : Reply Stack :=
    match out with
    | .ok s => .answer s
    | .error e => .failure e
  { reply, signals, plugin := { p with guest } }

def noMemory : Text := "runtime error: invalid memory address or nil pointer dereference"
def noResult : Text := "runtime error: index out of range [0] with length 0"

def low32 (w : UInt64) : Nat := w.toUInt32.toNat

/-- A length or an id as a guest is told it, in 32 bits. -/
def word32 (n : Nat) : Nat := n % UInt32.size

/-- Room for `n` bytes in the guest's memory. Nothing is asked of the guest for no bytes. The size of
the memory is told in 32 bits, so that the largest memory has none. -/
def allocate (p : Plugin G) (n : Nat) : Called Nat G :=
  if n = 0 then { reply := .answer 0, plugin := p }
  else
    let c := p.callGuest p.alloc [UInt64.ofNat n]
    let reply : Reply Nat :=
      match c.reply with
      | .failure e => .failure (.wrap .handshake .exception (some e) "connector alloc")
      | .crash t => .crash t
      | .answer [] => .crash noResult
      | .answer (w :: _) =>
        match Runtime.size? c.plugin.guest with
        | none => .crash noMemory
        | some size =>
          if low32 w + n ≤ word32 size then .answer (low32 w)
          else .failure (.report .handshake .invalidValue []
            ("alloc returned out-of-range pointer " ++ Text.ofNat (low32 w) ++ " for " ++
              Text.ofNat n ++ " bytes") .null none)
    { c with reply }

/-- Room for `size` bytes that are about to be written. The guest is asked by the size in 32 bits,
so that for some sizes beyond them nothing is asked; without a memory there is nothing to write
to. -/
def room (p : Plugin G) (size : Nat) : Called Nat G :=
  let c := p.allocate (word32 size)
  match c.reply with
  | .answer _ =>
    if size ≠ 0 ∧ Runtime.size? c.plugin.guest = none then { c with reply := .crash noMemory } else c
  | _ => c

/-- Writes to the guest's memory. Whether that is done is not looked at. -/
def writeMemory (p : Plugin G) (at_ : Nat) (bytes : Text) : Plugin G :=
  { p with guest := (Runtime.write p.guest at_ bytes).2 }

/-- Writes ids one after another. -/
def writeIds (p : Plugin G) (base : Nat) (ids : List Nat) : Plugin G :=
  ids.zipIdx.foldl (fun p (r, i) => p.writeMemory (word32 (base + 4 * i)) (Memory.bytes32 r)) p

/-- Copies a text into the guest and gives its place and length. An empty text needs no copy. -/
def writeText (p : Plugin G) (t : Text) : Called Stack G :=
  let c := p.room t.length
  match c.reply with
  | .answer a => { c with
      reply := .answer [UInt64.ofNat a, UInt64.ofNat (word32 t.length)]
      plugin := if t.isEmpty then c.plugin else c.plugin.writeMemory a t }
  | .failure e => { c with reply := .failure e }
  | .crash t => { c with reply := .crash t }

/-- Copies texts one after another until one fails. -/
def writeTexts (p : Plugin G) : List Text → Called Stack G
  | [] => { reply := .answer [], plugin := p }
  | t :: ts =>
    let c := p.writeText t
    match c.reply with
    | .answer args =>
      let rest := c.plugin.writeTexts ts
      { rest with reply := rest.reply.map (args ++ ·), signals := c.signals + rest.signals }
    | .failure e => { c with reply := .failure e }
    | .crash t => { c with reply := .crash t }

/-- Whether the first result is a true condition. -/
def accepted : Stack → Bool
  | [] => false
  | w :: _ => low32 w ≠ 0

def answering (phase : Phase) (detail : Text) (c : Called Stack G) : Called Bool G :=
  { c with reply :=
      match c.reply with
      | .answer s => .answer (accepted s)
      | .failure e => .failure (.wrap phase .exception (some e) detail)
      | .crash t => .crash t }

def runInit (p : Plugin G) : Called Bool G :=
  answering .handshake "connector init" (p.callGuest p.init [])

/-- Connects with the given request texts. -/
def runConnect (p : Plugin G) (request : List Text) : Called Bool G :=
  let c := p.writeTexts request
  match c.reply with
  | .answer args =>
    let d := answering .handshake "connector connect" (c.plugin.callGuest p.connect args)
    { d with signals := c.signals + d.signals }
  | .failure e => { c with reply := .failure e }
  | .crash t => { c with reply := .crash t }

/-- Disconnects, if the guest wants to hear of it. -/
def runDisconnect (p : Plugin G) : Called Bool G :=
  match p.disconnect with
  | none => { reply := .answer true, plugin := p }
  | some f => answering .session "connector disconnect" (p.callGuest f [])

/-- Closes the guest, once. -/
def close (p : Plugin G) : Plugin G :=
  if p.closed then p else { p with guest := Runtime.close p.guest, closed := true }

/-! ## Dispatch -/

open Bridge

/-- The id under which a value crosses the bridge; zero stands for no value. -/
def reference (objects : ObjectTable) : Value → Except Failure (Nat × ObjectTable)
  | .null => .ok (0, objects)
  | v => objects.put v

/-- Ids of several values, and the table as far as they were entered. -/
def references (objects : ObjectTable) : List Value → Except Failure (List Nat) × ObjectTable
  | [] => (.ok [], objects)
  | v :: vs =>
    match reference objects v with
    | .error e => (.error e, objects)
    | .ok (id, objects) =>
      let (ids, objects) := references objects vs
      (ids.map (id :: ·), objects)

def signed32 (w : UInt64) : Int := w.toUInt32.toInt32.toInt

/-- Reads the two results of a dispatch. -/
def decode (objects : ObjectTable) : Stack → Bridge.Result
  | kind :: value :: _ =>
    let v := signed32 value
    if signed32 kind = Guest.ResultKind.exception.code then ⟨true, .int v⟩
    else if signed32 kind = Guest.ResultKind.object.code then
      if v = 0 then ⟨false, .null⟩
      else match objects.live? v with
        | some o => ⟨false, o⟩
        | none => ⟨true, .failure (.notFound .invoke "object" (Text.ofInt v))⟩
    else ⟨false, .int v⟩
  | _ => ⟨true, .failure (.invalidInput .invoke "dispatch must return a kind and a value")⟩

def threw (f : Failure) : Reply Bridge.Result := .answer ⟨true, .failure f⟩

/-- Calls the guest by dispatch id. The receiver and the arguments are entered in the table of
objects, and their ids are handed over. -/
def runDispatch (p : Plugin G) (objects : Option ObjectTable) (disp : Int) (this : Value)
    (args : List Value) : Called Bridge.Result G × Option ObjectTable :=
  match p.dispatch, objects with
  | none, _ =>
    ({ reply := threw (.notFound .invoke "export" Guest.dispatchExport), plugin := p }, objects)
  | some _, none => ({ reply := threw (.invalidInput .invoke "no object table bound"), plugin := p }, none)
  | some f, some objects =>
    match references objects (this :: args) with
    | (.error e, objects) => ({ reply := threw e, plugin := p }, some objects)
    | (.ok ids, objects) =>
      let refs := ids.drop 1
      let room := p.room (4 * refs.length)
      match room.reply with
      | .crash t => ({ room with reply := .crash t }, some objects)
      | .failure e => ({ room with reply := threw e }, some objects)
      | .answer base =>
        let c := (room.plugin.writeIds base refs).callGuest f
          [int32Word disp, UInt64.ofNat (word32 ((ids.head?).getD 0)),
            UInt64.ofNat (word32 refs.length), UInt64.ofNat base]
        let reply : Reply Bridge.Result :=
          match c.reply with
          | .answer s => .answer (decode objects s)
          | .failure e => threw (.wrap .invoke .exception (some e) "connector dispatch")
          | .crash t => .crash t
        ({ c with reply, signals := room.signals + c.signals }, some objects)

end Plugin

end PageBoot.Wasm
