import PageBoot.Proofs.Loader.Bookkeeping

/-!
Starts on one page. A start asks the claims of the page whether it is the first, and the first in dev
mode; `bootstrapIf` is the same start with both answers given. Over any starts on a page the answers
are those that their history gives: workarounds are for the first that names a module, the elements
for connectors for the first in dev mode. Of these each has the next number, and their sessions share
one identity, drawn for the first of them (`launches_inOrder`).
-/

namespace PageBoot

open Connector Loader
open Page (ConnectorId)

namespace World

/-! ## Starts with their claims answered -/

/-- Applies workarounds to the page that a start finds, if it is the first. -/
def workAroundIf (first : Bool) (w : World) (module : Text) (mode : Option BootMode)
    (workarounds : Option (List Workaround)) : List Text × World :=
  let w := (w.claim workaroundsClaim).2
  if first then
    let (applied, w) := Workaround.applyAll (workarounds.getD Workaround.standard) w
    (applied, if applied.isEmpty then w
      else w.sayStart module mode .debug "quirks applied" [("quirks", .texts applied)])
  else ([], w)

/-- Writes the elements for connectors, if this is the first start in dev mode and no connector is
built in. -/
def plugInIf (first : Bool) (w : World) : World :=
  let w := (w.claim pluginsClaim).2
  if first && (w.page.global? Finder.nativeGlobal).isNone then
    (w.write embedMarkup).write objectMarkup
  else w

def bootDevIf (first : Bool) (w : World) (name : Text) (o : BootOptions) (r : Booted) :
    Except Failure Booted × World :=
  w.bootDevOn (plugInIf first) name o r

/-- A start of which it is given whether it is the `first` to name a module and the `firstDev` in dev
mode. -/
def bootstrapIf {π : Type} (first firstDev : Bool)
    (make : ModuleDef π → MetaSettings → π → Option (Binding.Provider World)) (w : World)
    (module : Option (ModuleDef π)) (o : BootOptions) : Except Failure Booted × World :=
  bootstrapOn (workAroundIf first) (bootDevIf firstDev) make w module o

theorem workAround_eq (w : World) (module : Text) (mode : Option BootMode)
    (workarounds : Option (List Workaround)) :
    w.workAround module mode workarounds =
      w.workAroundIf (!w.books.worked) module mode workarounds := by
  have hfree : (w.claim workaroundsClaim).1 = !w.books.worked := w.claim_free workaroundsClaim
  simp only [workAround, workAroundIf, hfree]
  cases w.books.worked with
  | true => simp only [Bool.not_true, Bool.false_eq_true, if_false, List.isEmpty_nil, if_true]
  | false => simp only [Bool.not_false, if_true]

theorem plugIn_eq (w : World) : w.plugIn = w.plugInIf (!w.books.plugged) := by
  have hfree : (w.claim pluginsClaim).1 = !w.books.plugged := w.claim_free pluginsClaim
  simp only [plugIn, plugInIf, installPlugins, hfree]
  cases w.books.plugged with
  | true => simp only [Bool.not_true, Bool.false_and, Bool.false_eq_true, if_false]
  | false =>
    cases (w.claim pluginsClaim).2.page.global? Finder.nativeGlobal <;>
      simp only [Bool.not_false, Bool.true_and, Option.isSome_none, Option.isSome_some,
        Option.isNone_none, Option.isNone_some, Bool.false_eq_true, if_false, if_true]

@[simp] theorem books_lookAround (w : World) (name : Text) (o : BootOptions) :
    (w.lookAround name o).2.2.books = w.books := by
  simp only [lookAround]
  cases o.loadError <;> simp only <;> split <;> simp only [books_scriptBase, books_readMetas]

theorem bootDev_eq (w : World) (name : Text) (o : BootOptions) (r : Booted) :
    w.bootDev name o r = w.bootDevIf (!w.books.plugged) name o r := by
  simp only [bootDev, bootDevIf, bootDevOn, plugIn_eq, books_lookAround]

/-! ## What a start enters -/

theorem books_applyAll {qs : List Workaround}
    (hqs : ∀ q ∈ qs, ∀ f, q.apply = some f → Discreet f) (w : World) :
    (Workaround.applyAll qs w).2.books = w.books := by
  induction qs generalizing w with
  | nil => rfl
  | cons q qs ih =>
    obtain ⟨hq, hrest⟩ := List.forall_mem_cons.mp hqs
    unfold Workaround.applyAll
    split
    next applies apply _ happly =>
      split
      · exact (ih hrest (apply w)).trans (hq apply happly w)
      · exact ih hrest w
    · exact ih hrest w

/-- The workarounds that are known change the page alone. -/
theorem standard_discreet :
    ∀ q ∈ Workaround.standard, ∀ f, q.apply = some f → Discreet f := by
  refine List.forall_mem_cons.mpr ⟨?_, List.forall_mem_cons.mpr ⟨?_, List.forall_mem_singleton.mpr ?_⟩⟩
  all_goals
    rintro f h
    obtain rfl := Option.some.inj h
    exact fun _ => rfl

theorem books_workAroundIf {workarounds : Option (List Workaround)}
    (hdiscreet : ∀ qs, workarounds = some qs → ∀ q ∈ qs, ∀ f, q.apply = some f → Discreet f)
    (first : Bool) (w : World) (module : Text) (mode : Option BootMode) :
    (w.workAroundIf first module mode workarounds).2.books = { w.books with worked := true } := by
  have htable : ∀ q ∈ workarounds.getD Workaround.standard, ∀ f, q.apply = some f → Discreet f := by
    cases workarounds with
    | none => exact standard_discreet
    | some qs => exact hdiscreet qs rfl
  have happlied := books_applyAll htable (w.claim workaroundsClaim).2
  rw [books_claim_workarounds] at happlied
  simp only [workAroundIf]
  split
  · split
    · exact happlied
    · simpa only [sayStart, books_say] using happlied
  · exact w.books_claim_workarounds

@[simp] theorem books_plugInIf (first : Bool) (w : World) :
    (w.plugInIf first).books = { w.books with plugged := true } := by
  simp only [plugInIf]
  split <;> simp only [books_write, books_claim_plugins]

/-- A module that is loaded stands behind the others, and what is reported of it is handled. -/
theorem onLoad_enters (w : World) (options : BridgeOptions) (loadError : Option Text) {name : Text}
    (hname : name ≠ []) (base : Text) :
    (w.onLoad options loadError name base).1.module = some w.books.numbers.length ∧
      ∀ f, (w.onLoad options loadError name base).1.failure = some f →
        (f.isConnectionRefused || f.isPluginAbsent) = true := by
  obtain ⟨m, s, u, outcome, reported, -, -, hmodules, -, hends, hsettles⟩ :=
    onLoad_settles w options loadError hname base
  refine ⟨?_, fun f hf => ?_⟩
  · rw [hsettles.module, hmodules]
    simp [books, numbers]
  · rw [← hsettles.failure, hf] at hends
    exact hends.handled

/-- A start in dev mode is entered, and its module stands behind the others. -/
theorem bootDevIf_enters (first : Bool) (w : World) {name : Text} (hname : name ≠ [])
    (o : BootOptions) (r : Booted) :
    ∃ r', (w.bootDevIf first name o r).1 = .ok r' ∧ r'.dev = some w.books.numbers.length ∧
      (w.bootDevIf first name o r).2.books = { w.books with plugged := true }.enter := by
  have hplugged := (w.lookAround name o).2.2.books_plugInIf first
  rw [books_lookAround] at hplugged
  unfold bootDevIf bootDevOn
  generalize w.lookAround name o = looked at hplugged ⊢
  obtain ⟨loadError, base, u⟩ := looked
  simp only at hplugged ⊢
  generalize { o.bridge with sinks := o.sinks ++ o.bridge.sinks } = options
  have hbooks := books_onLoad (u.plugInIf first) options loadError hname base
  obtain ⟨hplace, hhandled⟩ := onLoad_enters (u.plugInIf first) options loadError hname base
  rw [hplugged] at hbooks hplace
  cases hload : (u.plugInIf first).onLoad options loadError name base with
  | mk bridged v =>
    rw [hload] at hbooks hplace hhandled
    cases hfailure : bridged.failure with
    | none => exact ⟨_, rfl, hplace, hbooks⟩
    | some f =>
      simp only [hhandled f hfailure, if_true]
      exact ⟨_, rfl, hplace, hbooks⟩

end World

/-! ## Books after so many starts -/

namespace Identity

theorem length_draw {σ : Type} (source : Source σ) (n : Nat) (s : σ) :
    (draw source n s).1.length = n := by
  induction n generalizing s with
  | zero => rfl
  | succ n ih => exact congrArg (· + 1) (ih _)

/-- Each character is asked for once. -/
theorem asked_draw (n : Nat) (s : Rounds) :
    (draw Rounds.source n s).2.asked = s.asked ++ List.replicate n 94 := by
  induction n generalizing s with
  | zero => exact (List.append_nil _).symm
  | succ n ih =>
    rw [List.replicate_succ, List.append_cons]
    exact ih _

/-- The identity that is drawn from `values`. -/
def ofValues (values : List Int) : Text := (generate Rounds.source { values }).1

theorem ofValues_ne_nil (values : List Int) : ofValues values ≠ [] := by
  have hlength : (ofValues values).length = length := length_draw _ _ _
  intro h
  rw [h] at hlength
  cases hlength

end Identity

namespace Books

/-- The books of a page with draws from `values`, after `n` starts in dev mode. -/
def tally (values : List Int) (n : Nat) (worked plugged : Bool) : Books where
  source := Identity.Rounds.source
  draws := if n = 0 then { values } else (Identity.generate Identity.Rounds.source { values }).2
  identity := if n = 0 then [] else Identity.ofValues values
  count := n
  worked
  plugged
  numbers := List.range' 1 n
  identities := List.replicate n (Identity.ofValues values)

/-- What a start adds to the books. -/
def after (b : Books) (passes dev : Bool) : Books :=
  let b := { b with worked := b.worked || passes }
  if dev then { b with plugged := true }.enter else b

theorem tally_drawn (values : List Int) (n : Nat) (worked plugged : Bool) :
    (tally values n worked plugged).drawn = Identity.generate Identity.Rounds.source { values } := by
  cases n with
  | zero => rfl
  | succ n =>
    have hdrawn : (Identity.ofValues values).isEmpty = false :=
      List.isEmpty_eq_false_iff.mpr (Identity.ofValues_ne_nil values)
    simp only [tally, drawn, Nat.add_one_ne_zero, if_false, hdrawn]
    rfl

theorem tally_enter (values : List Int) (n : Nat) (worked plugged : Bool) :
    (tally values n worked plugged).enter = tally values (n + 1) worked plugged := by
  simp only [enter, tally_drawn]
  simp [tally, Identity.ofValues, List.range'_1_concat, List.replicate_succ', Nat.add_comm]

theorem tally_after (values : List Int) (n : Nat) (worked plugged passes dev : Bool) :
    (tally values n worked plugged).after passes dev =
      tally values (n + if dev then 1 else 0) (worked || passes) (plugged || dev) := by
  cases dev with
  | false => simp [after, tally]
  | true =>
    rw [Bool.or_true]
    exact tally_enter values n (worked || passes) true

end Books

namespace World

theorem books_start (page : Page) (values : List Int) (connectors : List Connector.Script) :
    (start page values connectors).books = Books.tally values 0 false false := rfl

/-! ## Starts one after another -/

variable {π : Type}

/-- A start of a module, after something else happened. -/
structure Launch (π : Type) where
  between : World → World := id
  make : ModuleDef π → MetaSettings → π → Option (Binding.Provider World)
  module : Option (ModuleDef π)
  options : BootOptions := {}

/-- What of a launch is not part of the library keeps away from the books. -/
structure Launch.IsDiscreet (x : Launch π) : Prop where
  between : Discreet x.between
  make : ∀ m settings rule f, x.make m settings rule = some f → Discreet fun w => (f w).2
  workarounds : ∀ qs, x.options.workarounds = some qs → ∀ q ∈ qs, ∀ f, q.apply = some f → Discreet f

/-- There are a page, its state and a module that has a name. -/
def Launch.passes (x : Launch π) : Bool :=
  x.options.hasPage && x.options.hasState && x.module.any fun m => !m.name.isEmpty

/-- What came of a launch. -/
structure Launched (π : Type) where
  launch : Launch π
  before : World
  reply : Except Failure Booted
  after : World

namespace Launched

def passes (o : Launched π) : Bool := o.launch.passes

/-- The module is started in dev mode. -/
def isDev (o : Launched π) : Bool :=
  o.passes && o.before.settleMode o.launch.options.mode == some .dev

end Launched

def launch (w : World) (x : Launch π) : Launched π where
  launch := x
  before := x.between w
  reply := ((x.between w).bootstrapBy x.make x.module x.options).1
  after := ((x.between w).bootstrapBy x.make x.module x.options).2

def launches : World → List (Launch π) → List (Launched π)
  | _, [] => []
  | w, x :: xs => w.launch x :: (w.launch x).after.launches xs

/-- What a launch comes to behind those of `front`, on a page with draws from `values`: its one-time
set-up, its module if it is in dev mode, and what is on the page then. -/
structure Launched.InOrder (values : List Int) (front : List (Launched π)) (o : Launched π) : Prop where
  setUp : (o.reply, o.after) = o.before.bootstrapIf (!front.any (·.passes)) (!front.any (·.isDev))
    o.launch.make o.launch.module o.launch.options
  module : o.isDev = true → ∃ r m s, o.reply = .ok r ∧ r.dev = some (front.countP (·.isDev)) ∧
    o.after.modules[front.countP (·.isDev)]? = some m ∧ m.number = front.countP (·.isDev) + 1 ∧
    o.after.sessions[m.session]? = some s ∧ s.id = Identity.ofValues values
  numbers : o.after.numbers = List.range' 1 ((front ++ [o]).countP (·.isDev))
  identities : o.after.sessions.map (·.id) =
    List.replicate ((front ++ [o]).countP (·.isDev)) (Identity.ofValues values)
  asked : o.after.state.draws.asked =
    if (front ++ [o]).countP (·.isDev) = 0 then [] else List.replicate 16 94

theorem Launch.passes_iff {x : Launch π} :
    x.passes = true ↔ x.options.hasPage = true ∧ x.options.hasState = true ∧
      ∃ m, x.module = some m ∧ m.name ≠ [] := by
  unfold Launch.passes
  cases x.module <;> simp [and_assoc]

/-- The claims of a page answer as the books say. -/
theorem bootstrapBy_eq {x : Launch π} (hx : x.IsDiscreet) (w : World) :
    w.bootstrapBy x.make x.module x.options =
      w.bootstrapIf (!w.books.worked) (!w.books.plugged) x.make x.module x.options := by
  simp only [bootstrapBy, bootstrapIf, bootstrapOn]
  cases x.module.filter fun m => !m.name.isEmpty with
  | none => rfl
  | some m =>
    have hbooks := books_workAroundIf hx.workarounds (!w.books.worked) w m.name
      (w.settleMode x.options.mode)
    simp only [workAround_eq]
    generalize w.workAroundIf (!w.books.worked) m.name (w.settleMode x.options.mode)
      x.options.workarounds = start at hbooks
    obtain ⟨applied, u⟩ := start
    -- workarounds keep off the claim for the elements, so it answers as it would have before
    have hplugged : u.books.plugged = w.books.plugged := by
      simp only at hbooks
      rw [hbooks]
    have hdev (r : Booted) : u.bootDev m.name x.options r =
        u.bootDevIf (!w.books.plugged) m.name x.options r := by
      rw [bootDev_eq, hplugged]
    cases w.settleMode x.options.mode with
    | none => rfl
    | some mode =>
      cases mode with
      | auto => rfl
      | compiled => rfl
      | dev => exact hdev _ ▸ rfl

/-! ## What a launch enters -/

section

variable {x : Launch π} {w : World} (first firstDev : Bool)

/-- A launch that does not pass changes nothing. -/
theorem bootstrapIf_refused (hpasses : x.passes = false) :
    (w.bootstrapIf first firstDev x.make x.module x.options).2 = w := by
  simp only [bootstrapIf, bootstrapOn]
  cases hpage : x.options.hasPage with
  | false => rfl
  | true =>
    cases hstate : x.options.hasState with
    | false => rfl
    | true =>
      have hmodule : (x.module.filter fun m => !m.name.isEmpty) = none := by
        rw [Launch.passes, hpage, hstate, Bool.true_and, Bool.true_and] at hpasses
        cases hm : x.module <;> simp_all
      simp [hmodule]

theorem bootstrapIf_dev (hx : x.IsDiscreet) (hpasses : x.passes = true)
    (hmode : w.settleMode x.options.mode = some .dev) :
    ∃ r, (w.bootstrapIf first firstDev x.make x.module x.options).1 = .ok r ∧
      r.dev = some w.books.numbers.length ∧
      (w.bootstrapIf first firstDev x.make x.module x.options).2.books = w.books.after true true := by
  obtain ⟨hpage, hstate, m, hmodule, hname⟩ := Launch.passes_iff.mp hpasses
  simp only [bootstrapIf, bootstrapOn, hpage, hstate, hmodule, hmode, Option.filter_some,
    List.isEmpty_eq_false_iff.mpr hname, Bool.not_true, Bool.not_false, Bool.false_eq_true, if_false,
    if_true]
  have hbooks := books_workAroundIf hx.workarounds first w m.name (some .dev)
  generalize w.workAroundIf first m.name (some .dev) x.options.workarounds = start at hbooks
  obtain ⟨applied, u⟩ := start
  simp only at hbooks
  obtain ⟨r, hok, hplace, hentered⟩ := bootDevIf_enters firstDev u hname x.options
    { mode := .dev, workarounds := applied }
  rw [hbooks] at hplace hentered
  cases hboot : u.bootDevIf firstDev m.name x.options { mode := .dev, workarounds := applied } with
  | mk reply v =>
    rw [hboot] at hok hentered
    simp only at hok hentered
    subst hok
    refine ⟨r, rfl, hplace, ?_⟩
    -- what is said of a handshake that did not come about is not in the books
    simp only [Books.after, Bool.or_true, if_true]
    split <;> simpa only [sayStart, books_say] using hentered

theorem bootstrapIf_other (hx : x.IsDiscreet) (hpasses : x.passes = true)
    (hmode : w.settleMode x.options.mode ≠ some .dev) :
    (w.bootstrapIf first firstDev x.make x.module x.options).2.books = w.books.after true false := by
  obtain ⟨hpage, hstate, m, hmodule, hname⟩ := Launch.passes_iff.mp hpasses
  simp only [bootstrapIf, bootstrapOn, hpage, hstate, hmodule, Option.filter_some,
    List.isEmpty_eq_false_iff.mpr hname, Bool.not_true, Bool.not_false, Bool.false_eq_true, if_false,
    if_true]
  generalize w.settleMode x.options.mode = mode at hmode
  have hbooks := books_workAroundIf hx.workarounds first w m.name mode
  generalize w.workAroundIf first m.name mode x.options.workarounds = start at hbooks
  obtain ⟨applied, u⟩ := start
  simp only at hbooks
  have hselected := books_selectBy (hx.make m) u m x.options.selection
  rw [hbooks] at hselected
  simp only [Books.after, Bool.or_true]
  split
  · exact absurd rfl hmode
  · cases hselect : u.selectBy (x.make m) m x.options.selection with
    | mk reply v =>
      rw [hselect] at hselected
      cases reply <;> exact hselected
  · exact hbooks

theorem books_bootstrapIf (hx : x.IsDiscreet) :
    (w.bootstrapIf first firstDev x.make x.module x.options).2.books = w.books.after x.passes
      (x.passes && w.settleMode x.options.mode == some .dev) := by
  cases hpasses : x.passes with
  | false =>
    rw [bootstrapIf_refused first firstDev hpasses]
    simp [Books.after]
  | true =>
    rw [Bool.true_and]
    by_cases hmode : w.settleMode x.options.mode = some .dev
    · obtain ⟨-, -, -, hbooks⟩ := bootstrapIf_dev first firstDev hx hpasses hmode
      rw [hbooks, hmode]
      rfl
    · rw [bootstrapIf_other first firstDev hx hpasses hmode, beq_false_of_ne hmode]

end

/-! ## Any history -/

section

variable {values : List Int} {w : World} {front : List (Launched π)} {x : Launch π}

/-- The books of a page after the launches of `front`. -/
def Follows (values : List Int) (front : List (Launched π)) (w : World) : Prop :=
  w.books = Books.tally values (front.countP (·.isDev)) (front.any (·.passes)) (front.any (·.isDev))

/-- A module has the number of its place. -/
theorem number_of_place {n i : Nat} {m : DevModule} (hnumbers : w.numbers = List.range' 1 n)
    (hm : w.modules[i]? = some m) : m.number = i + 1 := by
  have hnumber : w.numbers[i]? = some m.number := by
    rw [numbers, List.getElem?_map, hm]
    rfl
  rw [hnumbers] at hnumber
  obtain ⟨hi, hnext⟩ := List.getElem?_eq_some_iff.mp hnumber
  rw [List.getElem_range'] at hnext
  omega

theorem identity_of_place {n j : Nat} {s : Session ConnectorId Recovery} {id : Text}
    (hids : w.sessions.map (·.id) = List.replicate n id) (hs : w.sessions[j]? = some s) :
    s.id = id := by
  have hmem : s.id ∈ w.sessions.map (·.id) := List.mem_map_of_mem (List.mem_of_getElem? hs)
  rw [hids] at hmem
  exact List.eq_of_mem_replicate hmem

/-- One launch, and what the next one finds. -/
theorem Follows.launch (h : Follows values front w) (hx : x.IsDiscreet) :
    Follows values front (w.launch x).before ∧
      Follows values (front ++ [w.launch x]) (w.launch x).after := by
  have hbefore : (x.between w).books = _ := (hx.between w).trans h
  have hafter := books_bootstrapIf (w := x.between w) (!(x.between w).books.worked)
    (!(x.between w).books.plugged) hx
  rw [← bootstrapBy_eq hx, hbefore, Books.tally_after] at hafter
  refine ⟨hbefore, ?_⟩
  unfold Follows
  rw [List.countP_append, List.countP_singleton, List.any_append, List.any_append]
  simp only [List.any_cons, List.any_nil, Bool.or_false]
  exact hafter

/-- The module of a launch in dev mode has the next number and a session with the one identity. -/
theorem Follows.module (h : Follows values front w) (hx : x.IsDiscreet)
    (hdev : (w.launch x).isDev = true) :
    ∃ r m s, (w.launch x).reply = .ok r ∧ r.dev = some (front.countP (·.isDev)) ∧
      (w.launch x).after.modules[front.countP (·.isDev)]? = some m ∧
      m.number = front.countP (·.isDev) + 1 ∧
      (w.launch x).after.sessions[m.session]? = some s ∧ s.id = Identity.ofValues values := by
  obtain ⟨hbefore, hafter⟩ := h.launch hx
  obtain ⟨hpasses, hmode⟩ := Bool.and_eq_true_iff.mp hdev
  have hmode : (x.between w).settleMode x.options.mode = some .dev := eq_of_beq hmode
  obtain ⟨hpage, hstate, m, hmodule, hname⟩ := Launch.passes_iff.mp hpasses
  obtain ⟨r, hreply, hplace, -⟩ := bootstrapIf_dev (w := x.between w) (!(x.between w).books.worked)
    (!(x.between w).books.plugged) hx hpasses hmode
  rw [← bootstrapBy_eq hx] at hreply
  have hcount : (x.between w).books.numbers.length = front.countP (·.isDev) := by
    rw [show (x.between w).books = _ from hbefore, Books.tally, List.length_range']
  rw [hcount] at hplace
  obtain ⟨r', hreply', j, m', s, hj, hm', -, hs, -⟩ :
      ∃ r', ((x.between w).bootstrapBy x.make (some m) x.options).1 = .ok r' ∧ _ :=
    bootstrapBy_dev hpage hstate hname hmode
  rw [← hmodule] at hreply' hm' hs
  obtain rfl : r = r' := Except.ok.inj (hreply.symm.trans hreply')
  obtain rfl : front.countP (·.isDev) = j := Option.some.inj (hplace.symm.trans hj)
  exact ⟨r, m', s, hreply, hplace, hm', number_of_place (congrArg Books.numbers hafter) hm', hs,
    identity_of_place (congrArg Books.identities hafter) hs⟩

theorem Follows.inOrder (h : Follows values front w) (hx : x.IsDiscreet) :
    (w.launch x).InOrder values front := by
  obtain ⟨hbefore, hafter⟩ := h.launch hx
  have hworked : (x.between w).books.worked = front.any (·.passes) := congrArg Books.worked hbefore
  have hplugged : (x.between w).books.plugged = front.any (·.isDev) := congrArg Books.plugged hbefore
  refine ⟨?_, h.module hx, congrArg Books.numbers hafter, congrArg Books.identities hafter, ?_⟩
  · rw [← hworked, ← hplugged]
    exact bootstrapBy_eq hx (x.between w)
  · have hdraws : (w.launch x).after.state.draws = _ := congrArg Books.draws hafter
    rw [hdraws, Books.tally]
    split
    · rfl
    · exact Identity.asked_draw 16 { values }

/-- By induction over the launches, of which those in `front` came before. -/
theorem Follows.launches {xs : List (Launch π)} (h : Follows values front w)
    (hxs : ∀ x ∈ xs, x.IsDiscreet) {behind back : List (Launched π)} {o : Launched π}
    (ho : w.launches xs = behind ++ o :: back) : o.InOrder values (front ++ behind) := by
  induction xs generalizing w front behind with
  | nil => simp [launches] at ho
  | cons x xs ih =>
    obtain ⟨hx, hrest⟩ := List.forall_mem_cons.mp hxs
    cases behind with
    | nil =>
      obtain ⟨rfl, -⟩ := List.cons.inj ho
      rw [List.append_nil]
      exact h.inOrder hx
    | cons first behind =>
      obtain ⟨rfl, hothers⟩ := List.cons.inj ho
      have hlater := ih (h.launch hx).2 hrest hothers
      rwa [List.append_assoc] at hlater

end

/-- **Starts on one page keep order.** Whatever modules are started on a page, in whatever modes and
with whatever outcome, workarounds are applied by the first start that passes, and the elements for
connectors are written by the first in dev mode unless a connector is built in then. Modules in dev
mode are numbered from one on, and their sessions have one identity. Its source is asked sixteen times
by the first of them, and never otherwise. -/
theorem launches_inOrder (page : Page) (values : List Int) (connectors : List Connector.Script)
    {xs : List (Launch π)} (hxs : ∀ x ∈ xs, x.IsDiscreet) {front back : List (Launched π)}
    {o : Launched π} (ho : (start page values connectors).launches xs = front ++ o :: back) :
    o.InOrder values front := by
  have hstart : Follows values ([] : List (Launched π)) (start page values connectors) :=
    books_start page values connectors
  exact hstart.launches hxs ho

/-- A page with one connector, under the global `a`. -/
def jetty : World :=
  .start {
    dom := {
      document := .tree 1 (.element "html" []) (.tree 2 (.element "head" []) ++ .tree 3 (.element "body" []))
      next := 4 }
    head := 2, body := 3, location := {}, userAgent := "Chrome"
    globals := [([97], .connector 0)] } [5] [{ name := "a" }]

def jettyLaunch (module : Option (ModuleDef ValueRule)) (options : BootOptions) : Launch ValueRule :=
  { make := provider, module, options }

/-- A start without a module, one as compiled of a module with no variant for its value, one in dev
mode that finds no connector, one in no mode, and one in dev mode through the connector. -/
def jettyLaunches : List (Launch ValueRule) :=
  let lacking : ModuleDef ValueRule := {
    name := "m"
    properties := [{ name := "p", values := ["v"], provider := some (.constant "v") }] }
  [jettyLaunch none {}, jettyLaunch (some lacking) { mode := 1 },
    jettyLaunch (some { name := "n" }) { mode := 2 }, jettyLaunch (some { name := "n" }) { mode := 7 },
    jettyLaunch (some { name := "k" }) { mode := 2, bridge := { finders := [.global [97]] } }]

def jettyLast : Launched ValueRule := (jetty.launches jettyLaunches).getLast (List.cons_ne_nil _ _)

theorem launches_inOrder_jetty :
    (∀ x ∈ jettyLaunches, x.IsDiscreet) ∧
      jetty.launches jettyLaunches = (jetty.launches jettyLaunches).dropLast ++ [jettyLast] ∧
      jettyLast.isDev = true ∧ jettyLast.after.numbers = [1, 2] ∧
      jettyLast.after.sessions.map (·.id) = [List.replicate 16 38, List.replicate 16 38] ∧
      jettyLast.after.state.draws.asked = List.replicate 16 94 := by
  have hdiscreet : ∀ x ∈ jettyLaunches, x.IsDiscreet := by
    have hone (module : Option (ModuleDef ValueRule)) {options : BootOptions}
        (hnone : options.workarounds = none) : (jettyLaunch module options).IsDiscreet := by
      refine ⟨fun _ => rfl, fun m settings rule f hf => ?_, fun qs hqs => ?_⟩
      · obtain rfl := Option.some.inj hf
        exact fun _ => rfl
      · cases hnone.symm.trans hqs
    simp [jettyLaunches, hone]
  have hlast : jetty.launches jettyLaunches = (jetty.launches jettyLaunches).dropLast ++ [jettyLast] :=
    (List.dropLast_concat_getLast (List.cons_ne_nil _ _)).symm
  have hinOrder := launches_inOrder _ _ _ hdiscreet hlast
  have hcount : (jetty.launches jettyLaunches).countP (·.isDev) = 2 := by decide +kernel
  rw [hlast] at hcount
  have hnumbers := hinOrder.numbers
  have hidentities := hinOrder.identities
  have hasked := hinOrder.asked
  rw [hcount] at hnumbers hidentities hasked
  have hidentity : Identity.ofValues [5] = List.replicate 16 38 := by decide
  refine ⟨hdiscreet, hlast, by decide +kernel, hnumbers, ?_, hasked⟩
  rw [hidentities, hidentity]
  rfl

end World

end PageBoot
