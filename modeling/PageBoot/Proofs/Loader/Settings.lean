import PageBoot.Proofs.Loader.Reading
import PageBoot.Proofs.Text.Searching

/-!
Settings and the metas that they come from. A property's value, and a handler of either kind, is what
the last meta says that says anything of it. A meta that names a handler which the page does not offer
is reported and does nothing else, so it takes nothing back (`metas_settle`).
-/

namespace PageBoot.Loader

/-! ## Handlers -/

/-- The two kinds of handlers that a page may name. -/
inductive HandlerKind where
  | property
  | load
  deriving DecidableEq

namespace HandlerKind

/-- The name of the metas that name a handler of this kind. -/
def metaName : HandlerKind → Text
  | property => MetaSettings.propertyErrorName
  | load => MetaSettings.loadErrorName

/-- The handlers of this kind that a page offers. -/
def offered (table : HandlerTable) : HandlerKind → List Text
  | property => table.property
  | load => table.load

/-- The handler of this kind that was chosen. -/
def chosen? (s : MetaSettings) : HandlerKind → Option Text
  | property => s.propertyError
  | load => s.loadError

/-- The settings with another handler of this kind. -/
def choose (s : MetaSettings) (handler : Text) : HandlerKind → MetaSettings
  | property => { s with propertyError := some handler }
  | load => { s with loadError := some handler }

theorem metaName_injective {k l : HandlerKind} (h : k.metaName = l.metaName) : k = l := by
  cases k <;> cases l <;> first | rfl | exact absurd h (by decide)

theorem chosen?_choose (s : MetaSettings) (handler : Text) (k l : HandlerKind) :
    l.chosen? (k.choose s handler) = if k = l then some handler else l.chosen? s := by
  cases k <;> cases l <;> rfl

end HandlerKind

namespace MetaSettings

variable {table : HandlerTable} {s : MetaSettings} {entry : Text × Text}

/-! ## What an entry says -/

/-- The entry gives a property a value. Its contents are the name, `=` and the value, or the name alone
for an empty value. -/
structure Assigns (entry : Text × Text) (name value : Text) : Prop where
  isProperty : entry.1 = propertyName
  filled : entry.2 ≠ []
  plain : 61 ∉ name
  contents : entry.2 = name ++ 61 :: value ∨ entry.2 = name ∧ value = []

/-- The entry names a handler that the page offers, maybe with blanks around it. -/
structure Names (table : HandlerTable) (kind : HandlerKind) (entry : Text × Text) (handler : Text) :
    Prop where
  isKind : entry.1 = kind.metaName
  filled : entry.2 ≠ []
  trimmed : entry.2.trim = handler
  offered : handler ∈ kind.offered table

/-- The entry names a handler that the page does not offer. -/
def Strays (table : HandlerTable) (entry : Text × Text) : Prop :=
  entry.2 ≠ [] ∧ ∃ kind : HandlerKind, entry.1 = kind.metaName ∧ entry.2.trim ∉ kind.offered table

instance : DecidablePred (Strays table) := fun entry =>
  decidable_of_iff
    (entry.2 ≠ [] ∧ (entry.1 = propertyErrorName ∧ entry.2.trim ∉ table.property ∨
      entry.1 = loadErrorName ∧ entry.2.trim ∉ table.load))
    (and_congr_right fun _ =>
      ⟨fun h => h.elim (⟨.property, ·⟩) (⟨.load, ·⟩), fun
        | ⟨.property, h⟩ => .inl h
        | ⟨.load, h⟩ => .inr h⟩)

/-- The failure that tells of a handler which the page does not offer. -/
def unknownHandler (entry : Text × Text) : Failure :=
  .configParse entry.1 entry.2 (some (.notFound .config "handler" entry.2.trim))

/-- What the user is told of it. -/
def handlerNotice (entry : Text × Text) : Text :=
  "Bad handler " ++ Text.quote entry.2 ++ " for " ++ Text.quote entry.1

theorem assignment?_eq_some {name value : Text} :
    Visit.assignment? entry = some (name, value) ↔ Assigns entry name value := by
  obtain ⟨kind, contents⟩ := entry
  simp only [Visit.assignment?, Option.ite_none_right_eq_some, Option.some.injEq, Prod.mk.injEq]
  constructor
  · rintro ⟨⟨hkind, hfilled⟩, hname, hvalue⟩
    obtain ⟨a, rest, hsplit, ha, hrest⟩ := Text.exists_cut 61 contents
    rcases hrest with rfl | ⟨u, rfl⟩
    · rw [hsplit, List.append_nil, Text.cut_of_not_mem ha] at hname hvalue
      subst hname hvalue
      exact ⟨hkind, hfilled, ha, .inr ⟨by simpa using hsplit, rfl⟩⟩
    · rw [hsplit, Text.cut_append ha] at hname hvalue
      subst hname hvalue
      exact ⟨hkind, hfilled, ha, .inl hsplit⟩
  · rintro ⟨hkind, hfilled, hplain, hcontents⟩
    refine ⟨⟨hkind, hfilled⟩, ?_⟩
    rcases hcontents with hboth | ⟨halone, rfl⟩
    · simp only at hboth
      rw [hboth, Text.cut_append hplain]
      exact ⟨rfl, rfl⟩
    · simp only at halone
      rw [halone, Text.cut_of_not_mem hplain]
      exact ⟨rfl, rfl⟩

theorem Names.unique {k l : HandlerKind} {g h : Text} (hk : Names table k entry g)
    (hl : Names table l entry h) : k = l ∧ g = h :=
  ⟨HandlerKind.metaName_injective (hk.isKind.symm.trans hl.isKind), hk.trimmed.symm.trans hl.trimmed⟩

theorem Names.not_strays {k : HandlerKind} {h : Text} (hk : Names table k entry h) :
    ¬ Strays table entry := by
  rintro ⟨-, l, hl, hmissing⟩
  obtain rfl := HandlerKind.metaName_injective (hk.isKind.symm.trans hl)
  exact hmissing (hk.trimmed ▸ hk.offered)

/-! ## One entry -/

/-- What an entry can do to settings. -/
inductive Effect (table : HandlerTable) (entry : Text × Text) (s : MetaSettings) : MetaSettings → Prop
  | names {kind : HandlerKind} {handler : Text} (h : Names table kind entry handler) :
      Effect table entry s (kind.choose s handler)
  | strays (h : Strays table entry) : Effect table entry s (s.badHandler entry.1 entry.2)
  | other (properties : Dict Text) (hnames : ∀ kind handler, ¬ Names table kind entry handler)
      (hstrays : ¬ Strays table entry) : Effect table entry s { s with properties }

theorem add_of_kind (table : HandlerTable) (s : MetaSettings) (kind : HandlerKind) {contents : Text}
    (hfilled : contents ≠ []) :
    s.add table (kind.metaName, contents) =
      if contents.trim ∈ kind.offered table then kind.choose s contents.trim
      else s.badHandler kind.metaName contents := by
  have hproperty : propertyErrorName ≠ propertyName := by decide
  have hload : loadErrorName ≠ propertyName ∧ loadErrorName ≠ propertyErrorName := by decide
  cases kind with
  | property =>
    by_cases hoffered : contents.trim ∈ table.property <;>
      simp [add, HandlerKind.metaName, HandlerKind.offered, HandlerKind.choose, hfilled, hproperty, hoffered]
  | load =>
    by_cases hoffered : contents.trim ∈ table.load <;>
      simp [add, HandlerKind.metaName, HandlerKind.offered, HandlerKind.choose, hfilled, hload, hoffered]

/-- An entry that is empty, or names no kind of handlers, gives values to properties at most. -/
theorem exists_add_of_other (table : HandlerTable) (s : MetaSettings)
    (h : entry.2 = [] ∨ ∀ kind : HandlerKind, entry.1 ≠ kind.metaName) :
    ∃ properties, s.add table entry = { s with properties } := by
  obtain ⟨name, contents⟩ := entry
  by_cases hempty : contents = []
  · exact ⟨s.properties, by simp [add, hempty]⟩
  have hother := h.resolve_left hempty
  have hproperty : name ≠ propertyErrorName := hother .property
  have hload : name ≠ loadErrorName := hother .load
  by_cases hname : name = propertyName
  · exact ⟨s.properties.set (contents.cut 61).1 ((contents.cut 61).2.getD []), by
      simp [add, hempty, hname]⟩
  · exact ⟨s.properties, by simp [add, hempty, hname, hproperty, hload]⟩

theorem effect_add (table : HandlerTable) (s : MetaSettings) (entry : Text × Text) :
    Effect table entry s (s.add table entry) := by
  by_cases hkind : entry.2 ≠ [] ∧ ∃ kind : HandlerKind, entry.1 = kind.metaName
  · obtain ⟨hfilled, kind, hname⟩ := hkind
    have hadd := add_of_kind table s kind hfilled
    rw [← hname] at hadd
    rw [hadd]
    split
    · next hoffered => exact .names ⟨hname, hfilled, rfl, hoffered⟩
    · next hmissing => exact .strays ⟨hfilled, kind, hname, hmissing⟩
  · have hother : entry.2 = [] ∨ ∀ kind : HandlerKind, entry.1 ≠ kind.metaName := by
      rw [not_and_or, not_not, not_exists] at hkind
      exact hkind
    obtain ⟨properties, hadd⟩ := exists_add_of_other table s hother
    rw [hadd]
    refine .other properties ?_ ?_
    · intro kind handler h
      exact hkind ⟨h.filled, kind, h.isKind⟩
    · rintro ⟨hfilled, kind, hname, -⟩
      exact hkind ⟨hfilled, kind, hname⟩

theorem property?_add_eq_some {name value : Text} :
    (s.add table entry).property? name = some value ↔
      Assigns entry name value ∨ (∀ u, ¬ Assigns entry name u) ∧ s.property? name = some value := by
  simp only [← assignment?_eq_some]
  cases h : Visit.assignment? entry with
  | none => simp [property?_add_of_none h]
  | some a =>
    rw [property?_add_of_some h]
    by_cases ha : a.1 = name
    · simp [← ha, Prod.ext_iff]
    · simp [ha, Prod.ext_iff]

theorem chosen?_add_eq_some {kind : HandlerKind} {handler : Text} :
    kind.chosen? (s.add table entry) = some handler ↔
      Names table kind entry handler ∨
        (∀ h, ¬ Names table kind entry h) ∧ kind.chosen? s = some handler := by
  have heffect := effect_add table s entry
  generalize s.add table entry = after at heffect ⊢
  cases heffect with
  | @names k h hk =>
    rw [HandlerKind.chosen?_choose]
    split
    · next hsame =>
      subst hsame
      constructor
      · rintro ⟨rfl⟩
        exact .inl hk
      · rintro (hnamed | ⟨hnone, -⟩)
        · rw [(hk.unique hnamed).2]
        · exact absurd hk (hnone h)
    · next hne =>
      have hnone : ∀ g, ¬ Names table kind entry g := fun g hg => hne (hk.unique hg).1
      simp [hnone]
  | strays h =>
    have hnone : ∀ g, ¬ Names table kind entry g := fun g hg => hg.not_strays h
    cases kind <;> simp [hnone, badHandler, HandlerKind.chosen?]
  | other properties hnames hstrays =>
    cases kind <;> simp [hnames, HandlerKind.chosen?]

theorem reports_add (table : HandlerTable) (s : MetaSettings) (entry : Text × Text) :
    (s.add table entry).warnings = s.warnings ++ ([entry].filter (Strays table)).map unknownHandler ∧
      (s.add table entry).alerts = s.alerts ++ ([entry].filter (Strays table)).map handlerNotice := by
  have heffect := effect_add table s entry
  generalize s.add table entry = after at heffect ⊢
  cases heffect with
  | @names kind handler h => cases kind <;> simp [h.not_strays, HandlerKind.choose]
  | strays h => simp [h, badHandler, unknownHandler, handlerNotice]
  | other properties hnames hstrays => simp [hstrays]

/-! ## All entries -/

/-- The last entry that says anything says `b`. -/
def LastSays {β : Type} (Says : Text × Text → β → Prop) (metas : List (Text × Text)) (b : β) : Prop :=
  ∃ front entry back, metas = front ++ entry :: back ∧ Says entry b ∧ ∀ later ∈ back, ∀ c, ¬ Says later c

section LastSays

variable {β : Type} {Says : Text × Text → β → Prop} {metas : List (Text × Text)} {b : β}

theorem lastSays_concat : LastSays Says (metas ++ [entry]) b ↔
    Says entry b ∨ (∀ c, ¬ Says entry c) ∧ LastSays Says metas b := by
  constructor
  · rintro ⟨front, e, back, hmetas, hsaid, hsilent⟩
    rcases List.eq_nil_or_concat back with rfl | ⟨middle, last, rfl⟩
    · obtain ⟨-, rfl⟩ := List.append_inj' hmetas rfl |>.imp id (List.cons.inj · |>.1)
      exact .inl hsaid
    · rw [List.concat_eq_append, ← List.cons_append, ← List.append_assoc] at hmetas
      obtain ⟨rfl, hlast⟩ := List.append_inj' hmetas rfl
      obtain rfl := (List.cons.inj hlast).1
      exact .inr ⟨hsilent entry (by simp), front, e, middle, rfl, hsaid, fun y hy => hsilent y (by simp [hy])⟩
  · rintro (hsaid | ⟨hnone, front, e, back, rfl, hsaid, hsilent⟩)
    · exact ⟨metas, entry, [], rfl, hsaid, nofun⟩
    · refine ⟨front, e, back ++ [entry], by simp, hsaid, ?_⟩
      intro later hlater
      rcases List.mem_append.mp hlater with hback | hentry
      · exact hsilent later hback
      · rw [List.mem_singleton.mp hentry]
        exact hnone

/-- If an entry says anything, there is a last one that does. -/
theorem exists_lastSays (h : ∃ e ∈ metas, ∃ c, Says e c) : ∃ b, LastSays Says metas b := by
  induction metas using List.reverseRecOn with
  | nil => simp at h
  | append_singleton metas entry ih =>
    by_cases hsaid : ∃ c, Says entry c
    · obtain ⟨c, hc⟩ := hsaid
      exact ⟨c, lastSays_concat.mpr (.inl hc)⟩
    · obtain ⟨e, he, hearlier⟩ := h
      rcases List.mem_append.mp he with hmetas | hentry
      · obtain ⟨b, hb⟩ := ih ⟨e, hmetas, hearlier⟩
        exact ⟨b, lastSays_concat.mpr (.inr ⟨not_exists.mp hsaid, hb⟩)⟩
      · rw [List.mem_singleton.mp hentry] at hearlier
        exact absurd hearlier hsaid

/-- What each entry settles, unless it says nothing, the last entry that says anything settles. -/
theorem ofMetas_lastSays (table : HandlerTable) (get : MetaSettings → Option β) (hempty : get {} = none)
    (hstep : ∀ s entry b, get (s.add table entry) = some b ↔
      Says entry b ∨ (∀ c, ¬ Says entry c) ∧ get s = some b) (metas : List (Text × Text)) :
    (∀ b, get (ofMetas table metas) = some b ↔ LastSays Says metas b) ∧
      (get (ofMetas table metas) = none ↔ ∀ entry ∈ metas, ∀ b, ¬ Says entry b) := by
  have hsome (b : β) : get (ofMetas table metas) = some b ↔ LastSays Says metas b := by
    induction metas using List.reverseRecOn generalizing b with
    | nil => simp [ofMetas, hempty, LastSays]
    | append_singleton metas entry ih =>
      have hlast : ofMetas table (metas ++ [entry]) = (ofMetas table metas).add table entry := by
        simp [ofMetas]
      rw [hlast, hstep, lastSays_concat, ih]
  refine ⟨hsome, ?_⟩
  constructor
  · intro hnone entry hentry b hb
    obtain ⟨c, hc⟩ := exists_lastSays ⟨entry, hentry, b, hb⟩
    rw [← hsome, hnone] at hc
    cases hc
  · intro hsilent
    rw [Option.eq_none_iff_forall_ne_some]
    intro b hb
    obtain ⟨front, entry, back, rfl, hsaid, -⟩ := (hsome b).mp hb
    exact hsilent entry (by simp) b hsaid

end LastSays

theorem reports_ofMetas (table : HandlerTable) (metas : List (Text × Text)) :
    (ofMetas table metas).warnings = (metas.filter (Strays table)).map unknownHandler ∧
      (ofMetas table metas).alerts = (metas.filter (Strays table)).map handlerNotice := by
  induction metas using List.reverseRecOn with
  | nil => exact ⟨rfl, rfl⟩
  | append_singleton metas entry ih =>
    obtain ⟨hwarnings, halerts⟩ := reports_add table (ofMetas table metas) entry
    have hlast : ofMetas table (metas ++ [entry]) = (ofMetas table metas).add table entry := by
      simp [ofMetas]
    rw [hlast, hwarnings, halerts, ih.1, ih.2, List.filter_append, List.map_append, List.map_append]
    exact ⟨rfl, rfl⟩

theorem isConfigParse_unknownHandler (entry : Text × Text) : (unknownHandler entry).isConfigParse = true :=
  rfl

/-! ## The page -/

theorem foldl_alert (w : World) (messages : List Text) :
    messages.foldl (fun w a => w.onPage (·.alert a)) w =
      w.onPage fun p => { p with alerts := p.alerts ++ messages } := by
  induction messages generalizing w with
  | nil => simp [World.onPage]
  | cons message messages ih =>
    rw [List.foldl_cons, ih]
    simp [World.onPage, Page.alert]

/-- **What a page's metas settle.** A property has the value that the last meta with a value for it
gives, and a handler of either kind is what the last meta names that names one which the page offers; so
a meta with an unknown handler takes nothing back. Each such meta is reported once, in document order,
as a warning and to the user. Reading a page's metas does this to the page, and no more. -/
theorem metas_settle (table : HandlerTable) (metas : List (Text × Text)) :
    let s := ofMetas table metas
    (∀ name, (∀ value, s.property? name = some value ↔ LastSays (Assigns · name) metas value) ∧
      (s.property? name = none ↔ ∀ entry ∈ metas, ∀ value, ¬ Assigns entry name value)) ∧
    (∀ kind : HandlerKind,
      (∀ handler, kind.chosen? s = some handler ↔ LastSays (Names table kind) metas handler) ∧
      (kind.chosen? s = none ↔ ∀ entry ∈ metas, ∀ handler, ¬ Names table kind entry handler)) ∧
    (∀ entry, Strays table entry → ∀ kind : HandlerKind,
      kind.chosen? (ofMetas table (metas ++ [entry])) = kind.chosen? s) ∧
    s.warnings = (metas.filter (Strays table)).map unknownHandler ∧
    (∀ f ∈ s.warnings, f.isConfigParse = true) ∧
    s.alerts = (metas.filter (Strays table)).map handlerNotice ∧
    ∀ w : World, w.readMetas table = (ofMetas table w.page.metas,
      w.onPage fun p => { p with alerts := p.alerts ++ (ofMetas table w.page.metas).alerts }) := by
  intro s
  obtain ⟨hwarnings, halerts⟩ := reports_ofMetas table metas
  have hchosen (metas : List (Text × Text)) (kind : HandlerKind) :=
    ofMetas_lastSays table (fun s => kind.chosen? s) (by cases kind <;> rfl)
      (fun s entry handler => chosen?_add_eq_some) metas
  refine ⟨?_, hchosen metas, ?_, hwarnings, ?_, halerts, ?_⟩
  · intro name
    exact ofMetas_lastSays table (fun s => s.property? name) rfl
      (fun s entry value => property?_add_eq_some) metas
  · intro entry hstrays kind
    have hnone : ∀ handler, ¬ Names table kind entry handler := fun _ h => h.not_strays hstrays
    apply Option.ext
    intro handler
    rw [(hchosen _ kind).1, (hchosen _ kind).1, lastSays_concat]
    simp [hnone]
  · intro f hf
    rw [hwarnings] at hf
    obtain ⟨entry, -, rfl⟩ := List.mem_map.mp hf
    exact isConfigParse_unknownHandler entry
  · intro w
    rw [World.readMetas, foldl_alert]

end MetaSettings

end PageBoot.Loader
